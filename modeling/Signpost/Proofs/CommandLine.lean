import Mathlib.Data.List.Basic
import Mathlib.Data.List.Induction
import Signpost.Request.CommandLine

/-!
# Reading a command line

What an argument is, taken by itself, and how a list of arguments is read: each bare flag takes the
argument behind it, and `--` ends the reading unless a flag took it. The request of a command line
is that of the URI that the flags carry.

## Main definitions

* `UriFlag`, `ArgRole`: the two flags, and what an argument is.
* `HasRole`: the arguments of a role.
* `ReadsAs`: how a list of arguments is read.
* `uriOf`: the URI that a reading gives.

## Main statements

* `hasRole_roleOf`, `HasRole.unique`: every argument has exactly one role.
* `readArgs_cons`: what one argument does, by its role.
* `exists_readsAs`, `ReadsAs.unique`: every list of arguments is read in exactly one way.
* `ReadsAs.readArgs_eq`: what a reading comes to.
* `ofArgs_reading`: the request of a command line.
-/

namespace Signpost.Request

/-! ## Roles -/

/-- A flag that carries the URI. -/
inductive UriFlag
  | short | long
deriving DecidableEq, Repr

/-- The flag as an argument; the long one has the name that is a setting. -/
def UriFlag.arg (source : String) : UriFlag → String
  | .short => "-r"
  | .long => "--" ++ source

/-- What an argument is where a reading comes to it. -/
inductive ArgRole
  /-- The end of the reading. -/
  | stop
  /-- A flag whose value is the next argument. -/
  | bare (flag : UriFlag)
  /-- A flag with its value. -/
  | carries (flag : UriFlag) (value : String)
  | skipped
deriving DecidableEq, Repr

/-- An argument is an end, a bare flag or a flag with its value if it is spelled so. All others are
skipped. -/
inductive HasRole (source : String) : String → ArgRole → Prop
  | stop : HasRole source "--" .stop
  | bare (flag : UriFlag) : HasRole source (flag.arg source) (.bare flag)
  | short {value : String} : value ≠ "" → HasRole source ("-r" ++ value) (.carries .short value)
  | long (value : String) :
    HasRole source ("--" ++ source ++ "=" ++ value) (.carries .long value)
  | skipped {arg : String} : arg ≠ "--" → (∀ flag : UriFlag, arg ≠ flag.arg source) →
    (∀ value, arg ≠ "-r" ++ value) → (∀ value, arg ≠ "--" ++ source ++ "=" ++ value) →
    HasRole source arg .skipped

/-- The role of an argument, found by trying the spellings in turn. -/
def roleOf (source arg : String) : ArgRole :=
  if arg = "--" then .stop
  else if arg = "-r" then .bare .short
  else match attached? "-r" arg with
    | some value => .carries .short value
    | none =>
      if arg = "--" ++ source then .bare .long
      else match attached? ("--" ++ source ++ "=") arg with
        | some value => .carries .long value
        | none => .skipped

theorem attached?_eq_some_iff {lead arg value : String} :
    attached? lead arg = some value ↔ arg = lead ++ value := by
  rw [attached?, Option.map_eq_some_iff, ← String.toList_inj, String.toList_append]
  constructor
  · rintro ⟨cs, hcs, rfl⟩
    rw [String.toList_ofList, List.isPrefixOf?_eq_some_iff_append_eq.1 hcs]
  · intro h
    exact ⟨value.toList, List.isPrefixOf?_eq_some_iff_append_eq.2 h.symm, String.ofList_toList⟩

theorem attached?_eq_none_iff {lead arg : String} :
    attached? lead arg = none ↔ ∀ value, arg ≠ lead ++ value := by
  rw [Option.eq_none_iff_forall_ne_some]
  exact forall_congr' fun _ => not_congr attached?_eq_some_iff

/-- Every argument has a role. -/
theorem hasRole_roleOf (source arg : String) : HasRole source arg (roleOf source arg) := by
  fun_cases roleOf source arg with
  | case1 h => exact h ▸ .stop
  | case2 _ h => exact h ▸ .bare .short
  | case3 _ hbare value hvalue =>
    obtain rfl := attached?_eq_some_iff.1 hvalue
    refine .short ?_
    rintro rfl
    exact hbare String.append_empty
  | case4 _ _ _ h => exact h ▸ .bare .long
  | case5 _ _ _ _ value hvalue => exact attached?_eq_some_iff.1 hvalue ▸ .long value
  | case6 hstop hshort hnone hlong hnone' =>
    rw [attached?_eq_none_iff] at hnone hnone'
    exact .skipped hstop (fun flag => by cases flag <;> assumption) hnone hnone'

theorem attached?_append (lead value : String) : attached? lead (lead ++ value) = some value :=
  attached?_eq_some_iff.2 rfl

/-- The two flags start differently. -/
theorem long_ne_short (s t : String) : "--" ++ s ≠ "-r" ++ t := by
  intro h
  simpa using congrArg String.toList h

theorem long_ne_bare (s : String) : "--" ++ s ≠ "-r" := long_ne_short s ""

theorem attached?_long (s : String) : attached? "-r" ("--" ++ s) = none :=
  attached?_eq_none_iff.2 (long_ne_short s)

/-- Roles are spelled apart, so the order of the trials does not matter. -/
theorem roleOf_of_hasRole {source arg : String} {role : ArgRole} (hsource : source ≠ "")
    (h : HasRole source arg role) : roleOf source arg = role := by
  cases h with
  | stop => rfl
  | bare flag =>
    cases flag with
    | short => rfl
    | long =>
      have hstop : "--" ++ source ≠ "--" := by simpa using hsource
      rw [roleOf, UriFlag.arg, if_neg hstop, if_neg (long_ne_bare source), attached?_long]
      exact if_pos rfl
  | @short value hvalue =>
    have hstop : "-r" ++ value ≠ "--" := (long_ne_short "" value).symm
    have hbare : "-r" ++ value ≠ "-r" := by simpa using hvalue
    rw [roleOf, if_neg hstop, if_neg hbare, attached?_append]
  | long value =>
    have hstop : "--" ++ source ++ "=" ++ value ≠ "--" := by simp [String.append_assoc]
    have hbare : "--" ++ source ++ "=" ++ value ≠ "--" ++ source := by simp [String.append_assoc]
    have hassoc : "--" ++ source ++ "=" ++ value = "--" ++ (source ++ "=" ++ value) := by
      simp [String.append_assoc]
    rw [roleOf, if_neg hstop, if_neg hbare, attached?_append, hassoc,
      if_neg (long_ne_bare _), attached?_long]
  | skipped hstop hbare hshort hlong =>
    have hbareShort : arg ≠ "-r" := hbare .short
    have hbareLong : arg ≠ "--" ++ source := hbare .long
    rw [roleOf, if_neg hstop, if_neg hbareShort, attached?_eq_none_iff.2 hshort,
      if_neg hbareLong, attached?_eq_none_iff.2 hlong]

/-- No argument has two roles. -/
theorem HasRole.unique {source arg : String} {role role' : ArgRole} (hsource : source ≠ "")
    (h : HasRole source arg role) (h' : HasRole source arg role') : role = role' :=
  (roleOf_of_hasRole hsource h).symm.trans (roleOf_of_hasRole hsource h')

/-- The values with one more, which replaces an earlier one of its flag. -/
def FlagValues.set (values : FlagValues) (value : String) : UriFlag → FlagValues
  | .short => { values with short := some value }
  | .long => { values with long := some value }

/-- The values with more of them, given in turn. -/
def FlagValues.setAll (values : FlagValues) (given : List (UriFlag × String)) : FlagValues :=
  given.foldl (fun (values : FlagValues) g => values.set g.2 g.1) values

/-- What one argument does, by its role. -/
theorem readArgs_cons (source : String) (values : FlagValues) (arg : String) (rest : List String) :
    readArgs ("--" ++ source) values (arg :: rest) =
      match roleOf source arg with
      | .stop => .ok values
      | .bare flag =>
        match rest with
        | [] => .error (.missingValue (flag.arg source))
        | value :: rest => readArgs ("--" ++ source) (values.set value flag) rest
      | .carries flag value => readArgs ("--" ++ source) (values.set value flag) rest
      | .skipped => readArgs ("--" ++ source) values rest := by
  rw [readArgs.eq_def]
  fun_cases roleOf source arg with
  | case1 hstop => simp [hstop]
  | case2 _ hshort => cases rest <;> simp [hshort, shortFlag, UriFlag.arg, FlagValues.set]
  | case3 hstop hshort value hvalue => simp [shortFlag, hstop, hshort, hvalue, FlagValues.set]
  | case4 hstop hshort hnone hlong =>
    subst hlong
    cases rest <;> simp [hstop, hshort, shortFlag, hnone, UriFlag.arg, FlagValues.set]
  | case5 hstop hshort hnone hlong value hvalue =>
    simp [shortFlag, hstop, hshort, hnone, hlong, hvalue, FlagValues.set]
  | case6 hstop hshort hnone hlong hnone' =>
    simp [shortFlag, hstop, hshort, hnone, hlong, hnone']

/-! ## Readings -/

/-- How a list of arguments is read: the values of the flags in order, and the flag at the end that
lacks one, if there is such. -/
inductive ReadsAs (source : String) :
    List String → List (UriFlag × String) → Option UriFlag → Prop
  | done : ReadsAs source [] [] none
  | stop {arg : String} (rest : List String) : HasRole source arg .stop →
    ReadsAs source (arg :: rest) [] none
  | lacks {arg : String} {flag : UriFlag} : HasRole source arg (.bare flag) →
    ReadsAs source [arg] [] (some flag)
  | takes {arg value : String} {flag : UriFlag} {rest : List String}
    {given : List (UriFlag × String)} {lacking : Option UriFlag} :
    HasRole source arg (.bare flag) → ReadsAs source rest given lacking →
    ReadsAs source (arg :: value :: rest) ((flag, value) :: given) lacking
  | carries {arg value : String} {flag : UriFlag} {rest : List String}
    {given : List (UriFlag × String)} {lacking : Option UriFlag} :
    HasRole source arg (.carries flag value) → ReadsAs source rest given lacking →
    ReadsAs source (arg :: rest) ((flag, value) :: given) lacking
  | skips {arg : String} {rest : List String} {given : List (UriFlag × String)}
    {lacking : Option UriFlag} : HasRole source arg .skipped →
    ReadsAs source rest given lacking → ReadsAs source (arg :: rest) given lacking

/-- The value of the last occurrence of a flag. -/
def lastValue? (flag : UriFlag) (given : List (UriFlag × String)) : Option String :=
  ((given.filter (·.1 = flag)).map Prod.snd).getLast?

/-- The URI that a reading gives: the last value of the short flag if it is not empty, or else that
of the long flag; no value at all is as the empty one. -/
def uriOf (given : List (UriFlag × String)) : String :=
  let short := (lastValue? .short given).getD ""
  if short = "" then (lastValue? .long given).getD "" else short

/-- What reading the arguments comes to: the values given, each flag keeping its last, or the flag
that lacks one. -/
def readingResult (source : String) (values : FlagValues) (given : List (UriFlag × String)) :
    Option UriFlag → Except RequestError FlagValues
  | some flag => .error (.missingValue (flag.arg source))
  | none => .ok (values.setAll given)

/-- Every list of arguments can be read. -/
theorem exists_readsAs (source : String) (args : List String) :
    ∃ given lacking, ReadsAs source args given lacking := by
  induction args using List.twoStepInduction with
  | nil => exact ⟨[], none, .done⟩
  | singleton arg =>
    have hrole := hasRole_roleOf source arg
    cases h : roleOf source arg <;> rw [h] at hrole
    · exact ⟨_, _, .stop [] hrole⟩
    · exact ⟨_, _, .lacks hrole⟩
    · exact ⟨_, _, .carries hrole .done⟩
    · exact ⟨_, _, .skips hrole .done⟩
  | cons_cons arg next rest ih ihNext =>
    have hrole := hasRole_roleOf source arg
    obtain ⟨given, lacking, hrest⟩ := ih
    obtain ⟨given', lacking', hnext⟩ := ihNext next
    cases h : roleOf source arg <;> rw [h] at hrole
    · exact ⟨_, _, .stop _ hrole⟩
    · exact ⟨_, _, .takes hrole hrest⟩
    · exact ⟨_, _, .carries hrole hnext⟩
    · exact ⟨_, _, .skips hrole hnext⟩

section

variable {source : String} (hsource : source ≠ "") {args : List String}
  {given : List (UriFlag × String)} {lacking : Option UriFlag}

include hsource

/-- No list of arguments can be read in two ways. -/
theorem ReadsAs.unique {given' : List (UriFlag × String)} {lacking' : Option UriFlag}
    (h : ReadsAs source args given lacking) (h' : ReadsAs source args given' lacking') :
    given' = given ∧ lacking' = lacking := by
  induction h generalizing given' lacking' with
  | done =>
    cases h'
    exact ⟨rfl, rfl⟩
  | stop rest hrole =>
    cases h' with
    | stop _ _ => exact ⟨rfl, rfl⟩
    | lacks hrole' | takes hrole' _ | carries hrole' _ | skips hrole' _ =>
      cases hrole.unique hsource hrole'
  | lacks hrole =>
    cases h' with
    | lacks hrole' =>
      cases hrole.unique hsource hrole'
      exact ⟨rfl, rfl⟩
    | stop _ hrole' | carries hrole' _ | skips hrole' _ => cases hrole.unique hsource hrole'
  | takes hrole _ ih =>
    cases h' with
    | takes hrole' h' =>
      cases hrole.unique hsource hrole'
      obtain ⟨rfl, rfl⟩ := ih h'
      exact ⟨rfl, rfl⟩
    | stop _ hrole' | carries hrole' _ | skips hrole' _ => cases hrole.unique hsource hrole'
  | carries hrole _ ih =>
    cases h' with
    | carries hrole' h' =>
      cases hrole.unique hsource hrole'
      obtain ⟨rfl, rfl⟩ := ih h'
      exact ⟨rfl, rfl⟩
    | stop _ hrole' | lacks hrole' | takes hrole' _ | skips hrole' _ =>
      cases hrole.unique hsource hrole'
  | skips hrole _ ih =>
    cases h' with
    | skips _ h' => exact ih h'
    | stop _ hrole' | lacks hrole' | takes hrole' _ | carries hrole' _ =>
      cases hrole.unique hsource hrole'

/-- What a reading comes to, one argument at a time. -/
theorem ReadsAs.readArgs_eq (h : ReadsAs source args given lacking) (values : FlagValues) :
    readArgs ("--" ++ source) values args = readingResult source values given lacking := by
  induction h generalizing values with
  | done => rfl
  | stop _ hrole | lacks hrole =>
    rw [readArgs_cons, roleOf_of_hasRole hsource hrole]
    rfl
  | takes hrole _ ih | carries hrole _ ih | skips hrole _ ih =>
    rw [readArgs_cons, roleOf_of_hasRole hsource hrole]
    exact ih _

end

/-! ## The URI of a reading -/

theorem lastValue?_cons (flag : UriFlag) (g : UriFlag × String) (given : List (UriFlag × String)) :
    lastValue? flag (g :: given) =
      (lastValue? flag given).or (if g.1 = flag then some g.2 else none) := by
  rw [lastValue?, lastValue?, List.filter_cons]
  by_cases h : g.1 = flag
  · simp [h, List.getLast?_cons, Option.or_some]
  · simp [h]

/-- Each flag keeps its last value. -/
theorem setAll_eq (values : FlagValues) (given : List (UriFlag × String)) :
    values.setAll given =
      ⟨(lastValue? .short given).or values.short, (lastValue? .long given).or values.long⟩ := by
  induction given generalizing values with
  | nil => rfl
  | cons g given ih =>
    obtain ⟨flag, value⟩ := g
    rw [FlagValues.setAll, List.foldl_cons, ← FlagValues.setAll, ih, lastValue?_cons,
      lastValue?_cons]
    cases flag <;> simp [FlagValues.set]

/-- An empty value counts as none. -/
theorem getD_filter_ne_empty (value? : Option String) :
    (value?.filter (· ≠ "")).getD "" = value?.getD "" := by
  cases value? with
  | none => rfl
  | some value => by_cases h : value = "" <;> simp [Option.filter_some, h]

theorem uri_setAll (given : List (UriFlag × String)) :
    (FlagValues.setAll {} given).uri = uriOf given := by
  rw [setAll_eq, FlagValues.uri, uriOf, Option.or_none, Option.or_none]
  have hlong := getD_filter_ne_empty (lastValue? .long given)
  cases hshort : lastValue? .short given with
  | none => simpa using hlong
  | some value =>
    by_cases hvalue : value = ""
    · simpa [Option.filter_some, hvalue] using hlong
    · simp [Option.filter_some, hvalue]

/-! ## Requests -/

theorem path_ofUri (method uri : String) (options : Options) :
    (ofUri method uri options).path = (splitUri uri).1 := rfl

theorem query_ofUri (method uri : String) (options : Options) :
    (ofUri method uri options).query = ((splitUri uri).2.map parseQuery).getD .empty := rfl

theorem requestUriSource_ne_of_validate {options : Options} (h : options.validate = .ok ()) :
    options.requestUriSource ≠ "" := by
  intro hsource
  simp [Options.validate, Options.error?, hsource] at h

section

variable {options : Options} (hsource : options.requestUriSource ≠ "") {args : List String}
  {given : List (UriFlag × String)}

include hsource

/-- A flag that lacks its value is reported. -/
theorem ReadsAs.ofArgs_eq_error {flag : UriFlag}
    (h : ReadsAs options.requestUriSource args given (some flag)) :
    ofArgs args options = .error (.missingValue (flag.arg options.requestUriSource)) := by
  rw [ofArgs, h.readArgs_eq hsource]
  rfl

/-- A reading that lacks no value gives the request of its URI, marked as made on a command line. -/
theorem ReadsAs.ofArgs_eq_ok (h : ReadsAs options.requestUriSource args given none) :
    ofArgs args options =
      .ok ⟨"", (splitUri (uriOf given)).1, "",
        ((splitUri (uriOf given)).2.map parseQuery).getD .empty, { cli := true }⟩ := by
  rw [ofArgs, h.readArgs_eq hsource, ← uri_setAll]
  rfl

end

/-! ## Arguments behind others -/

section Append

variable {source : String} {args : List String} {given : List (UriFlag × String)}

/-- A reading that lacks no value has ended within the arguments, or goes on behind them. -/
theorem ReadsAs.append {lacking : Option UriFlag} (h : ReadsAs source args given lacking)
    (hlacking : lacking = none) :
    (∀ later, ReadsAs source (args ++ later) given none) ∨
      ∀ later given' lacking', ReadsAs source later given' lacking' →
        ReadsAs source (args ++ later) (given ++ given') lacking' := by
  induction h with
  | done => exact .inr fun _ _ _ h => h
  | stop rest hrole => exact .inl fun later => .stop (rest ++ later) hrole
  | lacks _ => cases hlacking
  | takes hrole _ ih =>
    exact (ih hlacking).imp (fun h later => .takes hrole (h later))
      fun h later _ _ hlater => .takes hrole (h later _ _ hlater)
  | carries hrole _ ih =>
    exact (ih hlacking).imp (fun h later => .carries hrole (h later))
      fun h later _ _ hlater => .carries hrole (h later _ _ hlater)
  | skips hrole _ ih =>
    exact (ih hlacking).imp (fun h later => .skips hrole (h later))
      fun h later _ _ hlater => .skips hrole (h later _ _ hlater)

/-- Nothing is read behind `--`. -/
theorem ReadsAs.append_stop (h : ReadsAs source args given none) (later : List String) :
    ReadsAs source (args ++ "--" :: later) given none := by
  obtain hended | hopen := h.append rfl
  · exact hended _
  · simpa using hopen _ _ _ (.stop later .stop)

/-- Behind arguments that lack no value, the long flag can carry its value or take it. -/
theorem ReadsAs.append_long (h : ReadsAs source args given none) (value : String)
    (later : List String) :
    ∃ given' lacking,
      ReadsAs source (args ++ ("--" ++ source ++ "=" ++ value) :: later) given' lacking ∧
        ReadsAs source (args ++ ("--" ++ source) :: value :: later) given' lacking := by
  obtain hended | hopen := h.append rfl
  · exact ⟨_, _, hended _, hended _⟩
  · obtain ⟨given', lacking, hlater⟩ := exists_readsAs source later
    exact ⟨_, _, hopen _ _ _ (.carries (.long value) hlater),
      hopen _ _ _ (.takes (.bare .long) hlater)⟩

end Append

/-- The request of a command line. With settings that can be used, a list of arguments is read in
exactly one way. There is no request exactly if the reading ends at a bare flag that lacks its
value, which is then reported. Otherwise the request has the path and the query of the URI that the
reading gives, no method, no host, and only the mark of a command line. Behind arguments that have a
request, the long flag can carry its value or take it, and whatever stands behind `--` does not
matter. -/
theorem ofArgs_reading (options : Options) (hvalid : options.validate = .ok ())
    (args : List String) :
    let source := options.requestUriSource
    ∃ given lacking,
      (∀ given' lacking', ReadsAs source args given' lacking' ↔
        given' = given ∧ lacking' = lacking) ∧
      (∀ e, ofArgs args options = .error e ↔
        ∃ flag, lacking = some flag ∧ e = .missingValue (flag.arg source)) ∧
      (lacking = none → ∃ r, ofArgs args options = .ok r ∧ r.method = "" ∧ r.host = "" ∧
        r.flags = { cli := true } ∧ ∀ method other,
          r.path = (ofUri method (uriOf given) other).path ∧
            r.query = (ofUri method (uriOf given) other).query) ∧
      ∀ r, ofArgs args options = .ok r →
        (∀ value later,
          ofArgs (args ++ ("--" ++ source ++ "=" ++ value) :: later) options =
            ofArgs (args ++ ("--" ++ source) :: value :: later) options) ∧
        ∀ later, ofArgs (args ++ "--" :: later) options = .ok r := by
  intro source
  have hsource : source ≠ "" := requestUriSource_ne_of_validate hvalid
  obtain ⟨given, lacking, h⟩ := exists_readsAs source args
  have hunique : ∀ given' lacking', ReadsAs source args given' lacking' ↔
      given' = given ∧ lacking' = lacking := by
    intro given' lacking'
    refine ⟨h.unique hsource, ?_⟩
    rintro ⟨rfl, rfl⟩
    exact h
  refine ⟨given, lacking, hunique, ?_⟩
  cases lacking with
  | some flag =>
    have hargs := h.ofArgs_eq_error hsource
    refine ⟨fun e => ?_, nofun, fun r hr => ?_⟩
    · rw [hargs]
      simp [source, eq_comm]
    · rw [hargs] at hr
      cases hr
  | none =>
    have hargs := h.ofArgs_eq_ok hsource
    refine ⟨fun e => ?_, fun _ => ⟨_, hargs, rfl, rfl, rfl, fun method other =>
      ⟨(path_ofUri method _ other).symm, (query_ofUri method _ other).symm⟩⟩, fun r hr => ?_⟩
    · rw [hargs]
      simp
    · refine ⟨fun value later => ?_, fun later => ?_⟩
      · obtain ⟨given', lacking, hcarried, htaken⟩ := h.append_long value later
        cases lacking with
        | some flag => rw [hcarried.ofArgs_eq_error hsource, htaken.ofArgs_eq_error hsource]
        | none => rw [hcarried.ofArgs_eq_ok hsource, htaken.ofArgs_eq_ok hsource]
      · rw [(h.append_stop later).ofArgs_eq_ok hsource, ← hr, hargs]

/-- The long flag takes `--`, the empty value of the short one does not count, and what stands
behind the next `--` is not read. The second of three bare flags is the value of the first, so that
the third one lacks its value. -/
theorem ofArgs_reading_terminator_taken :
    let args := ["x", "--REQUEST_URI", "--", "-r", "", "--REQUEST_URI=/é?x=1"]
    let r : Request := ⟨"", "/é", "", .ofList [("x", "1")], { cli := true }⟩
    Options.validate {} = .ok () ∧ ofArgs args {} = .ok r ∧
      ofArgs (args ++ ["--", "-r"]) {} = .ok r ∧
      ofArgs (args ++ ["--REQUEST_URI=/b"]) {} = ofArgs (args ++ ["--REQUEST_URI", "/b"]) {} ∧
      ∃ given flag, ReadsAs "REQUEST_URI" ["-r", "-r", "-r"] given (some flag) := by
  intro args r
  have hvalid : Options.validate {} = .ok () := by decide
  have hargs : ofArgs args {} = .ok r := by decide +kernel
  have hmissing : ofArgs ["-r", "-r", "-r"] {} = .error (.missingValue "-r") := by decide +kernel
  obtain ⟨-, -, -, -, -, hlater⟩ := ofArgs_reading {} hvalid args
  obtain ⟨hlong, hstop⟩ := hlater r hargs
  obtain ⟨given, lacking, hreads, herror, -⟩ := ofArgs_reading {} hvalid ["-r", "-r", "-r"]
  obtain ⟨flag, rfl, -⟩ := (herror _).1 hmissing
  exact ⟨hvalid, hargs, hstop ["-r"], hlong "/b" [], given, flag, (hreads _ _).2 ⟨rfl, rfl⟩⟩

end Signpost.Request
