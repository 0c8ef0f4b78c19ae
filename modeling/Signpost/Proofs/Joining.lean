import Signpost.Proofs.Atomicity
import Signpost.Proofs.Diagnosis

/-!
# Templates in a row

The scanner starts anew at the end of each template, so a template made of two others has the tokens
of both; only literal text that meets at the boundary becomes one literal. Escaped text falls apart
at every place, so the source of the whole is the two sources in one.

## Main definitions

* `Token.onto`: a token in front of others.
* `joined`: the tokens of two templates in a row.
* `Source.join`: the source of two templates in a row.

## Main statements

* `Scans.append`: two texts in a row are scanned to the joined tokens.
* `flatMap_joined`: what falls apart on literal text falls apart on joined tokens.
* `source_append`: the source of two templates in a row, also where one is the open path of a
  router.
-/

namespace Signpost

universe u

namespace Template

/-! ## Joined tokens -/

/-- The token in front of others. Literal text in front of literal text is one literal. -/
def Token.onto : Token → List Token → List Token
  | .literal text, .literal text' :: later => .literal (text ++ text') :: later
  | t, later => t :: later

/-- The tokens of two templates in a row. -/
def joined (tokens later : List Token) : List Token := tokens.foldr Token.onto later

@[simp] theorem joined_nil (later : List Token) : joined [] later = later := rfl

@[simp] theorem joined_cons (t : Token) (tokens later : List Token) :
    joined (t :: tokens) later = t.onto (joined tokens later) := rfl

namespace Token

@[simp] theorem onto_nil (t : Token) : t.onto [] = [t] := by
  cases t <;> rfl

@[simp] theorem placeholder_onto (code : String) (name : Option String) (later : List Token) :
    (placeholder code name).onto later = .placeholder code name :: later := rfl

@[simp] theorem onto_placeholder (t : Token) (code : String) (name : Option String)
    (later : List Token) : t.onto (.placeholder code name :: later) =
      t :: .placeholder code name :: later := by
  cases t <;> rfl

@[simp] theorem literal_onto_literal (text text' : String) (later : List Token) :
    (literal text).onto (.literal text' :: later) = .literal (text ++ text') :: later := rfl

theorem literal_onto_onto (text text' : String) (later : List Token) :
    (literal text).onto ((literal text').onto later) = (literal (text ++ text')).onto later := by
  cases later with
  | nil => simp
  | cons t later => cases t <;> simp [String.append_assoc]

end Token

theorem consLiteral_eq (c : Char) (tokens : List Token) :
    consLiteral c tokens = (Token.literal (String.singleton c)).onto tokens := by
  cases tokens with
  | nil => rfl
  | cons t tokens => cases t <;> rfl

/-- One more literal character in front goes to the first of two templates. -/
theorem joined_consLiteral (c : Char) (tokens later : List Token) :
    joined (consLiteral c tokens) later = consLiteral c (joined tokens later) := by
  rw [consLiteral_eq, consLiteral_eq]
  cases tokens with
  | nil => simp
  | cons t tokens => cases t <;> simp [Token.literal_onto_onto]

theorem Token.onto_of_placeholderOf {inner : List Char} {t : Token}
    (h : placeholderOf inner = .ok t) (later : List Token) : t.onto later = t :: later := by
  obtain ⟨-, rfl⟩ | ⟨_, _, -, -, -, rfl⟩ := eq_of_placeholderOf h <;> rfl

/-- Two texts in a row are scanned to the joined tokens. -/
theorem Scans.append {cs ds : List Char} {tokens later : List Token} (h : Scans cs tokens)
    (hlater : Scans ds later) : Scans (cs ++ ds) (joined tokens later) := by
  induction h with
  | nil => exact hlater
  | literal hc _ ih =>
    rw [joined_consLiteral]
    exact .literal hc ih
  | placeholder hinner ht _ ih =>
    rw [joined_cons, Token.onto_of_placeholderOf ht, List.cons_append, List.append_assoc,
      List.cons_append]
    exact .placeholder hinner ht ih

/-- What falls apart on literal text falls apart on joined tokens. -/
theorem flatMap_joined {β : Type*} {f : Token → List β}
    (hf : ∀ s t, f (.literal (s ++ t)) = f (.literal s) ++ f (.literal t))
    (tokens later : List Token) :
    (joined tokens later).flatMap f = tokens.flatMap f ++ later.flatMap f := by
  induction tokens with
  | nil => rfl
  | cons t tokens ih =>
    rw [joined_cons, List.flatMap_cons, List.append_assoc, ← ih]
    generalize joined tokens later = others
    fun_cases Token.onto t others <;> simp [hf]

/-! ## Joined sources -/

/-- The source of two templates in a row: the text of the first one without the mark at its end,
that of the second one without the mark at its start, and the names of both. -/
def Source.join (s t : Source) : Source :=
  ⟨String.ofList (s.text.toList.dropLast ++ t.text.toList.tail), s.names ++ t.names⟩

theorem join_sourceText (catalog : Catalog) (tokens later : List Token)
    (names names' : List String) :
    Source.join ⟨sourceText catalog tokens, names⟩ ⟨sourceText catalog later, names'⟩ =
      ⟨sourceText catalog (joined tokens later), names ++ names'⟩ := by
  -- Literal text is escaped one character at a time, so it does not matter where it is cut.
  have hsources : (joined tokens later).flatMap (fun t => (t.source catalog).toList) =
      tokens.flatMap (fun t => (t.source catalog).toList) ++
        later.flatMap (fun t => (t.source catalog).toList) :=
    flatMap_joined (fun s t => by simp [Token.source]) tokens later
  rw [Source.join, Source.mk.injEq, ← String.toList_inj]
  refine ⟨?_, rfl⟩
  simp only [toList_sourceText, hsources, String.toList_ofList]
  rw [← List.cons_append, List.dropLast_concat]
  simp

theorem filterMap_name?_joined (tokens later : List Token) :
    (joined tokens later).filterMap Token.name? =
      tokens.filterMap Token.name? ++ later.filterMap Token.name? := by
  simp only [List.filterMap_eq_flatMap_toList]
  exact flatMap_joined (fun _ _ => rfl) tokens later

/-- Of two lists without repetitions in a row, the first name to come again is the first one of the
second list that the first list has. -/
theorem firstRepeat?_append {names names' : List String} (h : names.Nodup) (h' : names'.Nodup) :
    firstRepeat? (names ++ names') = names'.find? (· ∈ names) := by
  cases hfind : names'.find? (· ∈ names) with
  | none =>
    have hapart : ∀ n ∈ names', n ∉ names := by simpa using hfind
    rw [firstRepeat?_eq_none_iff, List.nodup_append]
    exact ⟨h, h', fun n hn m hm heq => hapart m hm (heq ▸ hn)⟩
  | some name =>
    obtain ⟨hname, before, after, rfl, hbefore⟩ := List.find?_eq_some_iff_append.1 hfind
    have hapart : ∀ n ∈ before, n ∉ names := by simpa using hbefore
    have hnodup : before.Nodup := (List.nodup_append.1 h').1
    rw [firstRepeat?_eq_some_iff]
    refine ⟨names ++ before, after, by simp, List.nodup_append.2 ⟨h, hnodup, ?_⟩, ?_⟩
    · exact fun n hn m hm heq => hapart m hm (heq ▸ hn)
    · exact List.mem_append_left _ (of_decide_eq_true hname)

section Source

variable {catalog : Catalog} {a b : String} {s t : Source}

/-- A source has its marks at both ends. -/
theorem marks_of_source (h : source a catalog = .ok s) :
    s.text.toList.head? = some '^' ∧ s.text.toList.getLast? = some '$' := by
  obtain ⟨tokens, -, -, rfl⟩ := (source_eq_ok_iff ..).1 h
  rw [toList_sourceText, ← List.cons_append]
  exact ⟨rfl, List.getLast?_concat ..⟩

/-- The source of two templates in a row is the two sources in one, unless they share a name. -/
theorem source_append_eq (ha : source a catalog = .ok s) (hb : source b catalog = .ok t) :
    source (a ++ b) catalog =
      match t.names.find? (· ∈ s.names) with
      | some name => .error ⟨a ++ b, .nameRepeated name⟩
      | none => .ok (s.join t) := by
  obtain ⟨tokens, htokens, hnodup, rfl⟩ := (source_eq_ok_iff ..).1 ha
  obtain ⟨later, hlater, hnodup', rfl⟩ := (source_eq_ok_iff ..).1 hb
  have hscans := ((scan_eq_ok_iff ..).1 htokens).append ((scan_eq_ok_iff ..).1 hlater)
  rw [← String.toList_append, ← scan_eq_ok_iff] at hscans
  have hnames := filterMap_name?_joined tokens later
  have hrepeat := firstRepeat?_append hnodup hnodup'
  rw [← hnames] at hrepeat
  dsimp only
  split
  · next name hname =>
    rw [source_eq_error_nameRepeated_iff]
    exact ⟨rfl, _, hscans, hrepeat.trans hname⟩
  · next hnone =>
    rw [source_eq_ok_iff, join_sourceText, ← hnames]
    exact ⟨_, hscans, (firstRepeat?_eq_none_iff _).1 (hrepeat.trans hnone), rfl⟩

end Source

end Template

/-- Registering a template within a path compiles it with the path, and what stands in front of
that, in front. -/
theorem Router.StandsIn.within_route {α : Type u} {o : Options} {scopes : List Scope}
    {r : Router α} (h : r.StandsIn o scopes) (lead : String) (methods : List MethodToken)
    (template : String) (handler : α) :
    let x := r.within (.path lead) fun inner => inner.route methods template handler
    match Pattern.compile (r.base ++ lead ++ template) o.catalog with
    | .error e => x.1 = .error (.template e) ∧ x.2.table = r.table
    | .ok p => x.1 = .ok () ∧
        x.2.table = r.table.registerAll (methods.map (⟨p, ·, r.hosts, handler⟩)) := by
  intro x
  have hhosts : (Scope.path lead).hosts o.host = [] := rfl
  have hturns : ((Action.route methods template handler).effect o (scopes ++ [.path lead])).Turns
      r x := Effect.turns_within (s := .path lead) h fun inner hinner =>
    Action.turns_perform hinner (.route methods template handler)
  rw [Action.effect, Scope.leads_concat, ← h.base, Scope.allHosts_concat, ← h.hosts, hhosts,
    List.append_nil, Scope.lead] at hturns
  cases hcompile : Pattern.compile (r.base ++ lead ++ template) o.catalog with
  | error e =>
    rw [hcompile] at hturns
    exact ⟨hturns.result, hturns.table⟩
  | ok p =>
    rw [hcompile] at hturns
    exact ⟨hturns.result, hturns.table⟩

namespace Template

/-- Templates in a row. If two templates have sources, the two in a row have one exactly if they
share no name: the two sources in one, with the names of both in order. The first name of the second
template that the first one has is the one reported otherwise. So the expression of a template that
is registered within a path is the two sources in one, wherever literal text is cut by the path. -/
theorem source_append {α : Type u} (catalog : Catalog) (a b : String) (s t : Source)
    (ha : source a catalog = .ok s) (hb : source b catalog = .ok t) :
    ((∃ name, source (a ++ b) catalog = .error ⟨a ++ b, .nameRepeated name⟩) ↔
      ∃ name ∈ s.names, name ∈ t.names) ∧
    (∀ name, source (a ++ b) catalog = .error ⟨a ++ b, .nameRepeated name⟩ ↔
      t.names.find? (· ∈ s.names) = some name) ∧
    ((¬∃ name ∈ s.names, name ∈ t.names) → source (a ++ b) catalog = .ok (s.join t)) ∧
    (s.text.toList.getLast? = some '$' ∧ t.text.toList.head? = some '^') ∧
    ∀ (o : Options) (scopes : List Scope) (r : Router α) (lead : String)
      (methods : List MethodToken) (handler : α),
      o.catalog = catalog → r.Reached o scopes → r.base ++ lead = a →
      let x := r.within (.path lead) fun inner => inner.route methods b handler
      ((∃ name ∈ s.names, name ∈ t.names) →
        (∃ name, x.1 = .error (.template ⟨a ++ b, .nameRepeated name⟩)) ∧
          x.2.table = r.table) ∧
      ((¬∃ name ∈ s.names, name ∈ t.names) →
        (∃ cause, Regex.ofSource (s.join t).text = .error cause ∧
          x.1 = .error (.template ⟨a ++ b, .expression cause⟩) ∧ x.2.table = r.table) ∨
        ∃ p : Pattern, p.template = a ++ b ∧ p.source = (s.join t).text ∧
          p.names = (s.join t).names ∧ x.1 = .ok () ∧
          x.2.table = r.table.registerAll (methods.map (⟨p, ·, r.hosts, handler⟩))) := by
  have hsource := source_append_eq ha hb
  have hshared : (∃ name ∈ s.names, name ∈ t.names) ↔
      ∃ name, t.names.find? (· ∈ s.names) = some name := by
    rw [← Option.isSome_iff_exists, List.find?_isSome]
    simp only [decide_eq_true_eq, and_comm]
  have herror : ∀ name, source (a ++ b) catalog = .error ⟨a ++ b, .nameRepeated name⟩ ↔
      t.names.find? (· ∈ s.names) = some name := by
    intro name
    rw [hsource]
    cases t.names.find? (· ∈ s.names) <;> simp
  have hok : (¬∃ name ∈ s.names, name ∈ t.names) →
      source (a ++ b) catalog = .ok (s.join t) := by
    intro hapart
    rw [hsource]
    cases hfind : t.names.find? (· ∈ s.names) with
    | none => rfl
    | some name => exact absurd (hshared.2 ⟨name, hfind⟩) hapart
  refine ⟨(exists_congr herror).trans hshared.symm, herror, hok,
    ⟨(marks_of_source ha).2, (marks_of_source hb).1⟩, ?_⟩
  rintro o scopes r lead methods handler rfl hreached rfl x
  have hroute := hreached.standsIn.within_route lead methods b handler
  constructor
  · intro hname
    obtain ⟨name, hfind⟩ := hshared.1 hname
    rw [Pattern.compile_of_source_eq_error ((herror name).2 hfind)] at hroute
    exact ⟨⟨name, hroute.1⟩, hroute.2⟩
  · intro hapart
    cases hregex : Regex.ofSource (s.join t).text with
    | error cause =>
      rw [Pattern.compile_of_fault (hok hapart) hregex] at hroute
      exact .inl ⟨cause, rfl, hroute⟩
    | ok regex =>
      let p : Pattern := ⟨r.base ++ lead ++ b, (s.join t).text, (s.join t).names, regex, hregex⟩
      have hp : Pattern.compile (r.base ++ lead ++ b) o.catalog = .ok p :=
        (Pattern.compile_eq_ok_iff ..).2 ⟨rfl, hok hapart⟩
      rw [hp] at hroute
      exact .inr ⟨p, rfl, rfl, rfl, hroute⟩

/-- The path ends within literal text, and the dot behind it is escaped as anywhere else. A template
with the name of the path is refused within it. -/
theorem source_append_boundary :
    let s : Source := ⟨"^/v\\.(?P<n>[0-9]+)/é$", ["n"]⟩
    let t : Source := ⟨"^\\.é(?P<m>[0-9A-Za-z]+)$", ["m"]⟩
    let whole : Source := ⟨"^/v\\.(?P<n>[0-9]+)/é\\.é(?P<m>[0-9A-Za-z]+)$", ["n", "m"]⟩
    let x (template : String) := (Router.ofOptions {} : Router Nat).within (.path "/v.[i:n]/é")
      fun inner => inner.route [.any] template 7
    source "/v.[i:n]/é" .builtin = .ok s ∧ source ".é[a:m]" .builtin = .ok t ∧
      source ("/v.[i:n]/é" ++ ".é[a:m]") .builtin = .ok whole ∧
      (∃ p : Pattern, p.source = whole.text ∧
        (x ".é[a:m]").2.table = Table.registerAll {} [⟨p, .any, [], 7⟩]) ∧
      ∃ name, (x "[:n]").1 = .error (.template ⟨"/v.[i:n]/é" ++ "[:n]", .nameRepeated name⟩) := by
  intro s t whole x
  have hs : source "/v.[i:n]/é" .builtin = .ok s := by decide +kernel
  have ht : source ".é[a:m]" .builtin = .ok t := by decide +kernel
  have hn : source "[:n]" .builtin = .ok ⟨"^(?P<n>[^/]+?)$", ["n"]⟩ := by decide +kernel
  have hwhole : s.join t = whole := by decide +kernel
  obtain ⟨-, -, hok, -, hrouter⟩ := source_append (α := Nat) .builtin _ _ s t hs ht
  obtain ⟨-, -, -, -, hrouter'⟩ := source_append (α := Nat) .builtin _ _ s _ hs hn
  obtain ⟨-, hroute⟩ := hrouter {} [] (.ofOptions {}) _ [.any] 7 rfl .new String.empty_append
  obtain ⟨hrefused, -⟩ := hrouter' {} [] (.ofOptions {}) _ [.any] 7 rfl .new String.empty_append
  rw [hwhole] at hok hroute
  refine ⟨hs, ht, hok (by decide), ?_, (hrefused ⟨"n", by decide, by decide⟩).1⟩
  obtain ⟨cause, hcause, -⟩ | ⟨p, -, hp, -, -, htable⟩ := hroute (by decide)
  · have hread : (Regex.ofSource whole.text).isOk = true := by decide +kernel
    rw [hcause] at hread
    cases hread
  · exact ⟨p, hp, htable⟩

end Template

end Signpost
