import Signpost.Proofs.FixedHost
import Signpost.Proofs.Parameters

/-!
# Routes of other hosts and parameters

What routes for other hosts change for a request. They never answer it, but their patterns stand in
the table with all others and capture what they match. A pattern that a route for another host
brings into the table adds its captures for the handlers behind it, and takes along a later route
under the same pattern to its own place. Nothing else changes: a handler keeps what its own pattern
captures, and a name changes only along with the last pattern that captures it. That this pattern is
brought in for the host of the request is not enough, since another one may have been moved from
behind it to the front.

## Main definitions

* `Script.withoutOthers`: a program without the scopes of hosts other than that of a request.
* `Script.othersReturn`: these scopes do not end the program.
* `Registration.firsts`: the registrations that brought their patterns into the table.
* `Registration.isStray`: a pattern text was brought in for another host.
* `Registration.settler`: the last pattern text that captures a name, up to some pattern text.
* `Registration.Untouched`: no stray pattern matters for that.

## Main statements

* `Registration.patternsUpTo_ofLog`: the patterns up to an entry, read off the log.
* `Registration.Untouched.lastFor_filter`: who settles an untouched name does not depend on other
  hosts.
* `Registration.get?_known_congr`: the value of a name depends on the text that settles it.
* `Script.effect_withoutOthers`: scopes of other hosts leave what is open to the request.
* `Script.params_isolated`: what handlers are given by programs that are the same but for such
  scopes.
-/

namespace Signpost

universe u

variable {α : Type u}

/-- The scope does not keep requests for the host out. -/
def Scope.admits (host : String) (s : Scope) : Bool := (s.hosts none).all (· == host)

namespace Script

/-- The program without the scopes of other hosts, at whatever depth. -/
def withoutOthers (host : String) : Script α → Script α
  | .done => .done
  | .step caught action rest => .step caught action (rest.withoutOthers host)
  | .scope caught s body rest =>
    if s.admits host then .scope caught s (body.withoutOthers host) (rest.withoutOthers host)
    else rest.withoutOthers host

/-- The program goes on behind each scope of another host. -/
def othersReturn (o : Options) (host : String) : Script α → List Scope → Bool
  | .done, _ => true
  | .step _ _ rest, scopes => rest.othersReturn o host scopes
  | .scope caught s body rest, scopes =>
    (if s.admits host then body.othersReturn o host (scopes ++ [s])
      else !stops caught (body.effect o (scopes ++ [s])).result) &&
    rest.othersReturn o host scopes

end Script

namespace Registration

/-- The handler may answer requests for the host. -/
def isOpen (host : String) (r : Registration α) : Bool := r.hosts.all (· == host)

/-- The first registrations under each pattern text, in their order. -/
def firsts : List (Registration α) → List (Registration α)
  | [] => []
  | r :: rs => r :: (firsts rs).filter fun x => x.source ≠ r.source

/-- The first registration under the pattern text is for another host. -/
def isStray (log : List (Registration α)) (host s : String) : Bool :=
  (log.find? (·.source = s)).any fun r => !r.isOpen host

/-- The registrations in front of the first under a pattern text. -/
def ahead (log : List (Registration α)) (s : String) : List (Registration α) :=
  log.takeWhile (·.source ≠ s)

/-- The registrations that bring in the patterns up to a pattern text. -/
def brought (log : List (Registration α)) (s : String) : List (Registration α) :=
  firsts (ahead log s) ++ (log.find? (·.source = s)).toList

/-- The patterns that the table of the log has up to a pattern text. -/
def known (log : List (Registration α)) (s : String) : List Pattern :=
  (brought log s).map (·.pattern)

/-- What brings in the last pattern up to a pattern text that captures the name. -/
def lastFor (log : List (Registration α)) (path s name : String) : Option (Registration α) :=
  ((brought log s).filter (·.pattern.isFor path name)).getLast?

/-- The text of the last pattern up to a pattern text that captures the name. -/
def settler (log : List (Registration α)) (path s name : String) : Option String :=
  (lastFor log path s name).map source

/-- The last pattern up to a pattern text that captures the name is not stray. If only registrations
open to the host count, the same ones bring in what captures the name up to there. -/
structure Untouched (log : List (Registration α)) (host path s name : String) : Prop where
  last : ∀ x, lastFor log path s name = some x → x.isOpen host = true
  bringsIn : ∀ x ∈ brought (log.filter (isOpen host)) s, x.pattern.isFor path name = true →
    x ∈ brought log s

/-- No stray pattern matches the path. -/
def Apart (log : List (Registration α)) (host path : String) : Prop :=
  ∀ x ∈ log, isStray log host x.source = true → x.pattern.isMatch path = false

/-! ## First registrations -/

section Firsts

theorem firsts_sublist (log : List (Registration α)) : (firsts log).Sublist log := by
  induction log with
  | nil => exact .slnil
  | cons r rs ih => exact (List.filter_sublist.trans ih).cons_cons r

theorem firsts_append (log later : List (Registration α)) :
    firsts (log ++ later) =
      firsts log ++ (firsts later).filter fun x => x.source ∉ log.map source := by
  induction log with
  | nil => simp [firsts]
  | cons r rs ih => simp [firsts, ih, List.filter_append, List.filter_filter]

theorem firsts_append_cons {log : List (Registration α)} {x : Registration α}
    (hx : x.source ∉ log.map source) (later : List (Registration α)) :
    ∃ rest, firsts (log ++ x :: later) = firsts log ++ x :: rest := by
  rw [firsts_append, firsts, List.filter_cons_of_pos (by simpa using hx)]
  exact ⟨_, rfl⟩

theorem map_source_firsts (log : List (Registration α)) :
    (firsts log).map source = sources log := by
  induction log using List.reverseRecOn with
  | nil => rfl
  | append_singleton log r ih =>
    have hmem : r.source ∈ sources log ↔ r.source ∈ log.map source := by simp [sources]
    rw [firsts_append, sources_concat, List.map_append, ih]
    by_cases h : r.source ∈ log.map source
    · rw [if_pos (hmem.2 h), firsts, List.filter_cons_of_neg (by simpa using h)]
      simp [firsts]
    · rw [if_neg (mt hmem.1 h), firsts, List.filter_cons_of_pos (by simpa using h)]
      simp [firsts]

theorem nodup_firsts (log : List (Registration α)) : (firsts log).Nodup := by
  have hsources : ((firsts log).map source).Nodup := map_source_firsts log ▸ nodup_sources log
  exact hsources.of_map

/-- The first registrations are those found under their pattern texts. -/
theorem mem_firsts_iff {log : List (Registration α)} {x : Registration α} :
    x ∈ firsts log ↔ log.find? (·.source = x.source) = some x := by
  induction log with
  | nil => simp [firsts]
  | cons r rs ih =>
    rw [firsts, List.mem_cons, List.mem_filter, ih, List.find?_cons]
    by_cases h : r.source = x.source
    · simp [h, eq_comm]
    · have hne : x ≠ r := fun heq => h (heq ▸ rfl)
      simp [h, hne, Ne.symm h]

/-- The table of a log has the patterns of the first registrations. -/
theorem map_pattern_entries_ofLog (log : List (Registration α)) :
    (Table.ofLog log).entries.map Entry.pattern = (firsts log).map (·.pattern) := by
  have h := Table.mirrors_ofLog log
  refine List.map_injective_iff.2 (fun _ _ => Option.some.inj) ?_
  calc ((Table.ofLog log).entries.map Entry.pattern).map some
      = ((Table.ofLog log).entries.map Entry.source).map fun s =>
          (log.find? (·.source = s)).map (·.pattern) := by
        rw [List.map_map, List.map_map]
        exact List.map_congr_left fun e he => (h.pattern e he).symm
    _ = ((firsts log).map source).map fun s => (log.find? (·.source = s)).map (·.pattern) := by
        rw [h.sources, map_source_firsts]
    _ = ((firsts log).map (·.pattern)).map some := by
        rw [List.map_map, List.map_map]
        exact List.map_congr_left fun x hx => by
          rw [Function.comp_apply, mem_firsts_iff.1 hx]
          rfl

section Ahead

variable {log before behind : List (Registration α)} {s : String} {x : Registration α}

theorem find?_append_cons (hs : x.source = s) (hbefore : ∀ r ∈ before, r.source ≠ s) :
    (before ++ x :: behind).find? (·.source = s) = some x :=
  List.find?_eq_some_iff_append.2 ⟨by simpa using hs, before, behind, rfl, by simpa using hbefore⟩

theorem ahead_append_cons (hs : x.source = s) (hbefore : ∀ r ∈ before, r.source ≠ s) :
    ahead (before ++ x :: behind) s = before := by
  rw [ahead, List.takeWhile_append_of_pos (by simpa using hbefore),
    List.takeWhile_cons_of_neg (by simpa using hs), List.append_nil]

/-- A log around the first registration under a pattern text. -/
theorem exists_behind (hx : log.find? (·.source = s) = some x) :
    x.source = s ∧ (∀ r ∈ ahead log s, r.source ≠ s) ∧
      ∃ behind, log = ahead log s ++ x :: behind := by
  obtain ⟨hs, before, behind, rfl, hbefore⟩ := List.find?_eq_some_iff_append.1 hx
  have hs : x.source = s := by simpa using hs
  have hbefore : ∀ r ∈ before, r.source ≠ s := by simpa using hbefore
  rw [ahead_append_cons hs hbefore]
  exact ⟨hs, hbefore, behind, rfl⟩

end Ahead

theorem isPrefix_brought (log : List (Registration α)) (s : String) :
    brought log s <+: firsts log := by
  rw [brought]
  cases hx : log.find? (·.source = s) with
  | none =>
    have hall : ahead log s = log := List.takeWhile_eq_self_iff.2 (by simpa using hx)
    exact ⟨[], by rw [hall, Option.toList_none, List.append_nil, List.append_nil]⟩
  | some x =>
    obtain ⟨hs, hahead, behind, hsplit⟩ := exists_behind hx
    have hnew : x.source ∉ (ahead log s).map source := by
      rw [hs, List.mem_map]
      rintro ⟨r, hr, heq⟩
      exact hahead r hr heq
    obtain ⟨rest, hfirsts⟩ := firsts_append_cons hnew behind
    rw [← hsplit] at hfirsts
    exact ⟨rest, by rw [hfirsts, Option.toList_some, List.append_assoc, List.singleton_append]⟩

/-- The patterns up to an entry are those that the log has up to its text. -/
theorem patternsUpTo_ofLog {log : List (Registration α)} {i : Nat} {e : Entry α}
    (he : (Table.ofLog log).entries[i]? = some e) :
    (Table.ofLog log).patternsUpTo i = known log e.source := by
  have hmirrors := Table.mirrors_ofLog log
  obtain ⟨x, hx, -⟩ := Option.map_eq_some_iff.1 (hmirrors.pattern e (List.mem_of_getElem? he))
  have hlast : brought log e.source = firsts (ahead log e.source) ++ [x] := by
    rw [brought, hx, Option.toList_some]
  obtain ⟨rest, hrest⟩ := isPrefix_brought log e.source
  have hplace : i = (firsts (ahead log e.source)).length := by
    have hi : (sources log)[i]? = some e.source := by
      rw [← hmirrors.sources, List.getElem?_map, he]
      rfl
    have hx : (sources log)[(firsts (ahead log e.source)).length]? = some e.source := by
      rw [← map_source_firsts, ← hrest, hlast]
      simp [(exists_behind hx).1]
    exact (List.getElem?_inj (List.getElem?_eq_some_iff.1 hi).1 (nodup_sources log)).1
      (hi.trans hx.symm)
  have htake : (firsts log).take (i + 1) = brought log e.source := by
    rw [← hrest]
    exact List.take_left' (by rw [hlast, List.length_append, hplace]; rfl)
  rw [Table.patternsUpTo, List.map_take, map_pattern_entries_ofLog, ← List.map_take, htake, known]

end Firsts

/-! ## Stray patterns -/

section Stray

variable {log : List (Registration α)} {host path s name : String}

theorem isStray_cons (r : Registration α) (rs : List (Registration α)) (host s : String) :
    isStray (r :: rs) host s = if r.source = s then !r.isOpen host else isStray rs host s := by
  rw [isStray, List.find?_cons]
  by_cases h : r.source = s <;> simp [h, isStray]

/-- The patterns brought in by registrations open to the host are those that these bring in on their
own, but for stray ones. -/
theorem filter_isOpen_firsts (log : List (Registration α)) (host : String) :
    (firsts log).filter (isOpen host) =
      (firsts (log.filter (isOpen host))).filter fun x => !isStray log host x.source := by
  induction log with
  | nil => rfl
  | cons r rs ih =>
    -- Under other texts than that of the head nothing is stray but what is in the tail.
    have hrest : ((firsts rs).filter fun x => x.source ≠ r.source).filter (isOpen host) =
        ((firsts (rs.filter (isOpen host))).filter fun x => x.source ≠ r.source).filter
          fun x => !isStray (r :: rs) host x.source := by
      rw [List.filter_comm, ih, List.filter_comm, List.filter_filter, List.filter_filter]
      refine List.filter_congr fun x _ => ?_
      by_cases h : r.source = x.source
      · simp [h]
      · simp [isStray_cons, h]
    cases hr : r.isOpen host with
    | true =>
      rw [List.filter_cons_of_pos hr, firsts, firsts, List.filter_cons_of_pos hr,
        List.filter_cons_of_pos (by simp [isStray_cons, hr]), hrest]
    | false =>
      rw [List.filter_cons_of_neg (by simp [hr]), firsts, List.filter_cons_of_neg (by simp [hr]),
        hrest, List.filter_filter]
      refine List.filter_congr fun x _ => ?_
      by_cases h : r.source = x.source
      · simp [isStray_cons, h, hr]
      · simp [Ne.symm h]

theorem find?_ahead {r : Registration α} (hr : r ∈ ahead log s) :
    (ahead log s).find? (·.source = r.source) = log.find? (·.source = r.source) := by
  obtain ⟨behind, hbehind⟩ : ahead log s <+: log := List.takeWhile_prefix _
  obtain ⟨x, hx⟩ : ∃ x, (ahead log s).find? (·.source = r.source) = some x :=
    Option.isSome_iff_exists.1 (List.find?_isSome.2 ⟨r, hr, by simp⟩)
  conv_rhs => rw [← hbehind]
  rw [List.find?_append, hx, Option.some_or]

theorem getLast?_filter {l : List (Registration α)} {p : Registration α → Bool}
    (h : ∀ x, l.getLast? = some x → p x = true) : (l.filter p).getLast? = l.getLast? := by
  obtain rfl | ⟨before, x, rfl⟩ := l.eq_nil_or_concat
  · rfl
  · rw [List.concat_eq_append] at h ⊢
    rw [List.filter_append, List.filter_cons_of_pos (h x List.getLast?_concat), List.filter_nil,
      List.getLast?_concat, List.getLast?_concat]

theorem mem_brought_iff {x : Registration α} :
    x ∈ brought log s ↔
      log.find? (·.source = x.source) = some x ∧ (x.source = s ∨ x ∈ ahead log s) := by
  rw [brought, List.mem_append, Option.mem_toList, mem_firsts_iff]
  constructor
  · rintro (h | h)
    · have hahead := List.mem_of_find?_eq_some h
      exact ⟨find?_ahead hahead ▸ h, .inr hahead⟩
    · obtain ⟨hs, -⟩ := exists_behind h
      exact ⟨hs ▸ h, .inl hs⟩
  · rintro ⟨h, hs | hahead⟩
    · exact .inr (hs ▸ h)
    · exact .inl ((find?_ahead hahead).trans h)

/-- The registrations open to the host come in front of a text that is not stray as in all. -/
theorem find?_filter_isOpen (hs : isStray log host s = false) :
    (log.filter (isOpen host)).find? (·.source = s) = log.find? (·.source = s) := by
  cases hx : log.find? (·.source = s) with
  | none =>
    rw [List.find?_eq_none] at hx ⊢
    exact fun r hr => hx r (List.mem_of_mem_filter hr)
  | some x =>
    have hopen : x.isOpen host = true := by simpa [isStray, hx] using hs
    obtain ⟨hsource, hahead, behind, hsplit⟩ := exists_behind hx
    rw [hsplit, List.filter_append, List.filter_cons_of_pos hopen]
    exact find?_append_cons hsource fun r hr => hahead r (List.mem_of_mem_filter hr)

theorem ahead_filter_isOpen (hs : isStray log host s = false) :
    ahead (log.filter (isOpen host)) s = (ahead log s).filter (isOpen host) := by
  cases hx : log.find? (·.source = s) with
  | none =>
    have hne : ∀ r ∈ log, decide (r.source ≠ s) = true := by simpa using hx
    rw [ahead, ahead, List.takeWhile_eq_self_iff.2 hne,
      List.takeWhile_eq_self_iff.2 fun r hr => hne r (List.mem_of_mem_filter hr)]
  | some x =>
    have hopen : x.isOpen host = true := by simpa [isStray, hx] using hs
    obtain ⟨hsource, hahead, behind, hsplit⟩ := exists_behind hx
    conv_lhs => rw [hsplit]
    rw [List.filter_append, List.filter_cons_of_pos hopen]
    exact ahead_append_cons hsource fun r hr => hahead r (List.mem_of_mem_filter hr)

theorem mem_ahead_filter {x : Registration α} (hx : x ∈ ahead log s)
    (hopen : x.isOpen host = true) : x ∈ ahead (log.filter (isOpen host)) s := by
  obtain ⟨behind, hbehind⟩ : ahead log s <+: log := List.takeWhile_prefix _
  have hne : ∀ r ∈ (ahead log s).filter (isOpen host), decide (r.source ≠ s) = true := by
    intro r hr
    have hr : r ∈ log.takeWhile (·.source ≠ s) := List.mem_of_mem_filter hr
    exact List.mem_takeWhile_imp (p := fun r : Registration α => decide (r.source ≠ s)) hr
  rw [ahead, ← hbehind, List.filter_append, List.takeWhile_append_of_pos hne]
  exact List.mem_append_left _ (List.mem_filter.2 ⟨hx, hopen⟩)

/-- What brings in a pattern and is open to the host brings it in for the host, too. -/
theorem mem_brought_filter {x : Registration α} (hx : x ∈ brought log s)
    (hopen : x.isOpen host = true) : x ∈ brought (log.filter (isOpen host)) s := by
  obtain ⟨hfind, hplace⟩ := mem_brought_iff.1 hx
  have hstray : isStray log host x.source = false := by simp [isStray, hfind, hopen]
  exact mem_brought_iff.2 ⟨(find?_filter_isOpen hstray).trans hfind,
    hplace.imp_right fun h => mem_ahead_filter h hopen⟩

/-- What brings in the last pattern for an untouched name does so for the host alone, too. -/
theorem Untouched.lastFor_filter (h : Untouched log host path s name) :
    lastFor (log.filter (isOpen host)) path s name = lastFor log path s name := by
  let gives (x : Registration α) : Bool := x.pattern.isFor path name
  let hosted := log.filter (isOpen host)
  -- What the log brings in for the name and the host, and what the host's part of it brings in for
  -- the name, are two starts of one list, and they have the same elements.
  let all := ((firsts log).filter (isOpen host)).filter gives
  let kept := ((brought log s).filter (isOpen host)).filter gives
  let own := (brought hosted s).filter gives
  have hopen : ∀ x ∈ brought hosted s, x.isOpen host = true := fun x hx =>
    (List.mem_filter.1 ((firsts_sublist hosted).subset ((isPrefix_brought hosted s).subset hx))).2
  have hmem : ∀ x, x ∈ kept ↔ x ∈ own := by
    intro x
    simp only [kept, own, List.mem_filter]
    constructor
    · rintro ⟨⟨hx, hxopen⟩, hgives⟩
      exact ⟨mem_brought_filter hx hxopen, hgives⟩
    · rintro ⟨hx, hgives⟩
      exact ⟨⟨h.bringsIn x hx hgives, hopen x hx⟩, hgives⟩
  have hkept : kept <+: all := ((isPrefix_brought log s).filter _).filter _
  have hown : own <+: all := by
    have hstray : own = ((brought hosted s).filter
        fun x => !Registration.isStray log host x.source).filter gives := by
      rw [List.filter_filter]
      refine List.filter_congr fun x hx => ?_
      cases hgives : gives x with
      | false => rfl
      | true =>
        have hfind := (mem_brought_iff.1 (h.bringsIn x hx hgives)).1
        simp [Registration.isStray, hfind, hopen x hx]
    rw [hstray, show all = _ from congrArg (List.filter gives) (filter_isOpen_firsts log host)]
    exact ((isPrefix_brought hosted s).filter _).filter _
  have heq : kept = own :=
    eq_of_prefixes (((nodup_firsts log).filter _).filter _) hkept hown hmem
  calc lastFor hosted path s name
      = (((brought log s).filter gives).filter (isOpen host)).getLast? := by
        rw [List.filter_comm]
        exact congrArg List.getLast? heq.symm
    _ = lastFor log path s name := getLast?_filter h.last

theorem settler_of_untouched {later : List (Registration α)}
    (hfilter : log.filter (isOpen host) = later.filter (isOpen host))
    (h : Untouched log host path s name) (h' : Untouched later host path s name) :
    settler log path s name = settler later path s name := by
  rw [settler, settler, ← h.lastFor_filter, hfilter, h'.lastFor_filter]

/-- At a text that is not stray, a name is untouched if the last pattern for it is not stray, and no
handler open to the host stands in front under a stray pattern for it. -/
theorem untouched_of_last (hs : isStray log host s = false)
    (hlast : ∀ x, lastFor log path s name = some x → x.isOpen host = true)
    (h : ∀ x ∈ ahead log s, x.isOpen host = true → x.pattern.isFor path name = true →
      isStray log host x.source = false) : Untouched log host path s name where
  last := hlast
  bringsIn := by
    intro x hx hfor
    obtain ⟨hfind, hplace⟩ := mem_brought_iff.1 hx
    obtain hsource | hahead := hplace
    · rw [hsource, find?_filter_isOpen hs, ← hsource] at hfind
      exact mem_brought_iff.2 ⟨hfind, .inl hsource⟩
    · rw [ahead_filter_isOpen hs] at hahead
      obtain ⟨hahead, hopen⟩ := List.mem_filter.1 hahead
      rw [find?_filter_isOpen (h x hahead hopen hfor)] at hfind
      exact mem_brought_iff.2 ⟨hfind, .inr hahead⟩

theorem Apart.untouched (h : Apart log host path) {r : Registration α} (hr : r ∈ log)
    (hmatch : r.pattern.isMatch path = true) (name : String) :
    Untouched log host path r.source name := by
  have hstray : ∀ x ∈ log, x.pattern.isMatch path = true → isStray log host x.source = false := by
    intro x hx hmatch
    rw [Bool.eq_false_iff]
    intro hstray
    rw [h x hx hstray] at hmatch
    cases hmatch
  have hfor : ∀ x ∈ log, x.pattern.isFor path name = true →
      isStray log host x.source = false := by
    intro x hx hfor
    obtain ⟨value, captures, hcaptures, -⟩ := Pattern.isFor_iff.1 hfor
    refine hstray x hx ?_
    rw [← Pattern.isSome_captures, hcaptures]
    rfl
  refine untouched_of_last (hstray r hr hmatch) (fun x hx => ?_)
    fun x hx _ => hfor x ((List.takeWhile_sublist _).subset hx)
  obtain ⟨hx, hgives⟩ := List.mem_filter.1 (List.mem_of_getLast? hx)
  have hfind := (mem_brought_iff.1 hx).1
  have hfalse := hfor x (List.mem_of_find?_eq_some hfind) hgives
  simpa [isStray, hfind] using hfalse

end Stray

/-- The text of the last pattern that captures a name settles its value. -/
theorem get?_known_congr {log later : List (Registration α)} {path s name : String}
    (h : settler log path s name = settler later path s name) :
    (Params.ofPatterns path (known log s)).get? name =
      (Params.ofPatterns path (known later s)).get? name := by
  have hsettler : ∀ log : List (Registration α), settler log path s name =
      ((known log s).filter (·.isFor path name)).getLast?.map Pattern.source := by
    intro log
    rw [settler, lastFor, known, List.filter_map, List.getLast?_map, Option.map_map]
    rfl
  rw [hsettler, hsettler] at h
  exact Params.get?_ofPatterns_congr h

/-- The own pattern has the last word. -/
theorem get?_known_of_gives {log : List (Registration α)} {path s name value : String}
    {x : Registration α} (hx : log.find? (·.source = s) = some x)
    (h : x.pattern.Gives path name value) :
    (Params.ofPatterns path (known log s)).get? name = some value := by
  rw [known, brought, hx, Option.toList_some, List.map_append, List.map_singleton,
    Params.get?_ofPatterns_concat, Pattern.lookup_captured_eq_some_iff.2 h, Option.some_or]

/-- What is open to a host answers for it alone. -/
theorem perm_due_of_filter_eq {log later : List (Registration α)} {host : String}
    (h : log.filter (isOpen host) = later.filter (isOpen host)) (path method : String) :
    ((due log path method host).map target).Perm ((due later path method host).map target) := by
  have hsettle : settle host log = settle host later := congrArg (List.map unscoped) h
  exact (perm_due_settle log ..).symm.trans (hsettle ▸ perm_due_settle later ..)

end Registration

/-! ## Programs -/

namespace Script

variable {o : Options}

/-- Nothing that a program registers within a scope of another host is open to the host. -/
theorem filter_isOpen_of_other (script : Script α) {host : String} {scopes : List Scope}
    (hscopes : (Scope.allHosts o.host scopes).all (· == host) = false) :
    (script.effect o scopes).log.filter (Registration.isOpen host) = [] :=
  List.map_eq_nil_iff.1 (script.settle_effect_of_other hscopes)

/-- Without the scopes of other hosts a program ends as it does with them, and registers the same
for the host. -/
theorem effect_withoutOthers (hfree : o.host = none) {host : String} (script : Script α)
    {scopes : List Scope} (h : script.othersReturn o host scopes = true) :
    ((script.withoutOthers host).effect o scopes).result = (script.effect o scopes).result ∧
      ((script.withoutOthers host).effect o scopes).log.filter (Registration.isOpen host) =
        (script.effect o scopes).log.filter (Registration.isOpen host) := by
  -- Two parts in turn agree if each of them does.
  have handThen : ∀ {caught : Bool} {e e' later later' : Effect α}, e.result = e'.result →
      e.log.filter (Registration.isOpen host) = e'.log.filter (Registration.isOpen host) →
      later.result = later'.result →
      later.log.filter (Registration.isOpen host) = later'.log.filter (Registration.isOpen host) →
      (e.andThen caught later).result = (e'.andThen caught later').result ∧
        (e.andThen caught later).log.filter (Registration.isOpen host) =
          (e'.andThen caught later').log.filter (Registration.isOpen host) := by
    intro caught e e' later later' he helog hlater hlaterlog
    unfold Effect.andThen
    rw [he]
    split
    · exact ⟨he, helog⟩
    · exact ⟨hlater, by rw [List.filter_append, List.filter_append, helog, hlaterlog]⟩
  induction script generalizing scopes with
  | done => exact ⟨rfl, rfl⟩
  | step caught action rest ih =>
    obtain ⟨hrest, hrestlog⟩ := ih h
    exact handThen rfl rfl hrest hrestlog
  | scope caught s body rest ihbody ihrest =>
    obtain ⟨hbody, hrest⟩ := Bool.and_eq_true_iff.1 h
    obtain ⟨hlater, hlaterlog⟩ := ihrest hrest
    have hshut : s.isShut o.host = false := by
      rw [hfree]
      cases s <;> rfl
    rw [withoutOthers, effect, hshut, if_neg Bool.false_ne_true]
    cases hadmits : s.admits host with
    | true =>
      rw [hadmits, if_pos rfl] at hbody
      obtain ⟨hinner, hinnerlog⟩ := ihbody hbody
      rw [if_pos rfl, effect, hshut, if_neg Bool.false_ne_true]
      exact handThen hinner hinnerlog hlater hlaterlog
    | false =>
      rw [hadmits, if_neg Bool.false_ne_true] at hbody
      have hnone : (body.effect o (scopes ++ [s])).log.filter (Registration.isOpen host) = [] := by
        refine body.filter_isOpen_of_other ?_
        rw [Scope.allHosts_concat, List.all_append, hfree]
        exact Bool.and_eq_false_iff.2 (.inr hadmits)
      rw [if_neg Bool.false_ne_true, Effect.andThen, if_neg (by simpa using hbody)]
      exact ⟨hlater, by rw [List.filter_append, hnone, hlaterlog, List.nil_append]⟩

end Script

namespace Dispatcher

variable {d e : Dispatcher α} {log later : List (Registration α)}

/-- A handler is given what the patterns up to that of its target capture. -/
theorem params_of_target (hlog : d.table = .ofLog log) {act : Call α → Except String Unit}
    {r : Request} {k : Nat} {t : Target α} {c : Call α} (ht : (d.targets r)[k]? = some t)
    (hc : (d.dispatch act r).calls[k]? = some c) :
    c.handler = t.handler ∧
      c.params =
        some (.ofPatterns (d.options.strip r.path) (Registration.known log t.source)) ∧
      ∃ x, log.find? (·.source = t.source) = some x := by
  rw [targets, ← Table.map_target_stops, List.getElem?_map] at ht
  obtain ⟨s, hs, rfl⟩ := Option.map_eq_some_iff.1 ht
  have hcalls : d.calls r ≠ [] := by
    rw [Ne, calls_eq_nil_iff]
    exact List.ne_nil_of_mem (List.mem_of_getElem? hs)
  have hcall := getElem?_calls_of_dispatch hcalls hc
  rw [getElem?_calls, hs] at hcall
  obtain rfl := Option.some.inj hcall
  obtain ⟨hentry, -, -⟩ := mem_stopsOf.1 (List.mem_of_getElem? hs)
  rw [hlog] at hentry
  obtain ⟨x, hx, -⟩ := Option.map_eq_some_iff.1
    ((Table.mirrors_ofLog log).pattern _ (List.mem_of_getElem? hentry))
  have hknown := Registration.patternsUpTo_ofLog hentry
  rw [← hlog] at hknown
  exact ⟨rfl, congrArg (fun known => some (Params.ofPatterns _ known)) hknown, x, hx⟩

/-- A target stands under a pattern that matches the path. -/
theorem exists_of_mem_targets (hlog : d.table = .ofLog log) {r : Request} {t : Target α}
    (ht : t ∈ d.targets r) :
    ∃ x ∈ log, x.source = t.source ∧ x.pattern.isMatch (d.options.strip r.path) = true := by
  rw [targets, hlog, (Table.mirrors_ofLog log).targets_eq] at ht
  obtain ⟨x, hx, rfl⟩ := List.mem_map.1 ht
  obtain ⟨hmem, hmatch, -⟩ := Registration.of_mem_due hx
  exact ⟨x, hmem, rfl, hmatch⟩

/-- What a handler is given by two dispatchers that both reach its target. -/
theorem params_of_shared_target (hlog : d.table = .ofLog log) (hlater : e.table = .ofLog later)
    {path : String} {r : Request} (hd : d.options.strip r.path = path)
    (he : e.options.strip r.path = path) {act act' : Call α → Except String Unit} {j k : Nat}
    {t : Target α} {c c' : Call α} (ht : (d.targets r)[j]? = some t)
    (ht' : (e.targets r)[k]? = some t) (hc : (d.dispatch act r).calls[j]? = some c)
    (hc' : (e.dispatch act' r).calls[k]? = some c') :
    (c.handler = t.handler ∧ c'.handler = t.handler) ∧
    (∃ x x', log.find? (·.source = t.source) = some x ∧
      later.find? (·.source = t.source) = some x' ∧
      ∀ name value, x.pattern.Gives path name value → name ∈ x'.pattern.names →
        c.params.bind (·.get? name) = some value ∧
          c'.params.bind (·.get? name) = some value) ∧
    (∀ name, Registration.settler log path t.source name =
        Registration.settler later path t.source name →
      c.params.bind (·.get? name) = c'.params.bind (·.get? name)) ∧
    ((∀ name, Registration.settler log path t.source name =
        Registration.settler later path t.source name) → c.params = c'.params) := by
  obtain ⟨hhandler, hparams, x, hx⟩ := params_of_target hlog ht hc
  obtain ⟨hhandler', hparams', x', hx'⟩ := params_of_target hlater ht' hc'
  rw [hd] at hparams
  rw [he] at hparams'
  have hvalue : ∀ name, Registration.settler log path t.source name =
        Registration.settler later path t.source name →
      c.params.bind (·.get? name) = c'.params.bind (·.get? name) := by
    intro name hsettler
    rw [hparams, hparams', Option.bind_some, Option.bind_some]
    exact Registration.get?_known_congr hsettler
  refine ⟨⟨hhandler, hhandler'⟩, ⟨x, x', hx, hx', fun name value hgives hname => ?_⟩, hvalue,
    fun hsettlers => ?_⟩
  · have hsource : x.source = x'.source :=
      (Registration.exists_behind hx).1.trans (Registration.exists_behind hx').1.symm
    rw [hparams, hparams', Option.bind_some, Option.bind_some]
    exact ⟨Registration.get?_known_of_gives hx hgives,
      Registration.get?_known_of_gives hx' (hgives.of_source_eq hsource hname)⟩
  · have hvalues := fun name => hvalue name (hsettlers name)
    rw [hparams, hparams'] at hvalues ⊢
    exact congrArg some (Dict.ext_get? hvalues)

end Dispatcher

namespace Script

variable {o : Options}

/-- Two programs that are the same but for scopes of hosts other than that of a request, none of
which ends its program. The request reaches the same targets. A handler is given the value that its
own pattern captures, for each name that the pattern declares in both programs. Another name keeps
its value as long as the last pattern up to the own one to capture it has the same text, which it
has if the name is untouched in both programs. If this goes for all names, the handler is given the
same altogether; and so it is if no pattern brought in for another host matches the path. -/
theorem params_isolated (hfree : o.host = none) (p q : Script α) (request : Request)
    (hsame : p.withoutOthers request.host = q.withoutOthers request.host)
    (hp : p.othersReturn o request.host [] = true) (hq : q.othersReturn o request.host [] = true)
    (act act' : Call α → Except String Unit) :
    let d := (p.run (.ofOptions o)).router.sealed
    let e := (q.run (.ofOptions o)).router.sealed
    let log := (p.effect o []).log
    let log' := (q.effect o []).log
    let path := o.strip request.path
    (d.targets request).Perm (e.targets request) ∧
    ∀ (j k : Nat) (t : Target α) (c c' : Call α),
      (d.targets request)[j]? = some t → (e.targets request)[k]? = some t →
      (d.dispatch act request).calls[j]? = some c →
      (e.dispatch act' request).calls[k]? = some c' →
      c.handler = t.handler ∧ c'.handler = t.handler ∧
      (∃ x x', log.find? (·.source = t.source) = some x ∧
        log'.find? (·.source = t.source) = some x' ∧
        ∀ name value, x.pattern.Gives path name value → name ∈ x'.pattern.names →
          c.params.bind (·.get? name) = some value ∧
            c'.params.bind (·.get? name) = some value) ∧
      (∀ name, Registration.Untouched log request.host path t.source name →
        Registration.Untouched log' request.host path t.source name →
        Registration.settler log path t.source name =
          Registration.settler log' path t.source name) ∧
      (∀ name, Registration.settler log path t.source name =
          Registration.settler log' path t.source name →
        c.params.bind (·.get? name) = c'.params.bind (·.get? name)) ∧
      ((∀ name, Registration.settler log path t.source name =
          Registration.settler log' path t.source name) → c.params = c'.params) ∧
      (Registration.Apart log request.host path → Registration.Apart log' request.host path →
        c.params = c'.params) := by
  intro d e log log' path
  obtain ⟨hd, hdo⟩ : d.table = .ofLog log ∧ d.options = o := p.table_sealed_run none
  obtain ⟨he, heo⟩ : e.table = .ofLog log' ∧ e.options = o := q.table_sealed_run none
  have hopen : log.filter (Registration.isOpen request.host) =
      log'.filter (Registration.isOpen request.host) := by
    rw [← (effect_withoutOthers hfree p hp).2, ← (effect_withoutOthers hfree q hq).2, hsame]
  refine ⟨?_, fun j k t c c' ht ht' hc hc' => ?_⟩
  · rw [Dispatcher.targets, Dispatcher.targets, hd, hdo, he, heo,
      (Table.mirrors_ofLog log).targets_eq, (Table.mirrors_ofLog log').targets_eq]
    exact Registration.perm_due_of_filter_eq hopen ..
  have hdpath : d.options.strip request.path = path := by rw [hdo]
  have hepath : e.options.strip request.path = path := by rw [heo]
  obtain ⟨⟨hhandler, hhandler'⟩, hown, hvalue, hall⟩ :=
    Dispatcher.params_of_shared_target hd he hdpath hepath ht ht' hc hc'
  have huntouched : ∀ name, Registration.Untouched log request.host path t.source name →
      Registration.Untouched log' request.host path t.source name →
      Registration.settler log path t.source name =
        Registration.settler log' path t.source name := fun _ =>
    Registration.settler_of_untouched hopen
  refine ⟨hhandler, hhandler', hown, huntouched, hvalue, hall, fun hapart hapart' => ?_⟩
  obtain ⟨x, hx, hsource, hmatch⟩ :=
    Dispatcher.exists_of_mem_targets hd (List.mem_of_getElem? ht)
  obtain ⟨x', hx', hsource', hmatch'⟩ :=
    Dispatcher.exists_of_mem_targets he (List.mem_of_getElem? ht')
  rw [hdpath] at hmatch
  rw [hepath] at hmatch'
  exact hall fun name => huntouched name (hsource ▸ hapart.untouched hx hmatch name)
    (hsource' ▸ hapart'.untouched hx' hmatch' name)

/-- Routes for another host stand in front, one under each of the patterns that capture `c` and `d`.
The later of these patterns has the last word on both names in either program. -/
theorem params_isolated_twice :
    let get (template : String) (handler : Nat) (rest : Script Nat) : Script Nat :=
      .step false (.route [.verb "GET"] template handler) rest
    let other (template : String) (rest : Script Nat) : Script Nat :=
      .scope false (.host "other") (get template 9 .done) rest
    let q := get "/[:d]/[:c]" 1 (get "/[:a]/[:b]" 2 .done)
    let p := other "/[:c]/[:d]" (other "/[:d]/[:c]" q)
    let request : Request := ⟨"GET", "/u/v.html", "h", .empty, {}⟩
    let calls (script : Script Nat) : List (Call Nat) :=
      ((script.run (.ofOptions {})).router.sealed.dispatch (fun _ => .ok ()) request).calls
    p.withoutOthers "h" = q.withoutOthers "h" ∧ p.othersReturn {} "h" [] = true ∧
      q.othersReturn {} "h" [] = true ∧
      ∃ c ∈ calls p, ∃ c' ∈ calls q, c.handler = 2 ∧ c'.handler = 2 ∧
        (c.params.bind (·.get? "b") = some "v" ∧ c'.params.bind (·.get? "b") = some "v") ∧
        ∀ name ∈ ["a", "c"], c.params.bind (·.get? name) = c'.params.bind (·.get? name) := by
  intro get other q p request calls
  have hp : p.othersReturn {} "h" [] = true := by decide +kernel
  have hq : q.othersReturn {} "h" [] = true := by decide +kernel
  obtain ⟨-, hgiven⟩ := params_isolated (o := {}) rfl p q request rfl hp hq
    (fun _ => .ok ()) (fun _ => .ok ())
  let t : Target Nat := ⟨"^/(?P<a>[^/]+?)/(?P<b>[^/]+?)$", .verb "GET", 2⟩
  have hrun : ∀ script ∈ [p, q],
      ((script.run (.ofOptions {})).router.sealed.targets request)[1]? = some t ∧
        (calls script).map Call.handler = [1, 2] := by decide +kernel
  have hsecond : ∀ script ∈ [p, q], ∃ c, (calls script)[1]? = some c := by
    intro script hscript
    have hhandlers := congrArg (·[1]?) (hrun script hscript).2
    obtain ⟨c, hc, -⟩ := Option.map_eq_some_iff.1 ((List.getElem?_map ..).symm.trans hhandlers)
    exact ⟨c, hc⟩
  let log (script : Script Nat) := (script.effect {} []).log
  have hlog : ∀ script ∈ [p, q],
      (((log script).find? (·.source = t.source)).all fun x =>
        (x.pattern.captured "/u/v").contains ("b", "v") && x.pattern.names.contains "b") ∧
      Registration.isStray (log script) "h" t.source = false ∧
      (Registration.lastFor (log script) "/u/v" t.source "a").all (Registration.isOpen "h") ∧
      ∀ x ∈ Registration.ahead (log script) t.source, x.pattern.isFor "/u/v" "a" = false := by
    decide +kernel
  have huntouched : ∀ script ∈ [p, q],
      Registration.Untouched (log script) "h" "/u/v" t.source "a" := by
    intro script hscript
    obtain ⟨-, hstray, hlast, hfor⟩ := hlog script hscript
    refine Registration.untouched_of_last hstray (fun x hx => ?_) fun x hx _ hgives => ?_
    · simpa [hx] using hlast
    · rw [hfor x hx] at hgives
      cases hgives
  have hsettler : Registration.settler (log p) "/u/v" t.source "c" =
      Registration.settler (log q) "/u/v" t.source "c" := by decide +kernel
  obtain ⟨c, hc⟩ := hsecond p (by simp)
  obtain ⟨c', hc'⟩ := hsecond q (by simp)
  obtain ⟨hhandler, hhandler', ⟨x, x', hx, hx', hvalue⟩, hlast, hsame, -⟩ :=
    hgiven 1 1 t c c' (hrun p (by simp)).1 (hrun q (by simp)).1 hc hc'
  have hpath : Options.strip {} "/u/v.html" = "/u/v" := by decide +kernel
  rw [hpath] at hvalue hlast hsame
  have hb := (hlog p (by simp)).1
  have hb' := (hlog q (by simp)).1
  simp only [log, hx, hx', Option.all_some, Bool.and_eq_true, List.contains_iff_mem] at hb hb'
  have ha := hlast "a" (huntouched p (by simp)) (huntouched q (by simp))
  refine ⟨rfl, hp, hq, c, List.mem_of_getElem? hc, c', List.mem_of_getElem? hc', hhandler,
    hhandler', hvalue "b" "v" (Pattern.gives_iff_mem.2 hb.1) hb'.2, fun name hname => hsame name ?_⟩
  rcases List.mem_pair.1 hname with rfl | rfl
  · exact ha
  · exact hsettler

/-- What a route for another host changes. Its captures join those of the handlers behind it; and
where a handler comes under its pattern later, that handler is called at its place, without the
captures of the patterns between them. A pattern may come in front of another in this way, so that
the other has the last word on what both capture. -/
theorem params_not_isolated :
    let get (template : String) (handler : Nat) (rest : Script Nat) : Script Nat :=
      .step false (.route [.verb "GET"] template handler) rest
    let other (template : String) (rest : Script Nat) : Script Nat :=
      .scope false (.host "other") (get template 9 .done) rest
    let given (path : String) (script : Script Nat) :
        List (Nat × Option (List (String × String))) :=
      ((script.run (.ofOptions {})).router.dispatch (fun _ => .ok ())
        ⟨"GET", path, "h", .empty, {}⟩).calls.map fun c => (c.handler, c.params.map Dict.entries)
    let one := get "/[:a]" 1 .done
    let two := get "/[:y]" 1 (get "/[a:x]" 2 .done)
    let three := get "/[:d]/[:c]" 1 (get "/[:c]/[:d]" 2 (get "/[:a]/[:b]" 3 .done))
    (other "/[:b]" one).withoutOthers "h" = one ∧
      given "/v" (other "/[:b]" one) = [(1, some [("a", "v"), ("b", "v")])] ∧
      given "/v" one = [(1, some [("a", "v")])] ∧
    (other "/[a:x]" two).withoutOthers "h" = two ∧
      given "/v" (other "/[a:x]" two) =
        [(2, some [("x", "v")]), (1, some [("x", "v"), ("y", "v")])] ∧
      given "/v" two = [(1, some [("y", "v")]), (2, some [("x", "v"), ("y", "v")])] ∧
    (other "/[:c]/[:d]" three).withoutOthers "h" = three ∧
      (given "/u/v" (other "/[:c]/[:d]" three)).getLast? =
        some (3, some [("a", "u"), ("b", "v"), ("c", "v"), ("d", "u")]) ∧
      (given "/u/v" three).getLast? =
        some (3, some [("a", "u"), ("b", "v"), ("c", "u"), ("d", "v")]) := by
  refine ⟨rfl, ?_, ?_, rfl, ?_, ?_, rfl, ?_, ?_⟩ <;> decide +kernel

end Script

end Signpost
