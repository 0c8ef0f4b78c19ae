import Signpost.Proofs.Isolation

/-!
# Registrations that matter for a path

A request goes through the whole table, but only the registrations whose patterns match its path
matter for it. Without the others the table has other places and other numbers. What is left of it,
in the order of the entries, are the patterns that match and the handlers that the request reaches
under them, and nothing else of the table is seen by a dispatch.

## Main definitions

* `Entry.view`: what a request sees of an entry.
* `Registration.relevant`: the registrations of a log whose patterns match a path.
* `Registration.without`: a log without the registrations at some places.

## Main statements

* `visits_congr_view`: a request visits the same bindings where it sees the same.
* `Registration.view_ofLog`: what a request sees of the table of a log, read off the log.
* `Registration.answer?_relevant`: what answers for a slot does so among the relevant registrations.
* `Dispatcher.dispatch_without`: a log without irrelevant registrations leads to the same dispatch.
-/

namespace Signpost

universe u

variable {α : Type u}

/-! ## What a request sees of a table -/

/-- What a request sees of an entry: the pattern, and the handlers that it reaches there. -/
def Entry.view (method host : String) (e : Entry α) : Pattern × List α :=
  (e.pattern, (e.reached method host).map Binding.handler)

/-- What a request sees of a table: the entries that match its path, in their order. -/
def Table.view (t : Table α) (path method host : String) : List (Pattern × List α) :=
  (t.entries.filter (·.pattern.isMatch path)).map (Entry.view method host)

section Visits

variable {path method host : String}

/-- A request goes past the entries whose patterns do not match. -/
theorem visits_filter (params : Params) (es : List (Entry α)) :
    visits path method host params (es.filter (·.pattern.isMatch path)) =
      visits path method host params es := by
  induction es generalizing params with
  | nil => rfl
  | cons e es ih =>
    have hsome := e.pattern.isSome_captures path
    cases hc : e.pattern.captures path with
    | none =>
      rw [hc] at hsome
      simp [visits, hc, ← hsome, ih]
    | some captures =>
      rw [hc] at hsome
      simp [visits, hc, ← hsome, ih]

/-- A request visits the same handlers with the same parameters where it sees the same. -/
theorem visits_congr_view (params : Params) {es fs : List (Entry α)}
    (h : es.map (Entry.view method host) = fs.map (Entry.view method host)) :
    (visits path method host params es).map (fun v => (v.1.handler, v.2)) =
      (visits path method host params fs).map (fun v => (v.1.handler, v.2)) := by
  induction es generalizing params fs with
  | nil =>
    cases fs with
    | nil => rfl
    | cons f fs => cases h
  | cons e es ih =>
    cases fs with
    | nil => cases h
    | cons f fs =>
      obtain ⟨hview, hrest⟩ := List.cons.inj h
      obtain ⟨hpattern, hreached⟩ := Prod.mk.inj hview
      have hhere : ∀ known : Params, (e.reached method host).map (fun b => (b.handler, known)) =
          (f.reached method host).map fun b => (b.handler, known) := by
        intro known
        simpa [Function.comp_def] using congrArg (List.map (·, known)) hreached
      rw [visits, visits, ← hpattern]
      cases hc : e.pattern.captures path with
      | none => exact ih params hrest
      | some captures => simp [Function.comp_def, hhere, ih _ hrest]

end Visits

theorem Dispatcher.calls_eq_map (d : Dispatcher α) (r : Request) :
    d.calls r = (((visits (d.options.strip r.path) r.method r.host .empty d.table.entries).map
      fun v => (v.1.handler, v.2)).zipIdx).map fun v => ⟨v.1.1, some v.1.2, d.context r v.2⟩ := by
  rw [calls, List.zipIdx_map, List.map_map]
  rfl

/-- Tables of which a request sees the same lead to the same dispatch. -/
theorem Dispatcher.dispatch_congr_view (d : Dispatcher α) {table : Table α} {r : Request}
    (h : table.view (d.options.strip r.path) r.method r.host =
      d.table.view (d.options.strip r.path) r.method r.host)
    (act : Call α → Except String Unit) :
    Dispatcher.dispatch { d with table } act r = d.dispatch act r := by
  apply d.dispatch_congr
  rw [calls_eq_map, calls_eq_map, ← visits_filter, visits_congr_view _ h, visits_filter]
  rfl

namespace Registration

/-! ## The relevant part of a log -/

/-- The registrations of a log whose patterns match a path. -/
def relevant (path : String) (log : List (Registration α)) : List (Registration α) :=
  log.filter (·.pattern.isMatch path)

section Relevant

variable {log : List (Registration α)} {path method host s : String} {x : Registration α}

/-- A filter by the pattern texts commutes with taking first registrations. -/
theorem firsts_filter {p : Registration α → Bool}
    (hp : ∀ x y : Registration α, x.source = y.source → p x = p y) (log : List (Registration α)) :
    firsts (log.filter p) = (firsts log).filter p := by
  induction log with
  | nil => rfl
  | cons r rs ih =>
    cases hr : p r with
    | true =>
      rw [List.filter_cons_of_pos hr, firsts, firsts, List.filter_cons_of_pos hr, ih,
        List.filter_comm]
    | false =>
      rw [List.filter_cons_of_neg (by simp [hr]), firsts, List.filter_cons_of_neg (by simp [hr]),
        ih, List.filter_filter]
      apply List.filter_congr
      intro x _
      by_cases hx : x.source = r.source
      · simp [hp x r hx, hr]
      · simp [hx]

/-- Under a pattern text that matches nothing of a log is irrelevant. -/
theorem filter_relevant {p : Registration α → Bool} (hx : x.pattern.isMatch path = true)
    (hp : ∀ y, p y = true → y.source = x.source) (log : List (Registration α)) :
    (relevant path log).filter p = log.filter p := by
  rw [relevant, List.filter_filter]
  apply List.filter_congr
  intro y _
  cases hy : p y with
  | false => rfl
  | true => simp [Pattern.isMatch_of_source_eq (hp y hy), hx]

theorem slots_relevant (hx : x.pattern.isMatch path = true) (log : List (Registration α)) :
    slots (relevant path log) x.source = slots log x.source := by
  rw [slots, slots, under, under, filter_relevant hx (by simp)]

/-- What answers for a slot does so among the relevant registrations, and the other way around. -/
theorem answer?_relevant (hx : x.pattern.isMatch path = true) (log : List (Registration α))
    (method host : String) (σ : Slot) :
    answer? (relevant path log) method host x.source σ = answer? log method host x.source σ := by
  apply Option.ext
  intro r
  have hsource : ∀ y : Registration α, decide (y.source = x.source ∧ y.method = σ.1 ∧
      y.hosts.all (· == host) = true) = true → y.source = x.source := by
    intro y hy
    exact (decide_eq_true_iff.1 hy).1
  rw [answer?_eq_some_iff_newest?, answer?_eq_some_iff_newest?, newest?, newest?,
    filter_relevant hx hsource]

end Relevant

/-- The handlers that answer a request under a pattern text. -/
def answering (log : List (Registration α)) (method host s : String) : List α :=
  ((slots log s).filterMap (answer? log method host s)).map handler

theorem answering_relevant {x : Registration α} {path : String}
    (hx : x.pattern.isMatch path = true) (log : List (Registration α)) (method host : String) :
    answering (relevant path log) method host x.source = answering log method host x.source := by
  rw [answering, answering, slots_relevant hx]
  congr 1
  apply List.filterMap_congr
  intro σ _
  exact answer?_relevant hx log method host σ

/-- What a request sees of the entries that a log makes: the patterns by first registration, each
with the handlers that answer under its text. -/
theorem map_view_ofLog (log : List (Registration α)) (method host : String) :
    (Table.ofLog log).entries.map (Entry.view method host) =
      (firsts log).map fun x => (x.pattern, answering log method host x.source) := by
  have hview : ∀ e ∈ (Table.ofLog log).entries,
      e.view method host = (e.pattern, answering log method host e.pattern.source) := by
    intro e he
    have hreached := congrArg (List.map Target.handler)
      ((Table.mirrors_ofLog log).map_target_reached he method host)
    rw [List.map_map, List.map_map] at hreached
    exact Prod.ext rfl hreached
  have hpatterns := congrArg
    (List.map fun p : Pattern => (p, answering log method host p.source))
    (map_pattern_entries_ofLog log)
  rw [List.map_map, List.map_map] at hpatterns
  rw [List.map_congr_left hview]
  exact hpatterns

/-- Of the table of a log a request sees what the relevant registrations make. -/
theorem view_ofLog (log : List (Registration α)) (path method host : String) :
    (Table.ofLog log).view path method host =
      (firsts (relevant path log)).map fun x =>
        (x.pattern, answering (relevant path log) method host x.source) := by
  have hview := congrArg (List.filter (·.1.isMatch path)) (map_view_ofLog log method host)
  rw [List.filter_map, List.filter_map] at hview
  rw [relevant, firsts_filter fun x y h => Pattern.isMatch_of_source_eq h path]
  refine Eq.trans hview (List.map_congr_left ?_)
  intro x hx
  have hmatch : x.pattern.isMatch path = true := (List.mem_filter.1 hx).2
  exact Prod.ext rfl (answering_relevant hmatch log method host).symm

/-! ## Deleting and swapping registrations -/

/-- The log without the registrations at some places. -/
def without (deleted : Nat → Bool) (log : List (Registration α)) : List (Registration α) :=
  (log.zipIdx.filter fun x => !deleted x.2).map Prod.fst

theorem relevant_without {log : List (Registration α)} {deleted : Nat → Bool} {path : String}
    (h : ∀ i x, log[i]? = some x → deleted i = true → x.pattern.isMatch path = false) :
    relevant path (without deleted log) = relevant path log := by
  have hlog : relevant path log =
      (log.zipIdx.filter fun x => x.1.pattern.isMatch path).map Prod.fst := by
    conv_lhs => rw [← List.zipIdx_map_fst 0 log, relevant, List.filter_map]
    rfl
  rw [hlog, without, relevant, List.filter_map, List.filter_filter]
  congr 1
  apply List.filter_congr
  rintro ⟨x, i⟩ hx
  have hget : log[i]? = some x := List.mk_mem_zipIdx_iff_getElem?.1 hx
  cases hdeleted : deleted i with
  | false => simp
  | true => simp [h i x hget hdeleted]

theorem relevant_swap (before after : List (Registration α)) {x y : Registration α} {path : String}
    (h : ¬(x.pattern.isMatch path = true ∧ y.pattern.isMatch path = true)) :
    relevant path (before ++ y :: x :: after) = relevant path (before ++ x :: y :: after) := by
  cases hx : x.pattern.isMatch path with
  | false => simp [relevant, hx, List.filter_cons]
  | true =>
    have hy : y.pattern.isMatch path = false := by simpa [hx] using h
    simp [relevant, hx, hy]

end Registration

/-- Logs with the same relevant registrations lead to the same dispatch. -/
theorem Dispatcher.dispatch_congr_relevant {log log' : List (Registration α)} {options : Options}
    {r : Request} (h : Registration.relevant (options.strip r.path) log =
      Registration.relevant (options.strip r.path) log')
    (notFound : Option α) (act : Call α → Except String Unit) :
    Dispatcher.dispatch ⟨.ofLog log, options, notFound⟩ act r =
      Dispatcher.dispatch ⟨.ofLog log', options, notFound⟩ act r := by
  apply dispatch_congr_view ⟨.ofLog log', options, notFound⟩
  rw [Registration.view_ofLog, Registration.view_ofLog, h]

/-- Registrations whose patterns do not match the path of a request, the URL suffix stripped, are
irrelevant to it. Without some of them the request leads to the same calls, with the same parameters
and numbers, and to the same result; and of two registrations in turn that do not both match it does
not see which came first. -/
theorem Dispatcher.dispatch_without (log : List (Registration α)) (options : Options)
    (notFound : Option α) (act : Call α → Except String Unit) (r : Request) :
    let path := options.strip r.path
    let report (log : List (Registration α)) : Report α :=
      Dispatcher.dispatch ⟨.ofLog log, options, notFound⟩ act r
    (∀ deleted : Nat → Bool,
      (∀ i x, log[i]? = some x → deleted i = true → x.pattern.isMatch path = false) →
      report (Registration.without deleted log) = report log) ∧
    ∀ before x y after, log = before ++ x :: y :: after →
      ¬(x.pattern.isMatch path = true ∧ y.pattern.isMatch path = true) →
      report (before ++ y :: x :: after) = report log := by
  intro path report
  constructor
  · intro deleted hdeleted
    exact dispatch_congr_relevant (Registration.relevant_without hdeleted) notFound act
  · rintro before x y after rfl hboth
    exact dispatch_congr_relevant (Registration.relevant_swap before after hboth) notFound act

end Signpost
