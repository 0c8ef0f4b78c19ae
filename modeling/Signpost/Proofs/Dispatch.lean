import Signpost.Dispatch
import Signpost.Proofs.Mirror

/-!
# Dispatch and the registrations behind it

Which registrations of a log a request reaches, said without a table: of each slot under a pattern
that matches, the last registration, unless a later one under the same pattern and method is open to
the request's host. A dispatch over the table of the log calls their handlers, in this order.

## Main definitions

* `Registration.answer?`: the registration that answers for a slot.
* `Registration.due`: the registrations that a request reaches.
* `Table.targets`: the pattern texts, methods and handlers that a request reaches.

## Main statements

* `Table.Mirrors.targets_eq`, `Table.Mirrors.handlers_visits`: what a request reaches is what the
  registrations due made.
* `Registration.length_due_filter`: a pattern that matches answers once for each method that has a
  registration open to the request.
* `Dispatcher.dispatch_ofLog`: the calls of a dispatch and its outcome.
-/

namespace Signpost

universe u

variable {α : Type u}

theorem Pattern.isSome_captures (p : Pattern) (path : String) :
    (p.captures path).isSome = p.isMatch path := by
  simp [captures, isMatch, Regex.named?, Regex.isMatch]

theorem Pattern.isMatch_of_source_eq {p q : Pattern} (h : p.source = q.source) (path : String) :
    p.isMatch path = q.isMatch path := by
  rw [isMatch, isMatch, regex_eq_of_source_eq h]

namespace Registration

/-- The registration is for requests with a method and a host. -/
def accepts (r : Registration α) (method host : String) : Bool :=
  r.method.accepts method && r.hosts.all (· == host)

/-- A registration behind place `i` has the same pattern text and method, and is open to the
host. -/
def isOverridden (log : List (Registration α)) (r : Registration α) (i : Nat) (host : String) :
    Bool :=
  (log.drop (i + 1)).any fun x =>
    x.source = r.source ∧ x.method = r.method ∧ x.hosts.all (· == host)

/-- The registration that answers a request for a slot of a pattern: the last one of the slot, if it
accepts the request and is not overridden. -/
def answer? (log : List (Registration α)) (method host : String) (s : String) (σ : Slot) :
    Option (Registration α) :=
  (latest? log s σ).bind fun x =>
    if x.1.accepts method host && !isOverridden log x.1 x.2 host then some x.1 else none

/-- A pattern with a text matches a path. -/
def isMatch (log : List (Registration α)) (path s : String) : Bool :=
  log.any fun r => r.source = s ∧ r.pattern.isMatch path

/-- The registrations that a request reaches: pattern by pattern and slot by slot, each in the order
of first occurrence in the log. -/
def due (log : List (Registration α)) (path method host : String) : List (Registration α) :=
  ((sources log).filter (isMatch log path)).flatMap fun s =>
    (slots log s).filterMap (answer? log method host s)

theorem isOverridden_iff {log : List (Registration α)} {r : Registration α} {i : Nat}
    {host : String} :
    isOverridden log r i host = true ↔
      ∃ j x, i < j ∧ log[j]? = some x ∧ x.source = r.source ∧ x.method = r.method ∧
        x.hosts.all (· == host) := by
  rw [isOverridden, List.any_eq_true]
  constructor
  · rintro ⟨x, hx, hp⟩
    obtain ⟨j, hj, hget⟩ := List.mem_drop_iff_getElem.1 hx
    exact ⟨i + 1 + j, x, by omega, List.getElem?_eq_some_iff.2 ⟨by omega, hget⟩,
      by simpa using hp⟩
  · rintro ⟨j, x, hij, hx, hp⟩
    obtain ⟨hj, hget⟩ := List.getElem?_eq_some_iff.1 hx
    refine ⟨x, List.mem_drop_iff_getElem.2 ⟨j - (i + 1), by omega, ?_⟩, by simpa using hp⟩
    rw [← hget]
    congr 1
    omega

/-- What answers for a slot is its last registration. -/
theorem answer?_eq_some_iff {log : List (Registration α)} {method host s : String} {σ : Slot}
    {r : Registration α} :
    answer? log method host s σ = some r ↔
      ∃ i, latest? log s σ = some (r, i) ∧ r.accepts method host = true ∧
        isOverridden log r i host = false := by
  rw [answer?, Option.bind_eq_some_iff]
  constructor
  · rintro ⟨⟨x, i⟩, hx, h⟩
    by_cases hp : x.accepts method host && !isOverridden log x i host
    · obtain rfl : x = r := by simpa [hp] using h
      exact ⟨i, hx, by simpa using hp⟩
    · simp [hp] at h
  · rintro ⟨i, hi, ha, ho⟩
    exact ⟨(r, i), hi, by simp [ha, ho]⟩

theorem isMatch_source {log : List (Registration α)} {r : Registration α} (hr : r ∈ log)
    (path : String) : isMatch log path r.source = r.pattern.isMatch path := by
  rw [Bool.eq_iff_iff, isMatch, List.any_eq_true]
  constructor
  · rintro ⟨x, -, hp⟩
    obtain ⟨hs, hm⟩ : x.source = r.source ∧ x.pattern.isMatch path = true := by simpa using hp
    rwa [Pattern.isMatch_of_source_eq hs] at hm
  · intro hm
    exact ⟨r, hr, by simpa using hm⟩

/-- A registration that answers for a slot fills it and accepts the request. -/
theorem of_answer? {log : List (Registration α)} {method host s : String} {σ : Slot}
    {r : Registration α} (h : answer? log method host s σ = some r) :
    r ∈ log ∧ r.source = s ∧ r.slot = σ ∧ r.accepts method host = true := by
  obtain ⟨i, hi, ha, -⟩ := answer?_eq_some_iff.1 h
  obtain ⟨⟨hget, hs, hσ⟩, -⟩ := latest?_eq_some_iff.1 hi
  exact ⟨List.mem_of_getElem? hget, hs, hσ, ha⟩

/-- The registrations due match the path and answer for their slots. -/
theorem of_mem_due {log : List (Registration α)} {path method host : String} {r : Registration α}
    (h : r ∈ due log path method host) :
    r ∈ log ∧ r.pattern.isMatch path = true ∧ r.accepts method host = true := by
  obtain ⟨s, hs, hr⟩ := List.mem_flatMap.1 h
  obtain ⟨σ, -, hσ⟩ := List.mem_filterMap.1 hr
  obtain ⟨hmem, rfl, -, ha⟩ := of_answer? hσ
  have hm := (List.mem_filter.1 hs).2
  rw [isMatch_source hmem] at hm
  exact ⟨hmem, hm, ha⟩

/-- Of the registrations under a pattern text and a method whose hosts are open to a host, the last
one answers, and no other. -/
theorem exists_answer? {log : List (Registration α)} {method host : String} {x : Registration α}
    (hx : x ∈ log) (ha : x.accepts method host = true) :
    ∃ r, r.method = x.method ∧ answer? log method host x.source r.slot = some r ∧
      ∀ σ y, answer? log method host x.source σ = some y → y.method = x.method → σ = r.slot := by
  obtain ⟨hmethod, hhosts⟩ := Bool.and_eq_true_iff.1 ha
  let p : Registration α → Bool := fun r =>
    r.source = x.source ∧ r.method = x.method ∧ r.hosts.all (· == host)
  have hp : ∀ r, p r = true ↔
      r.source = x.source ∧ r.method = x.method ∧ r.hosts.all (· == host) = true := fun r => by
    simp [p]
  obtain ⟨r, i, hri⟩ := exists_lastWith? (p := p) hx ((hp x).2 ⟨rfl, rfl, hhosts⟩)
  obtain ⟨⟨hr, hpr⟩, hlast⟩ := lastWith?_eq_some_iff.1 hri
  obtain ⟨hrs, hrm, hrh⟩ := (hp r).1 hpr
  have hnone : ∀ j y, i < j → log[j]? = some y → y.source = x.source → y.method = x.method →
      ¬y.hosts.all (· == host) = true := fun j y hij hy hys hym hyh => by
    have hfalse := hlast j y hij hy
    rw [(hp y).2 ⟨hys, hym, hyh⟩] at hfalse
    cases hfalse
  have hlatest : latest? log x.source r.slot = some (r, i) :=
    latest?_eq_some_iff.2 ⟨⟨hr, hrs, rfl⟩, fun j y hij hy hys hslot => by
      obtain ⟨hym, hyh⟩ := Prod.mk.inj hslot
      exact hnone j y hij hy hys (hym.trans hrm) (hyh ▸ hrh)⟩
  have haccepts : r.accepts method host = true := by
    rw [accepts, hrm, hmethod, hrh]
    rfl
  have hover : isOverridden log r i host = false := by
    rw [Bool.eq_false_iff, Ne, isOverridden_iff]
    rintro ⟨j, y, hij, hy, hys, hym, hyh⟩
    exact hnone j y hij hy (hys.trans hrs) (hym.trans hrm) hyh
  refine ⟨r, hrm, answer?_eq_some_iff.2 ⟨i, hlatest, haccepts, hover⟩, fun σ y hy hym => ?_⟩
  obtain ⟨j, hj, hya, hyo⟩ := answer?_eq_some_iff.1 hy
  obtain ⟨⟨hget, hys, rfl⟩, -⟩ := latest?_eq_some_iff.1 hj
  have hyh : y.hosts.all (· == host) = true := (Bool.and_eq_true_iff.1 hya).2
  rcases Nat.lt_trichotomy i j with hij | rfl | hij
  · exact absurd hyh (hnone j y hij hget hys hym)
  · obtain rfl : r = y := Option.some.inj (hr.symm.trans hget)
    rfl
  · have htrue : isOverridden log y j host = true :=
      isOverridden_iff.2 ⟨i, r, hij, hr, hrs.trans hys.symm, hrm.trans hym.symm, hrh⟩
    rw [hyo] at htrue
    cases htrue

/-- A pattern that matches answers once for each method with a registration that accepts the
request, and not at all for other methods. -/
theorem length_due_filter (log : List (Registration α)) (path method host s : String)
    (m : MethodToken) :
    ((due log path method host).filter fun r => r.source = s ∧ r.method = m).length =
      if ∃ r ∈ log, r.source = s ∧ r.method = m ∧ r.pattern.isMatch path = true ∧
        r.accepts method host = true then 1 else 0 := by
  split
  · next h =>
    obtain ⟨x, hx, rfl, rfl, hmatch, ha⟩ := h
    obtain ⟨r, hrm, hr, hunique⟩ := exists_answer? hx ha
    have hrs : r.source = x.source := (of_answer? hr).2.1
    have hsource : x.source ∈ (sources log).filter (isMatch log path) :=
      List.mem_filter.2 ⟨mem_sources.2 ⟨x, hx, rfl⟩, by rwa [isMatch_source hx]⟩
    have hslot : r.slot ∈ slots log x.source :=
      mem_slots.2 ⟨r, (of_answer? hr).1, hrs, rfl⟩
    rw [due, List.filter_flatMap, flatMap_eq_of_unique ((nodup_sources log).filter _) hsource,
      List.filterMap_eq_flatMap_toList, List.filter_flatMap,
      flatMap_eq_of_unique (nodup_slots log x.source) hslot, hr]
    · simp [hrs, hrm]
    · intro σ _ hne
      refine List.filter_eq_nil_iff.2 fun y hy hp => hne ?_
      obtain ⟨-, hym⟩ : y.source = x.source ∧ y.method = x.method := by simpa using hp
      exact hunique σ y (Option.mem_toList.1 hy) hym
    · intro s' _ hne
      refine List.filter_eq_nil_iff.2 fun y hy hp => hne ?_
      obtain ⟨hys, -⟩ : y.source = x.source ∧ y.method = x.method := by simpa using hp
      obtain ⟨σ, -, hσ⟩ := List.mem_filterMap.1 hy
      exact (of_answer? hσ).2.1.symm.trans hys
  · next h =>
    rw [List.length_eq_zero_iff, List.filter_eq_nil_iff]
    intro r hr hp
    obtain ⟨hs, hm⟩ : r.source = s ∧ r.method = m := by simpa using hp
    obtain ⟨hmem, hmatch, ha⟩ := of_mem_due hr
    exact h ⟨r, hmem, hs, hm, hmatch, ha⟩

end Registration

/-- The bindings that a request visits are those that it reaches in the entries that match. -/
theorem map_fst_visits (path method host : String) (params : Params) (es : List (Entry α)) :
    (visits path method host params es).map Prod.fst =
      (es.filter (·.pattern.isMatch path)).flatMap fun e => e.reached method host := by
  induction es generalizing params with
  | nil => rfl
  | cons e es ih =>
    have hsome := e.pattern.isSome_captures path
    cases hc : e.pattern.captures path with
    | none =>
      rw [hc] at hsome
      simp [visits, hc, ← hsome, ih]
    | some captures =>
      rw [hc] at hsome
      simp [visits, hc, ← hsome, ih, Function.comp_def]

/-- What a request reaches a handler by: the text of the pattern and the method of the binding. -/
structure Target (α : Type u) where
  source : String
  method : MethodToken
  handler : α
deriving DecidableEq, Repr

/-- The target that a binding is in the entry of a pattern text. -/
def Binding.target (s : String) (b : Binding α) : Target α := ⟨s, b.method, b.handler⟩

/-- The target that a registration makes. -/
def Registration.target (r : Registration α) : Target α := ⟨r.source, r.method, r.handler⟩

/-- The targets that a request reaches, in the order in which their handlers are called. -/
def Table.targets (t : Table α) (path method host : String) : List (Target α) :=
  (t.entries.filter (·.pattern.isMatch path)).flatMap fun e =>
    (e.reached method host).map (Binding.target e.source)

theorem Table.map_handler_targets (t : Table α) (path method host : String) (params : Params) :
    (t.targets path method host).map Target.handler =
      (visits path method host params t.entries).map (·.1.handler) := by
  have hvisits := congrArg (List.map Binding.handler)
    (map_fst_visits path method host params t.entries)
  rw [List.map_map] at hvisits
  refine Eq.trans ?_ hvisits.symm
  rw [targets, List.map_flatMap, List.map_flatMap]
  refine List.flatMap_congr fun e _ => ?_
  rw [List.map_map]
  rfl

namespace Table.Mirrors

variable {t : Table α} {log : List (Registration α)}

/-- Of two accepting bindings of a method the newer one stands for the later registration. -/
theorem isShadowed_eq (h : t.Mirrors log) {e : Entry α} (he : e ∈ t.entries) {r : Registration α}
    (hr : r.source = e.source) (i : Nat) {method host : String}
    (ha : r.accepts method host = true) :
    (r.binding i).isShadowed e.bindings method host = Registration.isOverridden log r i host := by
  have hmethod : r.method.accepts method = true := by
    rw [Registration.accepts, Bool.and_eq_true] at ha
    exact ha.1
  rw [Bool.eq_iff_iff, Registration.isOverridden_iff, Binding.isShadowed, List.any_eq_true]
  constructor
  · rintro ⟨o, ho, hp⟩
    simp only [Bool.and_eq_true, beq_iff_eq, decide_eq_true_eq, Binding.accepts] at hp
    obtain ⟨⟨hom, hlt⟩, -, hhosts⟩ := hp
    obtain ⟨x, hx, hxs, hslot, -⟩ := h.getElem?_seq he ho
    obtain ⟨hxm, hxh⟩ := Prod.mk.inj hslot
    exact ⟨o.seq, x, hlt, hx, hxs.trans hr.symm, hxm.trans hom, hxh ▸ hhosts⟩
  · rintro ⟨j, x, hij, hx, hxs, hxm, hhosts⟩
    have hmem : x.slot ∈ e.bindings.map Binding.slot := by
      rw [h.slots e he]
      exact Registration.mem_slots.2 ⟨x, List.mem_of_getElem? hx, hxs.trans hr, rfl⟩
    obtain ⟨o, ho, hslot⟩ := List.mem_map.1 hmem
    obtain ⟨y, -, -, -, -, hlast⟩ := h.getElem?_seq he ho
    have hle : j ≤ o.seq := by
      by_contra hlt
      exact hlast j x (by omega) hx (hxs.trans hr) hslot.symm
    obtain ⟨hom, hoh⟩ := Prod.mk.inj hslot
    refine ⟨o, ho, ?_⟩
    simp only [Bool.and_eq_true, beq_iff_eq, decide_eq_true_eq, Binding.accepts]
    refine ⟨⟨hom.trans hxm, Nat.lt_of_lt_of_le hij hle⟩, ?_, hoh ▸ hhosts⟩
    rw [hom, hxm]
    exact hmethod

/-- A request reaches the bindings of the registrations that answer for the slots of an entry. -/
theorem map_target_reached (h : t.Mirrors log) {e : Entry α} (he : e ∈ t.entries)
    (method host : String) :
    (e.reached method host).map (Binding.target e.source) =
      ((Registration.slots log e.source).filterMap
        (Registration.answer? log method host e.source)).map Registration.target := by
  rw [Entry.reached, ← h.slots e he, List.filterMap_map, List.map_filterMap,
    ← List.filterMap_eq_filter, List.map_filterMap]
  refine List.filterMap_congr fun b hb => ?_
  obtain ⟨⟨r, i⟩, hlatest, rfl⟩ := Option.map_eq_some_iff.1 (h.latest e he b hb)
  obtain ⟨⟨-, hs, -⟩, -⟩ := Registration.latest?_eq_some_iff.1 hlatest
  have haccepts : (r.binding i).accepts method host = r.accepts method host := rfl
  have htarget : (r.binding i).target e.source = r.target := by
    rw [Registration.target, hs]
    rfl
  simp only [Function.comp_apply, Registration.answer?, hlatest, Option.bind_some, Option.guard,
    haccepts]
  cases ha : r.accepts method host with
  | false => simp
  | true =>
    rw [h.isShadowed_eq he hs i ha]
    cases Registration.isOverridden log r i host <;> simp [htarget]

/-- A request reaches the targets of the registrations due, in their order. -/
theorem targets_eq (h : t.Mirrors log) (path method host : String) :
    t.targets path method host =
      (Registration.due log path method host).map Registration.target := by
  have hmatch : ∀ e ∈ t.entries,
      e.pattern.isMatch path = Registration.isMatch log path e.source := by
    intro e he
    obtain ⟨x, hx, hxs⟩ := h.mem_sources_of_mem he
    rw [← hxs, Registration.isMatch_source hx, Pattern.isMatch_of_source_eq hxs]
  rw [Table.targets, Registration.due, ← h.sources, List.filter_map, List.flatMap_map,
    List.map_flatMap, List.filter_congr hmatch]
  refine List.flatMap_congr fun e he => ?_
  exact h.map_target_reached (List.mem_of_mem_filter he) method host

/-- A request reaches the bindings of the registrations due, in their order. -/
theorem handlers_visits (h : t.Mirrors log) (path method host : String) (params : Params) :
    (visits path method host params t.entries).map (·.1.handler) =
      (Registration.due log path method host).map Registration.handler := by
  rw [← t.map_handler_targets path method host params, h.targets_eq, List.map_map]
  rfl

end Table.Mirrors

/-- If no handler fails, all calls are made. -/
theorem perform_of_ok {act : Call α → Except String Unit} (hact : ∀ c, act c = .ok ())
    (cs : List (Call α)) : perform act cs = (cs, none) := by
  induction cs with
  | nil => rfl
  | cons c cs ih => simp [perform, hact, ih]

namespace Dispatcher

theorem map_handler_calls (d : Dispatcher α) (r : Request) :
    (d.calls r).map Call.handler =
      (visits (d.options.strip r.path) r.method r.host .empty d.table.entries).map
        (·.1.handler) := by
  rw [calls, List.map_map]
  conv_rhs => rw [← List.zipIdx_map_fst 0 (visits _ _ _ _ _), List.map_map]
  rfl

theorem invocation_calls {d : Dispatcher α} {r : Request} {k : Nat} {c : Call α}
    (h : (d.calls r)[k]? = some c) : c.context.invocation = k := by
  rw [calls, List.getElem?_map, List.getElem?_zipIdx, Option.map_map] at h
  obtain ⟨v, -, rfl⟩ := Option.map_eq_some_iff.1 h
  simp [context]

theorem invocation_lastResort {d : Dispatcher α} {r : Request} {k : Nat} {c : Call α}
    (h : (d.lastResort r)[k]? = some c) : c.context.invocation = k := by
  rw [lastResort, List.getElem?_map] at h
  obtain ⟨handler, hk, rfl⟩ := Option.map_eq_some_iff.1 h
  have hlt : k < d.notFound.toList.length := (List.getElem?_eq_some_iff.1 hk).1
  have hle : d.notFound.toList.length ≤ 1 := by cases d.notFound <;> simp
  simp only [context]
  omega

/-- If no handler fails, the calls are those planned, or else the last resort. -/
theorem calls_dispatch {act : Call α → Except String Unit} (hact : ∀ c, act c = .ok ())
    (d : Dispatcher α) (r : Request) :
    (d.dispatch act r).calls = if (d.calls r).isEmpty then d.lastResort r else d.calls r := by
  simp [dispatch, perform_of_ok hact]

/-- A dispatch over the table of a log in which no handler fails. It calls the handlers of the
registrations due, in their order and numbered from 0, and reports how many; if none is due it falls
back on the handler for requests without a route. Each pattern that matches is answered once for
each method with a registration that accepts the request. -/
theorem dispatch_ofLog (log : List (Registration α)) (options : Options) (notFound : Option α)
    (act : Call α → Except String Unit) (hact : ∀ c, act c = .ok ()) (r : Request) :
    let d : Dispatcher α := ⟨.ofLog log, options, notFound⟩
    let path := options.strip r.path
    let due := Registration.due log path r.method r.host
    let report := d.dispatch act r
    (due ≠ [] → report.calls.map Call.handler = due.map Registration.handler ∧
      report.result = .ok ⟨report.calls.length⟩) ∧
    (due = [] → report.calls = d.lastResort r ∧
      report.result = if notFound.isSome then .ok ⟨0⟩ else .error (.routeNotFound r.method path)) ∧
    (∀ k (c : Call α), report.calls[k]? = some c → c.context.invocation = k) ∧
    ∀ s m, (due.filter fun x => x.source = s ∧ x.method = m).length =
      if ∃ x ∈ log, x.source = s ∧ x.method = m ∧ x.pattern.isMatch path = true ∧
        x.accepts r.method r.host = true then 1 else 0 := by
  intro d path due report
  have hcalls : (d.calls r).map Call.handler = due.map Registration.handler :=
    (d.map_handler_calls r).trans ((Table.mirrors_ofLog log).handlers_visits path _ _ _)
  have hempty : d.calls r = [] ↔ due = [] := by
    rw [← List.map_eq_nil_iff (f := Call.handler), hcalls, List.map_eq_nil_iff]
  have hmade : report.calls = if (d.calls r).isEmpty then d.lastResort r else d.calls r :=
    calls_dispatch hact d r
  refine ⟨fun hdue => ?_, fun hdue => ?_, fun k c hk => ?_,
    Registration.length_due_filter log path _ _⟩
  · have hne : d.calls r ≠ [] := fun h => hdue (hempty.1 h)
    rw [hmade, if_neg (by simpa using hne), hcalls]
    simp [report, dispatch, perform_of_ok hact, hne]
  · have hnil : d.calls r = [] := hempty.2 hdue
    rw [hmade, if_pos (by simpa using hnil)]
    cases notFound <;> simp [report, dispatch, perform_of_ok hact, hnil, lastResort, d, path]
  · rw [hmade] at hk
    split at hk
    · exact invocation_lastResort hk
    · exact invocation_calls hk

/-- Of four registrations under one pattern, the last one replaces the first and takes the place of
the third, which is restricted to the host of the request. -/
theorem dispatch_ofLog_shadowed :
    let p := (Pattern.compile "/a[i:n]" .builtin).toOption.get (by decide +kernel)
    let log : List (Registration Nat) :=
      [⟨p, .verb "GET", [], 1⟩, ⟨p, .any, [], 2⟩, ⟨p, .verb "GET", ["h"], 3⟩,
        ⟨p, .verb "GET", [], 4⟩]
    let act : Call Nat → Except String Unit := fun _ => .ok ()
    let report := dispatch ⟨.ofLog log, {}, none⟩ act ⟨"GET", "/a7.html", "h", .empty, {}⟩
    (∀ c, act c = .ok ()) ∧ report.calls.map Call.handler = [4, 2] ∧
      report.result = .ok ⟨report.calls.length⟩ := by
  intro p log act report
  have hact : ∀ c, act c = .ok () := fun _ => rfl
  have h := dispatch_ofLog log {} none act hact ⟨"GET", "/a7.html", "h", .empty, {}⟩
  have hdue : (Registration.due log (Options.strip {} "/a7.html") "GET" "h").map
      Registration.handler = [4, 2] := by decide +kernel
  have hne : Registration.due log (Options.strip {} "/a7.html") "GET" "h" ≠ [] := fun hnil => by
    rw [hnil] at hdue
    cases hdue
  exact ⟨hact, (h.1 hne).1.trans hdue, (h.1 hne).2⟩

end Dispatcher

end Signpost
