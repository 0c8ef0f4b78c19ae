import Signpost.Proofs.Dispatch

/-!
# Failures and requests without a route

What a dispatch does when a handler fails, and when no handler is reached. The calls of a dispatch
are laid out beforehand and then made up to the first failure. Here a dispatch is also given as one
pass over the table, which calls a handler as soon as it finds its binding, counts after the call,
leaves at a failure, and knows the handler for requests without a route only at the end. The two
are the same.

## Main definitions

* `Call.fails`, `Call.isFallback`: the kinds of calls.
* `Dispatcher.walk`: a dispatch as one pass over the table.

## Main statements

* `perform_eq_take`: the calls made are those laid out, cut behind the first that fails.
* `Dispatcher.dispatch_eq_walk`: a dispatch is the pass over the table.
* `Dispatcher.dispatch_protocol`: how the calls and the result of a dispatch hang together.
-/

namespace Signpost

universe u

variable {α : Type u}

/-- The call does not succeed. -/
def Call.fails (act : Call α → Except String Unit) (c : Call α) : Bool :=
  match act c with
  | .error _ => true
  | .ok () => false

/-- The call is that of the handler for requests without a route. -/
def Call.isFallback (c : Call α) : Bool := c.params.isNone

theorem Call.fails_iff {act : Call α → Except String Unit} {c : Call α} :
    c.fails act = true ↔ ∃ cause, act c = .error cause := by
  unfold fails
  split <;> simp_all

theorem Call.fails_eq_false_iff {act : Call α → Except String Unit} {c : Call α} :
    c.fails act = false ↔ act c = .ok () := by
  unfold fails
  split <;> simp_all

/-! ## Calls made in turn -/

section Perform

variable {act : Call α → Except String Unit}

theorem perform_append (cs ds : List (Call α)) :
    perform act (cs ++ ds) =
      match perform act cs with
      | (made, some cause) => (made, some cause)
      | (made, none) => (made ++ (perform act ds).1, (perform act ds).2) := by
  induction cs with
  | nil => rfl
  | cons c cs ih =>
    cases hc : act c with
    | error cause => simp [perform, hc]
    | ok u =>
      cases hp : perform act cs with
      | mk made failure => cases failure <;> simp [perform, hc, ih, hp]

/-- The calls made are those laid out, cut behind the first that fails. -/
theorem perform_eq_take (cs : List (Call α)) :
    (perform act cs).1 = cs.take (cs.findIdx (Call.fails act) + 1) := by
  induction cs with
  | nil => rfl
  | cons c cs ih =>
    cases hc : act c with
    | error cause => simp [perform, hc, List.findIdx_cons, Call.fails_iff.2 ⟨cause, hc⟩]
    | ok u => simp [perform, hc, List.findIdx_cons, Call.fails_eq_false_iff.2 hc, ih]

/-- Without a failure every call is made and succeeds. -/
theorem of_perform_eq_none {cs : List (Call α)} (h : (perform act cs).2 = none) :
    (perform act cs).1 = cs ∧ ∀ c ∈ cs, act c = .ok () := by
  induction cs with
  | nil => simp [perform]
  | cons c cs ih =>
    cases hc : act c with
    | error cause => simp [perform, hc] at h
    | ok u =>
      simp only [perform, hc] at h ⊢
      obtain ⟨hmade, hall⟩ := ih h
      exact ⟨by rw [hmade], by simpa [hc] using hall⟩

/-- A failure is that of the last call made, and of no other. -/
theorem of_perform_eq_some {cs : List (Call α)} {cause : String}
    (h : (perform act cs).2 = some cause) :
    ∃ before c, (perform act cs).1 = before ++ [c] ∧ act c = .error cause ∧
      ∀ x ∈ before, act x = .ok () := by
  induction cs with
  | nil => simp [perform] at h
  | cons c cs ih =>
    cases hc : act c with
    | error other =>
      obtain rfl : other = cause := by simpa [perform, hc] using h
      exact ⟨[], c, by simp [perform, hc], hc, by simp⟩
    | ok u =>
      simp only [perform, hc] at h ⊢
      obtain ⟨before, x, hmade, hx, hbefore⟩ := ih h
      exact ⟨c :: before, x, by rw [hmade]; rfl, hx, by simpa [hc] using hbefore⟩

/-- A call that fails is the last one made, and its failure is that of the whole. -/
theorem of_perform_getElem? {cs : List (Call α)} {k : Nat} {c : Call α} {cause : String}
    (hk : (perform act cs).1[k]? = some c) (hc : act c = .error cause) :
    k + 1 = (perform act cs).1.length ∧ (perform act cs).2 = some cause := by
  cases hfailure : (perform act cs).2 with
  | none =>
    obtain ⟨hmade, hall⟩ := of_perform_eq_none hfailure
    rw [hmade] at hk
    have hok := hall c (List.mem_of_getElem? hk)
    rw [hc] at hok
    cases hok
  | some other =>
    obtain ⟨before, x, hmade, hx, hbefore⟩ := of_perform_eq_some hfailure
    rw [hmade] at hk ⊢
    rcases Nat.lt_trichotomy k before.length with hlt | rfl | hlt
    · rw [List.getElem?_append_left hlt] at hk
      have hok := hbefore c (List.mem_of_getElem? hk)
      rw [hc] at hok
      cases hok
    · obtain rfl : x = c := by simpa using hk
      rw [hx] at hc
      cases hc
      simp
    · rw [List.getElem?_eq_none (by simp; omega)] at hk
      cases hk

end Perform

/-! ## A dispatch as one pass -/

namespace Dispatcher

variable (d : Dispatcher α) (act : Call α → Except String Unit) (r : Request)

/-- Calls the handlers of some bindings of an entry in turn, those of them that the request reaches.
Gives the calls made, and how many handlers were called by then or why the last call failed. -/
def walkBindings (e : Entry α) (params : Params) (matched : Nat) :
    List (Binding α) → List (Call α) × Except String Nat
  | [] => ([], .ok matched)
  | b :: bs =>
    if !b.accepts r.method r.host then walkBindings e params matched bs
    else if b.isShadowed e.bindings r.method r.host then walkBindings e params matched bs
    else
      let c : Call α := ⟨b.handler, some params, d.context r matched⟩
      match act c with
      | .error cause => ([c], .error cause)
      | .ok () =>
        let (made, done) := walkBindings e params (matched + 1) bs
        (c :: made, done)

/-- Visits some entries in turn. The captures of one that matches join the parameters before its
bindings are looked at. -/
def walkEntries (params : Params) (matched : Nat) :
    List (Entry α) → List (Call α) × Except String Nat
  | [] => ([], .ok matched)
  | e :: es =>
    match e.pattern.captures (d.options.strip r.path) with
    | none => walkEntries params matched es
    | some captures =>
      let params := params.insertAll captures
      match d.walkBindings act r e params matched e.bindings with
      | (made, .error cause) => (made, .error cause)
      | (made, .ok matched) =>
        let (more, done) := walkEntries params matched es
        (made ++ more, done)

/-- A dispatch as one pass over the table. -/
def walk : Report α :=
  let path := d.options.strip r.path
  match d.walkEntries act r .empty 0 d.table.entries with
  | (made, .error cause) => ⟨made, .error (.handler r.method path cause)⟩
  | (made, .ok matched) =>
    if 0 < matched then ⟨made, .ok ⟨matched⟩⟩
    else
      match d.notFound with
      | none => ⟨made, .error (.routeNotFound r.method path)⟩
      | some handler =>
        let c : Call α := ⟨handler, none, d.context r 0⟩
        match act c with
        | .error cause => ⟨made ++ [c], .error (.handler r.method path cause)⟩
        | .ok () => ⟨made ++ [c], .ok ⟨0⟩⟩

/-- The calls of bindings with their parameters, numbered from a count on. -/
def numbered (matched : Nat) (found : List (Binding α × Params)) : List (Call α) :=
  (found.zipIdx matched).map fun v => ⟨v.1.1.handler, some v.1.2, d.context r v.2⟩

/-- What calling bindings in turn comes to. -/
def outcome (matched : Nat) (found : List (Binding α × Params)) :
    List (Call α) × Except String Nat :=
  let p := perform act (d.numbered r matched found)
  (p.1, match p.2 with
    | some cause => .error cause
    | none => .ok (matched + found.length))

theorem outcome_cons (matched : Nat) (b : Binding α) (params : Params)
    (found : List (Binding α × Params)) :
    d.outcome act r matched ((b, params) :: found) =
      match act ⟨b.handler, some params, d.context r matched⟩ with
      | .error cause => ([⟨b.handler, some params, d.context r matched⟩], .error cause)
      | .ok () =>
        (⟨b.handler, some params, d.context r matched⟩ ::
          (d.outcome act r (matched + 1) found).1, (d.outcome act r (matched + 1) found).2) := by
  have hcount : matched + (found.length + 1) = matched + 1 + found.length := by omega
  simp only [outcome, numbered, List.zipIdx_cons, List.map_cons, perform, List.length_cons, hcount]
  split <;> simp_all

theorem outcome_append (matched : Nat) (found more : List (Binding α × Params)) :
    d.outcome act r matched (found ++ more) =
      match d.outcome act r matched found with
      | (made, .error cause) => (made, .error cause)
      | (made, .ok matched) =>
        (made ++ (d.outcome act r matched more).1, (d.outcome act r matched more).2) := by
  have hcalls : d.numbered r matched (found ++ more) =
      d.numbered r matched found ++ d.numbered r (matched + found.length) more := by
    rw [numbered, List.zipIdx_append, List.map_append]
    rfl
  simp only [outcome, hcalls, perform_append, List.length_append, ← Nat.add_assoc]
  cases hp : perform act (d.numbered r matched found) with
  | mk made failure => cases failure <;> rfl

/-- The pass over the bindings of an entry calls those that the request reaches. -/
theorem walkBindings_eq (e : Entry α) (params : Params) (matched : Nat) (bs : List (Binding α)) :
    d.walkBindings act r e params matched bs =
      d.outcome act r matched ((bs.filter fun b =>
        b.accepts r.method r.host && !b.isShadowed e.bindings r.method r.host).map
          (·, params)) := by
  induction bs generalizing matched with
  | nil => rfl
  | cons b bs ih =>
    cases ha : b.accepts r.method r.host with
    | false => simp [walkBindings, ha, ih]
    | true =>
      cases hs : b.isShadowed e.bindings r.method r.host with
      | true => simp [walkBindings, ha, hs, ih]
      | false =>
        rw [walkBindings, List.filter_cons_of_pos (by simp [ha, hs]), List.map_cons, outcome_cons,
          ← ih]
        simp [ha, hs]

/-- The pass over the entries calls the bindings that the request visits. -/
theorem walkEntries_eq (params : Params) (matched : Nat) (es : List (Entry α)) :
    d.walkEntries act r params matched es =
      d.outcome act r matched
        (visits (d.options.strip r.path) r.method r.host params es) := by
  induction es generalizing params matched with
  | nil => rfl
  | cons e es ih =>
    cases hc : e.pattern.captures (d.options.strip r.path) with
    | none => simp [walkEntries, visits, hc, ih]
    | some captures =>
      simp only [walkEntries, visits, hc, walkBindings_eq, outcome_append, ih, Entry.reached]

/-- A dispatch is the pass over the table. -/
theorem dispatch_eq_walk : d.dispatch act r = d.walk act r := by
  have hcalls : d.calls r = d.numbered r 0
      (visits (d.options.strip r.path) r.method r.host .empty d.table.entries) := rfl
  have hlength : (d.calls r).length =
      (visits (d.options.strip r.path) r.method r.host .empty d.table.entries).length := by
    simp [hcalls, numbered]
  rw [walk, walkEntries_eq, outcome, ← hcalls, Nat.zero_add, ← hlength, dispatch]
  cases hplanned : d.calls r with
  | nil =>
    cases hnotFound : d.notFound with
    | none => simp [lastResort, hnotFound, perform]
    | some handler =>
      cases hact : act ⟨handler, none, d.context r 0⟩ <;>
        simp [lastResort, hnotFound, perform, hact]
  | cons c cs =>
    cases hp : perform act (c :: cs) with
    | mk made failure => cases failure <;> simp [hp]

/-! ## The protocol -/

/-- The calls laid out for a request, which are all made if no handler fails. -/
def laidOut : List (Call α) := if (d.calls r).isEmpty then d.lastResort r else d.calls r

theorem dispatch_eq : d.dispatch act r =
    let p := perform act (d.laidOut r)
    ⟨p.1, match p.2 with
      | some cause => .error (.handler r.method (d.options.strip r.path) cause)
      | none =>
        if (d.laidOut r).isEmpty then .error (.routeNotFound r.method (d.options.strip r.path))
        else .ok ⟨(d.calls r).length⟩⟩ := rfl

theorem calls_dispatch_eq : (d.dispatch act r).calls = (perform act (d.laidOut r)).1 := rfl

/-- A failure is reported with the method and the path that was matched. -/
theorem result_of_failure {cause : String} (h : (perform act (d.laidOut r)).2 = some cause) :
    (d.dispatch act r).result = .error (.handler r.method (d.options.strip r.path) cause) := by
  simp only [dispatch_eq, h]

/-- Without a failure the result says how many bindings were called. -/
theorem result_of_success (h : (perform act (d.laidOut r)).2 = none) :
    (d.dispatch act r).result =
      if (d.laidOut r).isEmpty then .error (.routeNotFound r.method (d.options.strip r.path))
      else .ok ⟨(d.calls r).length⟩ := by
  simp only [dispatch_eq, h]

variable {d act r}

/-- Calls of bindings and the call of the last resort never occur together. -/
theorem isFallback_of_mem_dispatch {c : Call α} (h : c ∈ (d.dispatch act r).calls) :
    c.isFallback = (d.calls r).isEmpty := by
  rw [calls_dispatch_eq, perform_eq_take] at h
  have hc := List.mem_of_mem_take h
  rw [laidOut] at hc
  split at hc
  · next hempty =>
    obtain ⟨handler, -, rfl⟩ := List.mem_map.1 hc
    exact hempty.symm
  · next hempty =>
    obtain ⟨v, -, rfl⟩ := List.mem_map.1 hc
    exact (Bool.eq_false_iff.2 hempty).symm

theorem calls_dispatch_eq_nil_iff : (d.dispatch act r).calls = [] ↔ d.laidOut r = [] := by
  rw [calls_dispatch_eq, perform_eq_take, List.take_eq_nil_iff]
  simp

/-- The calls of bindings that are made stand in their places as laid out. -/
theorem getElem?_calls_of_dispatch {k : Nat} {c : Call α} (h : d.calls r ≠ [])
    (hk : (d.dispatch act r).calls[k]? = some c) : (d.calls r)[k]? = some c := by
  have hplanned : ¬(d.calls r).isEmpty = true := fun hempty => h (List.isEmpty_iff.1 hempty)
  rw [calls_dispatch_eq, perform_eq_take, laidOut, if_neg hplanned, List.getElem?_take] at hk
  exact (Option.ite_none_right_eq_some.1 hk).2

variable (d act r)

theorem filter_isFallback :
    (d.dispatch act r).calls.filter Call.isFallback =
      if (d.calls r).isEmpty then (d.dispatch act r).calls else [] := by
  rw [List.filter_congr fun c => isFallback_of_mem_dispatch]
  cases (d.calls r).isEmpty <;> simp

theorem filter_not_isFallback :
    (d.dispatch act r).calls.filter (!·.isFallback) =
      if (d.calls r).isEmpty then [] else (d.dispatch act r).calls := by
  rw [List.filter_congr fun c hc => congrArg not (isFallback_of_mem_dispatch hc)]
  cases (d.calls r).isEmpty <;> simp

/-- No binding is called exactly if the request reaches none. -/
theorem filter_not_isFallback_eq_nil_iff :
    (d.dispatch act r).calls.filter (!·.isFallback) = [] ↔ d.calls r = [] := by
  rw [filter_not_isFallback]
  split
  · next h => simpa using h
  · next h =>
    rw [calls_dispatch_eq_nil_iff, laidOut, if_neg h]

/-- The call of the last resort is never cut off. -/
theorem calls_dispatch_of_nil (h : d.calls r = []) : (d.dispatch act r).calls = d.lastResort r := by
  have hlength : (d.lastResort r).length ≤ 1 := by
    rw [lastResort, List.length_map]
    cases d.notFound <;> simp
  rw [calls_dispatch_eq, perform_eq_take, laidOut, h]
  exact List.take_of_length_le (Nat.le_trans hlength (Nat.le_add_left 1 _))

/-- If a request reaches no binding, the last resort settles the result. -/
theorem result_of_nil (h : d.calls r = []) :
    (d.dispatch act r).result =
      match d.notFound with
      | none => .error (.routeNotFound r.method (d.options.strip r.path))
      | some handler =>
        match act ⟨handler, none, d.context r 0⟩ with
        | .error cause => .error (.handler r.method (d.options.strip r.path) cause)
        | .ok () => .ok ⟨0⟩ := by
  cases hnotFound : d.notFound with
  | none => simp [dispatch, h, lastResort, hnotFound, perform]
  | some handler =>
    cases hact : act ⟨handler, none, d.context r 0⟩ <;>
      simp [dispatch, h, lastResort, hnotFound, perform, hact]

/-- A dispatch that called bindings and has a result called as many of them as it says. -/
theorem length_calls_of_result {o : Dispatched} (h : (d.dispatch act r).result = .ok o) :
    o.matched = ((d.dispatch act r).calls.filter (!·.isFallback)).length := by
  cases hfailure : (perform act (d.laidOut r)).2 with
  | some cause =>
    rw [result_of_failure d act r hfailure] at h
    cases h
  | none =>
    rw [result_of_success d act r hfailure] at h
    split at h
    · cases h
    · cases h
      rw [filter_not_isFallback, calls_dispatch_eq, (of_perform_eq_none hfailure).1, laidOut]
      split
      · next hempty => simpa using hempty
      · rfl

/-- How the calls and the result of a dispatch hang together, whatever handlers do. The calls are
those that are made if every handler succeeds, cut behind the first that fails. A call that fails is
the last one, and its failure is the result, with the method and the path that was matched; if none
fails and bindings are called, the result is their number. The handler for requests without a route
is called exactly if no binding is, then once and as the first, and settles the result. -/
theorem dispatch_protocol (d : Dispatcher α) (act : Call α → Except String Unit) (r : Request) :
    let report := d.dispatch act r
    let whole := (d.dispatch (fun _ => .ok ()) r).calls
    let path := d.options.strip r.path
    let fallbacks := report.calls.filter Call.isFallback
    let routed := report.calls.filter (!·.isFallback)
    report = d.walk act r ∧
    report.calls = whole.take (whole.findIdx (Call.fails act) + 1) ∧
    (∀ k c cause, report.calls[k]? = some c → act c = .error cause →
      k + 1 = report.calls.length ∧ report.result = .error (.handler r.method path cause) ∧
        (c.isFallback = false → fallbacks = [])) ∧
    ((∀ c ∈ report.calls, act c = .ok ()) → routed ≠ [] → report.result = .ok ⟨routed.length⟩) ∧
    fallbacks = (if routed.isEmpty then d.lastResort r else []) ∧
    (routed = [] → report.result =
      match d.notFound with
      | none => .error (.routeNotFound r.method path)
      | some handler =>
        match act ⟨handler, none, d.context r 0⟩ with
        | .error cause => .error (.handler r.method path cause)
        | .ok () => .ok ⟨0⟩) ∧
    ∀ o, report.result = .ok o → 0 < o.matched →
      report.calls.length = o.matched ∧ fallbacks = [] := by
  intro report whole path fallbacks routed
  have hwhole : whole = d.laidOut r := calls_dispatch (fun _ => rfl) d r
  have hnil : routed = [] ↔ d.calls r = [] := filter_not_isFallback_eq_nil_iff d act r
  have hfallbacks : fallbacks = if (d.calls r).isEmpty then report.calls else [] :=
    filter_isFallback d act r
  have hrouted : routed = if (d.calls r).isEmpty then [] else report.calls :=
    filter_not_isFallback d act r
  refine ⟨dispatch_eq_walk d act r, ?_, fun k c cause hk hc => ?_, fun hall hne => ?_, ?_,
    fun h => result_of_nil d act r (hnil.1 h), fun o ho hpos => ?_⟩
  · rw [hwhole]
    exact perform_eq_take _
  · obtain ⟨hlast, hfailure⟩ := of_perform_getElem? hk hc
    refine ⟨hlast, result_of_failure d act r hfailure, fun hfallback => ?_⟩
    rw [hfallbacks, if_neg]
    rw [← isFallback_of_mem_dispatch (List.mem_of_getElem? hk), hfallback]
    exact Bool.false_ne_true
  · have hplanned : ¬(d.calls r).isEmpty = true := fun h => hne (hnil.2 (List.isEmpty_iff.1 h))
    cases hfailure : (perform act (d.laidOut r)).2 with
    | some cause =>
      obtain ⟨before, c, hmade, hc, -⟩ := of_perform_eq_some hfailure
      have hok := hall c (by rw [calls_dispatch_eq, hmade]; simp)
      rw [hc] at hok
      cases hok
    | none =>
      have hcalls : report.calls = d.calls r := by
        rw [calls_dispatch_eq, (of_perform_eq_none hfailure).1, laidOut, if_neg hplanned]
      rw [result_of_success d act r hfailure, hrouted, if_neg hplanned, hcalls, laidOut,
        if_neg hplanned, if_neg hplanned]
  · rw [hfallbacks]
    by_cases hempty : d.calls r = []
    · rw [if_pos (List.isEmpty_iff.2 hempty), if_pos (List.isEmpty_iff.2 (hnil.2 hempty))]
      exact calls_dispatch_of_nil d act r hempty
    · rw [if_neg (by simpa using hempty), if_neg (by simpa [hnil] using hempty)]
  · have hlength : o.matched = routed.length := length_calls_of_result d act r ho
    have hempty : ¬(d.calls r).isEmpty = true := fun h => by
      rw [hrouted, if_pos h] at hlength
      exact Nat.ne_of_gt hpos hlength
    rw [hfallbacks, if_neg hempty, hlength, hrouted, if_neg hempty]
    exact ⟨rfl, rfl⟩

/-- The first of two routes fails, so that neither the second nor the last resort is called. -/
theorem dispatch_protocol_first_fails :
    let p := (Pattern.compile "/boom" .builtin).toOption.get (by decide +kernel)
    let q := (Pattern.compile "/[:any]" .builtin).toOption.get (by decide +kernel)
    let log : List (Registration Nat) := [⟨p, .verb "GET", [], 1⟩, ⟨q, .any, [], 2⟩]
    let act : Call Nat → Except String Unit := fun c =>
      if c.handler = 1 then .error "handler exploded" else .ok ()
    let report := dispatch ⟨.ofLog log, {}, some 3⟩ act ⟨"GET", "/boom.html", "h", .empty, {}⟩
    report.calls.map Call.handler = [1] ∧ report.calls.filter Call.isFallback = [] ∧
      report.result = .error (.handler "GET" "/boom" "handler exploded") := by
  intro p q log act report
  obtain ⟨-, -, hfail, -⟩ := dispatch_protocol ⟨.ofLog log, {}, some 3⟩ act
    ⟨"GET", "/boom.html", "h", .empty, {}⟩
  have hcalls : report.calls.map Call.handler = [1] := by decide +kernel
  obtain ⟨c, hc, hhandler⟩ : ∃ c, report.calls[0]? = some c ∧ c.handler = 1 :=
    Option.map_eq_some_iff.1 (by rw [← List.getElem?_map, hcalls]; rfl)
  have hrouted : c.isFallback = false := by
    have hall : ∀ x ∈ report.calls, x.isFallback = false := by decide +kernel
    exact hall c (List.mem_of_getElem? hc)
  obtain ⟨-, hresult, hnone⟩ := hfail 0 c "handler exploded" hc (by simp [act, hhandler])
  have hpath : Options.strip {} "/boom.html" = "/boom" := by decide +kernel
  exact ⟨hcalls, hnone hrouted, hresult.trans (by rw [hpath])⟩

end Dispatcher

end Signpost
