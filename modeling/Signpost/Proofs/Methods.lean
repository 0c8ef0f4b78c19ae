import Signpost.Proofs.Canonical
import Signpost.Proofs.Failure
import Signpost.Proofs.FixedHost

/-!
# Handlers by method

A request reaches at most one handler of a pattern for each token, and all tokens that registrations
are made with are spelled the same way if they accept the same methods. So it calls one handler of a
verb at most, and one of any method.

## Main definitions

* `Router.ReachedWith`: the routers that registrations under some tokens lead to.
* `Dispatcher.called`: the targets whose handlers a dispatch calls.

## Main statements

* `Router.ReachedWith.exists_log`: all that such a router holds was registered under such a token.
* `Dispatcher.map_handler_called`: the handlers called are those of the targets called.
* `Router.dispatch_one_verb`: how many handlers of a pattern a dispatch calls.
-/

namespace Signpost

universe u

variable {α : Type u}

/-! ## Routers and their tokens -/

/-- The routers that a new one becomes by registrations under some tokens, by scopes that are opened
and closed, and by all else that a router takes. -/
inductive Router.ReachedWith (allowed : MethodToken → Prop) : Router α → Prop
  | ofOptions (options : Options) : ReachedWith allowed (.ofOptions options)
  | route {r : Router α} {methods : List MethodToken} (h : ReachedWith allowed r)
      (hmethods : ∀ m ∈ methods, allowed m) (template : String) (handler : α) :
      ReachedWith allowed (r.route methods template handler).2
  | setNotFound {r : Router α} (h : ReachedWith allowed r) (handler : α) :
      ReachedWith allowed (r.setNotFound handler)
  | clearCache {r : Router α} (h : ReachedWith allowed r) : ReachedWith allowed r.clearCache
  | enter {r inner : Router α} {s : Scope} (h : ReachedWith allowed r)
      (hs : r.enter s = some inner) : ReachedWith allowed inner
  | leave {inner : Router α} (h : ReachedWith allowed inner) (s : Scope) (outer : Router α) :
      ReachedWith allowed (inner.leave s outer)

namespace Router

/-- A registration makes an entry under each of its tokens, or none at all. -/
theorem table_route (r : Router α) (methods : List MethodToken) (template : String) (handler : α) :
    (r.route methods template handler).2.table = r.table ∨
      ∃ pattern, (r.route methods template handler).2.table =
        r.table.registerAll (methods.map (⟨pattern, ·, r.hosts, handler⟩)) := by
  unfold route
  cases r.compiler.compile (r.base ++ template) with
  | mk compiled compiler =>
    cases compiled with
    | error e => exact .inl rfl
    | ok c => exact .inr ⟨c.pattern, r.bindAll_eq ..⟩

theorem table_leave (inner : Router α) (s : Scope) (outer : Router α) :
    (inner.leave s outer).table = inner.table := by
  unfold leave
  split <;> rfl

namespace ReachedWith

variable {allowed : MethodToken → Prop} {r : Router α}

theorem within (h : r.ReachedWith allowed) (s : Scope)
    {body : Router α → Except RouterError Unit × Router α}
    (hbody : ∀ inner, r.enter s = some inner → (body inner).2.ReachedWith allowed) :
    (r.within s body).2.ReachedWith allowed := by
  unfold Router.within
  split
  · exact h
  · next inner hs => exact .leave (hbody inner hs) s r

/-- All that such a router holds was registered under such a token. -/
theorem exists_log (h : r.ReachedWith allowed) :
    ∃ log : List (Registration α), r.table = .ofLog log ∧ ∀ x ∈ log, allowed x.method := by
  induction h with
  | ofOptions options => exact ⟨[], rfl, by simp⟩
  | @route r methods _ hmethods template handler ih =>
    obtain ⟨log, hlog, hallowed⟩ := ih
    obtain hsame | ⟨pattern, hmore⟩ := r.table_route methods template handler
    · exact ⟨log, hsame.trans hlog, hallowed⟩
    · let more := methods.map fun m => (⟨pattern, m, r.hosts, handler⟩ : Registration α)
      refine ⟨log ++ more, ?_, fun x hx => ?_⟩
      · rw [hmore, hlog]
        exact (Table.registerAll_append {} log more).symm
      · rcases List.mem_append.1 hx with hx | hx
        · exact hallowed x hx
        · obtain ⟨m, hm, rfl⟩ := List.mem_map.1 hx
          exact hmethods m hm
  | setNotFound _ handler ih => exact ih
  | clearCache _ ih => exact ih
  | enter _ hs ih =>
    obtain ⟨-, rfl⟩ := eq_of_enter hs
    exact ih
  | leave _ s outer ih =>
    rw [table_leave]
    exact ih

end ReachedWith

end Router

/-! ## Targets called -/

namespace Dispatcher

variable (d : Dispatcher α) (act : Call α → Except String Unit) (r : Request)

/-- The targets whose handlers a dispatch calls, in their order. -/
def called : List (Target α) := (d.targets r).take (d.dispatch act r).calls.length

/-- The handlers called, other than the last resort, are those of the targets called. -/
theorem map_handler_called :
    (d.called act r).map Target.handler =
      ((d.dispatch act r).calls.filter (!·.isFallback)).map Call.handler := by
  have hhandlers := d.map_handler_calls_eq_targets r
  rw [filter_not_isFallback, called, List.map_take, ← hhandlers]
  split
  · next hempty =>
    rw [List.isEmpty_iff.1 hempty]
    simp
  · next hempty =>
    have hstart : (d.dispatch act r).calls <+: d.calls r := by
      rw [calls_dispatch_eq, perform_eq_take, laidOut, if_neg hempty]
      exact List.take_prefix ..
    rw [← List.map_take, ← List.prefix_iff_eq_take.1 hstart]

end Dispatcher

namespace Router

section Called

variable {r : Router α} {allowed : MethodToken → Prop} (h : r.ReachedWith allowed)
  {act : Call α → Except String Unit} {request : Request}

include h

/-- What a request reaches is due to registrations under such tokens. -/
theorem ReachedWith.exists_due (request : Request) :
    ∃ log : List (Registration α), (∀ x ∈ log, allowed x.method) ∧
      r.sealed.targets request =
        (Registration.due log (r.options.strip request.path) request.method request.host).map
          Registration.target := by
  obtain ⟨log, hlog, hallowed⟩ := h.exists_log
  refine ⟨log, hallowed, ?_⟩
  rw [Dispatcher.targets, sealed, hlog]
  exact (Table.mirrors_ofLog log).targets_eq ..

/-- A target called was registered under such a token, which accepts the method of the request. -/
theorem ReachedWith.of_mem_called {t : Target α} (ht : t ∈ r.sealed.called act request) :
    allowed t.method ∧ t.method.accepts request.method = true := by
  obtain ⟨log, hallowed, htargets⟩ := h.exists_due request
  have htarget := List.mem_of_mem_take ht
  rw [htargets] at htarget
  obtain ⟨x, hx, rfl⟩ := List.mem_map.1 htarget
  obtain ⟨hmem, -, haccepts⟩ := Registration.of_mem_due hx
  exact ⟨hallowed x hmem, (Bool.and_eq_true_iff.1 haccepts).1⟩

/-- No token of a pattern comes twice among the targets called. -/
theorem ReachedWith.nodup_called (source : String) :
    (((r.sealed.called act request).filter (·.source = source)).map Target.method).Nodup := by
  obtain ⟨log, -, htargets⟩ := h.exists_due request
  have hall : ((r.sealed.targets request).map fun t => (t.source, t.method)).Nodup := by
    rw [htargets]
    exact Registration.nodup_map_target_due ..
  have hsub : ((r.sealed.called act request).filter (·.source = source)).Sublist
      (r.sealed.targets request) := List.filter_sublist.trans (List.take_sublist ..)
  have hmine := hall.sublist (hsub.map fun t => (t.source, t.method))
  have hpairs : ((r.sealed.called act request).filter (·.source = source)).map
      (fun t => (t.source, t.method)) =
        (((r.sealed.called act request).filter (·.source = source)).map Target.method).map
          (source, ·) := by
    rw [List.map_map]
    refine List.map_congr_left fun t ht => ?_
    obtain rfl : t.source = source := by simpa using (List.mem_filter.1 ht).2
    rfl
  rw [hpairs] at hmine
  exact hmine.of_map

end Called

/-- How many handlers of a pattern a dispatch calls, whatever handlers do, if all registrations are
under tokens of texts, verbs or any method: at most two, one of any method and one of a verb, and
the verb is the method of the request without blanks at its ends, in capitals. For tokens of texts
are equal if they accept the same methods, and each is that of its own text. -/
theorem dispatch_one_verb (r : Router α) (hr : r.ReachedWith MethodToken.IsSpelled)
    (act : Call α → Except String Unit) (request : Request) :
    let called := r.sealed.called act request
    called.map Target.handler =
      ((r.dispatch act request).calls.filter (!·.isFallback)).map Call.handler ∧
    (∀ source,
      let methods := (called.filter (·.source = source)).map Target.method
      methods.length ≤ 2 ∧ (methods.filter MethodToken.isAny).length ≤ 1 ∧
        (methods.filter (!·.isAny)).length ≤ 1 ∧
        ∀ m ∈ methods, m = .any ∨ m = .verb (Text.upper (Text.trim request.method))) ∧
    (∀ s t, MethodToken.parse s = .parse t ↔
      ∀ method, (MethodToken.parse s).accepts method = (MethodToken.parse t).accepts method) ∧
    ∀ s, MethodToken.parse (MethodToken.parse s).display = .parse s := by
  intro called
  refine ⟨r.sealed.map_handler_called act request, fun source => ?_, MethodToken.parse_eq_iff,
    MethodToken.parse_display_parse⟩
  intro methods
  have hmethods : ∀ m ∈ methods,
      m = .any ∨ m = .verb (Text.upper (Text.trim request.method)) := by
    intro m hm
    obtain ⟨t, ht, rfl⟩ := List.mem_map.1 hm
    obtain ⟨hspelled, haccepts⟩ := hr.of_mem_called (List.mem_of_mem_filter ht)
    cases hmethod : t.method with
    | any => exact .inl rfl
    | verb name =>
      rw [hmethod] at hspelled haccepts
      rw [hspelled.eq_of_accepts haccepts]
      exact .inr rfl
  have hsub : methods.Subperm [.any, .verb (Text.upper (Text.trim request.method))] :=
    List.subperm_of_subset (hr.nodup_called source) fun m hm => List.mem_pair.2 (hmethods m hm)
  exact ⟨hsub.length_le, (hsub.filter MethodToken.isAny).length_le,
    (hsub.filter (!·.isAny)).length_le, hmethods⟩

/-- Three spellings of a verb. The second takes the place of the first, and the third, for the host
of the request, is called instead of that. -/
theorem dispatch_one_verb_three_spellings :
    let r₁ := ((ofOptions {} : Router Nat).route [.parse " get\t", .parse " * "] "/a[i:n]" 1).2
    let r₂ := (r₁.route [.ofVerb .get] "/a[i:n]" 2).2
    let r := (r₂.within (.host " H ") fun inner => inner.route [.parse "Get"] "/a[i:n]" 3).2
    let act : Call Nat → Except String Unit := fun _ => .ok ()
    let request : Request := ⟨"GET", "/a7.html", "h", .empty, {}⟩
    r.ReachedWith MethodToken.IsSpelled ∧
      (r.dispatch act request).calls.map Call.handler = [1, 3] ∧
      ∀ source, (((r.sealed.called act request).filter (·.source = source)).map
        Target.method).length ≤ 2 := by
  intro r₁ r₂ r act request
  have h₁ : r₁.ReachedWith MethodToken.IsSpelled :=
    .route (.ofOptions {}) (by simpa using ⟨.parse _, .parse _⟩) ..
  have h₂ : r₂.ReachedWith MethodToken.IsSpelled :=
    .route h₁ (by simpa using .ofVerb .get) ..
  have h : r.ReachedWith MethodToken.IsSpelled := h₂.within (.host " H ") fun inner hinner =>
    .route (.enter h₂ hinner) (by simpa using .parse _) ..
  obtain ⟨-, hcounts, -⟩ := dispatch_one_verb r h act request
  exact ⟨h, by decide +kernel, fun source => (hcounts source).1⟩

end Router

end Signpost
