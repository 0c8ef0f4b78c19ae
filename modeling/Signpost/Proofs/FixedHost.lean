import Mathlib.Data.List.Nodup
import Mathlib.Data.List.Perm.Basic
import Signpost.Proofs.Dispatch
import Signpost.Proofs.Flattening

/-!
# A fixed host and the hosts of requests

Settings that fix the host decide at registration which handlers there are; settings that do not
leave it to each request. For requests to the fixed host both come to the same: what a request
reaches is settled by the newest registrations that are open to its host, and the fixed host drops
the others and forgets the hosts of the rest.

## Main definitions

* `Registration.newest?`: the last registration of a pattern text and a method that is open to a
  host.
* `Registration.settle`: the registrations that a fixed host leaves of a log.
* `Script.onlyRegisters`: no step of a program fails or sets the handler for requests without a
  route.

## Main statements

* `Registration.mem_due_iff`: a request reaches the newest registrations open to its host.
* `Registration.perm_due_settle`: a request to the host reaches the same in the settled log.
* `Script.log_effect_fixed`: with a fixed host a program registers the settled log.
* `Script.dispatch_fixed_host`: a request to the fixed host calls the same handlers either way.
-/

namespace Signpost

universe u

variable {α : Type u}

namespace Registration

/-- The last registration under a pattern text and a method that is open to a host. -/
def newest? (log : List (Registration α)) (s : String) (m : MethodToken) (host : String) :
    Option (Registration α) :=
  (log.filter fun r => r.source = s ∧ r.method = m ∧ r.hosts.all (· == host)).getLast?

/-- The registration without its hosts. -/
def unscoped (r : Registration α) : Registration α := { r with hosts := [] }

/-- What a fixed host leaves of a log: the registrations open to it, without their hosts. -/
def settle (host : String) (log : List (Registration α)) : List (Registration α) :=
  (log.filter fun r => r.hosts.all (· == host)).map unscoped

theorem settle_append (host : String) (log later : List (Registration α)) :
    settle host (log ++ later) = settle host log ++ settle host later := by
  simp [settle]

section Due

variable {log : List (Registration α)} {path method host s : String} {m : MethodToken}
  {r : Registration α}

theorem of_newest? (h : newest? log s m host = some r) :
    r ∈ log ∧ r.source = s ∧ r.method = m ∧ r.hosts.all (· == host) = true := by
  have hmem := List.mem_of_getLast? h
  rw [List.mem_filter, decide_eq_true_eq] at hmem
  exact hmem

/-- What answers for a slot is the newest of its method. -/
theorem newest?_of_answer? {σ : Slot} (h : answer? log method host s σ = some r) :
    newest? log r.source r.method host = some r := by
  obtain ⟨i, hlatest, ha, hover⟩ := answer?_eq_some_iff.1 h
  obtain ⟨⟨hget, -⟩, -⟩ := latest?_eq_some_iff.1 hlatest
  rw [newest?, ← map_fst_lastWith?, Option.map_eq_some_iff]
  refine ⟨(r, i), lastWith?_eq_some_iff.2 ⟨⟨hget, ?_⟩, fun j x hij hx => ?_⟩, rfl⟩
  · simpa using (Bool.and_eq_true_iff.1 ha).2
  · by_contra hopen
    obtain ⟨hs, hm, hhosts⟩ : x.source = r.source ∧ x.method = r.method ∧
        x.hosts.all (· == host) = true := by simpa using hopen
    rw [isOverridden_iff.2 ⟨j, x, hij, hx, hs, hm, hhosts⟩] at hover
    cases hover

/-- What answers for a slot is the newest of its method that is open to the host, if that fills the
slot. -/
theorem answer?_eq_some_iff_newest? {σ : Slot} :
    answer? log method host s σ = some r ↔
      r.slot = σ ∧ r.method.accepts method = true ∧ newest? log s σ.1 host = some r := by
  constructor
  · intro h
    obtain ⟨-, rfl, rfl, ha⟩ := of_answer? h
    exact ⟨rfl, (Bool.and_eq_true_iff.1 ha).1, newest?_of_answer? h⟩
  · rintro ⟨rfl, hmethod, hnewest⟩
    obtain ⟨hmem, rfl, -, hhosts⟩ := of_newest? hnewest
    obtain ⟨x, hxm, hx, -⟩ := exists_answer? hmem (Bool.and_eq_true_iff.2 ⟨hmethod, hhosts⟩)
    have hxnewest := newest?_of_answer? hx
    rw [(of_answer? hx).2.1, hxm] at hxnewest
    obtain rfl : x = r := Option.some.inj (hxnewest.symm.trans hnewest)
    exact hx

/-- A request reaches a registration exactly if that is for it and is the newest of its pattern text
and method among those open to the host. -/
theorem mem_due_iff :
    r ∈ due log path method host ↔
      r.pattern.isMatch path = true ∧ r.method.accepts method = true ∧
        newest? log r.source r.method host = some r := by
  constructor
  · intro h
    obtain ⟨-, hmatch, ha⟩ := of_mem_due h
    obtain ⟨s, -, hr⟩ := List.mem_flatMap.1 h
    obtain ⟨σ, -, hσ⟩ := List.mem_filterMap.1 hr
    exact ⟨hmatch, (Bool.and_eq_true_iff.1 ha).1, newest?_of_answer? hσ⟩
  · rintro ⟨hmatch, hmethod, hnewest⟩
    obtain ⟨hmem, -, -, -⟩ := of_newest? hnewest
    refine List.mem_flatMap.2 ⟨r.source, List.mem_filter.2 ⟨?_, ?_⟩,
      List.mem_filterMap.2 ⟨r.slot, ?_, ?_⟩⟩
    · exact mem_sources.2 ⟨r, hmem, rfl⟩
    · rwa [isMatch_source hmem]
    · exact mem_slots.2 ⟨r, hmem, rfl, rfl⟩
    · exact answer?_eq_some_iff_newest?.2 ⟨rfl, hmethod, hnewest⟩

/-- A request reaches each method of a pattern text at most once. -/
theorem nodup_due (log : List (Registration α)) (path method host : String) :
    ((due log path method host).map fun r => (r.source, r.method)).Nodup := by
  refine List.nodup_iff_count_le_one.2 fun ⟨s, m⟩ => ?_
  have hcount : ((due log path method host).map fun r => (r.source, r.method)).count (s, m) =
      ((due log path method host).filter fun r => r.source = s ∧ r.method = m).length := by
    rw [List.count, List.countP_map, List.countP_eq_length_filter]
    congr 1
    refine List.filter_congr fun r _ => ?_
    rw [Bool.eq_iff_iff]
    simp
  rw [hcount, length_due_filter]
  split <;> omega

theorem newest?_settle (log : List (Registration α)) (s : String) (m : MethodToken)
    (host : String) :
    newest? (settle host log) s m host = (newest? log s m host).map unscoped := by
  rw [newest?, newest?, settle, List.filter_map, List.filter_filter, List.getLast?_map]
  congr 2
  refine List.filter_congr fun r _ => ?_
  rw [Bool.eq_iff_iff]
  simp only [unscoped, source, Function.comp_apply, List.all_nil, Bool.and_eq_true,
    decide_eq_true_eq, and_true, and_assoc]
  exact decide_eq_true_iff.symm

/-- A request reaches the registrations of the settled log that come from those that it reaches in
the log itself. -/
theorem mem_due_settle_iff :
    r ∈ due (settle host log) path method host ↔
      ∃ x ∈ due log path method host, x.unscoped = r := by
  rw [mem_due_iff, newest?_settle]
  constructor
  · rintro ⟨hmatch, hmethod, hnewest⟩
    obtain ⟨x, hx, rfl⟩ := Option.map_eq_some_iff.1 hnewest
    obtain ⟨-, hs, hm, -⟩ := of_newest? hx
    rw [← hs, ← hm] at hx
    exact ⟨x, mem_due_iff.2 ⟨hmatch, hmethod, hx⟩, rfl⟩
  · rintro ⟨x, hx, rfl⟩
    obtain ⟨hmatch, hmethod, hnewest⟩ := mem_due_iff.1 hx
    exact ⟨hmatch, hmethod, Option.map_eq_some_iff.2 ⟨x, hnewest, rfl⟩⟩

end Due

theorem nodup_map_target_due (log : List (Registration α)) (path method host : String) :
    (((due log path method host).map target).map fun t => (t.source, t.method)).Nodup := by
  rw [List.map_map]
  exact nodup_due log path method host

/-- A request to the host reaches the same targets in the log and in the settled log, though maybe
in another order. -/
theorem perm_due_settle (log : List (Registration α)) (path method host : String) :
    ((due (settle host log) path method host).map target).Perm
      ((due log path method host).map target) := by
  refine (List.perm_ext_iff_of_nodup (nodup_map_target_due _ path method host).of_map
    (nodup_map_target_due _ path method host).of_map).2 fun t => ?_
  simp only [List.mem_map, mem_due_settle_iff]
  constructor
  · rintro ⟨-, ⟨x, hx, rfl⟩, rfl⟩
    exact ⟨x, hx, rfl⟩
  · rintro ⟨x, hx, rfl⟩
    exact ⟨x.unscoped, ⟨x, hx, rfl⟩, rfl⟩

end Registration

/-- The settings with a host that is fixed, or with none. -/
def Options.withHost (o : Options) (host : Option String) : Options := { o with host }

@[simp] theorem Options.host_withHost (o : Options) (host : Option String) :
    (o.withHost host).host = host := rfl

/-- The step is no failure and sets no handler for requests without a route. -/
def Action.onlyRegisters (catalog : Template.Catalog) (scopes : List Scope) : Action α → Bool
  | .route _ template _ => (Pattern.compile (Scope.leads scopes ++ template) catalog).isOk
  | .clearCache | .pass => true
  | .notFound _ | .fail _ _ => false

/-- All steps of the program are such steps, those within scopes included. -/
def Script.onlyRegisters (catalog : Template.Catalog) : Script α → List Scope → Bool
  | .done, _ => true
  | .step _ action rest, scopes =>
    action.onlyRegisters catalog scopes && rest.onlyRegisters catalog scopes
  | .scope _ s body rest, scopes =>
    body.onlyRegisters catalog (scopes ++ [s]) && rest.onlyRegisters catalog scopes

theorem Effect.andThen_of_ok {e : Effect α} (h : e.result = .ok ()) (caught : Bool)
    (later : Effect α) : e.andThen caught later = ⟨e.log ++ later.log, later.result⟩ := by
  simp [andThen, h]

section Effects

variable {o : Options} {scopes : List Scope}

theorem Action.result_effect {action : Action α}
    (h : action.onlyRegisters o.catalog scopes = true) :
    (action.effect o scopes).result = .ok () := by
  cases action with
  | route methods template handler =>
    rw [effect]
    rw [onlyRegisters] at h
    split
    · next e he => simp [he, Except.isOk, Except.toBool] at h
    · rfl
  | clearCache => rfl
  | pass => rfl
  | notFound handler => cases h
  | fail method path => cases h

theorem Script.result_effect {script : Script α}
    (h : script.onlyRegisters o.catalog scopes = true) :
    (script.effect o scopes).result = .ok () := by
  induction script generalizing scopes with
  | done => rfl
  | step caught action rest ih =>
    obtain ⟨haction, hrest⟩ := Bool.and_eq_true_iff.1 h
    rw [effect, Effect.andThen_of_ok (Action.result_effect haction)]
    exact ih hrest
  | scope caught s body rest ihbody ihrest =>
    obtain ⟨hbody, hrest⟩ := Bool.and_eq_true_iff.1 h
    have hinner : (if s.isShut o.host then Effect.none
        else body.effect o (scopes ++ [s])).result = .ok () := by
      split
      · rfl
      · exact ihbody hbody
    rw [effect, Effect.andThen_of_ok hinner]
    exact ihrest hrest

end Effects

theorem Router.notFound_within (r : Router α) {s : Scope}
    {body : Router α → Except RouterError Unit × Router α}
    (hbody : ∀ inner, (body inner).2.notFound = inner.notFound) :
    (r.within s body).2.notFound = r.notFound := by
  have hleave : ∀ after : Router α, (after.leave s r).notFound = after.notFound := by
    intro after
    unfold leave
    split <;> rfl
  unfold within
  split
  · rfl
  · next inner hs =>
    obtain ⟨-, rfl⟩ := eq_of_enter hs
    exact (hleave _).trans (hbody _)

/-- What a step registers within scopes of the host stays if the host is fixed. -/
theorem Action.log_effect_fixed {o : Options} {host : String} {scopes : List Scope}
    (action : Action α) (hscopes : (Scope.allHosts none scopes).all (· == host) = true) :
    (action.effect (o.withHost (some host)) scopes).log =
      Registration.settle host (action.effect (o.withHost none) scopes).log := by
  cases action with
  | route methods template handler =>
    have hnone : Scope.allHosts (some host) scopes = [] := Scope.allHosts_of_isSome rfl scopes
    simp only [effect, Options.catalog, Options.withHost, hnone]
    split
    · rfl
    · simp [Registration.settle, List.filter_map, Function.comp_def, hscopes,
        Registration.unscoped]
  | _ => rfl

/-- A fixed host shuts the scopes that add another host. -/
theorem Scope.isShut_normalHost (raw : String) (s : Scope) :
    s.isShut (some (Options.normalHost raw)) =
      !(s.hosts none).all (· == Options.normalHost raw) := by
  cases s with
  | path lead => rfl
  | host name =>
    simp [isShut, hosts, Text.sameLetters, Options.normalHost, Bool.beq_comm]

namespace Script

variable {o : Options} {raw : String}

/-- Nothing that a program registers within a scope of another host stays. -/
theorem settle_effect_of_other (script : Script α) {host : String} {scopes : List Scope}
    (hscopes : (Scope.allHosts o.host scopes).all (· == host) = false) :
    Registration.settle host (script.effect o scopes).log = [] := by
  rw [Registration.settle, List.map_eq_nil_iff, List.filter_eq_nil_iff]
  intro x hx
  obtain ⟨deeper, hdeeper⟩ := script.hosts_of_mem_effect hx
  rw [hdeeper, Scope.allHosts_append, List.all_append, hscopes]
  simp

/-- With a fixed host a program registers what the host leaves of the log without one. -/
theorem log_effect_fixed (script : Script α) {scopes : List Scope}
    (h : script.onlyRegisters o.catalog scopes = true)
    (hscopes : (Scope.allHosts none scopes).all (· == Options.normalHost raw) = true) :
    (script.effect (o.withHost (some (Options.normalHost raw))) scopes).log =
      Registration.settle (Options.normalHost raw)
        (script.effect (o.withHost none) scopes).log := by
  induction script generalizing scopes with
  | done => rfl
  | step caught action rest ih =>
    obtain ⟨haction, hrest⟩ := Bool.and_eq_true_iff.1 h
    have hfirst := Action.log_effect_fixed (o := o) action hscopes
    have hresult : ∀ host, (action.effect (o.withHost host) scopes).result = .ok () :=
      fun host => Action.result_effect haction
    rw [effect, effect, Effect.andThen_of_ok (hresult _), Effect.andThen_of_ok (hresult _),
      Registration.settle_append, hfirst, ih hrest hscopes]
  | scope caught s body rest ihbody ihrest =>
    obtain ⟨hbody, hrest⟩ := Bool.and_eq_true_iff.1 h
    have hopen : s.isShut none = false := by cases s <;> rfl
    have hresult : ∀ host, (body.effect (o.withHost host) (scopes ++ [s])).result = .ok () :=
      fun host => result_effect hbody
    have hshut := Scope.isShut_normalHost raw s
    rw [effect, effect, Options.host_withHost, Options.host_withHost, hopen,
      if_neg Bool.false_ne_true, Effect.andThen_of_ok (hresult none), Registration.settle_append,
      ← ihrest hrest hscopes]
    cases hall : (s.hosts none).all (· == Options.normalHost raw) with
    | true =>
      have hinner : (Scope.allHosts none (scopes ++ [s])).all (· == Options.normalHost raw) =
          true := by
        rw [Scope.allHosts_concat, List.all_append, hscopes, hall]
        rfl
      rw [hshut, hall, ← ihbody hbody hinner]
      simp only [Bool.not_true, Bool.false_eq_true, if_false]
      rw [Effect.andThen_of_ok (hresult _)]
    | false =>
      have hinner : (Scope.allHosts none (scopes ++ [s])).all (· == Options.normalHost raw) =
          false := by
        rw [Scope.allHosts_concat, List.all_append, hall, Bool.and_false]
      have hnone := body.settle_effect_of_other (o := o.withHost none) hinner
      rw [hshut, hall, hnone, Bool.not_false, if_pos rfl, Effect.andThen_of_ok rfl]
      rfl

theorem notFound_proceed {caught : Bool} {x : Except RouterError Unit × Router α}
    {rest : Router α → Except RouterError Unit × Router α}
    (hrest : (rest x.2).2.notFound = x.2.notFound) :
    (proceed caught x rest).2.notFound = x.2.notFound := by
  unfold proceed
  split
  · rfl
  · exact hrest

/-- A program without such a step keeps the handler for requests without a route. -/
theorem notFound_call {catalog : Template.Catalog} {scopes : List Scope} (script : Script α)
    (h : script.onlyRegisters catalog scopes = true) (r : Router α) :
    (script.call r).2.notFound = r.notFound := by
  induction script generalizing scopes r with
  | done => rfl
  | step caught action rest ih =>
    obtain ⟨haction, hrest⟩ := Bool.and_eq_true_iff.1 h
    rw [call_step, notFound_proceed (ih hrest _)]
    cases action with
    | route methods template handler => exact r.notFound_route ..
    | notFound handler => cases haction
    | _ => rfl
  | scope caught s body rest ihbody ihrest =>
    obtain ⟨hbody, hrest⟩ := Bool.and_eq_true_iff.1 h
    rw [call_scope, notFound_proceed (ihrest hrest _)]
    exact Router.notFound_within r fun inner => ihbody hbody inner

/-- The dispatcher that a program leaves has the table of the log that the program registers. -/
theorem table_sealed_run (script : Script α) (notFound : Option α) :
    (script.run { Router.ofOptions o with notFound }).router.sealed.table =
        .ofLog (script.effect o []).log ∧
      (script.run { Router.ofOptions o with notFound }).router.sealed.options = o := by
  have hstands : ({ Router.ofOptions o with notFound } : Router α).StandsIn o [] :=
    ⟨rfl, rfl, rfl, rfl, .empty _⟩
  have hturns := script.turns_call hstands
  exact ⟨hturns.table, hturns.agrees.options⟩

/-- If it registers only, nothing else of the dispatcher comes from the program. -/
theorem sealed_run (script : Script α) (h : script.onlyRegisters o.catalog [] = true)
    (notFound : Option α) :
    (script.run { Router.ofOptions o with notFound }).router.sealed =
      ⟨.ofLog (script.effect o []).log, o, notFound⟩ := by
  obtain ⟨htable, hoptions⟩ := script.table_sealed_run (o := o) notFound
  have hlast :
      (script.run { Router.ofOptions o with notFound }).router.sealed.notFound = notFound :=
    script.notFound_call h { Router.ofOptions o with notFound }
  generalize (script.run { Router.ofOptions o with notFound }).router.sealed = d
    at htable hoptions hlast ⊢
  obtain ⟨table, options, last⟩ := d
  dsimp only at htable hoptions hlast
  rw [htable, hoptions, hlast]

end Script

namespace Dispatcher

/-- The targets of a request, in the order in which their handlers are called. -/
def targets (d : Dispatcher α) (r : Request) : List (Target α) :=
  d.table.targets (d.options.strip r.path) r.method r.host

/-- The calls planned are those of the handlers of the targets. -/
theorem map_handler_calls_eq_targets (d : Dispatcher α) (r : Request) :
    (d.calls r).map Call.handler = (d.targets r).map Target.handler :=
  (d.map_handler_calls r).trans (d.table.map_handler_targets ..).symm

/-- If no handler fails, a dispatch calls the handlers of the targets, or else falls back on the one
for requests without a route. -/
theorem dispatch_targets {act : Call α → Except String Unit} (hact : ∀ c, act c = .ok ())
    (d : Dispatcher α) (r : Request) :
    (d.targets r ≠ [] →
      (d.dispatch act r).calls.map Call.handler = (d.targets r).map Target.handler ∧
        (d.dispatch act r).result = .ok ⟨(d.targets r).length⟩) ∧
    (d.targets r = [] →
      (d.dispatch act r).calls = d.lastResort r ∧
        (d.dispatch act r).result = if d.notFound.isSome then .ok ⟨0⟩
          else .error (.routeNotFound r.method (d.options.strip r.path))) := by
  have hcalls := d.map_handler_calls_eq_targets r
  have hlength : (d.calls r).length = (d.targets r).length := by
    rw [← List.length_map Call.handler, hcalls, List.length_map]
  have hempty : d.calls r = [] ↔ d.targets r = [] := by
    rw [← List.length_eq_zero_iff, hlength, List.length_eq_zero_iff]
  rw [calls_dispatch hact]
  constructor
  · intro htargets
    have hne : d.calls r ≠ [] := fun h => htargets (hempty.1 h)
    rw [if_neg (by simpa using hne)]
    exact ⟨hcalls, by simp [dispatch, perform_of_ok hact, hne, hlength]⟩
  · intro htargets
    have hnil : d.calls r = [] := hempty.2 htargets
    rw [if_pos (by simpa using hnil)]
    refine ⟨rfl, ?_⟩
    cases hlast : d.notFound <;>
      simp [dispatch, perform_of_ok hact, hnil, lastResort, hlast]

end Dispatcher

namespace Script

/-- What a request reaches behind a program is settled by the log that the program registers. -/
theorem targets_run {o : Options} (script : Script α)
    (h : script.onlyRegisters o.catalog [] = true) (notFound : Option α) (request : Request) :
    Dispatcher.targets (script.run { Router.ofOptions o with notFound }).router.sealed request =
      (Registration.due (script.effect o []).log (o.strip request.path) request.method
        request.host).map Registration.target := by
  rw [sealed_run script h, Dispatcher.targets]
  exact (Table.mirrors_ofLog _).targets_eq ..

/-- A host that the settings fix and one that each request brings come to the same. A program, all
of whose steps do no more than register, leaves two dispatchers that call the same handlers for a
request to that host, each once for its pattern text and method, and as many of them; and one falls
back on the handler for requests without a route exactly if the other does. -/
theorem dispatch_fixed_host (o : Options) (raw : String) (notFound : Option α) (script : Script α)
    (hscript : script.onlyRegisters o.catalog [] = true) (act : Call α → Except String Unit)
    (hact : ∀ c, act c = .ok ()) (request : Request)
    (hrequest : request.host = Options.normalHost raw) :
    let left (host : Option String) : Dispatcher α :=
      (script.run { Router.ofOptions (o.withHost host) with notFound }).router.sealed
    let fixed := left (some (Options.normalHost raw))
    let free := left none
    (∀ d ∈ [fixed, free],
      ((d.targets request).map fun t => (t.source, t.method)).Nodup ∧
      (d.targets request ≠ [] →
        (d.dispatch act request).calls.map Call.handler =
            (d.targets request).map Target.handler ∧
          (d.dispatch act request).result = .ok ⟨(d.targets request).length⟩) ∧
      (d.targets request = [] → (d.dispatch act request).calls = d.lastResort request)) ∧
    (fixed.targets request).Perm (free.targets request) ∧
    (fixed.targets request = [] ↔ free.targets request = []) ∧
    (fixed.dispatch act request).result = (free.dispatch act request).result := by
  intro left fixed free
  have htargets : ∀ host, (left host).targets request =
      (Registration.due (script.effect (o.withHost host) []).log (o.strip request.path)
        request.method request.host).map Registration.target := fun host =>
    targets_run (o := o.withHost host) script hscript notFound request
  have hperm : (fixed.targets request).Perm (free.targets request) := by
    rw [htargets, htargets, log_effect_fixed script hscript rfl, hrequest]
    exact Registration.perm_due_settle ..
  have hnil : fixed.targets request = [] ↔ free.targets request = [] := by
    rw [← List.length_eq_zero_iff, hperm.length_eq, List.length_eq_zero_iff]
  obtain ⟨hfixed, hfixednil⟩ := fixed.dispatch_targets hact request
  obtain ⟨hfree, hfreenil⟩ := free.dispatch_targets hact request
  refine ⟨fun d hd => ?_, hperm, hnil, ?_⟩
  · obtain ⟨host, rfl⟩ : ∃ host, d = left host := by
      rcases List.mem_pair.1 hd with rfl | rfl
      · exact ⟨_, rfl⟩
      · exact ⟨_, rfl⟩
    obtain ⟨hsome, hnone⟩ := (left host).dispatch_targets hact request
    refine ⟨?_, hsome, fun h => (hnone h).1⟩
    rw [htargets]
    exact Registration.nodup_map_target_due ..
  · by_cases h : fixed.targets request = []
    · have hlast : ∀ host, (left host).notFound = notFound ∧
          (left host).options = o.withHost host := fun host => by
        rw [show left host = _ from sealed_run (o := o.withHost host) script hscript notFound]
        exact ⟨rfl, rfl⟩
      rw [(hfixednil h).2, (hfreenil (hnil.1 h)).2, (hlast _).1, (hlast _).1, (hlast _).2,
        (hlast _).2]
      rfl
    · rw [(hfixed h).2, (hfree fun hempty => h (hnil.2 hempty)).2, hperm.length_eq]

/-- With the host fixed, the handler for it takes the place of the first one. Otherwise it stands
behind those for any host, so that the same two handlers are called in the other order. -/
theorem dispatch_fixed_host_nested :
    let script : Script Nat :=
      .step false (.route [.verb "GET", .any] "/a[i:n]" 1) <|
      .scope false (.host "SHOP.example")
        (.step false (.route [.verb "GET"] "/a[i:n]" 2) <|
          .scope false (.host " shop.EXAMPLE ")
            (.scope false (.path "/a") (.step false (.route [.verb "GET"] "[i:n]" 3) .done) .done)
          .done) <|
      .scope false (.host "other") (.step false (.route [.any] "/a[i:n]" 4) .done) .done
    let request : Request := ⟨"GET", "/a7.html", "shop.example", .empty, {}⟩
    let act : Call Nat → Except String Unit := fun _ => .ok ()
    let empty (host : Option String) : Router Nat := .ofOptions (Options.withHost {} host)
    let left (host : Option String) : Dispatcher Nat :=
      (script.run { empty host with notFound := some 5 }).router.sealed
    let fixed := left (some (Options.normalHost " Shop.Example"))
    let free := left none
    script.onlyRegisters (Options.catalog {}) [] = true ∧ (∀ c, act c = .ok ()) ∧
      request.host = Options.normalHost " Shop.Example" ∧
      (fixed.dispatch act request).calls.map Call.handler = [3, 1] ∧
      (free.dispatch act request).calls.map Call.handler = [1, 3] ∧
      (fixed.targets request).Perm (free.targets request) ∧
      (fixed.dispatch act request).result = (free.dispatch act request).result := by
  intro script request act empty left fixed free
  have hscript : script.onlyRegisters (Options.catalog {}) [] = true := by decide +kernel
  have hact : ∀ c, act c = .ok () := fun _ => rfl
  have hrequest : request.host = Options.normalHost " Shop.Example" := by decide +kernel
  have hfixed : (fixed.targets request).map Target.handler = [3, 1] := by decide +kernel
  have hfree : (free.targets request).map Target.handler = [1, 3] := by decide +kernel
  have hne : ∀ {d : Dispatcher Nat} {n : Nat} {ns : List Nat},
      (d.targets request).map Target.handler = n :: ns → d.targets request ≠ [] :=
    fun h hnil => by rw [hnil] at h; cases h
  obtain ⟨hcalls, hperm, -, hresult⟩ :=
    dispatch_fixed_host {} " Shop.Example" (some 5) script hscript act hact request hrequest
  obtain ⟨-, hfixedcalls, -⟩ := hcalls fixed List.mem_cons_self
  obtain ⟨-, hfreecalls, -⟩ := hcalls free (List.mem_cons_of_mem _ List.mem_cons_self)
  exact ⟨hscript, hact, hrequest, (hfixedcalls (hne hfixed)).1.trans hfixed,
    (hfreecalls (hne hfree)).1.trans hfree, hperm, hresult⟩

end Script

end Signpost
