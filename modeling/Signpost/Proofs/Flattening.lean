import Signpost.Proofs.Mirror
import Signpost.Proofs.Scopes

/-!
# Flat logs of nested programs

A nested program registers what a flat log says. The log is read off the program by handing the
scopes down to each step; no router is needed for it, and nothing is opened or closed.

## Main definitions

* `Scope.leads`, `Scope.allHosts`: what stands in front of the templates within some scopes, and the
  hosts of the handlers there.
* `Effect`: the registrations that a program carries out, and how it ends.
* `Action.effect`, `Script.effect`: the effect of a step and of a program.
* `Router.StandsIn`: the router has some scopes open.

## Main statements

* `Script.turns_call`: a program turns a router as its effect says.
* `Script.run_flattens`: the table of a program is that of its flat log, and its scopes are closed
  behind it.
-/

namespace Signpost

universe u

variable {α : Type u}

namespace Scope

/-- What stands in front of the templates within some scopes, the outermost first. -/
def leads (scopes : List Scope) : String := String.join (scopes.map lead)

/-- The hosts of the handlers within some scopes, the outermost first. -/
def allHosts (fixed : Option String) (scopes : List Scope) : List String :=
  scopes.flatMap (hosts fixed)

theorem leads_concat (scopes : List Scope) (s : Scope) :
    leads (scopes ++ [s]) = leads scopes ++ s.lead := by
  rw [← String.toList_inj]
  simp [leads]

theorem allHosts_append (fixed : Option String) (scopes deeper : List Scope) :
    allHosts fixed (scopes ++ deeper) = allHosts fixed scopes ++ allHosts fixed deeper :=
  List.flatMap_append

theorem allHosts_concat (fixed : Option String) (scopes : List Scope) (s : Scope) :
    allHosts fixed (scopes ++ [s]) = allHosts fixed scopes ++ s.hosts fixed := by
  rw [allHosts_append]
  simp [allHosts]

/-- If the settings fix the host, no scope adds one. -/
theorem allHosts_of_isSome {fixed : Option String} (h : fixed.isSome = true)
    (scopes : List Scope) : allHosts fixed scopes = [] := by
  refine List.flatMap_eq_nil_iff.2 fun s _ => ?_
  cases s with
  | path lead => rfl
  | host name => exact if_pos h

end Scope

/-- The registrations that a program carries out, and the failure that ends it. -/
structure Effect (α : Type u) where
  log : List (Registration α)
  result : Except RouterError Unit

namespace Effect

/-- Nothing is registered, and nothing fails. -/
def none : Effect α := ⟨[], .ok ()⟩

/-- The effect of two parts in turn. -/
def andThen (caught : Bool) (e later : Effect α) : Effect α :=
  if stops caught e.result then e else ⟨e.log ++ later.log, later.result⟩

theorem mem_log_andThen {caught : Bool} {e later : Effect α} {x : Registration α}
    (hx : x ∈ (e.andThen caught later).log) : x ∈ e.log ∨ x ∈ later.log := by
  unfold andThen at hx
  split at hx
  · exact .inl hx
  · exact List.mem_append.1 hx

end Effect

/-- The effect of a step within some scopes. One registration is made for each method, in their
order. -/
def Action.effect (options : Options) (scopes : List Scope) : Action α → Effect α
  | .route methods template handler =>
    match Pattern.compile (Scope.leads scopes ++ template) options.catalog with
    | .error e => ⟨[], .error (.template e)⟩
    | .ok pattern =>
      ⟨methods.map (⟨pattern, ·, Scope.allHosts options.host scopes, handler⟩), .ok ()⟩
  | .fail method path => ⟨[], .error (.routeNotFound method path)⟩
  | .notFound _ | .clearCache | .pass => .none

/-- The effect of a program within some scopes. -/
def Script.effect (options : Options) : Script α → List Scope → Effect α
  | .done, _ => .none
  | .step caught action rest, scopes =>
    (action.effect options scopes).andThen caught (rest.effect options scopes)
  | .scope caught s body rest, scopes =>
    let inner := if s.isShut options.host then .none else body.effect options (scopes ++ [s])
    inner.andThen caught (rest.effect options scopes)

/-- The table after some registrations in turn. -/
def Table.registerAll (t : Table α) (log : List (Registration α)) : Table α :=
  log.foldl (fun t r => (t.register r).2) t

theorem Table.registerAll_append (t : Table α) (log later : List (Registration α)) :
    t.registerAll (log ++ later) = (t.registerAll log).registerAll later := List.foldl_append

theorem Router.bindAll_eq (r : Router α) (pattern : Pattern) (methods : List MethodToken)
    (handler : α) : r.bindAll pattern methods handler =
      r.table.registerAll (methods.map (⟨pattern, ·, r.hosts, handler⟩)) := by
  rw [bindAll, Table.registerAll, List.foldl_map]
  rfl

/-- The router has these settings and these scopes open, and its compiler is in order. -/
structure Router.StandsIn (r : Router α) (o : Options) (scopes : List Scope) : Prop where
  options : r.options = o
  catalog : r.compiler.catalog = o.catalog
  base : r.base = Scope.leads scopes
  hosts : r.hosts = Scope.allHosts o.host scopes
  coherent : r.compiler.IsCoherent

/-- The effect turns the router `r` into that of `x`, with its result. -/
structure Effect.Turns (e : Effect α) (r : Router α) (x : Except RouterError Unit × Router α) :
    Prop where
  result : x.1 = e.result
  table : x.2.table = r.table.registerAll e.log
  agrees : r.Agrees x.2
  coherent : x.2.compiler.IsCoherent

section Turns

variable {options : Options} {scopes : List Scope} {r : Router α} {s : Scope}

theorem Router.standsIn_ofOptions (options : Options) :
    (Router.ofOptions options : Router α).StandsIn options [] :=
  ⟨rfl, rfl, rfl, rfl, .empty _⟩

theorem Router.StandsIn.of_turns {e : Effect α} {x : Except RouterError Unit × Router α}
    (h : r.StandsIn options scopes) (hx : e.Turns r x) : x.2.StandsIn options scopes where
  options := hx.agrees.options.trans h.options
  catalog := hx.agrees.catalog.trans h.catalog
  base := hx.agrees.base.trans h.base
  hosts := hx.agrees.hosts.trans h.hosts
  coherent := hx.coherent

theorem Router.StandsIn.of_enter {inner : Router α} (h : r.StandsIn options scopes)
    (hs : r.enter s = some inner) :
    inner.StandsIn options (scopes ++ [s]) ∧ inner.table = r.table := by
  obtain ⟨-, rfl⟩ := Router.eq_of_enter hs
  refine ⟨⟨h.options, h.catalog, ?_, ?_, h.coherent⟩, rfl⟩
  · rw [Scope.leads_concat, h.base]
  · rw [Scope.allHosts_concat, h.hosts, h.options]

theorem Router.StandsIn.agrees {r' : Router α} (h : r.StandsIn options scopes)
    (h' : r'.StandsIn options scopes) : r.Agrees r' where
  options := h'.options.trans h.options.symm
  catalog := h'.catalog.trans h.catalog.symm
  base := h'.base.trans h.base.symm
  hosts := h'.hosts.trans h.hosts.symm

theorem Router.StandsIn.leave {inner after : Router α} (h : r.StandsIn options scopes)
    (hs : r.enter s = some inner) (hafter : after.StandsIn options (scopes ++ [s])) :
    (after.leave s r).StandsIn options scopes := by
  rw [Router.leave_eq hs ((h.of_enter hs).1.agrees hafter)]
  exact ⟨hafter.options, hafter.catalog, h.base, h.hosts, hafter.coherent⟩

theorem Effect.turns_none {result : Except RouterError Unit} {after : Router α}
    (hr : r.Agrees after) (htable : after.table = r.table)
    (hcoherent : after.compiler.IsCoherent) :
    Turns ⟨[], result⟩ r (result, after) := ⟨rfl, htable, hr, hcoherent⟩

theorem Effect.Turns.proceed {e later : Effect α} {caught : Bool}
    {x : Except RouterError Unit × Router α}
    {rest : Router α → Except RouterError Unit × Router α} (h : e.Turns r x)
    (hrest : later.Turns x.2 (rest x.2)) :
    (e.andThen caught later).Turns r (proceed caught x rest) := by
  unfold Effect.andThen Signpost.proceed
  rw [h.result]
  split
  · exact h
  · refine ⟨hrest.result, ?_, h.agrees.trans hrest.agrees, hrest.coherent⟩
    rw [hrest.table, h.table, Table.registerAll_append]

theorem Action.turns_perform (h : r.StandsIn options scopes) (a : Action α) :
    (a.effect options scopes).Turns r (a.perform r) := by
  have hagrees := a.agrees_perform r
  cases a with
  | route methods template handler =>
    -- Kept or not, the pattern is that of the template with everything in front of it.
    have hpattern := h.coherent.map_pattern_compile (r.base ++ template)
    have hcoherent := h.coherent.compile (r.base ++ template)
    rw [h.base, h.catalog] at hpattern
    rw [perform, Router.route, h.base] at hagrees ⊢
    rw [h.base] at hcoherent
    rw [effect, ← hpattern]
    cases hcompile : (r.compiler.compile (Scope.leads scopes ++ template)).1 with
    | error e =>
      simp only [hcompile] at hagrees ⊢
      exact Effect.turns_none hagrees rfl hcoherent
    | ok compiled =>
      simp only [hcompile] at hagrees ⊢
      refine ⟨rfl, ?_, hagrees, hcoherent⟩
      rw [← h.hosts]
      exact r.bindAll_eq compiled.pattern methods handler
  | notFound handler => exact Effect.turns_none hagrees rfl h.coherent
  | clearCache => exact Effect.turns_none hagrees rfl .clear
  | fail method path => exact Effect.turns_none hagrees rfl h.coherent
  | pass => exact Effect.turns_none hagrees rfl h.coherent

/-- A scope turns a router as its body does, if it is entered. -/
theorem Effect.turns_within (h : r.StandsIn options scopes) {e : Effect α}
    {body : Router α → Except RouterError Unit × Router α}
    (hbody : ∀ inner, inner.StandsIn options (scopes ++ [s]) → e.Turns inner (body inner)) :
    (if s.isShut options.host then none else e).Turns r (r.within s body) := by
  have hagrees : r.Agrees (r.within s body).2 :=
    Router.agrees_within fun inner hs => (hbody inner (h.of_enter hs).1).agrees
  split
  · next hshut =>
    rw [Router.within_of_isShut (h.options ▸ hshut)]
    exact turns_none (.refl r) rfl h.coherent
  · next hopen =>
    obtain ⟨inner, hs⟩ : ∃ inner, r.enter s = some inner := by
      rw [Router.enter_eq, h.options, if_neg hopen]
      exact ⟨_, rfl⟩
    obtain ⟨hinner, htable⟩ := h.of_enter hs
    have hturns := hbody inner hinner
    rw [Router.within_of_enter hs] at hagrees ⊢
    rw [Router.leave_eq hs hturns.agrees] at hagrees ⊢
    exact ⟨hturns.result, htable ▸ hturns.table, hagrees, hturns.coherent⟩

/-- A program turns a router as its effect within the open scopes says. -/
theorem Script.turns_call (script : Script α) (h : r.StandsIn options scopes) :
    (script.effect options scopes).Turns r (script.call r) := by
  induction script generalizing r scopes with
  | done => exact Effect.turns_none (.refl r) rfl h.coherent
  | step caught action rest ih =>
    rw [call_step]
    have hfirst := Action.turns_perform h action
    exact hfirst.proceed (ih (h.of_turns hfirst))
  | scope caught s body rest ihbody ihrest =>
    rw [call_scope]
    have hfirst := Effect.turns_within (s := s) h fun inner hinner => ihbody hinner
    exact hfirst.proceed (ihrest (h.of_turns hfirst))

end Turns

/-- The handlers of an effect are restricted to the hosts of their scopes: those the effect is taken
within, and some within these. -/
theorem Script.hosts_of_mem_effect {options : Options} (script : Script α) {scopes : List Scope}
    {x : Registration α} (hx : x ∈ (script.effect options scopes).log) :
    ∃ deeper, x.hosts = Scope.allHosts options.host (scopes ++ deeper) := by
  induction script generalizing scopes with
  | done => cases hx
  | step caught action rest ih =>
    obtain hx | hx := Effect.mem_log_andThen hx
    · cases action with
      | route methods template handler =>
        rw [Action.effect] at hx
        split at hx
        · cases hx
        · obtain ⟨method, -, rfl⟩ := List.mem_map.1 hx
          exact ⟨[], by rw [List.append_nil]⟩
      | _ => cases hx
    · exact ih hx
  | scope caught s body rest ihbody ihrest =>
    obtain hx | hx := Effect.mem_log_andThen hx
    · split at hx
      · cases hx
      · obtain ⟨deeper, hdeeper⟩ := ihbody hx
        exact ⟨s :: deeper, by rw [hdeeper, List.append_assoc]; rfl⟩
    · exact ihrest hx

/-- A scope is passed over exactly if it is for another host than the fixed one. -/
theorem Script.log_scope_eq_skipped_iff (r : Router α) (caught : Bool) (s : Scope)
    (body rest : Script α) :
    (∃ later, ((Script.scope caught s body rest).run r).log = .skipped r later) ↔
      s.isShut r.options.host = true := by
  have henter := Router.enter_eq r s
  constructor
  · rintro ⟨later, hlog⟩
    by_contra hopen
    rw [if_neg hopen] at henter
    simp only [run, henter] at hlog
    split at hlog <;> cases hlog
  · intro hshut
    rw [if_pos hshut] at henter
    simp only [run, henter]
    exact ⟨_, rfl⟩

/-- Nested scopes are flat. The table that a program leaves is that of its flat log, and the program
ends as its effect says. If the settings fix the host, no handler is restricted to one, and the
scopes of other hosts are those that are passed over. Behind a scope that is open which was open in
front of it, however its body ended; and a path within a path is the two paths in one. -/
theorem Script.run_flattens (options : Options) (script : Script α) :
    ((script.run (.ofOptions options)).router.table = .ofLog (script.effect options []).log ∧
      (script.run (.ofOptions options)).result = (script.effect options []).result) ∧
    (options.host.isSome = true → ∀ x ∈ (script.effect options []).log, x.hosts = []) ∧
    (∀ (r : Router α) (caught : Bool) (s : Scope) (body rest : Script α),
      (∃ later, ((Script.scope caught s body rest).run r).log = .skipped r later) ↔
        s.isShut r.options.host = true) ∧
    (∀ (r : Router α) (s : Scope) (body : Script α),
      (r.within s body.call).2.base = r.base ∧ (r.within s body.call).2.hosts = r.hosts ∧
        (body.run r).router.base = r.base ∧ (body.run r).router.hosts = r.hosts) ∧
    (∀ (r : Router α) (lead lead' : String) (body : Router α → Except RouterError Unit × Router α),
      (r.within (.path lead) fun inner => inner.within (.path lead') body) =
        r.within (.path (lead ++ lead')) body) ∧
    ∀ (r : Router α) (caught : Bool) (lead lead' : String) (body rest : Script α),
      (scope caught (.path lead) (scope false (.path lead') body done) rest).call r =
        (scope caught (.path (lead ++ lead')) body rest).call r := by
  refine ⟨?_, fun hfixed x hx => ?_, log_scope_eq_skipped_iff, fun r s body => ?_,
    Router.within_path_within_path, fun r caught lead lead' body rest =>
      call_path_path caught lead lead' body rest r⟩
  · have hturns := script.turns_call (Router.standsIn_ofOptions options)
    exact ⟨hturns.table, hturns.result⟩
  · obtain ⟨deeper, hdeeper⟩ := script.hosts_of_mem_effect hx
    rw [hdeeper, Scope.allHosts_of_isSome hfixed]
  · have hwithin : r.Agrees (r.within s body.call).2 :=
      Router.agrees_within fun inner _ => body.agrees_call inner
    have hbody := body.agrees_call r
    exact ⟨hwithin.base, hwithin.hosts, hbody.base, hbody.hosts⟩

end Signpost
