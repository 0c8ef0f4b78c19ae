import Signpost.Proofs.Flattening

/-!
# Registrations that fail leave nothing behind

A registration that fails leaves the router as it was, kept patterns included. So a program whose
failure is caught does what it would do without the failing part; and if a body fails, its scope has
done what it would have done with the body cut in front of the failing step.

## Main definitions

* `Script.BreaksOff`: a program fails at a step, and what it is if cut in front of that.
* `Script.Pruned`: a program without some of the parts whose failures it catches.
* `Router.Reached`: the routers that programs reach, with the scopes that are open there.

## Main statements

* `Router.route_of_error`: a registration that fails changes nothing.
* `Script.BreaksOff.call`: up to its failing step a program does all that it does.
* `Script.Pruned.call_eq`: without what fails and is caught a program makes the same of a router.
-/

namespace Signpost

universe u

variable {α : Type u}

section Failing

variable {r : Router α} {e : RouterError}

/-- A registration that fails changes nothing. -/
theorem Router.route_of_error {methods : List MethodToken} {template : String} {handler : α}
    (h : (r.route methods template handler).1 = .error e) :
    (r.route methods template handler).2 = r := by
  unfold route at h ⊢
  cases hcompiled : (r.compiler.compile (r.base ++ template)).1 with
  | error fault => simp [hcompiled, Compiler.compile_of_error hcompiled]
  | ok compiled => simp [hcompiled] at h

theorem Action.perform_of_error {action : Action α} (h : (action.perform r).1 = .error e) :
    (action.perform r).2 = r := by
  cases action with
  | route methods template handler => exact Router.route_of_error h
  | fail method path => rfl
  | _ => cases h

theorem Action.pause_of_error {action : Action α} (h : (action.perform r).1 = .error e)
    (after : Router α) : action.pause after = [] := by
  cases action with
  | pass => cases h
  | _ => rfl

end Failing

namespace Script

/-- Where the failure of a program comes from. The program `before` is the program cut in front of
the step that fails. -/
inductive BreaksOff (e : RouterError) : Router α → Script α → Script α → Prop
  | here {r : Router α} {action : Action α} {rest : Script α}
      (h : (action.perform r).1 = .error e) : BreaksOff e r (step false action rest) done
  | step {r : Router α} {caught : Bool} {action : Action α} {rest before : Script α}
      (hstops : stops caught (action.perform r).1 = false)
      (h : BreaksOff e (action.perform r).2 rest before) :
      BreaksOff e r (step caught action rest) (step caught action before)
  | within {r inner : Router α} {s : Scope} {body before rest : Script α}
      (hs : r.enter s = some inner) (h : BreaksOff e inner body before) :
      BreaksOff e r (scope false s body rest) (scope false s before done)
  | behind {r : Router α} {caught : Bool} {s : Scope} {body rest before : Script α}
      (hstops : stops caught (r.within s body.call).1 = false)
      (h : BreaksOff e (r.within s body.call).2 rest before) :
      BreaksOff e r (scope caught s body rest) (scope caught s body before)

variable {e : RouterError} {r : Router α} {p q : Script α}

/-- A program that is cut in front of the step that fails ends well, and makes of the router what
the program makes of it. It pauses where the program does. -/
theorem BreaksOff.call (h : BreaksOff e r p q) :
    (p.call r).1 = .error e ∧ q.call r = (.ok (), (p.call r).2) ∧ q.pauses r = p.pauses r := by
  induction h with
  | @here r action rest h =>
    have hstops : stops false (action.perform r).1 = true := by rw [h]; rfl
    rw [call_step, proceed_of_stops hstops, pauses_step, if_pos hstops, Action.pause_of_error h]
    exact ⟨h, by rw [Action.perform_of_error h]; rfl, rfl⟩
  | @step r caught action rest before hstops _ ih =>
    rw [call_step, call_step, proceed_of_not_stops hstops, proceed_of_not_stops hstops, pauses_step,
      pauses_step, ih.2.2]
    exact ⟨ih.1, ih.2.1, rfl⟩
  | @within r inner s body before rest hs _ ih =>
    obtain ⟨herror, hbefore, hpauses⟩ := ih
    have hstops : stops false (r.within s body.call).1 = true := by
      rw [Router.within_of_enter hs, herror]
      rfl
    rw [call_scope, call_scope, proceed_of_stops hstops, pauses_scope, pauses_scope, if_pos hstops,
      Router.within_of_enter hs, Router.within_of_enter hs, hbefore, proceed_of_not_stops rfl, hs]
    exact ⟨herror, rfl, by simp [hpauses]⟩
  | @behind r caught s body rest before hstops _ ih =>
    rw [call_scope, call_scope, proceed_of_not_stops hstops, proceed_of_not_stops hstops,
      pauses_scope, pauses_scope, ih.2.2]
    exact ⟨ih.1, ih.2.1, rfl⟩

/-- A program that fails does so at one of its steps. -/
theorem exists_breaksOff (h : (p.call r).1 = .error e) : ∃ before, BreaksOff e r p before := by
  induction p generalizing r e with
  | done => cases h
  | step caught action rest ih =>
    rw [call_step] at h
    cases hstops : stops caught (action.perform r).1 with
    | true =>
      obtain rfl := not_caught_of_stops hstops
      rw [proceed_of_stops hstops] at h
      exact ⟨done, .here h⟩
    | false =>
      rw [proceed_of_not_stops hstops] at h
      obtain ⟨before, hbefore⟩ := ih h
      exact ⟨_, .step hstops hbefore⟩
  | scope caught s body rest ihbody ihrest =>
    rw [call_scope] at h
    cases hstops : stops caught (r.within s body.call).1 with
    | true =>
      obtain rfl := not_caught_of_stops hstops
      rw [proceed_of_stops hstops] at h
      cases hs : r.enter s with
      | none =>
        rw [Router.within, hs] at h
        cases h
      | some inner =>
        rw [Router.within_of_enter hs] at h
        obtain ⟨before, hbefore⟩ := ihbody h
        exact ⟨_, .within hs hbefore⟩
    | false =>
      rw [proceed_of_not_stops hstops] at h
      obtain ⟨before, hbefore⟩ := ihrest h
      exact ⟨_, .behind hstops hbefore⟩

/-- The second program is the first one without some of the parts that fail, the failure being
caught: a registration whose own failure is caught, or what the body of a scope has from the failing
step on, where the failure of the scope is caught. -/
inductive Pruned : Router α → Script α → Script α → Prop
  | same {r : Router α} {rest : Script α} : Pruned r rest rest
  | step {r : Router α} {caught : Bool} {action : Action α} {rest rest' : Script α}
      (h : Pruned (action.perform r).2 rest rest') :
      Pruned r (step caught action rest) (step caught action rest')
  | drop {r : Router α} {methods : List MethodToken} {template : String} {handler : α}
      {rest rest' : Script α} {e : RouterError}
      (he : (r.route methods template handler).1 = .error e)
      (h : Pruned (r.route methods template handler).2 rest rest') :
      Pruned r (step true (.route methods template handler) rest) rest'
  | skipped {r : Router α} {caught : Bool} {s : Scope} {body rest rest' : Script α}
      (hs : r.enter s = none) (h : Pruned r rest rest') :
      Pruned r (scope caught s body rest) (scope caught s body rest')
  | entered {r inner : Router α} {caught : Bool} {s : Scope} {body body' rest rest' : Script α}
      (hs : r.enter s = some inner) (hbody : Pruned inner body body')
      (h : Pruned (r.within s body.call).2 rest rest') :
      Pruned r (scope caught s body rest) (scope caught s body' rest')
  | cut {r inner : Router α} {s : Scope} {body before rest rest' : Script α} {e : RouterError}
      (hs : r.enter s = some inner) (hbody : BreaksOff e inner body before)
      (h : Pruned (r.within s body.call).2 rest rest') :
      Pruned r (scope true s body rest) (scope true s before rest')

/-- Without parts that fail and are caught a program ends alike and leaves the same router. It
pauses at the same routers, too. -/
theorem Pruned.call_eq (h : Pruned r p q) : q.call r = p.call r ∧ q.pauses r = p.pauses r := by
  induction h with
  | same => exact ⟨rfl, rfl⟩
  | step _ ih =>
    obtain ⟨hcall, hpauses⟩ := ih
    rw [call_step, call_step, pauses_step, pauses_step, proceed, proceed, hcall, hpauses]
    exact ⟨rfl, rfl⟩
  | @drop r methods template handler rest rest' e he _ ih =>
    have hsame : ((Action.route methods template handler).perform r).2 = r :=
      Router.route_of_error he
    rw [Router.route_of_error he] at ih
    rw [call_step, proceed_of_not_stops rfl, pauses_step, hsame]
    exact ih
  | @skipped r caught s body rest rest' hs _ ih =>
    have hwithin : r.within s body.call = (.ok (), r) := by rw [Router.within, hs]
    rw [call_scope, call_scope, pauses_scope, pauses_scope, hwithin, proceed_ok, proceed_ok, ih.1,
      ih.2]
    exact ⟨rfl, rfl⟩
  | @entered r inner caught s body body' rest rest' hs _ _ ihbody ihrest =>
    have hwithin : r.within s body'.call = r.within s body.call := by
      rw [Router.within_of_enter hs, Router.within_of_enter hs, ihbody.1]
    rw [call_scope, call_scope, pauses_scope, pauses_scope, hwithin, hs, proceed, proceed, ihrest.1,
      ihrest.2, Option.elim, Option.elim, ihbody.2]
    exact ⟨rfl, rfl⟩
  | @cut r inner s body before rest rest' e hs hbody _ ih =>
    obtain ⟨-, hbefore, hpauses⟩ := hbody.call
    have hwithin : (r.within s before.call).2 = (r.within s body.call).2 := by
      rw [Router.within_of_enter hs, Router.within_of_enter hs, hbefore]
    rw [call_scope, call_scope, pauses_scope, pauses_scope, proceed_of_not_stops rfl,
      proceed_of_not_stops rfl, hwithin, hs, ih.1, stops_true, stops_true, ih.2, Option.elim,
      Option.elim, hpauses]
    exact ⟨rfl, rfl⟩

end Script

/-- The routers that programs reach from a new one, with the scopes that are open there. -/
inductive Router.Reached (o : Options) : List Scope → Router α → Prop
  | new : Reached o [] (.ofOptions o)
  | call {scopes : List Scope} {r : Router α} (h : Reached o scopes r) (script : Script α) :
      Reached o scopes (script.call r).2
  | enter {scopes : List Scope} {r inner : Router α} {s : Scope} (h : Reached o scopes r)
      (hs : r.enter s = some inner) : Reached o (scopes ++ [s]) inner

theorem Router.Reached.standsIn {o : Options} {scopes : List Scope} {r : Router α}
    (h : r.Reached o scopes) : r.StandsIn o scopes := by
  induction h with
  | new => exact standsIn_ofOptions o
  | call _ script ih => exact ih.of_turns (script.turns_call ih)
  | enter _ hs ih => exact (ih.of_enter hs).1

/-- Registrations that fail are atomic. The router stays as it was, with its table, its open scopes
and its kept patterns. So a program does the same without them where the failure is caught, up to
each request between its steps and behind it. Where a failure ends the body of a scope, the scope
has registered what the body registers in front of the step that fails, and nothing else. -/
theorem Router.registrations_atomic :
    (∀ (r : Router α) (methods : List MethodToken) (template : String) (handler : α)
      (e : RouterError), (r.route methods template handler).1 = .error e →
        (r.route methods template handler).2 = r) ∧
    (∀ (r : Router α) (p q : Script α), Script.Pruned r p q →
      (q.run r).result = (p.run r).result ∧ (q.run r).router = (p.run r).router ∧
        q.pauses r = p.pauses r ∧
        ∀ (act : Call α → Except String Unit) (request : Request),
          (q.run r).router.dispatch act request = (p.run r).router.dispatch act request) ∧
    ∀ (o : Options) (scopes : List Scope) (r : Router α) (s : Scope) (body : Script α)
      (e : RouterError), r.Reached o scopes → (r.within s body.call).1 = .error e →
        ∃ inner before, r.enter s = some inner ∧ Script.BreaksOff e inner body before ∧
          r.within s before.call = (.ok (), (r.within s body.call).2) ∧
          (r.within s body.call).2.table =
            r.table.registerAll (before.effect o (scopes ++ [s])).log := by
  refine ⟨fun r methods template handler e he => route_of_error he, ?_, ?_⟩
  · intro r p q h
    obtain ⟨hcall, hpauses⟩ := h.call_eq
    obtain ⟨hresult, hrouter⟩ := Prod.mk.inj hcall
    exact ⟨hresult, hrouter, hpauses, fun act request => by rw [hrouter]⟩
  · intro o scopes r s body e hr he
    cases hs : r.enter s with
    | none =>
      rw [within, hs] at he
      cases he
    | some inner =>
      rw [within_of_enter hs] at he
      obtain ⟨before, hbefore⟩ := Script.exists_breaksOff he
      obtain ⟨-, hcall, -⟩ := hbefore.call
      -- So the scope does what it would do with the body cut, and that is known from its log.
      have hwithin : r.within s before.call = (.ok (), (r.within s body.call).2) := by
        rw [within_of_enter hs, within_of_enter hs, hcall]
      have hopen : s.isShut o.host = false := hr.standsIn.options ▸ (eq_of_enter hs).1
      have hturns := Effect.turns_within (s := s) hr.standsIn fun _ hinner =>
        before.turns_call hinner
      refine ⟨inner, before, rfl, hbefore, hwithin, ?_⟩
      rw [hopen, hwithin] at hturns
      exact hturns.table

end Signpost
