import Signpost.Router

/-!
# Scripts of registrations

A registration program as data: steps in turn, some of them scopes with a program of their own. A
step that fails ends its program, unless the failure is caught.

## Main definitions

* `Script`: the programs.
* `Script.run`: runs a program on a router.
* `Log`: what each step of a run led to.
-/

namespace Signpost

universe u

/-- A step that is no scope. -/
inductive Action (α : Type u)
  | route (methods : List MethodToken) (template : String) (handler : α)
  | notFound (handler : α)
  | clearCache
  /-- Gives up as if a request had no route. -/
  | fail (method path : String)
  /-- Does nothing. -/
  | pass
deriving Repr

/-- A registration program. -/
inductive Script (α : Type u)
  | done
  /-- One step and the steps after it; `caught` tells whether they follow a failure. -/
  | step (caught : Bool) (action : Action α) (rest : Script α)
  /-- A scope and the steps after it. -/
  | scope (caught : Bool) (scope : Scope) (body rest : Script α)
deriving Repr

/-- What the steps of a program led to, with the router after each of them. -/
inductive Log (α : Type u)
  | done
  | step (result : Except RouterError Unit) (after : Router α) (rest : Log α)
  /-- A scope that was not entered. -/
  | skipped (after : Router α) (rest : Log α)
  | scope (result : Except RouterError Unit) (after : Router α) (body rest : Log α)

/-- A run of a program. -/
structure Run (α : Type u) where
  /-- What the steps led to. -/
  log : Log α
  /-- The failure that ended the program, if one did. -/
  result : Except RouterError Unit
  /-- The router at the end. -/
  router : Router α

variable {α : Type u}

/-- Takes one step. -/
def Action.perform : Action α → Router α → Except RouterError Unit × Router α
  | .route methods template handler, r => r.route methods template handler
  | .notFound handler, r => (.ok (), r.setNotFound handler)
  | .clearCache, r => (.ok (), r.clearCache)
  | .fail method path, r => (.error (.routeNotFound method path), r)
  | .pass, r => (.ok (), r)

/-- A result that ends the program. -/
def stops (caught : Bool) (result : Except RouterError Unit) : Bool :=
  !caught && !result.isOk

/-- Runs a program on a router. -/
def Script.run : Script α → Router α → Run α
  | .done, r => ⟨.done, .ok (), r⟩
  | .step caught action rest, r =>
    let (result, after) := action.perform r
    if stops caught result then ⟨.step result after .done, result, after⟩
    else
      let later := rest.run after
      ⟨.step result after later.log, later.result, later.router⟩
  | .scope caught s body rest, r =>
    match r.enter s with
    | none =>
      let later := rest.run r
      ⟨.skipped r later.log, later.result, later.router⟩
    | some inner =>
      let within := body.run inner
      let after := within.router.leave s r
      if stops caught within.result then
        ⟨.scope within.result after within.log .done, within.result, after⟩
      else
        let later := rest.run after
        ⟨.scope within.result after within.log later.log, later.result, later.router⟩

end Signpost
