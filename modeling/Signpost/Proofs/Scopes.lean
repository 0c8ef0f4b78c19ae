import Mathlib.Data.List.Basic
import Signpost.Proofs.Compiling
import Signpost.Router.Script

/-!
# Scopes open and close

What a scope opens is closed behind it, however its body ends. A program is read here as what it
makes of a router, so that its scopes are the scopes of what their bodies make.

## Main definitions

* `Scope.lead`, `Scope.hosts`, `Scope.isShut`: what a scope opens, and whether it is entered at all.
* `Router.Agrees`: two routers have the same settings and the same scopes open.
* `Script.call`: what a program makes of a router.
* `Script.pauses`: the routers at which a program pauses, for example for a request.

## Main statements

* `Router.eq_of_enter`, `Router.leave_eq`: the router within a scope, and the one behind it.
* `Script.call_step`, `Script.call_scope`: a program goes on behind a step or a scope unless that
  failed and the failure is not caught.
* `Script.agrees_call`: a program leaves the open scopes as they were.
* `Router.within_path_within_path`: a path within a path is the two paths in one.
-/

namespace Signpost

universe u

variable {α : Type u}

namespace Scope

/-- What a scope puts in front of the templates within it. -/
def lead : Scope → String
  | .path lead => lead
  | .host _ => ""

/-- The hosts that a scope adds to the handlers within it: none if the settings fix the host. -/
def hosts (fixed : Option String) : Scope → List String
  | .path _ => []
  | .host name => if fixed.isSome then [] else [Options.normalHost name]

/-- The scope is for a host other than the one that the settings fix. Neither the case of letters
nor blanks around the name count. -/
def isShut (fixed : Option String) : Scope → Bool
  | .path _ => false
  | .host name => fixed.any fun f => !Text.sameLetters f (Text.trim name)

end Scope

theorem Options.sameLetters_normalHost (fixed name : String) :
    Text.sameLetters fixed (normalHost name) = Text.sameLetters fixed (Text.trim name) := by
  simp [Text.sameLetters, normalHost]

namespace Router

variable {r inner after : Router α} {s : Scope}

theorem enter_eq (r : Router α) (s : Scope) :
    r.enter s = if s.isShut r.options.host then none
      else some { r with
        base := r.base ++ s.lead, hosts := r.hosts ++ s.hosts r.options.host } := by
  cases s with
  | path lead => simp [enter, Scope.isShut, Scope.lead, Scope.hosts]
  | host name =>
    cases hfixed : r.options.host with
    | none => simp [enter, Scope.isShut, Scope.lead, Scope.hosts, hfixed]
    | some fixed =>
      cases hsame : Text.sameLetters fixed (Text.trim name) <;>
        simp [enter, Scope.isShut, Scope.lead, Scope.hosts, hfixed, hsame,
          Options.sameLetters_normalHost]

/-- The router within a scope has one more scope open, and is else what it was. -/
theorem eq_of_enter (hs : r.enter s = some inner) :
    s.isShut r.options.host = false ∧
      inner = { r with base := r.base ++ s.lead, hosts := r.hosts ++ s.hosts r.options.host } := by
  rw [enter_eq] at hs
  split at hs
  · cases hs
  · next hopen => exact ⟨by simpa using hopen, (Option.some.inj hs).symm⟩

/-- A router with the settings of `r`, in which the same scopes are open. -/
structure Agrees (r after : Router α) : Prop where
  options : after.options = r.options
  catalog : after.compiler.catalog = r.compiler.catalog
  base : after.base = r.base
  hosts : after.hosts = r.hosts

namespace Agrees

theorem refl (r : Router α) : r.Agrees r := ⟨rfl, rfl, rfl, rfl⟩

theorem trans {r₁ r₂ r₃ : Router α} (h : r₁.Agrees r₂) (h' : r₂.Agrees r₃) : r₁.Agrees r₃ where
  options := h'.options.trans h.options
  catalog := h'.catalog.trans h.catalog
  base := h'.base.trans h.base
  hosts := h'.hosts.trans h.hosts

end Agrees

/-- Behind a scope whose body left open what it found open, that is open which was so before. -/
theorem leave_eq (hs : r.enter s = some inner) (h : inner.Agrees after) :
    after.leave s r = { after with base := r.base, hosts := r.hosts } := by
  obtain ⟨-, rfl⟩ := eq_of_enter hs
  have hbase : after.base = r.base ++ s.lead := h.base
  have hhosts : after.hosts = r.hosts ++ s.hosts r.options.host := h.hosts
  unfold leave
  split
  · rw [hbase, hhosts, Text.cut_append, List.take_left]
  · next hopens =>
    -- Only the fixed host opens nothing, so there was nothing to cut off.
    obtain ⟨name, rfl⟩ : ∃ name, s = .host name := by
      cases s with
      | path lead => exact absurd rfl hopens
      | host name => exact ⟨name, rfl⟩
    have hfixed : r.options.host.isSome = true := by
      simpa [opens, Option.isNone_iff_eq_none, Option.isSome_iff_ne_none] using hopens
    rw [Scope.lead, String.append_empty] at hbase
    rw [Scope.hosts, if_pos hfixed, List.append_nil] at hhosts
    rw [← hbase, ← hhosts]

/-- What a body makes of the routers that it is given it leaves with the same scopes open. -/
theorem agrees_within {body : Router α → Except RouterError Unit × Router α}
    (hbody : ∀ inner, r.enter s = some inner → inner.Agrees (body inner).2) :
    r.Agrees (r.within s body).2 := by
  unfold within
  split
  · exact .refl r
  · next inner hs =>
    have h := hbody inner hs
    rw [leave_eq hs h]
    obtain ⟨-, rfl⟩ := eq_of_enter hs
    exact ⟨h.options, h.catalog, rfl, rfl⟩

theorem within_of_enter (hs : r.enter s = some inner)
    (body : Router α → Except RouterError Unit × Router α) :
    r.within s body = ((body inner).1, (body inner).2.leave s r) := by
  rw [within, hs]

theorem within_of_isShut (h : s.isShut r.options.host = true)
    (body : Router α → Except RouterError Unit × Router α) : r.within s body = (.ok (), r) := by
  rw [within, enter_eq, if_pos h]

@[simp] theorem notFound_route (r : Router α) (methods : List MethodToken) (template : String)
    (handler : α) : (r.route methods template handler).2.notFound = r.notFound := by
  simp only [route]
  split <;> rfl

/-- A path within a path is the two paths in one, whatever the body does. -/
theorem within_path_within_path (r : Router α) (lead lead' : String)
    (body : Router α → Except RouterError Unit × Router α) :
    (r.within (.path lead) fun inner => inner.within (.path lead') body) =
      r.within (.path (lead ++ lead')) body := by
  have hle : r.base.utf8ByteSize ≤ (r.base ++ lead).utf8ByteSize := by
    rw [String.utf8ByteSize_append]
    exact Nat.le_add_right ..
  simp only [within, enter, leave, opens, if_true, String.append_assoc, Text.cut_cut hle,
    List.take_take, Nat.min_self]

end Router

/-- Goes on behind a part of a program, unless that ended it. -/
def proceed (caught : Bool) (x : Except RouterError Unit × Router α)
    (rest : Router α → Except RouterError Unit × Router α) : Except RouterError Unit × Router α :=
  if stops caught x.1 then x else rest x.2

@[simp] theorem stops_true (result : Except RouterError Unit) : stops true result = false := rfl

@[simp] theorem stops_ok (caught : Bool) (u : Unit) : stops caught (.ok u) = false := by
  cases caught <;> rfl

/-- A failure that is caught does not end the program. -/
theorem not_caught_of_stops {caught : Bool} {result : Except RouterError Unit}
    (h : stops caught result = true) : caught = false := by
  cases caught with
  | true => cases h
  | false => rfl

section Proceed

variable {caught : Bool} {x : Except RouterError Unit × Router α}

theorem proceed_of_stops (h : stops caught x.1 = true)
    (rest : Router α → Except RouterError Unit × Router α) : proceed caught x rest = x := if_pos h

theorem proceed_of_not_stops (h : stops caught x.1 = false)
    (rest : Router α → Except RouterError Unit × Router α) : proceed caught x rest = rest x.2 :=
  if_neg (by simp [h])

@[simp] theorem proceed_ok (caught : Bool) (u : Unit) (r : Router α)
    (rest : Router α → Except RouterError Unit × Router α) :
    proceed caught (.ok u, r) rest = rest r := proceed_of_not_stops (stops_ok caught u) rest

end Proceed

theorem Action.agrees_perform (a : Action α) (r : Router α) : r.Agrees (a.perform r).2 := by
  cases a with
  | route methods template handler =>
    simp only [perform, Router.route]
    split <;> exact ⟨rfl, r.compiler.catalog_compile _, rfl, rfl⟩
  | notFound handler => exact ⟨rfl, rfl, rfl, rfl⟩
  | clearCache => exact ⟨rfl, rfl, rfl, rfl⟩
  | fail method path => exact .refl r
  | pass => exact .refl r

namespace Script

/-- What a program makes of a router, with the failure that ended it. -/
def call (script : Script α) (r : Router α) : Except RouterError Unit × Router α :=
  ((script.run r).result, (script.run r).router)

@[simp] theorem call_done (r : Router α) : (done : Script α).call r = (.ok (), r) := rfl

theorem call_step (caught : Bool) (action : Action α) (rest : Script α) (r : Router α) :
    (step caught action rest).call r = proceed caught (action.perform r) rest.call := by
  simp only [call, run, proceed]
  split <;> rfl

theorem call_scope (caught : Bool) (s : Scope) (body rest : Script α) (r : Router α) :
    (scope caught s body rest).call r = proceed caught (r.within s body.call) rest.call := by
  cases hs : r.enter s with
  | none => simp [call, run, Router.within, hs]
  | some inner =>
    simp only [call, run, proceed, Router.within, hs]
    split <;> rfl

theorem agrees_proceed {caught : Bool} {r : Router α} {x : Except RouterError Unit × Router α}
    {rest : Router α → Except RouterError Unit × Router α} (h : r.Agrees x.2)
    (hrest : x.2.Agrees (rest x.2).2) : r.Agrees (proceed caught x rest).2 := by
  unfold proceed
  split
  · exact h
  · exact h.trans hrest

/-- A program leaves settings and open scopes as they were, whether it fails or not. -/
theorem agrees_call (script : Script α) (r : Router α) : r.Agrees (script.call r).2 := by
  induction script generalizing r with
  | done => exact .refl r
  | step caught action rest ih =>
    rw [call_step]
    exact agrees_proceed (action.agrees_perform r) (ih _)
  | scope caught s body rest ihbody ihrest =>
    rw [call_scope]
    exact agrees_proceed (Router.agrees_within fun inner _ => ihbody inner) (ihrest _)

/-- A program whose only step is a scope of a path within that of another goes on as one with the
two paths in one scope. -/
theorem call_path_path (caught : Bool) (lead lead' : String) (body rest : Script α)
    (r : Router α) :
    (scope caught (.path lead) (scope false (.path lead') body done) rest).call r =
      (scope caught (.path (lead ++ lead')) body rest).call r := by
  have hinner : (scope false (.path lead') body done).call =
      fun inner => inner.within (.path lead') body.call := by
    funext inner
    rw [call_scope]
    rcases hresult : inner.within (.path lead') body.call with ⟨e | u, after⟩
    · exact proceed_of_stops rfl _
    · exact proceed_ok ..
  rw [call_scope, call_scope, hinner, Router.within_path_within_path]

end Script

/-- The router after a step, if the step pauses. -/
def Action.pause : Action α → Router α → List (Router α)
  | .pass, r => [r]
  | _, _ => []

/-- The routers after the steps that pause, read off what the steps of a program led to. -/
def Log.pauses : Script α → Log α → List (Router α)
  | .step _ action rest, .step _ after later => action.pause after ++ pauses rest later
  | .scope _ _ _ rest, .skipped _ later => pauses rest later
  | .scope _ _ body rest, .scope _ _ within later => pauses body within ++ pauses rest later
  | _, _ => []

@[simp] theorem Log.pauses_done (script : Script α) : pauses script .done = [] := by
  cases script <;> rfl

namespace Script

/-- The routers at which a program pauses. A request that comes before the program has ended meets
one of them. -/
def pauses (script : Script α) (r : Router α) : List (Router α) := (script.run r).log.pauses script

@[simp] theorem pauses_done (r : Router α) : (done : Script α).pauses r = [] := rfl

theorem pauses_step (caught : Bool) (action : Action α) (rest : Script α) (r : Router α) :
    (step caught action rest).pauses r = action.pause (action.perform r).2 ++
      if stops caught (action.perform r).1 then [] else rest.pauses (action.perform r).2 := by
  cases hstops : stops caught (action.perform r).1 <;> simp [pauses, run, Log.pauses, hstops]

theorem pauses_scope (caught : Bool) (s : Scope) (body rest : Script α) (r : Router α) :
    (scope caught s body rest).pauses r = (r.enter s).elim [] body.pauses ++
      if stops caught (r.within s body.call).1 then []
      else rest.pauses (r.within s body.call).2 := by
  cases hs : r.enter s with
  | none => simp [pauses, run, hs, Router.within, Log.pauses]
  | some inner =>
    rw [Router.within_of_enter hs]
    cases hstops : stops caught (body.run inner).result <;>
      simp [pauses, run, hs, Log.pauses, hstops, call]

end Script

end Signpost
