import Signpost.Dispatch
import Signpost.Pattern.Compiler
import Signpost.Text.Start

/-!
# Routers

A router takes registrations of handlers and dispatches requests to them. Scopes put a path in
front of the templates registered within them, or restrict them to a host.

## Main definitions

* `Router`: the settings, the table, and the scopes that are open.
* `Router.route`: registers a handler.
* `Router.enter`, `Router.leave`: open a scope and close it.
* `Router.within`: registers what a body does within a scope.
* `Router.sealed`: the dispatcher of a router.
-/

namespace Signpost

universe u

/-- A router. -/
structure Router (α : Type u) where
  options : Options
  compiler : Compiler
  table : Table α := {}
  /-- What stands in front of the templates registered now. -/
  base : String := ""
  /-- The hosts that the handlers registered now are restricted to. -/
  hosts : List String := []
  /-- The handler for requests without a route. -/
  notFound : Option α := none

/-- A part of a registration with a rule of its own. -/
inductive Scope
  /-- Puts a path in front of the templates. -/
  | path (lead : String)
  /-- Restricts the handlers to a host. -/
  | host (name : String)
deriving DecidableEq, Repr

namespace Router

variable {α : Type u}

/-- The router without handlers. -/
def ofOptions (options : Options) : Router α :=
  { options, compiler := { catalog := options.catalog } }

instance : Inhabited (Router α) := ⟨ofOptions {}⟩

/-- The router without handlers, if the settings can be used. -/
def ofValid (options : Options) : Except RouterError (Router α) :=
  (options.validate.mapError .options).map fun _ => ofOptions options

/-- Registers a handler under some methods. -/
def bindAll (r : Router α) (pattern : Pattern) (methods : List MethodToken) (handler : α) :
    Table α :=
  methods.foldl (fun t method => (t.insert pattern method r.hosts handler).2) r.table

/-- Registers a handler for a template under some methods. Nothing is registered if the template,
with what stands in front of it, is refused. -/
def route (r : Router α) (methods : List MethodToken) (template : String) (handler : α) :
    Except RouterError Unit × Router α :=
  let (compiled, compiler) := r.compiler.compile (r.base ++ template)
  match compiled with
  | .error e => (.error (.template e), { r with compiler })
  | .ok c => (.ok (), { r with compiler, table := r.bindAll c.pattern methods handler })

/-- Sets the handler for requests without a route. -/
def setNotFound (r : Router α) (handler : α) : Router α := { r with notFound := some handler }

/-- Forgets the compiled patterns. -/
def clearCache (r : Router α) : Router α := { r with compiler := r.compiler.clear }

/-- The router within a scope. A host that is not the one fixed by the settings is never entered;
the fixed one adds no restriction. -/
def enter (r : Router α) : Scope → Option (Router α)
  | .path lead => some { r with base := r.base ++ lead }
  | .host name =>
    let host := Options.normalHost name
    match r.options.host with
    | some fixed => if Text.sameLetters fixed host then some r else none
    | none => some { r with hosts := r.hosts ++ [host] }

/-- Entering the scope opens something, which is to be closed behind it. The fixed host opens
nothing. -/
def opens (r : Router α) : Scope → Bool
  | .path _ => true
  | .host _ => r.options.host.isNone

/-- The router behind a scope that was entered from `outer`. What was opened since then is cut
off. -/
def leave (r : Router α) (scope : Scope) (outer : Router α) : Router α :=
  if outer.opens scope then
    { r with
      base := Text.cut r.base outer.base.utf8ByteSize
      hosts := r.hosts.take outer.hosts.length }
  else r

/-- Registers what a body does within a scope. The scope ends with the body, also if that fails; a
scope that is not entered does nothing. -/
def within (r : Router α) (scope : Scope)
    (body : Router α → Except RouterError Unit × Router α) : Except RouterError Unit × Router α :=
  match r.enter scope with
  | none => (.ok (), r)
  | some inner => ((body inner).1, (body inner).2.leave scope r)

/-- The dispatcher of the router, which takes no more registrations. -/
def sealed (r : Router α) : Dispatcher α := ⟨r.table, r.options, r.notFound⟩

/-- Dispatches a request to the handlers registered so far. -/
def dispatch (r : Router α) (act : Call α → Except String Unit) (request : Request) : Report α :=
  r.sealed.dispatch act request

end Router

end Signpost
