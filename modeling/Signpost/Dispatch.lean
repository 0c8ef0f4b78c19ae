import Signpost.Request
import Signpost.Router.Error
import Signpost.Table

/-!
# Dispatch

Which handlers a request reaches, and with what. All patterns that match the path are visited in
the order of the table. Of the bindings of a pattern that accept the request, the newest one of
each method is called. The parameters of the patterns visited so far are shared, a later value
taking the place of an earlier one.

## Main definitions

* `Call`: a handler with what it is given.
* `Dispatcher`: a table with the settings and the handler for requests without a route.
* `Dispatcher.calls`: the calls that a request leads to if no handler fails.
* `Dispatcher.dispatch`: the calls that are made, and their outcome.
-/

namespace Signpost

universe u

/-- The values of the parameters of a path. -/
abbrev Params := Dict String

/-- What a handler can see of a dispatch. -/
structure Context where
  request : Request
  options : Options
  /-- The path that patterns are matched against: that of the request without the URL suffix. -/
  path : String
  /-- How many handlers were called before. -/
  invocation : Nat
deriving DecidableEq, Repr

/-- No handler was called before. -/
def Context.isFirst (c : Context) : Bool := c.invocation == 0

/-- A call of a handler. -/
structure Call (α : Type u) where
  handler : α
  /-- The parameters; missing if the request has no route. -/
  params : Option Params
  context : Context

/-- How many handlers a dispatch called. -/
structure Dispatched where
  matched : Nat
deriving DecidableEq, Repr

/-- A handler was called. -/
def Dispatched.isMatched (o : Dispatched) : Bool := 0 < o.matched

/-- The calls of a dispatch, and how it ended. -/
structure Report (α : Type u) where
  calls : List (Call α)
  result : Except RouterError Dispatched

/-- A table with the settings and, maybe, a handler for requests without a route. -/
structure Dispatcher (α : Type u) where
  table : Table α
  options : Options
  notFound : Option α

variable {α : Type u}

/-- A newer binding of the same method accepts the request, too. -/
def Binding.isShadowed (b : Binding α) (bindings : List (Binding α)) (method host : String) :
    Bool :=
  bindings.any fun o => o.method == b.method && decide (b.seq < o.seq) && o.accepts method host

/-- The bindings of a pattern that a request reaches. -/
def Entry.reached (e : Entry α) (method host : String) : List (Binding α) :=
  e.bindings.filter fun b => b.accepts method host && !b.isShadowed e.bindings method host

/-- The bindings that a request reaches, each with the parameters known by then. -/
def visits (path method host : String) (params : Params) :
    List (Entry α) → List (Binding α × Params)
  | [] => []
  | e :: es =>
    match e.pattern.captures path with
    | none => visits path method host params es
    | some captures =>
      let params := params.insertAll captures
      (e.reached method host).map (·, params) ++ visits path method host params es

/-- Makes the calls in turn up to the first that fails. The result is the calls made, and why the
last one failed if it did. -/
def perform (act : Call α → Except String Unit) : List (Call α) → List (Call α) × Option String
  | [] => ([], none)
  | c :: cs =>
    match act c with
    | .error cause => ([c], some cause)
    | .ok () => (c :: (perform act cs).1, (perform act cs).2)

namespace Dispatcher

/-- What the handler after `invocation` others can see. -/
def context (d : Dispatcher α) (r : Request) (invocation : Nat) : Context :=
  ⟨r, d.options, d.options.strip r.path, invocation⟩

/-- The calls that a request leads to if no handler fails. -/
def calls (d : Dispatcher α) (r : Request) : List (Call α) :=
  let found := visits (d.options.strip r.path) r.method r.host .empty d.table.entries
  found.zipIdx.map fun v => ⟨v.1.1.handler, some v.1.2, d.context r v.2⟩

/-- The call of the handler for requests without a route, if there is one. -/
def lastResort (d : Dispatcher α) (r : Request) : List (Call α) :=
  d.notFound.toList.map fun handler => ⟨handler, none, d.context r 0⟩

/-- Calls the handlers that a request reaches, or else the one for requests without a route. The
first failure ends the dispatch. -/
def dispatch (d : Dispatcher α) (act : Call α → Except String Unit) (r : Request) : Report α :=
  let path := d.options.strip r.path
  let planned := d.calls r
  let final := if planned.isEmpty then d.lastResort r else planned
  let (made, failure) := perform act final
  ⟨made, match failure with
    | some cause => .error (.handler r.method path cause)
    | none => if final.isEmpty then .error (.routeNotFound r.method path) else .ok ⟨planned.length⟩⟩

/-- The dispatcher as a text, without its handlers. -/
def describe (d : Dispatcher α) : String :=
  let o := d.options
  let types := o.matchTypes.entries.map fun e => Text.quoted e.1 ++ ": " ++ Text.quoted e.2
  let host := match o.host with
    | none => "None"
    | some host => "Some(" ++ Text.quoted host ++ ")"
  "RouterReadOnly \x7b patterns: " ++ toString d.table.size ++
    ", options: RouterOptions \x7b request_uri_source: " ++ Text.quoted o.requestUriSource ++
    ", url_suffix: " ++ Text.quoted o.urlSuffix ++
    ", ajax_param_name: " ++ Text.quoted o.ajaxParamName ++
    ", match_types: \x7b" ++ ", ".intercalate types ++ "\x7d, host: " ++ host ++
    " \x7d, has_not_found: " ++ toString d.notFound.isSome ++ " \x7d"

end Dispatcher

end Signpost
