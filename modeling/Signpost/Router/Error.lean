import Signpost.Options
import Signpost.Request.CommandLine
import Signpost.Template.Fault

/-!
# Errors of a router

## Main definitions

* `RouterError`: the ways in which registration and dispatch fail.
-/

namespace Signpost

/-- The ways in which a router fails. -/
inductive RouterError
  /-- No handler accepts the request, and there is none for this case. -/
  | routeNotFound (method path : String)
  /-- A handler failed, for the reason `cause`. -/
  | handler (method path cause : String)
  /-- A template is refused. -/
  | template (error : Template.Error)
  /-- The arguments of a command line are no request. -/
  | request (error : RequestError)
  /-- The settings cannot be used. -/
  | options (error : OptionsError)
deriving DecidableEq, Repr

/-- The failure in words. -/
def RouterError.message : RouterError → String
  | .routeNotFound method path =>
    "no route matched for method '" ++ method ++ "' and path '" ++ path ++ "'"
  | .handler method path _ =>
    "handler failed for method '" ++ method ++ "' and path '" ++ path ++ "'"
  | .template error => error.message
  | .request error => error.message
  | .options error => error.message

end Signpost
