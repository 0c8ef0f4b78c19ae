import Signpost.Request

/-!
# Requests on a command line

The URI of a request is the value of the flag `-r` or of a long flag whose name is a setting.

## Main definitions

* `Request.ofArgs`: the request of a list of arguments.
-/

namespace Signpost

/-- The reason why arguments stand for no request. -/
inductive RequestError
  /-- No argument follows a flag that needs one. -/
  | missingValue (flag : String)
deriving DecidableEq, Repr

/-- The reason in words. -/
def RequestError.message : RequestError → String
  | .missingValue flag => "command-line flag '" ++ flag ++ "' requires a value"

namespace Request

/-- The short flag that carries the URI. -/
def shortFlag : String := "-r"

/-- The values of the two flags, each that of its last occurrence. -/
structure FlagValues where
  short : Option String := none
  long : Option String := none
deriving DecidableEq, Repr, Inhabited

/-- What follows `lead` in `arg`, if `arg` starts with it. -/
def attached? (lead arg : String) : Option String :=
  (lead.toList.isPrefixOf? arg.toList).map String.ofList

/-- Reads the arguments from left to right, up to `--`. A bare flag takes the next argument as its
value, whatever that is. -/
def readArgs (longFlag : String) (values : FlagValues) :
    List String → Except RequestError FlagValues
  | [] => .ok values
  | arg :: rest =>
    if arg = "--" then .ok values
    else if arg = shortFlag then
      match rest with
      | [] => .error (.missingValue shortFlag)
      | value :: rest => readArgs longFlag { values with short := some value } rest
    else match attached? shortFlag arg with
      | some value => readArgs longFlag { values with short := some value } rest
      | none =>
        if arg = longFlag then
          match rest with
          | [] => .error (.missingValue longFlag)
          | value :: rest => readArgs longFlag { values with long := some value } rest
        else match attached? (longFlag ++ "=") arg with
          | some value => readArgs longFlag { values with long := some value } rest
          | none => readArgs longFlag values rest

/-- The URI that the flags carry: the first of short and long that is not empty. -/
def FlagValues.uri (values : FlagValues) : String :=
  ((values.short.filter (· ≠ "")).or (values.long.filter (· ≠ ""))).getD ""

/-- The request of a command line; `args` leaves out the name of the program. -/
def ofArgs (args : List String) (options : Options) : Except RequestError Request :=
  (readArgs ("--" ++ options.requestUriSource) {} args).map fun values =>
    let (path, query) := splitUri values.uri
    { method := "", path, host := "", query := (query.map parseQuery).getD .empty,
      flags := { cli := true } }

end Request

end Signpost
