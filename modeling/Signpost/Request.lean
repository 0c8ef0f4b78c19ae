import Signpost.Method
import Signpost.Options
import Signpost.Query

/-!
# Requests

What a router looks at in a request.

## Main definitions

* `Request`: method, path, host, decoded query and flags.
* `Request.Part`: one piece of a request that a server hands over.
* `Request.ofParts`: the request made of such pieces.
-/

namespace Signpost

/-- Where a request comes from. -/
structure Request.Flags where
  /-- It was made on a command line. -/
  cli : Bool := false
  /-- It was made by a script in a page. -/
  ajax : Bool := false
deriving DecidableEq, Repr, Inhabited

/-- A request. -/
structure Request where
  /-- The method in capitals; empty for a command line. -/
  method : String
  /-- The URI up to its `?`. -/
  path : String
  /-- The host in small letters. -/
  host : String
  /-- The decoded parameters. -/
  query : Query
  /-- Where it comes from. -/
  flags : Request.Flags
deriving DecidableEq, Repr, Inhabited

namespace Request

/-- The flags as a number: 1 for the command line, 2 for a script. -/
def Flags.bits (flags : Flags) : Nat := flags.cli.toNat + 2 * flags.ajax.toNat

/-- The value of a parameter. -/
def queryValue (r : Request) (key : String) : Option String := r.query.get? key

/-- The value of a parameter, or another one if it is missing. -/
def queryOr (r : Request) (key default : String) : String := (r.queryValue key).getD default

/-- The request has this method. -/
def isMethod (r : Request) (v : Verb) : Bool := r.method == v.name

/-- A piece of a request. -/
inductive Part
  | method (value : String)
  | uri (value : String)
  /-- A query that stands in for that of the URI. -/
  | query (value : String)
  | host (value : String)
  /-- The name of the program library that made the request. -/
  | requestedWith (value : String)
deriving DecidableEq, Repr

/-- The pieces of a request that are known so far. -/
structure Draft where
  method : String := ""
  uri : String := ""
  query : Option String := none
  host : String := ""
  requestedWith : Option String := none
deriving DecidableEq, Repr, Inhabited

/-- The draft with one more piece, which replaces an earlier one of its kind. -/
def Draft.add (d : Draft) : Part → Draft
  | .method value => { d with method := Text.upper (Text.trim value) }
  | .uri value => { d with uri := value }
  | .query value => { d with query := some value }
  | .host value => { d with host := Options.normalHost value }
  | .requestedWith value => { d with requestedWith := some value }

/-- A parameter counts as set when it is neither empty nor `0`. -/
def isTruthy (value : String) : Bool := value != "" && value != "0"

/-- The request was made by a script: the library says so, or a parameter does. -/
def Draft.isAjax (d : Draft) (query : Query) (options : Options) : Bool :=
  (d.requestedWith.any fun value => Text.sameLetters (Text.trim value) "xmlhttprequest") ||
    (query.get? options.ajaxParamName).any isTruthy

/-- The request of a draft. -/
def Draft.finish (d : Draft) (options : Options) : Request :=
  let (path, uriQuery) := splitUri d.uri
  let query := ((d.query.or uriQuery).map parseQuery).getD .empty
  { method := d.method, path, host := d.host, query,
    flags := { ajax := d.isAjax query options } }

/-- The request made of pieces, the last of each kind. -/
def ofParts (parts : List Part) (options : Options) : Request :=
  (parts.foldl Draft.add {}).finish options

/-- The request with a method and a URI. -/
def ofUri (method uri : String) (options : Options) : Request :=
  ofParts [.method method, .uri uri] options

end Request

end Signpost
