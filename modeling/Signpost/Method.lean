import Signpost.Text.Blank
import Signpost.Text.Letter

/-!
# Methods

The methods of requests, and the tokens under which handlers are bound.

## Main definitions

* `Verb`: the usual methods.
* `MethodToken`: a method to bind under, or any method.
* `MethodToken.parse`: the token that a text stands for.
* `MethodToken.accepts`: whether a request's method is one of the token's.
-/

namespace Signpost

/-- A usual method of requests. -/
inductive Verb
  | get | post | put | delete | patch | head | options
deriving DecidableEq, Repr

namespace Verb

/-- The verbs in their order. -/
def all : List Verb := [.get, .post, .put, .delete, .patch, .head, .options]

/-- The method's name in a request. -/
def name : Verb → String
  | .get => "GET"
  | .post => "POST"
  | .put => "PUT"
  | .delete => "DELETE"
  | .patch => "PATCH"
  | .head => "HEAD"
  | .options => "OPTIONS"

/-- The place of a verb in the order. -/
def code : Verb → Nat
  | .get => 0
  | .post => 1
  | .put => 2
  | .delete => 3
  | .patch => 4
  | .head => 5
  | .options => 6

end Verb

/-- What a handler is bound under: any method, or the one with a name. Any method includes the
empty one that a command-line request has. -/
inductive MethodToken
  | any
  | verb (name : String)
deriving DecidableEq, Repr

namespace MethodToken

/-- The token that a text stands for: `*` is any method, every other text the method of that name
in capitals. Blanks at the ends do not count. -/
def parse (text : String) : MethodToken :=
  let name := Text.trim text
  if name = "*" then .any else .verb (Text.upper name)

/-- The token of a verb. -/
def ofVerb (v : Verb) : MethodToken := .verb v.name

/-- The method is one of the token's, the case of its letters aside. -/
def accepts : MethodToken → String → Bool
  | .any, _ => true
  | .verb name, method => Text.sameLetters name method

/-- The token stands for any method. -/
def isAny : MethodToken → Bool
  | .any => true
  | .verb _ => false

/-- The token as a text. -/
def display : MethodToken → String
  | .any => "*"
  | .verb name => name

end MethodToken

end Signpost
