import Signpost.Regex.Escape
import Signpost.Template.Catalog
import Signpost.Template.Token

/-!
# Source of a template

The regular expression of a template: its literal text escaped, each placeholder a group around
the class of its code, and the whole bound to both ends of the text.

## Main definitions

* `Source`: the text of the expression with the parameter names in order.
* `Source.ofTokens`: the source of scanned tokens.
* `source`: the source of a template.
-/

namespace Signpost.Template

/-- The text of a regular expression with the names of its parameters. -/
structure Source where
  /-- The text of the expression. -/
  text : String
  /-- The parameter names in the order in which the template declares them. -/
  names : List String
deriving DecidableEq, Repr

/-- The first name that occurred before. -/
def firstRepeat? : List String → Option String :=
  go []
where
  /-- The first name that occurred before or is among `seen`. -/
  go (seen : List String) : List String → Option String
    | [] => none
    | name :: names => if name ∈ seen then some name else go (name :: seen) names

/-- The part of the expression that a token stands for. -/
def Token.source (catalog : Catalog) : Token → String
  | .literal text => Regex.escape text
  | .placeholder code none => "(" ++ catalog.resolve code ++ ")"
  | .placeholder code (some name) => "(?P<" ++ name ++ ">" ++ catalog.resolve code ++ ")"

/-- The source of a list of tokens, which must not repeat a name. -/
def Source.ofTokens (catalog : Catalog) (tokens : List Token) : Except Fault Source :=
  let names := tokens.filterMap Token.name?
  match firstRepeat? names with
  | some name => .error (.nameRepeated name)
  | none => .ok ⟨"^" ++ String.join (tokens.map (Token.source catalog)) ++ "$", names⟩

/-- The source of a template. -/
def source (template : String) (catalog : Catalog) : Except Error Source :=
  (scan template >>= Source.ofTokens catalog).mapError (⟨template, ·⟩)

end Signpost.Template
