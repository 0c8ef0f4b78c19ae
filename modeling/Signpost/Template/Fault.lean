import Signpost.Regex.Fault

/-!
# Faults of templates

Why a template is refused.

## Main definitions

* `Template.Fault`: the reasons.
* `Template.Error`: a reason with the template it was found in, and its text.
-/

namespace Signpost.Template

/-- The reason why a template is refused. -/
inductive Fault
  /-- The placeholder that opens at byte `start` is never closed. -/
  | unterminated (start : Nat)
  /-- A placeholder has a colon and no name after it. -/
  | nameEmpty (placeholder : String)
  /-- A parameter name has a colon in it. -/
  | nameContainsColon (name : String)
  /-- A parameter name starts with a character that is no letter and no underscore. -/
  | nameStart (name : String) (found : Char)
  /-- A parameter name goes on with a character that is no letter, digit or underscore. -/
  | nameCharacter (name : String) (found : Char)
  /-- Two placeholders have one name. -/
  | nameRepeated (name : String)
  /-- The expression of the template is refused. -/
  | expression (cause : Regex.Fault)
deriving DecidableEq, Repr

/-- A refused template with the reason. -/
structure Error where
  /-- The refused template. -/
  template : String
  /-- The reason. -/
  fault : Fault
deriving DecidableEq, Repr

/-- The refusal in words. -/
def Error.message (e : Error) : String :=
  let quoted := "'" ++ e.template ++ "'"
  match e.fault with
  | .unterminated start =>
    "placeholder opened at byte " ++ toString start ++ " in template " ++ quoted ++
      " is never closed"
  | .nameEmpty placeholder =>
    "placeholder '" ++ placeholder ++ "' in template " ++ quoted ++ " has an empty parameter name"
  | .nameContainsColon name =>
    "parameter name '" ++ name ++ "' in template " ++ quoted ++ " contains ':'"
  | .nameStart name found =>
    "parameter name '" ++ name ++ "' in template " ++ quoted ++
      " must start with an alphabetic character or underscore (found '" ++
      String.singleton found ++ "')"
  | .nameCharacter name found =>
    "parameter name '" ++ name ++ "' in template " ++ quoted ++ " contains invalid character '" ++
      String.singleton found ++ "'"
  | .nameRepeated name => "duplicate parameter name '" ++ name ++ "' in template " ++ quoted
  | .expression cause =>
    "template " ++ quoted ++ " does not compile to a valid pattern: " ++ cause.message

end Signpost.Template
