import Signpost.Template.Fault

/-!
# Tokens of a template

A template is literal text with placeholders in it. `[code]` and `[code:name]` are placeholders; a
placeholder ends at the first `]` after its `[`, and a `]` outside a placeholder is literal text.

## Main definitions

* `Token`: a run of literal text or a placeholder.
* `Token.render`: the text that a token stands for.
* `scan`: the tokens of a template, or the first fault in it.
-/

namespace Signpost.Template

/-- A run of literal text or a placeholder with its code and, if it has one, its name. -/
inductive Token
  | literal (text : String)
  | placeholder (code : String) (name : Option String)
deriving DecidableEq, Repr

namespace Token

/-- The parameter name that a token declares. -/
def name? : Token → Option String
  | .literal _ => none
  | .placeholder _ name => name

/-- The text that a token stands for. -/
def render : Token → String
  | .literal text => text
  | .placeholder code none => "[" ++ code ++ "]"
  | .placeholder code (some name) => "[" ++ code ++ ":" ++ name ++ "]"

end Token

/-- The text of a list of tokens. -/
def render (tokens : List Token) : String := String.join (tokens.map Token.render)

/-- A character that a parameter name may start with. -/
def isNameStart (c : Char) : Bool := c.isAlpha || c == '_'

/-- A character that a parameter name may go on with. -/
def isNameRest (c : Char) : Bool := c.isAlphanum || c == '_'

/-- The fault of a parameter name: it has a colon, starts wrong or goes on wrong, looked for in
this order. -/
def nameFault? (name : List Char) : Option Fault :=
  if ':' ∈ name then some (.nameContainsColon (String.ofList name))
  else match name with
    | [] => none
    | c :: cs =>
      if isNameStart c then
        (cs.find? fun d => !isNameRest d).map (.nameCharacter (String.ofList name))
      else some (.nameStart (String.ofList name) c)

/-- The placeholder with `inner` between its brackets. The name is what follows the first colon. -/
def placeholderOf (inner : List Char) : Except Fault Token :=
  let code := String.ofList (inner.takeWhile (· != ':'))
  match inner.dropWhile (· != ':') with
  | [] => .ok (.placeholder code none)
  | _ :: [] => .error (.nameEmpty (String.ofList ('[' :: inner ++ [']'])))
  | _ :: name =>
    match nameFault? name with
    | some fault => .error fault
    | none => .ok (.placeholder code (some (String.ofList name)))

/-- The tokens with one more literal character in front, which joins a literal that follows it. -/
def consLiteral (c : Char) : List Token → List Token
  | .literal text :: tokens => .literal (String.singleton c ++ text) :: tokens
  | tokens => .literal (String.singleton c) :: tokens

mutual

/-- The tokens of a text that stands `pos` bytes into the template, outside a placeholder. -/
def scanText (pos : Nat) : List Char → Except Fault (List Token)
  | [] => .ok []
  | c :: cs =>
    if c = '[' then
      match scanInner (pos + c.utf8Size) cs with
      | none => .error (.unterminated pos)
      | some (inner, rest) => do
        let token ← placeholderOf inner
        return token :: (← rest)
    else (scanText (pos + c.utf8Size) cs).map (consLiteral c)

/-- For a text inside a placeholder, what comes before the first `]` and the tokens of what comes
after it; nothing if there is no `]`. -/
def scanInner (pos : Nat) : List Char → Option (List Char × Except Fault (List Token))
  | [] => none
  | c :: cs =>
    if c = ']' then some ([], scanText (pos + c.utf8Size) cs)
    else (scanInner (pos + c.utf8Size) cs).map fun r => (c :: r.1, r.2)

end

/-- The tokens of a template, or the leftmost fault in it. -/
def scan (template : String) : Except Fault (List Token) := scanText 0 template.toList

end Signpost.Template
