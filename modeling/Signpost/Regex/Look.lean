import Signpost.Unicode.Property

/-!
# Conditions on a place in a text

Conditions that an expression puts on the place between two characters.

## Main definitions

* `Look`: the conditions.
* `Look.holds`: whether a condition holds between a character and the next.
-/

namespace Signpost.Regex

/-- What a word boundary asks of the characters before and after it. -/
inductive Boundary
  /-- Exactly one of them belongs to a word. -/
  | edge
  /-- Both belong to a word, or neither. -/
  | inside
  /-- Only the next one belongs to a word. -/
  | first
  /-- Only the one before belongs to a word. -/
  | last
  /-- The one before belongs to no word. -/
  | firstHalf
  /-- The next one belongs to no word. -/
  | lastHalf
deriving DecidableEq, Repr

/-- A condition on a place in a text. -/
inductive Look
  | textStart
  | textEnd
  /-- A line starts here; lines may end in a carriage return, too. -/
  | lineStart (crlf : Bool)
  /-- A line ends here; lines may end in a carriage return, too. -/
  | lineEnd (crlf : Bool)
  /-- A word boundary, for words of ASCII or of all characters. -/
  | word (boundary : Boundary) (ascii : Bool)
deriving DecidableEq, Repr

/-- A character that words of ASCII are made of. -/
def isAsciiWord (c : Char) : Bool := c.isAlphanum || c == '_'

/-- A character that words are made of. -/
def isWord (ascii : Bool) (c : Char) : Bool :=
  isAsciiWord c || (!ascii && Unicode.wordChars.contains c)

/-- The boundary lies between a character that is or is not part of a word and the next. -/
def Boundary.holds (before after : Bool) : Boundary → Bool
  | .edge => before != after
  | .inside => before == after
  | .first => !before && after
  | .last => before && !after
  | .firstHalf => !before
  | .lastHalf => !after

/-- The condition holds between the characters `before` and `after`, which are missing at the ends
of the text. A carriage return and a line feed together end one line. -/
def Look.holds (before after : Option Char) : Look → Bool
  | .textStart => before.isNone
  | .textEnd => after.isNone
  | .lineStart false => before.all (· == '\n')
  | .lineStart true => before.all fun c => c == '\n' || (c == '\r' && after != some '\n')
  | .lineEnd false => after.all (· == '\n')
  | .lineEnd true => after.all fun c => c == '\r' || (c == '\n' && before != some '\r')
  | .word boundary ascii => boundary.holds (before.any (isWord ascii)) (after.any (isWord ascii))

end Signpost.Regex
