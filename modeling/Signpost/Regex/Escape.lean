/-!
# Escaped text

Literal text within a regular expression: a character with a meaning of its own stands behind a
backslash.

## Main definitions

* `isMeta`: the characters with a meaning of their own.
* `escape`: the text of an expression that matches a given text.
-/

namespace Signpost.Regex

/-- A character that has a meaning of its own in some place of an expression. -/
def isMeta (c : Char) : Bool :=
  ['\\', '.', '+', '*', '?', '(', ')', '|', '[', ']', '{', '}', '^', '$', '#', '&', '-',
    '~'].contains c

/-- One literal character as it is written in an expression. -/
def escapeChar (c : Char) : List Char := if isMeta c then ['\\', c] else [c]

/-- The text of the expression that matches `text` alone. -/
def escape (text : String) : String := String.ofList (text.toList.flatMap escapeChar)

@[simp] theorem toList_escape (text : String) :
    (escape text).toList = text.toList.flatMap escapeChar := String.toList_ofList

end Signpost.Regex
