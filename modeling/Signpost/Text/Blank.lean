import Signpost.CharSet

/-!
# Blank characters

The characters with the Unicode property `White_Space`, and texts without them at either end.

## Main definitions

* `Text.blanks`: the twenty-five blank characters.
* `Text.trim`: a text without the blanks it starts and ends with.
-/

namespace Signpost.Text

/-- The twenty-five characters with the property `White_Space`. -/
def blanks : CharSet :=
  ⟨[(0x09, 0x0D), (0x20, 0x20), (0x85, 0x85), (0xA0, 0xA0), (0x1680, 0x1680), (0x2000, 0x200A),
    (0x2028, 0x2029), (0x202F, 0x202F), (0x205F, 0x205F), (0x3000, 0x3000)]⟩

/-- The character is blank. -/
def isBlank (c : Char) : Bool := blanks.contains c

/-- The list without the blanks at its front. -/
def trimFront (cs : List Char) : List Char := cs.dropWhile isBlank

/-- The list without the blanks at its front and at its back. -/
def trimChars (cs : List Char) : List Char := (trimFront (trimFront cs).reverse).reverse

/-- The text without the blanks it starts and ends with. -/
def trim (s : String) : String := String.ofList (trimChars s.toList)

@[simp] theorem toList_trim (s : String) : (trim s).toList = trimChars s.toList :=
  String.toList_ofList

end Signpost.Text
