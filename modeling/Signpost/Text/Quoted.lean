import Signpost.Unicode.Property

/-!
# Quoted text

Text between quotation marks, in which every character can be seen.

## Main definitions

* `Text.quoteChar`: how a character is written between quotation marks.
* `Text.quoted`: a text between quotation marks.
* `Text.quotedList`: a list of texts in square brackets.
-/

namespace Signpost.Text

/-- The characters that are not written as they are: those without a shape of their own, and those
that join the one before them. -/
def unseen : CharSet :=
  [Unicode.category? "c", (Unicode.category? "z").map (·.diff (.single ' ')),
    Unicode.binary? "graphemeextend"].foldl (fun s t => s.union (t.getD .empty)) .empty

/-- How a character is written between quotation marks. -/
def quoteChar (c : Char) : List Char :=
  match c with
  | '\x00' => ['\\', '0']
  | '\t' => ['\\', 't']
  | '\r' => ['\\', 'r']
  | '\n' => ['\\', 'n']
  | '\\' => ['\\', '\\']
  | '"' => ['\\', '"']
  | _ =>
    if unseen.contains c then ['\\', 'u', '{'] ++ Nat.toDigits 16 c.toNat ++ ['}'] else [c]

/-- The text between quotation marks. -/
def quoted (s : String) : String :=
  String.ofList ('"' :: s.toList.flatMap quoteChar ++ ['"'])

/-- The texts between quotation marks, in square brackets. -/
def quotedList (texts : List String) : String :=
  "[" ++ ", ".intercalate (texts.map quoted) ++ "]"

end Signpost.Text
