import Signpost.CharSet
import Signpost.Text.Hex

/-!
# Tables of characters

Sets of characters in a compact written form. A set is a text of hexadecimal numbers, two for each
of its ranges: how many code points lie between the range before and this one, and how many this
one has beyond its first.

## Main definitions

* `Table`: a set with the names it is known by.
* `Table.set`: the set that a table stands for.
* `Table.find?`: the set known by a name.
-/

namespace Signpost.Unicode

/-- The numbers of a text, of which the first goes on from `n`. -/
def numbers (n : Nat) : List Char → List Nat
  | [] => [n]
  | c :: cs =>
    if c = ' ' then n :: numbers 0 cs
    else numbers (n * 16 + (Text.hexDigit? c).getD 0) cs

/-- The ranges that numbers stand for; the last range before them ends below `start`. -/
def rangesFrom (start : Nat) : List Nat → List (Nat × Nat)
  | gap :: more :: ns =>
    (start + gap, start + gap + more) :: rangesFrom (start + gap + more + 1) ns
  | _ => []

/-- A set of characters with the names it is known by. -/
structure Table where
  /-- The names, in small letters and without spaces, underscores and hyphens. -/
  names : List String
  /-- The set in its written form, in lines. -/
  gaps : List String

namespace Table

/-- The set that a table stands for. -/
def set (t : Table) : CharSet :=
  ⟨rangesFrom 0 (t.gaps.flatMap fun line => numbers 0 line.toList)⟩

/-- The set known by a name. -/
def find? (name : String) (tables : List Table) : Option CharSet :=
  (tables.find? fun t => t.names.contains name).map set

end Table

end Signpost.Unicode
