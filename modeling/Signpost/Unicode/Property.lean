import Signpost.Regex.Fault
import Signpost.Unicode.Age
import Signpost.Unicode.Binary
import Signpost.Unicode.Break
import Signpost.Unicode.Category
import Signpost.Unicode.Script

/-!
# Properties by name

The sets of characters that a property name stands for. Names are compared loosely: the case of
letters, spaces, underscores, hyphens and a leading `is` do not count.

## Main definitions

* `looseName`: a name as names are compared.
* `named?`: the set of a binary property, a general category or a script.
* `valued`: the set of one value of a property that has values.
* `wordChars`, `digits`, `alphabetic`, `alphanumeric`: sets that are used by themselves.
-/

namespace Signpost.Unicode

/-- A name as names are compared. A leading `is` is dropped, but for the name `isc`, which is one
of its own. -/
def looseName (name : List Char) : String :=
  let clean := fun (cs : List Char) =>
    (cs.filter fun c => c ≠ ' ' ∧ c ≠ '_' ∧ c ≠ '-' ∧ c.toNat < 0x80).map Char.toLower
  let full := match name with
    | c :: d :: cs =>
      if c.toLower = 'i' ∧ d.toLower = 's' then
        if clean cs = ['c'] then ['i', 's', 'c'] else clean cs
      else clean name
    | cs => clean cs
  String.ofList full

/-- The set that a name by itself stands for. -/
def named? (name : List Char) : Option CharSet :=
  let name := looseName name
  if name = "cf" ∨ name = "sc" ∨ name = "lc" then category? name
  else (binary? name).or ((category? name).or (script? name))

/-- A property with values. -/
def valueOf? (property : String) : Option (String → Option CharSet) :=
  if property = "gc" ∨ property = "generalcategory" then some category?
  else if property = "sc" ∨ property = "script" then some script?
  else if property = "scx" ∨ property = "scriptextensions" then some scriptExtension?
  else if property = "age" then some age?
  else if property = "gcb" ∨ property = "graphemeclusterbreak" then some graphemeBreak?
  else if property = "wb" ∨ property = "wordbreak" then some wordBreak?
  else if property = "sb" ∨ property = "sentencebreak" then some sentenceBreak?
  else none

/-- The set of the characters with one value of a property. -/
def valued (property value : List Char) : Except Regex.Fault CharSet :=
  match valueOf? (looseName property) with
  | none => .error .propertyUnknown
  | some sets =>
    match sets (looseName value) with
    | some s => .ok s
    | none => .error .propertyValueUnknown

/-- The characters with the property `Alphabetic`. -/
def alphabetic : CharSet := (binary? "alphabetic").getD .empty

/-- The decimal digits. -/
def digits : CharSet := (category? "nd").getD .empty

/-- The characters that are alphabetic or numbers. -/
def alphanumeric : CharSet := alphabetic.union ((category? "n").getD .empty)

/-- The characters that words are made of: alphabetic ones, marks, decimal digits, connecting
punctuation and the characters that join others. -/
def wordChars : CharSet :=
  [category? "m", category? "nd", category? "pc", binary? "joincontrol"].foldl
    (fun s t => s.union (t.getD .empty)) alphabetic

end Signpost.Unicode
