/-!
# Letter case

Case maps that touch the letters `a` to `z` and `A` to `Z` alone; every other character stays as
it is.

## Main definitions

* `Text.upper`, `Text.lower`: the text with its letters mapped.
* `Text.sameLetters`: equality of texts up to the case of those letters.
-/

namespace Signpost.Text

/-- The text with `a` to `z` made capital. -/
def upper (s : String) : String := String.ofList (s.toList.map Char.toUpper)

/-- The text with `A` to `Z` made small. -/
def lower (s : String) : String := String.ofList (s.toList.map Char.toLower)

/-- The two texts differ at most in the case of `a` to `z`. -/
def sameLetters (s t : String) : Bool := lower s == lower t

@[simp] theorem toList_upper (s : String) : (upper s).toList = s.toList.map Char.toUpper :=
  String.toList_ofList

@[simp] theorem toList_lower (s : String) : (lower s).toList = s.toList.map Char.toLower :=
  String.toList_ofList

theorem toLower_toLower (c : Char) : c.toLower.toLower = c.toLower := by
  delta Char.toLower
  by_cases h : 'A' ≤ c ∧ c ≤ 'Z' <;> grind

@[simp] theorem lower_lower (s : String) : lower (lower s) = lower s := by
  rw [← String.toList_inj, toList_lower, toList_lower, List.map_map]
  exact List.map_congr_left fun c _ => toLower_toLower c

theorem sameLetters_iff {s t : String} : sameLetters s t = true ↔ lower s = lower t := by
  simp [sameLetters]

end Signpost.Text
