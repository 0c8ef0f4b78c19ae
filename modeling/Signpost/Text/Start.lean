/-!
# Starts of texts

A text cut off after a number of bytes.

## Main definitions

* `Text.cut`: the start of a text that has a given number of bytes.
-/

namespace Signpost.Text

/-- The longest start of a list of characters that has at most `bytes` bytes. -/
def cutChars : Nat → List Char → List Char
  | _, [] => []
  | bytes, c :: cs =>
    if c.utf8Size ≤ bytes then c :: cutChars (bytes - c.utf8Size) cs else []

/-- The text cut off after a number of bytes. A character that would be split goes, too. -/
def cut (s : String) (bytes : Nat) : String := String.ofList (cutChars bytes s.toList)

theorem cutChars_append (cs ds : List Char) :
    cutChars (String.ofList cs).utf8ByteSize (cs ++ ds) = cs := by
  induction cs with
  | nil =>
    cases ds with
    | nil => rfl
    | cons d ds => simp [cutChars, Nat.not_le.2 d.utf8Size_pos]
  | cons c cs ih => simp [cutChars, ih]

/-- Cutting twice is cutting once, at the shorter length. -/
theorem cutChars_cutChars {m n : Nat} (h : m ≤ n) (cs : List Char) :
    cutChars m (cutChars n cs) = cutChars m cs := by
  induction cs generalizing m n with
  | nil => rfl
  | cons c cs ih =>
    by_cases hm : c.utf8Size ≤ m
    · have hn : c.utf8Size ≤ n := Nat.le_trans hm h
      simp [cutChars, hm, hn, ih (Nat.sub_le_sub_right h _)]
    · by_cases hn : c.utf8Size ≤ n <;> simp [cutChars, hm, hn]

/-- A text that something was put behind is cut back to what it was. -/
theorem cut_append (s t : String) : cut (s ++ t) s.utf8ByteSize = s := by
  have hchars := cutChars_append s.toList t.toList
  rw [String.ofList_toList] at hchars
  rw [cut, String.toList_append, hchars, String.ofList_toList]

theorem cut_cut {m n : Nat} (h : m ≤ n) (s : String) : cut (cut s n) m = cut s m := by
  rw [cut, cut, cut, String.toList_ofList, cutChars_cutChars h]

end Signpost.Text
