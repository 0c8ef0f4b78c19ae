import Mathlib.Data.List.DropRight
import Signpost.Method

/-!
# Canonical methods

Methods are bound under tokens that are equal only if they are spelled alike, but a token accepts a
method in any case of its letters. The two go together for the tokens that texts stand for, since
these have no blanks at their ends and no small letters.

## Main definitions

* `MethodToken.IsSpelled`: the tokens of texts and verbs, and that of any method.

## Main statements

* `Text.trim_trim`, `Text.upper_upper`, `Text.trim_upper`: texts without blanks at their ends, and
  in capitals.
* `MethodToken.parse_display_parse`: the text of a token is read as the token.
* `MethodToken.parse_eq_iff`: tokens of texts are equal if they accept the same methods.
* `MethodToken.IsSpelled.eq_of_accepts`: the verb that accepts a method.
-/

namespace Signpost

namespace Text

/-! ## Letters -/

theorem toNat_toUpper (c : Char) :
    c.toUpper.toNat = if 97 ≤ c.toNat ∧ c.toNat ≤ 122 then c.toNat - 32 else c.toNat := by
  have hsmall : 'a'.val ≤ c.val ∧ c.val ≤ 'z'.val ↔ 97 ≤ c.toNat ∧ c.toNat ≤ 122 := by
    simp only [UInt32.le_iff_toNat_le, Char.toNat]
    rfl
  unfold Char.toUpper
  split
  · next h =>
    have hcode := hsmall.1 h
    -- The letters move down, which is a move up that wraps around.
    have hshift : ('A'.val - 'a'.val).toNat = 4294967264 := rfl
    rw [if_pos hcode]
    simp only [Char.toNat] at hcode ⊢
    rw [UInt32.toNat_add, hshift]
    omega
  · next h => rw [if_neg (mt hsmall.2 h)]

theorem toNat_toLower (c : Char) :
    c.toLower.toNat = if 65 ≤ c.toNat ∧ c.toNat ≤ 90 then c.toNat + 32 else c.toNat := by
  have hcapital : c.val ≥ 'A'.val ∧ c.val ≤ 'Z'.val ↔ 65 ≤ c.toNat ∧ c.toNat ≤ 90 := by
    simp only [ge_iff_le, UInt32.le_iff_toNat_le, Char.toNat]
    rfl
  unfold Char.toLower
  split
  · next h =>
    have hcode := hcapital.1 h
    have hshift : ('a'.val - 'A'.val).toNat = 32 := rfl
    rw [if_pos hcode]
    simp only [Char.toNat] at hcode ⊢
    rw [UInt32.toNat_add, hshift]
    omega
  · next h => rw [if_neg (mt hcapital.2 h)]

theorem toUpper_toUpper (c : Char) : c.toUpper.toUpper = c.toUpper := by
  simp only [← Char.toNat_inj, toNat_toUpper]
  grind

theorem toUpper_toLower (c : Char) : c.toLower.toUpper = c.toUpper := by
  simp only [← Char.toNat_inj, toNat_toUpper, toNat_toLower]
  grind

theorem toLower_toUpper (c : Char) : c.toUpper.toLower = c.toLower := by
  simp only [← Char.toNat_inj, toNat_toUpper, toNat_toLower]
  grind

/-- No letter is blank. -/
theorem isBlank_toUpper (c : Char) : isBlank c.toUpper = isBlank c := by
  simp only [isBlank, blanks, CharSet.contains, CharSet.containsCode, toNat_toUpper]
  split
  · rw [Bool.eq_iff_iff]
    simp
    omega
  · rfl

@[simp] theorem upper_upper (s : String) : upper (upper s) = upper s := by
  rw [← String.toList_inj, toList_upper, toList_upper, List.map_map]
  exact List.map_congr_left fun c _ => toUpper_toUpper c

@[simp] theorem upper_lower (s : String) : upper (lower s) = upper s := by
  rw [← String.toList_inj, toList_upper, toList_upper, toList_lower, List.map_map]
  exact List.map_congr_left fun c _ => toUpper_toLower c

@[simp] theorem lower_upper (s : String) : lower (upper s) = lower s := by
  rw [← String.toList_inj, toList_lower, toList_lower, toList_upper, List.map_map]
  exact List.map_congr_left fun c _ => toLower_toUpper c

@[simp] theorem length_upper (s : String) : (upper s).length = s.length := by
  rw [← String.length_toList, toList_upper, List.length_map, String.length_toList]

/-- `*` is no letter. -/
theorem eq_star_of_toUpper {c : Char} (h : c.toUpper = '*') : c = '*' := by
  have hstar : '*'.toNat = 42 := rfl
  rw [← Char.toNat_inj, toNat_toUpper, hstar] at h
  rw [← Char.toNat_inj, hstar]
  split at h <;> omega

theorem eq_star_of_upper {s : String} (h : upper s = "*") : s = "*" := by
  have hchars : s.toList.map Char.toUpper = ['*'] := by rw [← toList_upper, h]; rfl
  obtain ⟨c, hc, hstar⟩ := List.map_eq_singleton_iff.1 hchars
  rw [← String.toList_inj, hc, eq_star_of_toUpper hstar]
  rfl

theorem sameLetters_iff_upper {s t : String} : sameLetters s t = true ↔ upper s = upper t := by
  rw [sameLetters_iff]
  constructor
  · intro h
    rw [← upper_lower s, h, upper_lower]
  · intro h
    rw [← lower_upper s, h, lower_upper]

/-! ## Blanks -/

theorem trimChars_eq (cs : List Char) :
    trimChars cs = (cs.dropWhile isBlank).rdropWhile isBlank := rfl

/-- What is left of a text has no blanks at its front any more. -/
theorem dropWhile_trimChars (cs : List Char) : (trimChars cs).dropWhile isBlank = trimChars cs := by
  have hfront : (cs.dropWhile isBlank).dropWhile isBlank = cs.dropWhile isBlank :=
    List.dropWhile_idempotent ..
  have hstart : trimChars cs <+: cs.dropWhile isBlank := List.rdropWhile_prefix ..
  rw [List.dropWhile_eq_self_iff] at hfront ⊢
  intro hpos
  rw [hstart.getElem hpos]
  exact hfront (Nat.lt_of_lt_of_le hpos hstart.length_le)

@[simp] theorem trim_trim (s : String) : trim (trim s) = trim s := by
  rw [← String.toList_inj, toList_trim, toList_trim, trimChars_eq (trimChars _),
    dropWhile_trimChars, trimChars_eq]
  exact List.rdropWhile_idempotent ..

theorem trimChars_map {f : Char → Char} (hf : ∀ c, isBlank (f c) = isBlank c) (cs : List Char) :
    trimChars (cs.map f) = (trimChars cs).map f := by
  have hcomp : isBlank ∘ f = isBlank := funext hf
  simp only [trimChars, trimFront, List.dropWhile_map, ← List.map_reverse, hcomp]

theorem trim_upper (s : String) : trim (upper s) = upper (trim s) := by
  rw [← String.toList_inj]
  simp only [toList_trim, toList_upper]
  exact trimChars_map isBlank_toUpper _

end Text

namespace MethodToken

/-! ## Tokens -/

theorem parse_of_trim_eq {text : String} (h : Text.trim text = "*") : parse text = .any := if_pos h

theorem parse_of_trim_ne {text : String} (h : Text.trim text ≠ "*") :
    parse text = .verb (Text.upper (Text.trim text)) := if_neg h

/-- The text of a token is read as the token. -/
theorem parse_display_parse (text : String) : parse (parse text).display = parse text := by
  by_cases h : Text.trim text = "*"
  · rw [parse_of_trim_eq h]
    rfl
  · have htrim : Text.trim (Text.upper (Text.trim text)) = Text.upper (Text.trim text) := by
      rw [Text.trim_upper, Text.trim_trim]
    have hne : Text.trim (Text.upper (Text.trim text)) ≠ "*" := by
      rw [htrim]
      exact mt Text.eq_star_of_upper h
    rw [parse_of_trim_ne h, display, parse_of_trim_ne hne, htrim, Text.upper_upper]

/-- A token that registrations are made with: that of any method, of a verb or of a text. -/
inductive IsSpelled : MethodToken → Prop
  | any : IsSpelled .any
  | ofVerb (v : Verb) : IsSpelled (.ofVerb v)
  | parse (text : String) : IsSpelled (.parse text)

variable {t t' : MethodToken} {name method : String}

/-- Such a token is that of its text. -/
theorem IsSpelled.parse_display (h : t.IsSpelled) : MethodToken.parse t.display = t := by
  cases h with
  | any => decide
  | ofVerb v => cases v <;> decide
  | parse text => exact parse_display_parse text

/-- Its name has neither blanks at its ends nor small letters. -/
theorem IsSpelled.upper_trim (h : (verb name).IsSpelled) : Text.upper (Text.trim name) = name := by
  have hparse : MethodToken.parse name = .verb name := h.parse_display
  by_cases hstar : Text.trim name = "*"
  · rw [parse_of_trim_eq hstar] at hparse
    cases hparse
  · rw [parse_of_trim_ne hstar] at hparse
    exact verb.inj hparse

theorem IsSpelled.upper_name (h : (verb name).IsSpelled) : Text.upper name = name := by
  rw [← h.upper_trim, Text.upper_upper]

theorem accepts_verb_iff :
    (verb name).accepts method = true ↔ Text.upper name = Text.upper method :=
  Text.sameLetters_iff_upper

/-- The verb that accepts a method is the method without blanks, in capitals. -/
theorem IsSpelled.eq_of_accepts (h : (verb name).IsSpelled)
    (ha : (verb name).accepts method = true) : name = Text.upper (Text.trim method) := by
  rw [accepts_verb_iff] at ha
  rw [← h.upper_trim, ← Text.trim_upper, ha, Text.trim_upper]

/-- No verb accepts every method. -/
theorem exists_not_accepts (name : String) : ∃ method, (verb name).accepts method = false := by
  refine ⟨name ++ "*", ?_⟩
  rw [Bool.eq_false_iff, Ne, accepts_verb_iff]
  intro h
  have hlength := congrArg String.length h
  rw [Text.length_upper, Text.length_upper, String.length_append] at hlength
  have hstar : "*".length = 1 := by decide
  omega

/-- Tokens that registrations are made with are equal if they accept the same methods. -/
theorem IsSpelled.eq_iff (h : t.IsSpelled) (h' : t'.IsSpelled) :
    t = t' ↔ ∀ method, t.accepts method = t'.accepts method := by
  refine ⟨fun heq method => by rw [heq], fun haccepts => ?_⟩
  cases t with
  | any =>
    cases t' with
    | any => rfl
    | verb name =>
      obtain ⟨method, hmethod⟩ := exists_not_accepts name
      have hany : true = false := (haccepts method).trans hmethod
      cases hany
  | verb name =>
    cases t' with
    | any =>
      obtain ⟨method, hmethod⟩ := exists_not_accepts name
      have hany : true = false := (haccepts method).symm.trans hmethod
      cases hany
    | verb name' =>
      have hself : (verb name').accepts name' = true := accepts_verb_iff.2 rfl
      have hname : Text.upper name = Text.upper name' :=
        accepts_verb_iff.1 ((haccepts name').trans hself)
      rw [h.upper_name, h'.upper_name] at hname
      rw [hname]

/-- Tokens of texts are equal if they accept the same methods. -/
theorem parse_eq_iff (s t : String) :
    parse s = parse t ↔ ∀ method, (parse s).accepts method = (parse t).accepts method :=
  (IsSpelled.parse s).eq_iff (.parse t)

end MethodToken

end Signpost
