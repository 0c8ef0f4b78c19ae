import Signpost.Proofs.Cutting
import Signpost.Proofs.Reading
import Signpost.Proofs.Search

/-!
# Searching for the value of a placeholder

A search that enters the class of a builtin code goes on behind one of the values that the path
starts with: behind the longest one, or the shortest, from which the search has an outcome.

## Main definitions

* `Spot.beyond`: the spot behind a part of the text.
* `Picks`: an outcome is that of the best part to go on behind.

## Main statements

* `builtinClass_kind`: the classes of the builtin codes have the characters of their values.
* `picks_loop`: a loop around a set of characters.
* `picks_builtinClass`: the class of a builtin code.
-/

namespace Signpost.Regex

open Template

/-! ## Sets of characters -/

theorem isDigit_iff (c : Char) : c.isDigit = true ↔ 0x30 ≤ c.toNat ∧ c.toNat ≤ 0x39 :=
  Char.isDigit_iff_toNat

theorem isAlpha_iff (c : Char) :
    c.isAlpha = true ↔ (0x41 ≤ c.toNat ∧ c.toNat ≤ 0x5A) ∨ (0x61 ≤ c.toNat ∧ c.toNat ≤ 0x7A) := by
  delta Char.isAlpha Char.isUpper Char.isLower
  simp [UInt32.le_iff_toNat_le]

theorem isAlphanum_iff (c : Char) :
    c.isAlphanum = true ↔ ((0x41 ≤ c.toNat ∧ c.toNat ≤ 0x5A) ∨ (0x61 ≤ c.toNat ∧ c.toNat ≤ 0x7A)) ∨
      (0x30 ≤ c.toNat ∧ c.toNat ≤ 0x39) := by
  rw [Char.isAlphanum, Bool.or_eq_true, isAlpha_iff, isDigit_iff]

theorem isSome_hexDigit?_iff (c : Char) :
    (Text.hexDigit? c).isSome = true ↔ (0x30 ≤ c.toNat ∧ c.toNat ≤ 0x39) ∨
      (0x61 ≤ c.toNat ∧ c.toNat ≤ 0x66) ∨ (0x41 ≤ c.toNat ∧ c.toNat ≤ 0x46) := by
  unfold Text.hexDigit?
  simp only [Char.le_def, UInt32.le_iff_toNat_le]
  split
  · simp_all
  split
  · simp_all
  split <;> simp_all

theorem toNat_le_top (c : Char) : c.toNat ≤ 0x10FFFF := by
  rcases c.valid with h | h
  · exact Nat.le_of_lt (Nat.lt_trans h (by decide))
  · exact Nat.le_of_lt_succ h.2

theorem contains_eq {ranges : List (Nat × Nat)} {p : Char → Bool}
    (h : ∀ c, (∃ r ∈ ranges, r.1 ≤ c.toNat ∧ c.toNat ≤ r.2) ↔ p c = true) :
    (CharSet.mk ranges).contains = p := by
  funext c
  rw [Bool.eq_iff_iff, ← h c]
  simp [CharSet.contains, CharSet.containsCode]

theorem contains_digits : (CharSet.mk [(0x30, 0x39)]).contains = Char.isDigit :=
  contains_eq fun c => by simp [isDigit_iff]

theorem contains_letters :
    (CharSet.mk [(0x41, 0x5A), (0x61, 0x7A)]).contains = Char.isAlpha :=
  contains_eq fun c => by simp [isAlpha_iff]

theorem contains_alphanums :
    (CharSet.mk [(0x30, 0x39), (0x41, 0x5A), (0x61, 0x7A)]).contains = Char.isAlphanum :=
  contains_eq fun c => by
    simp [isAlphanum_iff]
    omega

theorem contains_wordChars :
    (CharSet.mk [(0x30, 0x39), (0x41, 0x5A), (0x5F, 0x5F), (0x61, 0x7A)]).contains =
      fun c => c.isAlphanum || c == '_' :=
  contains_eq fun c => by
    simp [isAlphanum_iff, ← Char.toNat_inj]
    omega

theorem contains_hexDigits :
    (CharSet.mk [(0x30, 0x39), (0x41, 0x46), (0x61, 0x66)]).contains =
      fun c => (Text.hexDigit? c).isSome :=
  contains_eq fun c => by
    simp [isSome_hexDigit?_iff]
    omega

theorem contains_slugChars :
    (CharSet.mk [(0x2D, 0x2D), (0x30, 0x39), (0x41, 0x5A), (0x5F, 0x5F), (0x61, 0x7A)]).contains =
      fun c => c.isAlphanum || c == '-' || c == '_' :=
  contains_eq fun c => by
    simp [isAlphanum_iff, ← Char.toNat_inj]
    omega

/-- All characters but one, as ranges. -/
theorem contains_allBut (d : Char) {n : Nat} (hd : d.toNat = n + 1) :
    (CharSet.mk [(0, n), (n + 2, 0x10FFFF)]).contains = (· != d) :=
  contains_eq fun c => by
    have htop := toNat_le_top c
    rw [bne_iff_ne, ne_eq, ← Char.toNat_inj, hd]
    simp
    omega

theorem builtinClass_kind {code : String} {k : Kind} (h : kind? code = some k) :
    (builtinClass code).first.contains = k.first ∧ (builtinClass code).rest.contains = k.rest ∧
      (builtinClass code).greedy = k.greedy := by
  unfold kind? at h
  split at h <;> cases h
  · exact ⟨contains_digits, contains_digits, rfl⟩
  · exact ⟨contains_alphanums, contains_alphanums, rfl⟩
  · exact ⟨contains_letters, contains_wordChars, rfl⟩
  · exact ⟨contains_hexDigits, contains_hexDigits, rfl⟩
  · exact ⟨contains_slugChars, contains_slugChars, rfl⟩
  · exact ⟨contains_allBut '\n' rfl, contains_allBut '\n' rfl, rfl⟩
  · exact ⟨contains_allBut '\n' rfl, contains_allBut '\n' rfl, rfl⟩
  · exact ⟨contains_allBut '/' rfl, contains_allBut '/' rfl, rfl⟩

/-! ## Loops around a set -/

/-- The spot behind a part of the text, in front of the rest. -/
def Spot.beyond (s : Spot) (v rest : List Char) : Spot :=
  ⟨v.getLast?.or s.before, s.index + v.length, rest⟩

theorem Spot.beyond_nil {s : Spot} {rest : List Char} (h : s.rest = [] ++ rest) :
    s.beyond [] rest = s := by
  cases s
  cases h
  rfl

theorem Spot.beyond_cons (s : Spot) (a : Char) (cs v rest : List Char) :
    s.beyond (a :: v) rest = (Spot.mk (some a) (s.index + 1) cs).beyond v rest := by
  simp only [beyond, Spot.mk.injEq, and_true]
  refine ⟨?_, by simp; omega⟩
  cases hv : v.getLast? with
  | none => simp_all
  | some b => simp [List.getLast?_cons, hv]

/-- The parts of the text that `allows` are ways to go on with `k`, and the outcome is that of the
longest one that leads anywhere, or of the shortest. -/
def Picks (greedy : Bool) (allows : List Char → Bool) (s : Spot) (k : Onward) : Outcome → Prop
  | none => ∀ v rest, s.rest = v ++ rest → allows v = true → k (s.beyond v rest) = none
  | some trace =>
    ∃ v rest, s.rest = v ++ rest ∧ allows v = true ∧ k (s.beyond v rest) = some trace ∧
      ∀ w others, s.rest = w ++ others → allows w = true → k (s.beyond w others) ≠ none →
        if greedy then w.length ≤ v.length else v.length ≤ w.length

/-- The parts that start with a character and go on as `p` says. -/
def headed (q : Char → Bool) (p : List Char → Bool) : List Char → Bool
  | [] => false
  | c :: cs => q c && p cs

theorem eq_cons_of_headed {q : Char → Bool} {p : List Char → Bool} {a : Char}
    {v cs rest : List Char} (hv : a :: cs = v ++ rest) (h : headed q p v = true) :
    ∃ later, v = a :: later ∧ cs = later ++ rest ∧ q a = true ∧ p later = true := by
  cases v with
  | nil => simp [headed] at h
  | cons b later =>
    obtain ⟨rfl, hcs⟩ := List.cons.inj hv
    rw [headed, Bool.and_eq_true] at h
    exact ⟨later, rfl, hcs, h⟩

/-- A part behind one character is picked at the spot behind the character. -/
theorem picks_seek_cell {greedy : Bool} {p : List Char → Bool} {s : Spot} {k k' : Onward}
    (chars : CharSet) (next : Outcome)
    (h : ∀ a cs, s.rest = a :: cs →
      Picks greedy p ⟨some a, s.index + 1, cs⟩ k (k' ⟨some a, s.index + 1, cs⟩)) :
    Picks greedy (headed chars.contains p) s k ((Circuit.cell chars next).seek k' s) := by
  obtain ⟨before, index, text⟩ := s
  cases text with
  | nil =>
    intro v rest hv hp
    rw [(List.append_eq_nil_iff.1 hv.symm).1] at hp
    simp [headed] at hp
  | cons a cs =>
    have hpicks := h a cs rfl
    simp only [Circuit.seek]
    split
    · next ha =>
      cases ho : k' ⟨some a, index + 1, cs⟩ with
      | none =>
        rw [ho] at hpicks
        intro v rest hv hp
        obtain ⟨later, rfl, hcs, -, hlater⟩ := eq_cons_of_headed hv hp
        rw [Spot.beyond_cons _ a cs]
        exact hpicks later rest hcs hlater
      | some trace =>
        rw [ho] at hpicks
        obtain ⟨v, rest, hv, hp, hk, best⟩ := hpicks
        refine ⟨a :: v, rest, congrArg (a :: ·) hv, by simp [headed, ha, hp], ?_, ?_⟩
        · rw [Spot.beyond_cons _ a cs]
          exact hk
        · intro w others hw hpw hne
          obtain ⟨later, rfl, hcs, -, hlater⟩ := eq_cons_of_headed hw hpw
          rw [Spot.beyond_cons _ a cs] at hne
          simpa using best later others hcs hlater hne
    · next ha =>
      intro v rest hv hp
      obtain ⟨later, -, -, hcontains, -⟩ := eq_cons_of_headed hv hp
      exact absurd hcontains ha

/-- Where no other part leads anywhere, the outcome is that of the empty part. -/
theorem picks_empty {greedy : Bool} {p : List Char → Bool} {s : Spot} {k : Onward}
    (h : Picks greedy p s k none) : Picks greedy (fun v => v.isEmpty || p v) s k (k s) := by
  cases hk : k s with
  | none =>
    intro v rest hv hp
    cases v with
    | nil => rw [Spot.beyond_nil hv, hk]
    | cons a v => exact h (a :: v) rest hv hp
  | some trace =>
    refine ⟨[], s.rest, rfl, rfl, hk, ?_⟩
    intro w others hw hp hne
    cases w with
    | nil => simp
    | cons a w => exact absurd (h (a :: w) others hw hp) hne

/-- A choice between some parts and the empty one. -/
theorem picks_prefer {greedy : Bool} {p : List Char → Bool} {s : Spot} {k : Onward}
    {o : Outcome} (h : Picks greedy p s k o) :
    Picks greedy (fun v => v.isEmpty || p v) s k (Outcome.prefer greedy o (k s)) := by
  cases o with
  | none => cases greedy <;> simpa [Outcome.prefer] using picks_empty h
  | some trace =>
    obtain ⟨v, rest, hv, hp, hkv, best⟩ := h
    cases greedy with
    | true =>
      -- No part is shorter than the empty one, so a longer one wins as soon as it leads anywhere.
      refine ⟨v, rest, hv, by simp [hp], hkv, ?_⟩
      intro w others hw hpw hne
      cases w with
      | nil => simp
      | cons a w => exact best (a :: w) others hw hpw hne
    | false =>
      cases hk : k s with
      | some trace' => exact ⟨[], s.rest, rfl, rfl, hk, by simp⟩
      | none =>
        refine ⟨v, rest, hv, by simp [hp], hkv, ?_⟩
        intro w others hw hpw hne
        cases w with
        | nil => exact absurd (by rw [Spot.beyond_nil hw, hk]) hne
        | cons a w => exact best (a :: w) others hw hpw hne

/-- A loop around a set picks among the parts with characters of the set alone. -/
theorem picks_loop (greedy : Bool) (chars : CharSet) (next : Outcome) (s : Spot) (k : Onward) :
    Picks greedy (·.all chars.contains) s k (loop greedy (Circuit.cell chars next).seek k s) := by
  obtain ⟨before, index, text⟩ := s
  have hall : (fun v : List Char => v.all chars.contains) =
      fun v => v.isEmpty || headed chars.contains (·.all chars.contains) v := by
    funext v
    cases v <;> rfl
  induction text generalizing before index with
  | nil =>
    rw [hall, Circuit.loop_seek rfl]
    exact picks_prefer (picks_seek_cell chars next fun a cs h => by cases h)
  | cons a cs ih =>
    rw [hall, Circuit.loop_seek rfl]
    refine picks_prefer (picks_seek_cell chars next ?_)
    rintro _ _ ⟨⟩
    exact ih (some a) (index + 1)

/-! ## Classes of builtin codes -/

/-- The search of a class takes a character and then loops. -/
theorem seek_class {c : ValueClass} (hrest : c.rest.isEmpty = false) (k : Onward) :
    c.expr.circuit.seek k =
      (Circuit.cell c.first none).seek (loop c.greedy (Circuit.cell c.rest none).seek k) := by
  have hconsumes : (Expr.set c.rest).consumes = true := by
    simp [Expr.consumes, Expr.minLength?, hrest]
  unfold ValueClass.expr
  split
  · next heq => simp [heq, Expr.circuit, Circuit.copies, hconsumes, Circuit.seek]
  · simp [Expr.circuit, hconsumes, Circuit.seek]

theorem isEmpty_rest_builtinClass (code : String) : (builtinClass code).rest.isEmpty = false := by
  unfold builtinClass
  split <;> rfl

/-- The rounds of the class of a builtin code take characters. -/
theorem isSteady_builtinClass (code : String) : (builtinClass code).expr.IsSteady := by
  have hconsumes : (Expr.set (builtinClass code).rest).consumes = true := by
    simp [Expr.consumes, Expr.minLength?, isEmpty_rest_builtinClass]
  unfold ValueClass.expr
  split
  · next heq => exact ⟨heq ▸ hconsumes, trivial⟩
  · exact ⟨trivial, hconsumes, trivial⟩

/-- The search of the class of a builtin code picks among the values of the code. -/
theorem picks_builtinClass {code : String} {k : Kind} (hk : kind? code = some k) (s : Spot)
    (onward : Onward) :
    Picks k.greedy k.admits s onward ((builtinClass code).expr.circuit.seek onward s) := by
  obtain ⟨hfirst, hrest, hgreedy⟩ := builtinClass_kind hk
  have hadmits : k.admits = headed k.first (·.all k.rest) := by
    funext v
    cases v <;> rfl
  rw [seek_class (isEmpty_rest_builtinClass code), hadmits, ← hfirst, ← hrest, ← hgreedy]
  exact picks_seek_cell _ _ fun a cs _ => picks_loop ..

end Signpost.Regex
