import Signpost.Text.Utf8

/-!
# UTF-8 read back

The bytes of a text stand for that text, and a character is read from its bytes whatever follows
them.

## Main statements

* `Utf8.Pending.next_of_le`: what a byte that fits adds to the character in progress.
* `Utf8.lead_one`, `Utf8.lead_two`, `Utf8.lead_three`, `Utf8.lead_four`: what the first byte of a
  character leaves to be read.
* `Utf8.decodeFrom_encodeChar`: the bytes of a character are read as the character.
* `Utf8.decode_encode`: the bytes of a text are read as the text.
-/

namespace Signpost.Utf8

theorem toNat_ofNat {n : Nat} (h : n < 256) : (UInt8.ofNat n).toNat = n :=
  UInt8.toNat_ofNat_of_lt' h

/-! ## Further bytes -/

/-- A byte that fits adds its six bits. The last one finishes the character. -/
theorem Pending.next_of_le {p : Pending} {n : Nat} (hlo : p.lo ≤ n + 128) (hhi : n + 128 ≤ p.hi)
    (hn : n < 64) :
    p.next (UInt8.ofNat (n + 128)) =
      match p.more with
      | 0 => ([Char.ofNat (p.bits * 64 + n)], none)
      | more + 1 => ([], some ⟨more, 0x80, 0xBF, p.bits * 64 + n⟩) := by
  have hbyte : (UInt8.ofNat (n + 128)).toNat = n + 128 := toNat_ofNat (by omega)
  have hfits : p.lo ≤ (UInt8.ofNat (n + 128)).toNat ∧ (UInt8.ofNat (n + 128)).toNat ≤ p.hi := by
    omega
  have hbits : (UInt8.ofNat (n + 128)).toNat - 0x80 = n := by omega
  obtain ⟨more, lo, hi, bits⟩ := p
  cases more with
  | zero => simp only [next, if_pos hfits, hbits]
  | succ more => simp only [next, if_pos hfits, hbits]

section Next

variable {lo hi bits n : Nat} (hlo : lo ≤ n + 128) (hhi : n + 128 ≤ hi) (hn : n < 64)
include hlo hhi hn

theorem decodeFrom_last (bs : List UInt8) :
    decodeFrom (some ⟨0, lo, hi, bits⟩) (UInt8.ofNat (n + 128) :: bs) =
      Char.ofNat (bits * 64 + n) :: decodeFrom none bs := by
  rw [decodeFrom, Pending.next_of_le hlo hhi hn]
  rfl

theorem decodeFrom_more {more : Nat} (bs : List UInt8) :
    decodeFrom (some ⟨more + 1, lo, hi, bits⟩) (UInt8.ofNat (n + 128) :: bs) =
      decodeFrom (some ⟨more, 0x80, 0xBF, bits * 64 + n⟩) bs := by
  rw [decodeFrom, Pending.next_of_le hlo hhi hn]
  rfl

end Next

/-! ## First bytes -/

section Lead

variable {n : Nat}

theorem lead_one (h : n ≤ 0x7F) : lead (UInt8.ofNat n) = ([Char.ofNat n], none) := by
  rw [lead, toNat_ofNat (by omega), if_pos (by omega)]

theorem lead_two (h : 0x7F < n) (h' : n ≤ 0x7FF) :
    lead (UInt8.ofNat (n / 64 % 32 + 192)) = ([], some ⟨0, 0x80, 0xBF, n / 64⟩) := by
  have hmod : n / 64 % 32 = n / 64 := by omega
  rw [hmod, lead, toNat_ofNat (by omega), if_neg (by omega), if_neg (by omega),
    if_pos (by omega), Nat.add_sub_cancel]

/-- The first of three bytes leaves room for the second one, since what they encode has no shorter
form and is no surrogate. -/
theorem lead_three (h : 0x7FF < n) (h' : n ≤ 0xFFFF) (hn : n < 0xD800 ∨ 0xDFFF < n) :
    ∃ lo hi, lead (UInt8.ofNat (n / 4096 % 16 + 224)) = ([], some ⟨1, lo, hi, n / 4096⟩) ∧
      lo ≤ n / 64 % 64 + 128 ∧ n / 64 % 64 + 128 ≤ hi := by
  have hmod : n / 4096 % 16 = n / 4096 := by omega
  simp only [hmod, lead, toNat_ofNat (show n / 4096 + 224 < 256 by omega)]
  rw [if_neg (by omega), if_neg (by omega), if_neg (by omega)]
  by_cases hfirst : n / 4096 = 0
  · rw [hfirst]
    exact ⟨0xA0, 0xBF, rfl, by omega, by omega⟩
  by_cases hbelow : n / 4096 = 13
  · rw [hbelow]
    exact ⟨0x80, 0x9F, rfl, by omega, by omega⟩
  rw [if_neg (by omega), if_neg (by omega), if_pos (by omega), Nat.add_sub_cancel]
  exact ⟨0x80, 0xBF, rfl, by omega, by omega⟩

/-- The first of four bytes leaves room for the second one, since what they encode has no shorter
form and is a character. -/
theorem lead_four (h : 0xFFFF < n) (h' : n < 0x110000) :
    ∃ lo hi, lead (UInt8.ofNat (n / 262144 % 8 + 240)) = ([], some ⟨2, lo, hi, n / 262144⟩) ∧
      lo ≤ n / 4096 % 64 + 128 ∧ n / 4096 % 64 + 128 ≤ hi := by
  have hmod : n / 262144 % 8 = n / 262144 := by omega
  simp only [hmod, lead, toNat_ofNat (show n / 262144 + 240 < 256 by omega)]
  rw [if_neg (by omega), if_neg (by omega), if_neg (by omega), if_neg (by omega),
    if_neg (by omega), if_neg (by omega)]
  by_cases hfirst : n / 262144 = 0
  · rw [hfirst]
    exact ⟨0x90, 0xBF, rfl, by omega, by omega⟩
  by_cases hlast : n / 262144 = 4
  · rw [hlast]
    exact ⟨0x80, 0x8F, rfl, by omega, by omega⟩
  rw [if_neg (by omega), if_pos (by omega), Nat.add_sub_cancel]
  exact ⟨0x80, 0xBF, rfl, by omega, by omega⟩

end Lead

/-! ## Characters and texts -/

theorem decodeFrom_lead {b : UInt8} {p : Pending} (h : lead b = ([], some p)) (bs : List UInt8) :
    decodeFrom none (b :: bs) = decodeFrom (some p) bs := by
  rw [decodeFrom, h, List.nil_append]

/-- The bytes of a character are read as the character, whatever follows them. -/
theorem decodeFrom_encodeChar (c : Char) (bs : List UInt8) :
    decodeFrom none (String.utf8EncodeChar c ++ bs) = c :: decodeFrom none bs := by
  -- A character is no surrogate, and not beyond the last one.
  have hvalid : c.val.toNat < 0xD800 ∨ 0xDFFF < c.val.toNat ∧ c.val.toNat < 0x110000 := c.valid
  have hread : ∀ n, n = c.val.toNat →
      Char.ofNat n :: decodeFrom none bs = c :: decodeFrom none bs := by
    rintro n rfl
    exact congrArg (· :: _) (Char.ofNat_toNat c)
  simp only [String.utf8EncodeChar]
  by_cases hone : c.val.toNat ≤ 0x7F
  · rw [if_pos hone, List.singleton_append, decodeFrom, lead_one hone]
    exact hread _ rfl
  rw [if_neg hone]
  by_cases htwo : c.val.toNat ≤ 0x7FF
  · rw [if_pos htwo]
    simp only [List.cons_append, List.nil_append]
    rw [decodeFrom_lead (lead_two (by omega) htwo),
      decodeFrom_last (by omega) (by omega) (by omega)]
    exact hread _ (by omega)
  rw [if_neg htwo]
  by_cases hthree : c.val.toNat ≤ 0xFFFF
  · rw [if_pos hthree]
    obtain ⟨lo, hi, hlead, hlo, hhi⟩ := lead_three (by omega) hthree (by omega)
    simp only [List.cons_append, List.nil_append]
    rw [decodeFrom_lead hlead, decodeFrom_more hlo hhi (by omega),
      decodeFrom_last (by omega) (by omega) (by omega)]
    exact hread _ (by omega)
  · rw [if_neg hthree]
    obtain ⟨lo, hi, hlead, hlo, hhi⟩ := lead_four (n := c.val.toNat) (by omega) (by omega)
    simp only [List.cons_append, List.nil_append]
    rw [decodeFrom_lead hlead, decodeFrom_more hlo hhi (by omega),
      decodeFrom_more (by omega) (by omega) (by omega),
      decodeFrom_last (by omega) (by omega) (by omega)]
    exact hread _ (by omega)

theorem decode_append_encode (cs : List Char) (bs : List UInt8) :
    decode (encode cs ++ bs) = cs ++ decode bs := by
  induction cs with
  | nil => rfl
  | cons c cs ih =>
    rw [encode, List.flatMap_cons, List.append_assoc, decode, decodeFrom_encodeChar]
    exact congrArg (c :: ·) ih

/-- The bytes of a text are read as the text. -/
theorem decode_encode (cs : List Char) : decode (encode cs) = cs := by
  simpa [decode, decodeFrom] using decode_append_encode cs []

end Signpost.Utf8
