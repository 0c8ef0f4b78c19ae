import Signpost.Proofs.Classes
import Signpost.Proofs.Segments
import Signpost.Proofs.Utf8

/-!
# Form text read back

Pairs of texts are written as the segments of a query, byte by byte, and each byte in one of several
ways. Whichever ways are taken, the query stands for the pairs.

## Main definitions

* `Query.Writes`: the ways to write a byte.
* `Query.Spells`: the form of a text, each byte of which is written in one of the ways.
* `Query.IsEncoding`: a query that is made of the forms of some pairs.

## Main statements

* `Query.formBytes_append`: a byte is read as it was written.
* `Query.Spells.formText_eq`: the form of a text stands for the text.
* `Query.parseQuery_encoding`: the parameters of a query that is made of some pairs.
-/

namespace Signpost

open Text

namespace Query

/-- The digits of the numbers up to fifteen, with capital letters and with small ones. -/
def hexDigits : List (List Char) := ["0123456789ABCDEF".toList, "0123456789abcdef".toList]

/-- The character is the hexadecimal digit of a number. -/
def IsHex (n : Nat) (c : Char) : Prop := ∃ ds ∈ hexDigits, ds[n]? = some c

instance (n : Nat) (c : Char) : Decidable (IsHex n c) :=
  inferInstanceAs (Decidable (∃ ds ∈ hexDigits, ds[n]? = some c))

/-- The ways to write a byte in a form: as `%` and its two digits, a letter or a digit as it is, and
a space as `+`. -/
inductive Writes : UInt8 → List Char → Prop
  | percent {b : UInt8} {h l : Char} (hh : IsHex (b.toNat / 16) h) (hl : IsHex (b.toNat % 16) l) :
      Writes b ['%', h, l]
  | plain {b : UInt8} {c : Char} (hc : c.isAlphanum = true) (hb : b.toNat = c.toNat) : Writes b [c]
  | plus : Writes 0x20 ['+']

/-- The form is that of a text: the bytes of the text, each written in one of the ways. -/
def Spells (text form : String) : Prop :=
  ∃ parts, List.Forall₂ Writes (Utf8.encode text.toList) parts ∧ form.toList = parts.flatten

/-- The segment is a key and a value, written with a `=` between them. -/
def SpellsPair (e : String × String) (segment : String) : Prop :=
  ∃ key value, Spells e.1 key ∧ Spells e.2 value ∧ segment = key ++ "=" ++ value

/-- The query is made of some pairs, written with a `&` between them. -/
def IsEncoding (es : List (String × String)) (query : String) : Prop :=
  ∃ segments, List.Forall₂ SpellsPair es segments ∧ query = "&".intercalate segments

/-! ## Bytes -/

theorem IsHex.hexDigit?_eq {n : Nat} {c : Char} (h : IsHex n c) : hexDigit? c = some n := by
  obtain ⟨ds, hds, hc⟩ := h
  have hall : ∀ ds ∈ hexDigits, ∀ i : Fin ds.length, hexDigit? ds[i] = some i.val := by
    decide +kernel
  obtain ⟨hn, rfl⟩ := List.getElem?_eq_some_iff.1 hc
  exact hall ds hds ⟨n, hn⟩

theorem exists_isHex {n : Nat} (hn : n < 16) : ∃ c, IsHex n c := by
  have hlength : n < "0123456789ABCDEF".toList.length := hn
  exact ⟨_, _, List.mem_cons_self, List.getElem?_eq_getElem hlength⟩

theorem IsHex.isAlphanum {n : Nat} {c : Char} (h : IsHex n c) : c.isAlphanum = true := by
  obtain ⟨ds, hds, hc⟩ := h
  have hall : hexDigits.all (·.all Char.isAlphanum) = true := by decide +kernel
  exact List.all_eq_true.1 (List.all_eq_true.1 hall ds hds) c (List.mem_of_getElem? hc)

theorem formBytes_cons {c : Char} (hpercent : c ≠ '%') (hplus : c ≠ '+') (rest : List Char) :
    formBytes (c :: rest) = String.utf8EncodeChar c ++ formBytes rest := by
  rw [formBytes]
  · exact fun _ _ _ h _ => hpercent h
  · exact hplus

theorem formBytes_percent {m n : Nat} {h l : Char} (hh : IsHex m h) (hl : IsHex n l)
    (rest : List Char) :
    formBytes ('%' :: h :: l :: rest) = UInt8.ofNat (m * 16 + n) :: formBytes rest := by
  simp only [formBytes, hh.hexDigit?_eq, hl.hexDigit?_eq]

namespace Writes

variable {b : UInt8} {cs : List Char}

/-- A byte is read as it was written, whatever follows it. -/
theorem formBytes_append (h : Writes b cs) (rest : List Char) :
    formBytes (cs ++ rest) = b :: formBytes rest := by
  cases h with
  | percent hh hl =>
    have hb : UInt8.ofNat (b.toNat / 16 * 16 + b.toNat % 16) = b := by
      rw [Nat.div_add_mod', UInt8.ofNat_toNat]
    exact (formBytes_percent hh hl rest).trans (by rw [hb])
  | @plain _ c hc hb =>
    have hpercent : c ≠ '%' := by rintro rfl; cases hc
    have hplus : c ≠ '+' := by rintro rfl; cases hc
    have hc := (Regex.isAlphanum_iff c).1 hc
    have hbyte : String.utf8EncodeChar c = [b] := by
      have hle : c.val.toNat ≤ 127 := by
        change c.toNat ≤ 127
        omega
      simp only [String.utf8EncodeChar, if_pos hle]
      exact congrArg ([·]) (UInt8.toNat_inj.1 (by simp [hb]; omega))
    rw [List.singleton_append, formBytes_cons hpercent hplus, hbyte, List.singleton_append]
  | plus => rfl

/-- Nothing but letters, digits, `%` and `+` is written. -/
theorem eq_of_mem (h : Writes b cs) {c : Char} (hc : c ∈ cs) :
    c.isAlphanum = true ∨ c = '%' ∨ c = '+' := by
  cases h with
  | percent hh hl =>
    simp only [List.mem_cons, List.not_mem_nil, or_false] at hc
    rcases hc with rfl | rfl | rfl
    · exact .inr (.inl rfl)
    · exact .inl hh.isAlphanum
    · exact .inl hl.isAlphanum
  | plain halphanum hb =>
    obtain rfl := List.mem_singleton.1 hc
    exact .inl halphanum
  | plus =>
    obtain rfl := List.mem_singleton.1 hc
    exact .inr (.inr rfl)

end Writes

/-- Each byte can be written. -/
theorem exists_writes (b : UInt8) : ∃ cs, Writes b cs := by
  have hb := b.toNat_lt
  obtain ⟨h, hh⟩ := exists_isHex (n := b.toNat / 16) (by omega)
  obtain ⟨l, hl⟩ := exists_isHex (n := b.toNat % 16) (by omega)
  exact ⟨_, .percent hh hl⟩

section Parts

variable {bs : List UInt8} {parts : List (List Char)} (h : List.Forall₂ Writes bs parts)
include h

theorem formBytes_flatten : formBytes parts.flatten = bs := by
  induction h with
  | nil => rfl
  | cons hpart _ ih => rw [List.flatten_cons, hpart.formBytes_append, ih]

theorem eq_of_mem_flatten {c : Char} (hc : c ∈ parts.flatten) :
    c.isAlphanum = true ∨ c = '%' ∨ c = '+' := by
  induction h with
  | nil => cases hc
  | cons hpart _ ih =>
    rcases List.mem_append.1 hc with hc | hc
    · exact hpart.eq_of_mem hc
    · exact ih hc

end Parts

/-! ## Texts -/

namespace Spells

variable {text form : String} (h : Spells text form)
include h

/-- The form of a text stands for the text. -/
theorem formText_eq : formText form.toList = text := by
  obtain ⟨parts, hparts, hform⟩ := h
  rw [formText, hform, formBytes_flatten hparts, Utf8.decode_encode, String.ofList_toList]

/-- A form cuts neither segments nor keys. -/
theorem notMem : '&' ∉ form.toList ∧ '=' ∉ form.toList := by
  obtain ⟨parts, hparts, hform⟩ := h
  constructor
  all_goals
    intro hmem
    rw [hform] at hmem
    rcases eq_of_mem_flatten hparts hmem with hc | hc | hc
    all_goals exact absurd hc (by decide)

end Spells

theorem exists_spells (text : String) : ∃ form, Spells text form := by
  choose f hf using exists_writes
  refine ⟨String.ofList ((Utf8.encode text.toList).map f).flatten, _, ?_, String.toList_ofList⟩
  exact List.forall₂_map_right_iff.2 (List.forall₂_same.2 fun b _ => hf b)

theorem cut_append {sep : Char} {key : List Char} (h : sep ∉ key) (value : List Char) :
    cut sep (key ++ sep :: value) = (key, some value) := by
  induction key with
  | nil => simp [cut]
  | cons c key ih =>
    obtain ⟨hc, hkey⟩ := List.ne_and_not_mem_of_not_mem_cons h
    simp [cut, Ne.symm hc, ih hkey]

namespace SpellsPair

variable {e : String × String} {segment : String} (h : SpellsPair e segment)
include h

theorem notMem : '&' ∉ segment.toList := by
  obtain ⟨key, value, hkey, hvalue, rfl⟩ := h
  simp [hkey.notMem.1, hvalue.notMem.1]

theorem ne_empty : segment ≠ "" := by
  obtain ⟨key, value, -, -, rfl⟩ := h
  simp

/-- A segment is decoded to the pair that it was written for. -/
theorem pair_eq : pair segment.toList = e := by
  obtain ⟨key, value, hkey, hvalue, rfl⟩ := h
  have hcut : cut '=' (key ++ "=" ++ value).toList = (key.toList, some value.toList) := by
    rw [← cut_append hkey.notMem.2 value.toList]
    simp
  rw [pair, hcut, Option.getD_some, hkey.formText_eq, hvalue.formText_eq]

end SpellsPair

/-- A query that is made of pairs has these pairs, in their order. -/
theorem IsEncoding.pairs_eq {es : List (String × String)} {query : String}
    (h : IsEncoding es query) : pairs query.toList = es := by
  obtain ⟨segments, hsegments, rfl⟩ := h
  have hone : ∀ s ∈ segments, '&' ∉ s.toList := by
    induction hsegments with
    | nil => simp
    | cons h _ ih => exact List.forall_mem_cons.2 ⟨h.notMem, ih⟩
  rw [pairs_segments hone]
  clear hone
  induction hsegments with
  | nil => rfl
  | cons h _ ih =>
    rw [List.filter_cons_of_pos (by simpa using h.ne_empty), List.map_cons, h.pair_eq, ih]

theorem exists_isEncoding (es : List (String × String)) : ∃ query, IsEncoding es query := by
  choose form hform using exists_spells
  refine ⟨_, es.map fun e => form e.1 ++ "=" ++ form e.2, ?_, rfl⟩
  exact List.forall₂_map_right_iff.2 (List.forall₂_same.2 fun e _ => ⟨_, _, hform _, hform _, rfl⟩)

/-- Pairs of any texts can be made into a query. Whichever way each of their bytes is written, the
parameters of the query are the keys of the pairs, each with the value of its last pair, and nothing
else. -/
theorem parseQuery_encoding (es : List (String × String)) :
    (∃ query, IsEncoding es query) ∧
    ∀ query, IsEncoding es query → parseQuery query = .ofList es ∧
      ∀ key, (parseQuery query).get? key = Dict.lastOf? es key := by
  refine ⟨exists_isEncoding es, fun query h => ?_⟩
  have hquery : parseQuery query = .ofList es := by rw [parseQuery, h.pairs_eq]
  exact ⟨hquery, fun key => by rw [hquery, Dict.get?_ofList]⟩

/-- Two spellings of a key with two bytes, and a pair of empty texts between them. -/
theorem parseQuery_encoding_mixed :
    let es := [("é", "a b"), ("", ""), ("é", "&")]
    let query := "%c3%A9=%61+b&=&%C3%a9=%26"
    IsEncoding es query ∧ parseQuery query = .ofList es ∧
      (parseQuery query).get? "é" = some "&" := by
  intro es query
  have hbytes : Utf8.encode "é".toList = [0xC3, 0xA9] := by decide +kernel
  have hbytes' : Utf8.encode "a b".toList = [0x61, 0x20, 0x62] := by decide +kernel
  have hbytes'' : Utf8.encode "&".toList = [0x26] := by decide +kernel
  have hkey : Spells "é" "%c3%A9" := by
    refine ⟨[['%', 'c', '3'], ['%', 'A', '9']], ?_, by decide +kernel⟩
    rw [hbytes]
    exact .cons (.percent (by decide) (by decide)) (.cons (.percent (by decide) (by decide)) .nil)
  have hkey' : Spells "é" "%C3%a9" := by
    refine ⟨[['%', 'C', '3'], ['%', 'a', '9']], ?_, by decide +kernel⟩
    rw [hbytes]
    exact .cons (.percent (by decide) (by decide)) (.cons (.percent (by decide) (by decide)) .nil)
  have hvalue : Spells "a b" "%61+b" := by
    refine ⟨[['%', '6', '1'], ['+'], ['b']], ?_, by decide +kernel⟩
    rw [hbytes']
    exact .cons (.percent (by decide) (by decide))
      (.cons .plus (.cons (.plain (by decide) (by decide)) .nil))
  have hvalue' : Spells "&" "%26" := by
    refine ⟨[['%', '2', '6']], ?_, by decide +kernel⟩
    rw [hbytes'']
    exact .cons (.percent (by decide) (by decide)) .nil
  have hempty : Spells "" "" := ⟨[], .nil, by decide +kernel⟩
  have hes : IsEncoding es query :=
    ⟨["%c3%A9=%61+b", "=", "%C3%a9=%26"],
      .cons ⟨_, _, hkey, hvalue, by decide +kernel⟩
        (.cons ⟨_, _, hempty, hempty, by decide +kernel⟩
          (.cons ⟨_, _, hkey', hvalue', by decide +kernel⟩ .nil)), by decide +kernel⟩
  obtain ⟨hall, hget⟩ := (parseQuery_encoding es).2 query hes
  exact ⟨hes, hall, (hget "é").trans (by decide +kernel)⟩

end Query

end Signpost
