import Mathlib.Data.List.Induction
import Mathlib.Data.List.Nodup

/-!
# First and last occurrences

Facts about `List.eraseDups`, which keeps the first occurrence of each element, about lists without
repetitions or whose elements have different keys, and about the last element with a property.

## Main definitions

* `lastWith?`: the last element of a list with a property, and its place.
-/

namespace Signpost

variable {α β κ : Type*}

/-- Two lists that a list without repetitions starts with are the same if their elements are. -/
theorem eq_of_prefixes {xs ys all : List α} (hall : all.Nodup) (hxs : xs <+: all)
    (hys : ys <+: all) (h : ∀ x, x ∈ xs ↔ x ∈ ys) : xs = ys := by
  have hperm : xs.Perm ys :=
    (List.perm_ext_iff_of_nodup (hall.sublist hxs.sublist) (hall.sublist hys.sublist)).2 h
  have hlength := hperm.length_eq
  exact (List.prefix_of_prefix_length_le hxs hys (by omega)).eq_of_length hlength

section
variable [BEq κ]

/-- One more element is a first occurrence if it did not occur before. -/
theorem eraseDups_concat [LawfulBEq κ] (xs : List κ) (x : κ) :
    (xs ++ [x]).eraseDups = if xs.contains x then xs.eraseDups else xs.eraseDups ++ [x] := by
  rw [List.eraseDups_append]
  cases h : xs.contains x <;> simp_all [List.removeAll, List.eraseDups_cons]

theorem nodup_eraseDups [LawfulBEq κ] (xs : List κ) : xs.eraseDups.Nodup := by
  induction xs using List.reverseRecOn with
  | nil => simp
  | append_singleton xs x ih =>
    rw [eraseDups_concat]
    split
    · exact ih
    · next h => simpa using ih.concat (by simpa using h)

theorem idxOf?_concat (xs : List κ) (x y : κ) :
    (xs ++ [x]).idxOf? y = (xs.idxOf? y).or (if x == y then some xs.length else none) := by
  simp [List.idxOf?, List.findIdx?_append, List.findIdx?_cons]

/-- Looking up the place of a key and then the element there is a search for the key. -/
theorem bind_idxOf?_map (key : α → κ) (xs : List α) (k : κ) :
    ((xs.map key).idxOf? k).bind (fun i => xs[i]?) = xs.find? (key · == k) := by
  induction xs with
  | nil => rfl
  | cons x xs ih =>
    rw [List.map_cons, List.idxOf?_cons, List.find?_cons, ← ih]
    cases h : key x == k
    · cases (xs.map key).idxOf? k <;> simp
    · simp

end

section
variable [DecidableEq κ]

/-- Changing the element at the place of a key changes the element with that key. -/
theorem modify_idxOf? (key : α → κ) (f : α → α) {xs : List α} {k : κ} {i : Nat}
    (hxs : (xs.map key).Nodup) (hi : (xs.map key).idxOf? k = some i) :
    xs.modify i f = xs.map fun x => if key x = k then f x else x := by
  induction xs generalizing i with
  | nil => simp at hi
  | cons x xs ih =>
    obtain ⟨hx, hxs⟩ := List.nodup_cons.1 hxs
    rw [List.map_cons, List.idxOf?_cons] at hi
    by_cases h : key x = k
    · obtain rfl : 0 = i := by simpa [h] using hi
      have hrest : ∀ y ∈ xs, key y ≠ k := fun y hy hk =>
        hx (List.mem_map.2 ⟨y, hy, hk.trans h.symm⟩)
      have hmap : xs.map (fun y => if key y = k then f y else y) = xs :=
        (List.map_congr_left fun y hy => if_neg (hrest y hy)).trans (List.map_id' xs)
      simp [h, hmap]
    · obtain ⟨j, hj, rfl⟩ : ∃ j, (xs.map key).idxOf? k = some j ∧ j + 1 = i := by
        simpa [h] using hi
      simp [h, ih hxs hj]

end

/-- If all but one element of a list without repetitions lead to nothing, that one leads to the
whole. -/
theorem flatMap_eq_of_unique {f : α → List β} {xs : List α} (hxs : xs.Nodup) {a : α}
    (ha : a ∈ xs) (h : ∀ x ∈ xs, x ≠ a → f x = []) : xs.flatMap f = f a := by
  induction xs with
  | nil => simp at ha
  | cons x xs ih =>
    obtain ⟨hx, hxs⟩ := List.nodup_cons.1 hxs
    rw [List.flatMap_cons]
    rcases List.mem_cons.1 ha with rfl | ha
    · have hnil : xs.flatMap f = [] := List.flatMap_eq_nil_iff.2 fun y hy =>
        h y (List.mem_cons_of_mem _ hy) fun hya => hx (hya ▸ hy)
      rw [hnil, List.append_nil]
    · have hne : x ≠ a := fun hxa => hx (hxa ▸ ha)
      rw [h x (List.mem_cons_self ..) hne, List.nil_append,
        ih hxs ha fun y hy => h y (List.mem_cons_of_mem _ hy)]

/-- The last element of a list with a property, and its place. -/
def lastWith? (p : α → Bool) (xs : List α) : Option (α × Nat) :=
  (xs.zipIdx.filter fun x => p x.1).getLast?

theorem lastWith?_concat (p : α → Bool) (xs : List α) (x : α) :
    lastWith? p (xs ++ [x]) = if p x then some (x, xs.length) else lastWith? p xs := by
  rw [lastWith?, List.zipIdx_append, List.filter_append, List.getLast?_append]
  cases h : p x <;> simp [h, lastWith?]

theorem map_fst_lastWith? (p : α → Bool) (xs : List α) :
    (lastWith? p xs).map Prod.fst = (xs.filter p).getLast? := by
  induction xs using List.reverseRecOn with
  | nil => rfl
  | append_singleton xs x ih =>
    rw [lastWith?_concat, List.filter_append]
    cases h : p x <;> simp [h, ih]

theorem lastWith?_eq_some_iff {p : α → Bool} {xs : List α} {x : α} {i : Nat} :
    lastWith? p xs = some (x, i) ↔
      (xs[i]? = some x ∧ p x) ∧ ∀ j y, i < j → xs[j]? = some y → p y = false := by
  induction xs using List.reverseRecOn with
  | nil => simp [lastWith?]
  | append_singleton xs z ih =>
    rw [lastWith?_concat]
    split
    · next hz =>
      constructor
      · intro heq
        obtain ⟨rfl, rfl⟩ := Prod.mk.inj (Option.some.inj heq)
        refine ⟨⟨by simp, hz⟩, fun j y hj hy => ?_⟩
        rw [List.getElem?_eq_none (by simp; omega)] at hy
        cases hy
      · rintro ⟨⟨hi, -⟩, hlast⟩
        have hle : xs.length ≤ i := by
          by_contra hlt
          have hfalse := hlast xs.length z (by omega) (by simp)
          simp [hz] at hfalse
        have hlt : i < (xs ++ [z]).length := (List.getElem?_eq_some_iff.1 hi).1
        obtain rfl : i = xs.length := by simp at hlt; omega
        simpa using hi
    · next hz =>
      rw [ih]
      constructor
      · rintro ⟨⟨hi, hx⟩, hlast⟩
        have hlt : i < xs.length := (List.getElem?_eq_some_iff.1 hi).1
        refine ⟨⟨by rw [List.getElem?_append_left hlt, hi], hx⟩, fun j y hj hy => ?_⟩
        rcases Nat.lt_trichotomy j xs.length with hjl | rfl | hjl
        · exact hlast j y hj (by rwa [List.getElem?_append_left hjl] at hy)
        · obtain rfl : z = y := by simpa using hy
          simpa using hz
        · rw [List.getElem?_eq_none (by simp; omega)] at hy
          cases hy
      · rintro ⟨⟨hi, hx⟩, hlast⟩
        have hlt : i < (xs ++ [z]).length := (List.getElem?_eq_some_iff.1 hi).1
        have hne : i ≠ xs.length := by
          rintro rfl
          obtain rfl : z = x := by simpa using hi
          exact hz hx
        have hil : i < xs.length := by simp at hlt; omega
        refine ⟨⟨by rwa [List.getElem?_append_left hil] at hi, hx⟩, fun j y hj hy => ?_⟩
        have hjl : j < xs.length := (List.getElem?_eq_some_iff.1 hy).1
        exact hlast j y hj (by rw [List.getElem?_append_left hjl, hy])

/-- If some element has the property, there is a last one. -/
theorem exists_lastWith? {p : α → Bool} {xs : List α} {x : α} (hx : x ∈ xs) (hp : p x) :
    ∃ y i, lastWith? p xs = some (y, i) := by
  obtain ⟨i, hi, rfl⟩ := List.mem_iff_getElem.1 hx
  have hmem : (xs[i], i) ∈ xs.zipIdx.filter fun x => p x.1 := by
    simp [List.mem_zipIdx_iff_getElem?, hp]
  cases hlast : lastWith? p xs with
  | none => exact absurd (List.getLast?_eq_none_iff.1 hlast) (List.ne_nil_of_mem hmem)
  | some y => exact ⟨y.1, y.2, rfl⟩

end Signpost
