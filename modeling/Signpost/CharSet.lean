/-!
# Sets of characters

Sets of characters as lists of ranges of code points. The ranges rise and do not touch.

## Main definitions

* `CharSet`: the ranges.
* `CharSet.contains`: whether a character is in a set.
* `CharSet.insertRange`: a set with one more range.
* `CharSet.union`, `CharSet.complement`, `CharSet.inter`, `CharSet.diff`, `CharSet.symmDiff`: the
  operations on sets.
-/

namespace Signpost

/-- A set of characters. Each range is given by its first and its last code point. -/
structure CharSet where
  /-- The ranges of the set. -/
  ranges : List (Nat × Nat)
deriving DecidableEq, Repr, Inhabited

namespace CharSet

/-- The greatest code point. -/
def top : Nat := 0x10FFFF

/-- The set without characters. -/
def empty : CharSet := ⟨[]⟩

/-- The set of all characters. -/
def full : CharSet := ⟨[(0, top)]⟩

/-- The set of the characters between two code points. -/
def range (lo hi : Nat) : CharSet := ⟨[(lo, hi)]⟩

/-- The set of one character. -/
def single (c : Char) : CharSet := range c.toNat c.toNat

/-- The code point is in the set. -/
def containsCode (s : CharSet) (n : Nat) : Bool := s.ranges.any fun r => r.1 ≤ n && n ≤ r.2

/-- The character is in the set. -/
def contains (s : CharSet) (c : Char) : Bool := s.containsCode c.toNat

theorem contains_single (c a : Char) : (single c).contains a = decide (a = c) := by
  rw [Bool.eq_iff_iff, decide_eq_true_iff, ← Char.toNat_inj]
  simp [single, range, contains, containsCode]
  omega

/-- Rising ranges with one more, which swallows those that it touches. -/
def insertInto (lo hi : Nat) : List (Nat × Nat) → List (Nat × Nat)
  | [] => [(lo, hi)]
  | r :: rs =>
    if hi + 1 < r.1 then (lo, hi) :: r :: rs
    else if r.2 + 1 < lo then r :: insertInto lo hi rs
    else insertInto (min lo r.1) (max hi r.2) rs

/-- The set with the characters of one more range. -/
def insertRange (s : CharSet) (lo hi : Nat) : CharSet := ⟨insertInto lo hi s.ranges⟩

/-- The set with one more character. -/
def insert (s : CharSet) (c : Char) : CharSet := s.insertRange c.toNat c.toNat

/-- The characters of either set. -/
def union (s t : CharSet) : CharSet := t.ranges.foldl (fun s r => s.insertRange r.1 r.2) s

/-- The set of all characters of some ranges. -/
def ofRanges (rs : List (Nat × Nat)) : CharSet := empty.union ⟨rs⟩

/-- The gaps between rising ranges, from `lo` on. -/
def gaps (lo : Nat) : List (Nat × Nat) → List (Nat × Nat)
  | [] => if lo ≤ top then [(lo, top)] else []
  | r :: rs => if lo < r.1 then (lo, r.1 - 1) :: gaps (r.2 + 1) rs else gaps (r.2 + 1) rs

/-- The characters that are not in the set. -/
def complement (s : CharSet) : CharSet := ⟨gaps 0 s.ranges⟩

/-- The characters of both sets. -/
def inter (s t : CharSet) : CharSet := (s.complement.union t.complement).complement

/-- The characters of `s` that are not in `t`. -/
def diff (s t : CharSet) : CharSet := s.inter t.complement

/-- The characters of exactly one of the sets. -/
def symmDiff (s t : CharSet) : CharSet := (s.union t).diff (s.inter t)

/-- The set has no character. -/
def isEmpty (s : CharSet) : Bool := s.ranges.isEmpty

/-- All characters of the set are ASCII. -/
def isAscii (s : CharSet) : Bool := s.ranges.all fun r => r.2 < 0x80

end CharSet

end Signpost
