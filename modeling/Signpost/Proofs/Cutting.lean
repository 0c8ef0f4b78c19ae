import Mathlib.Data.List.Forall2
import Signpost.Template.Source
import Signpost.Text.Hex

/-!
# Cutting a path by a template

What the paths of a template are, said without an expression: a path is cut into pieces, one for
each token, a literal takes its own text and a placeholder a value of its code. Of the ways to cut a
path one is preferred: from left to right, each placeholder takes the shortest or the longest value
that leaves a path for the tokens behind it, as its code wants.

## Main definitions

* `Kind`: what the values of a builtin code are, and which are preferred.
* `Cut`: the ways to cut a path by tokens.
* `Preferred`: the preferred way.
* `values`, `namedValues`: the values of the placeholders in a path that is cut.

## Main statements

* `Preferred.cut`, `Preferred.unique`: there is one preferred way at most, and it is a way.
-/

namespace Signpost.Template

/-- The values of a code. -/
structure Kind where
  /-- The characters that a value may start with. -/
  first : Char → Bool
  /-- The characters that a value may go on with. -/
  rest : Char → Bool
  /-- Long values are preferred to short ones, and not the other way round. -/
  greedy : Bool

namespace Kind

/-- A value has one character at least, and all of them are allowed where they stand. -/
def admits (k : Kind) : List Char → Bool
  | [] => false
  | c :: cs => k.first c && cs.all k.rest

/-- The values of some characters at every place. -/
def of (chars : Char → Bool) (greedy : Bool) : Kind := ⟨chars, chars, greedy⟩

/-- The value `v` is as good as the value `w`. -/
def Prefers (k : Kind) (v w : List Char) : Prop :=
  if k.greedy then w.length ≤ v.length else v.length ≤ w.length

end Kind

/-- The values of the builtin codes. -/
def kind? : String → Option Kind
  | "i" => some (.of Char.isDigit true)
  | "a" => some (.of Char.isAlphanum true)
  | "c" => some ⟨Char.isAlpha, fun c => c.isAlphanum || c == '_', true⟩
  | "h" => some (.of (fun c => (Text.hexDigit? c).isSome) true)
  | "s" => some (.of (fun c => c.isAlphanum || c == '-' || c == '_') true)
  | "*" => some (.of (· != '\n') false)
  | "**" => some (.of (· != '\n') true)
  | "" => some (.of (· != '/') false)
  | _ => none

/-- A literal takes its own text, and a placeholder a value of its code. -/
def Token.admits : Token → List Char → Bool
  | .literal text, v => v == text.toList
  | .placeholder code _, v => (kind? code).any (·.admits v)

/-- The pieces of a path, one for each token, with nothing left over. -/
def Cut (tokens : List Token) (path : List Char) (pieces : List (List Char)) : Prop :=
  List.Forall₂ (fun t v => t.admits v = true) tokens pieces ∧ pieces.flatten = path

/-- The preferred pieces of a path. The value of a placeholder is, by its length, the best one of
those that leave a path for the tokens behind. -/
inductive Preferred : List Token → List Char → List (List Char) → Prop
  | nil : Preferred [] [] []
  | literal {text : String} {tokens : List Token} {path : List Char} {pieces : List (List Char)}
      (later : Preferred tokens path pieces) :
      Preferred (.literal text :: tokens) (text.toList ++ path) (text.toList :: pieces)
  | placeholder {code : String} {name : Option String} {k : Kind} {v : List Char}
      {tokens : List Token} {path : List Char} {pieces : List (List Char)}
      (hk : kind? code = some k) (hv : k.admits v = true) (later : Preferred tokens path pieces)
      (best : ∀ w rest others, w ++ rest = v ++ path → k.admits w = true →
        Cut tokens rest others → k.Prefers v w) :
      Preferred (.placeholder code name :: tokens) (v ++ path) (v :: pieces)

/-- The placeholders with their names and values, in the order of the template. -/
def values (tokens : List Token) (pieces : List (List Char)) : List (Option String × String) :=
  (tokens.zip pieces).filterMap fun
    | (.literal _, _) => none
    | (.placeholder _ name, v) => some (name, String.ofList v)

/-- The names of the placeholders that have one, with their values. -/
def namedValues (tokens : List Token) (pieces : List (List Char)) : List (String × String) :=
  (values tokens pieces).filterMap fun x => x.1.map (·, x.2)

theorem cut_nil_iff (path : List Char) (pieces : List (List Char)) :
    Cut [] path pieces ↔ path = [] ∧ pieces = [] := by
  constructor
  · rintro ⟨⟨⟩, rfl⟩
    exact ⟨rfl, rfl⟩
  · rintro ⟨rfl, rfl⟩
    exact ⟨.nil, rfl⟩

theorem cut_cons_iff (t : Token) (tokens : List Token) (path : List Char)
    (pieces : List (List Char)) :
    Cut (t :: tokens) path pieces ↔
      ∃ v rest later, t.admits v = true ∧ path = v ++ rest ∧ pieces = v :: later ∧
        Cut tokens rest later := by
  constructor
  · rintro ⟨hpieces, rfl⟩
    cases hpieces with
    | @cons _ v _ later hv hlater =>
      exact ⟨v, later.flatten, later, hv, rfl, rfl, hlater, rfl⟩
  · rintro ⟨v, rest, later, hv, rfl, rfl, hlater, rfl⟩
    exact ⟨.cons hv hlater, rfl⟩

/-- The values of two ways to begin a path are the same if each is as good as the other. -/
theorem Kind.eq_of_prefers {k : Kind} {v w rest rest' : List Char} (h : v ++ rest = w ++ rest')
    (hv : k.Prefers v w) (hw : k.Prefers w v) : v = w ∧ rest = rest' := by
  refine List.append_inj h ?_
  cases hgreedy : k.greedy with
  | true =>
    simp only [Prefers, hgreedy, if_true] at hv hw
    exact Nat.le_antisymm hw hv
  | false =>
    simp only [Prefers, hgreedy, Bool.false_eq_true, if_false] at hv hw
    exact Nat.le_antisymm hv hw

namespace Preferred

variable {tokens : List Token} {path : List Char} {pieces pieces' : List (List Char)}

theorem cut (h : Preferred tokens path pieces) : Cut tokens path pieces := by
  induction h with
  | nil => exact ⟨.nil, rfl⟩
  | literal later ih => exact (cut_cons_iff ..).2 ⟨_, _, _, by simp [Token.admits], rfl, rfl, ih⟩
  | placeholder hk hv later best ih =>
    exact (cut_cons_iff ..).2 ⟨_, _, _, by simp [Token.admits, hk, hv], rfl, rfl, ih⟩

/-- There is one preferred way to cut a path at most. -/
theorem unique (h : Preferred tokens path pieces) (h' : Preferred tokens path pieces') :
    pieces = pieces' := by
  induction h generalizing pieces' with
  | nil => cases h' with
    | nil => rfl
  | @literal text tokens path pieces later ih =>
    generalize hpath : text.toList ++ path = whole at h'
    cases h' with
    | literal later' =>
      rw [ih (List.append_cancel_left hpath ▸ later')]
  | @placeholder code name k v tokens path pieces hk hv later best ih =>
    generalize hpath : v ++ path = whole at h'
    cases h' with
    | @placeholder _ _ k' w _ path' _ hk' hw later' best' =>
      cases hk.symm.trans hk'
      obtain ⟨rfl, rfl⟩ := Kind.eq_of_prefers hpath (best w path' _ hpath.symm hw later'.cut)
        (best' v path _ hpath hv later.cut)
      rw [ih later']

end Preferred

end Signpost.Template
