import Mathlib.Algebra.GroupWithZero.Nat
import Signpost.Proofs.Reading

/-!
# Room for the expression of a template

Each part of a template with builtin codes takes a bounded amount of room, so that a template of
ordinary length is never refused for its size.

## Main statements

* `Template.room_itemsFrom_le`: the room of the parts of a template is bounded by its length.
* `Template.footprint_exprOf_le`: templates of up to 20000 characters are not too large.
-/

namespace Signpost.Template

open Regex

theorem length_codeBytes_le (n : Nat) : (codeBytes n).length ≤ 4 := by
  unfold codeBytes
  split
  · exact Nat.le_add_left 1 3
  split
  · exact Nat.le_add_left 2 2
  split
  · exact Nat.le_add_left 3 1
  · exact Nat.le_refl 4

theorem room_char_le (p : Prices) (c : Char) : (Item.char c).expr.room p ≤ 128 := by
  have hbytes := length_codeBytes_le c.toNat
  simp only [Item.char, Expr.room, Prices.set, CharSet.single, CharSet.range, if_true, stateRoom]
  omega

theorem room_chars_le (p : Prices) (cs : List Char) :
    ((cs.map Item.char).map fun i => i.expr.room p).sum ≤ 128 * cs.length := by
  induction cs with
  | nil => exact Nat.zero_le _
  | cons c cs ih =>
    have hc := room_char_le p c
    simp only [List.map_cons, List.sum_cons, List.length_cons]
    omega

theorem room_group_le {p : Prices} (hp : p = .forwards ∨ p = .backwards) (number : Nat)
    (code : String) : (Item.group number code).expr.room p ≤ 1040 := by
  change (builtinClass code).expr.room p + p.group ≤ 1040
  unfold builtinClass
  rcases hp with rfl | rfl <;> split <;> decide +kernel

theorem room_seq_le (p : Prices) :
    ∀ es : List Expr, (Expr.seq es).room p ≤ stateRoom + (es.map (Expr.room p)).sum
  | [] => Nat.le_refl _
  | [e] => Nat.le_add_left ..
  | e :: f :: es => by
    have hrest := room_seq_le p (f :: es)
    change e.room p + (Expr.seq (f :: es)).room p ≤ _
    rw [List.map_cons, List.sum_cons]
    omega

/-- The parts of tokens take no more room than their characters can pay for. -/
theorem room_itemsFrom_le {p : Prices} (hp : p = .forwards ∨ p = .backwards) (count : Nat)
    (tokens : List Token) :
    ((itemsFrom count tokens).map fun i => i.expr.room p).sum ≤
      520 * (render tokens).toList.length := by
  induction tokens generalizing count with
  | nil => exact Nat.zero_le _
  | cons t tokens ih =>
    rw [toList_render_cons, List.length_append]
    cases t with
    | literal text =>
      have hrest := ih count
      have htext := room_chars_le p text.toList
      simp only [itemsFrom, Token.render, List.map_append, List.sum_append]
      omega
    | placeholder code name =>
      have hrest := ih (count + 1)
      have hgroup := room_group_le hp (count + 1) code
      have hlength : 2 ≤ (Token.placeholder code name).render.toList.length := by
        cases name with
        | none => simp [Token.render]
        | some n =>
          simp [Token.render]
          omega
      simp only [itemsFrom, List.map_cons, List.sum_cons]
      omega

/-- The automata of a template of ordinary length are never too large. -/
theorem footprint_exprOf_le {tokens : List Token} (h : (render tokens).length ≤ 20000) :
    (exprOf tokens).footprint ≤ maxFootprint := by
  have hroom : ∀ p, p = Prices.forwards ∨ p = Prices.backwards →
      (exprOf tokens).room p ≤ 3 * stateRoom + 520 * 20000 := by
    intro p hp
    have hitems := room_itemsFrom_le hp 0 tokens
    have hseq := room_seq_le p
      (.look .textStart :: ((itemsFrom 0 tokens).map Item.expr ++ [.look .textEnd]))
    simp only [List.map_cons, List.map_append, List.map_map, List.map_nil, List.sum_cons,
      List.sum_append, List.sum_nil, Expr.room, Function.comp_def] at hseq
    rw [String.length_toList] at hitems
    unfold exprOf
    omega
  refine Nat.max_le.2 ⟨?_, ?_⟩
  · exact Nat.le_trans (hroom _ (.inl rfl)) (by decide)
  · exact Nat.le_trans (hroom _ (.inr rfl)) (by decide)

end Signpost.Template
