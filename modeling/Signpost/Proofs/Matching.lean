import Signpost.Proofs.Classes

/-!
# Matching a path against a template

The expression of a template finds the preferred way to cut a path, and nothing where there is no
way. Its groups open and close at the two ends of the values.

## Main definitions

* `onward`: the search for the rest of a template.
* `Hole`: a placeholder at its place in a path.
* `holesFrom`: the placeholders of tokens in a path that is cut.
* `Finds`: an outcome tells the preferred way to cut the rest of a path.

## Main statements

* `finds_onward`: the search finds the preferred way to cut the rest of a path.
* `trace?_exprOf`: the match of a template is what that search finds at the start of the path.
-/

namespace Signpost.Template

open Regex

/-! ## The search for tokens -/

/-- The search for the parts of an expression one after another, and then for what `k` does. -/
def seekAll (es : List Expr) (k : Onward) : Onward := es.foldr (fun e k => e.circuit.seek k) k

theorem seek_seq (es : List Expr) (k : Onward) :
    (Expr.seq es).circuit.seek k = seekAll es k := by
  fun_induction Expr.seq es with
  | case1 => rfl
  | case2 e => rfl
  | case3 e es hne ih => simp [Expr.circuit, Circuit.seek, seekAll, ih]

/-- The search for tokens behind a number of groups, and then for the end of the text. -/
def onward (count : Nat) (tokens : List Token) : Onward :=
  seekAll ((itemsFrom count tokens).map Item.expr) ((Circuit.look .textEnd).seek done)

theorem onward_literal (count : Nat) (text : String) (tokens : List Token) :
    onward count (.literal text :: tokens) =
      seekAll ((text.toList.map Item.char).map Item.expr) (onward count tokens) := by
  simp [onward, seekAll, itemsFrom]

theorem onward_placeholder (count : Nat) (code : String) (name : Option String)
    (tokens : List Token) :
    onward count (.placeholder code name :: tokens) =
      (Circuit.capture (count + 1) (builtinClass code).expr.circuit).seek
        (onward (count + 1) tokens) := rfl

theorem seek_char (c : Char) (k : Onward) (before : Option Char) (index : Nat) (a : Char)
    (cs : List Char) :
    (Item.char c).expr.circuit.seek k ⟨before, index, a :: cs⟩ =
      if a = c then k ⟨some a, index + 1, cs⟩ else none := by
  simp [Item.char, Expr.circuit, Circuit.seek, CharSet.contains_single]

/-- The search for the characters of a text goes on behind the text. -/
theorem seekAll_chars {text rest : List Char} {s : Spot} (h : s.rest = text ++ rest)
    (k : Onward) :
    seekAll ((text.map Item.char).map Item.expr) k s = k (s.beyond text rest) := by
  induction text generalizing s with
  | nil =>
    rw [Spot.beyond_nil h]
    rfl
  | cons c text ih =>
    obtain ⟨before, index, chars⟩ := s
    cases h
    rw [Spot.beyond_cons _ c (text ++ rest), ← ih rfl]
    exact (seek_char c _ before index c _).trans (if_pos rfl)

/-- Where a text does not stand, the search for its characters finds nothing. -/
theorem seekAll_chars_eq_none {text : List Char} {s : Spot} (h : ∀ rest, s.rest ≠ text ++ rest)
    (k : Onward) : seekAll ((text.map Item.char).map Item.expr) k s = none := by
  induction text generalizing s with
  | nil => exact absurd rfl (h s.rest)
  | cons c text ih =>
    obtain ⟨before, index, chars⟩ := s
    cases chars with
    | nil => rfl
    | cons a cs =>
      refine (seek_char c _ before index a cs).trans ?_
      split
      · next ha =>
        refine ih fun rest hrest => h rest ?_
        simpa [ha] using hrest
      · rfl

/-- A placeholder at its place in a path. -/
structure Hole where
  /-- The name of the placeholder. -/
  name : Option String
  /-- The number of its group. -/
  number : Nat
  /-- How many characters of the path are before its value. -/
  start : Nat
  /-- Its value. -/
  value : List Char

/-- The group of a placeholder opens and closes around its value. -/
def Hole.marks (h : Hole) : Trace :=
  [⟨h.number, h.start, true⟩, ⟨h.number, h.start + h.value.length, false⟩]

/-- The placeholders of tokens behind a number of groups and of characters. -/
def holesFrom (count index : Nat) : List Token → List (List Char) → List Hole
  | .literal _ :: tokens, v :: pieces => holesFrom count (index + v.length) tokens pieces
  | .placeholder _ name :: tokens, v :: pieces =>
    ⟨name, count + 1, index, v⟩ :: holesFrom (count + 1) (index + v.length) tokens pieces
  | _, _ => []

/-- An outcome tells how to cut the rest of the text by the tokens in the preferred way, or that
there is no way. -/
def Finds (count : Nat) (tokens : List Token) (s : Spot) : Outcome → Prop
  | none => ∀ pieces, ¬Cut tokens s.rest pieces
  | some trace =>
    ∃ pieces, Preferred tokens s.rest pieces ∧
      trace = (holesFrom count s.index tokens pieces).flatMap Hole.marks

theorem Finds.ne_none {count : Nat} {tokens : List Token} {s : Spot} {o : Outcome}
    (h : Finds count tokens s o) {pieces : List (List Char)} (hcut : Cut tokens s.rest pieces) :
    o ≠ none := by
  rintro rfl
  exact h pieces hcut

theorem finds_nil (count : Nat) (s : Spot) : Finds count [] s (onward count [] s) := by
  obtain ⟨before, index, text⟩ := s
  cases text with
  | nil => exact ⟨[], .nil, rfl⟩
  | cons a cs =>
    intro pieces hcut
    exact absurd ((cut_nil_iff ..).1 hcut).1 (List.cons_ne_nil a cs)

theorem finds_literal {count : Nat} {text : String} {tokens : List Token} (s : Spot)
    (ih : ∀ t, Finds count tokens t (onward count tokens t)) :
    Finds count (.literal text :: tokens) s (onward count (.literal text :: tokens) s) := by
  have hcut : ∀ pieces, Cut (.literal text :: tokens) s.rest pieces →
      ∃ rest later, s.rest = text.toList ++ rest ∧ Cut tokens rest later := by
    intro pieces h
    obtain ⟨v, rest, later, hv, hrest, -, hlater⟩ := (cut_cons_iff ..).1 h
    exact ⟨rest, later, beq_iff_eq.1 hv ▸ hrest, hlater⟩
  rw [onward_literal]
  by_cases h : ∃ rest, s.rest = text.toList ++ rest
  · obtain ⟨rest, hrest⟩ := h
    rw [seekAll_chars hrest]
    have hfinds := ih (s.beyond text.toList rest)
    cases ho : onward count tokens (s.beyond text.toList rest) with
    | none =>
      rw [ho] at hfinds
      intro pieces h
      obtain ⟨rest', later, hrest', hlater⟩ := hcut pieces h
      rw [List.append_cancel_left (hrest'.symm.trans hrest)] at hlater
      exact hfinds later hlater
    | some trace =>
      rw [ho] at hfinds
      obtain ⟨pieces, hpieces, rfl⟩ := hfinds
      exact ⟨text.toList :: pieces, hrest ▸ .literal hpieces, rfl⟩
  · rw [seekAll_chars_eq_none (not_exists.1 h)]
    intro pieces hpieces
    obtain ⟨rest, -, hrest, -⟩ := hcut pieces hpieces
    exact h ⟨rest, hrest⟩

theorem finds_placeholder {count : Nat} {code : String} {name : Option String}
    {tokens : List Token} {k : Kind} (hk : kind? code = some k) (s : Spot)
    (ih : ∀ t, Finds (count + 1) tokens t (onward (count + 1) tokens t)) :
    Finds count (.placeholder code name :: tokens) s
      (onward count (.placeholder code name :: tokens) s) := by
  simp only [onward_placeholder, Circuit.seek]
  have hpicks := picks_builtinClass hk s fun t =>
    (onward (count + 1) tokens t).mark t.place (count + 1) false
  cases ho : (builtinClass code).expr.circuit.seek
      (fun t => (onward (count + 1) tokens t).mark t.place (count + 1) false) s with
  | none =>
    rw [ho] at hpicks
    intro pieces hcut
    obtain ⟨v, rest, later, hv, hrest, -, hlater⟩ := (cut_cons_iff ..).1 hcut
    have hnone := hpicks v rest hrest (by simpa [Token.admits, hk] using hv)
    exact (ih (s.beyond v rest)).ne_none hlater (Option.map_eq_none_iff.1 hnone)
  | some trace =>
    rw [ho] at hpicks
    obtain ⟨v, rest, hrest, hv, htrace, best⟩ := hpicks
    have hfinds := ih (s.beyond v rest)
    obtain ⟨trace, hlater, rfl⟩ := Option.map_eq_some_iff.1 htrace
    rw [hlater] at hfinds
    obtain ⟨pieces, hpieces, rfl⟩ := hfinds
    refine ⟨v :: pieces, ?_, rfl⟩
    rw [hrest]
    refine .placeholder hk hv hpieces ?_
    intro w others later hw hadmits hcut
    -- From a value that leaves a path for the tokens behind, the search for them finds something.
    refine best w others (hrest.trans hw.symm) hadmits ?_
    exact mt Option.map_eq_none_iff.1 ((ih (s.beyond w others)).ne_none hcut)

theorem exists_kind {code : String} (h : code ∈ builtinTypes.map Prod.fst) :
    ∃ k, kind? code = some k := by
  simp only [builtinTypes, List.map_cons, List.map_nil, List.mem_cons, List.not_mem_nil,
    or_false] at h
  rcases h with rfl | rfl | rfl | rfl | rfl | rfl | rfl | rfl <;> exact ⟨_, rfl⟩

/-- The search for tokens finds the preferred way to cut the rest of the text. -/
theorem finds_onward {tokens : List Token} (hcodes : ∀ t ∈ tokens, t.HasBuiltinCode)
    (count : Nat) (s : Spot) : Finds count tokens s (onward count tokens s) := by
  induction tokens generalizing count s with
  | nil => exact finds_nil count s
  | cons t tokens ih =>
    have htokens := ih fun t ht => hcodes t (List.mem_cons_of_mem _ ht)
    cases t with
    | literal text => exact finds_literal s (htokens count)
    | placeholder code name =>
      obtain ⟨k, hk⟩ := exists_kind (hcodes _ (List.mem_cons_self ..))
      exact finds_placeholder hk s (htokens (count + 1))

/-! ## The expression of a template -/

theorem isSteady_seq {es : List Expr} (h : ∀ e ∈ es, e.IsSteady) : (Expr.seq es).IsSteady := by
  fun_induction Expr.seq es with
  | case1 => trivial
  | case2 e => exact h e (List.mem_cons_self ..)
  | case3 e es hne ih =>
    exact ⟨h e (List.mem_cons_self ..), ih fun e he => h e (List.mem_cons_of_mem _ he)⟩

theorem isSteady_itemsFrom {count : Nat} {tokens : List Token} {i : Item}
    (hi : i ∈ itemsFrom count tokens) : i.expr.IsSteady := by
  rcases eq_of_mem_itemsFrom hi with ⟨c, rfl⟩ | ⟨number, code, rfl⟩
  · trivial
  · exact isSteady_builtinClass code

theorem isSteady_exprOf (tokens : List Token) : (exprOf tokens).IsSteady := by
  refine isSteady_seq fun e he => ?_
  simp only [List.mem_cons, List.mem_append, List.mem_map, List.not_mem_nil, or_false] at he
  rcases he with rfl | ⟨i, hi, rfl⟩ | rfl
  · exact trivial
  · exact isSteady_itemsFrom hi
  · exact trivial

theorem seek_exprOf (tokens : List Token) :
    (exprOf tokens).circuit.seek done = (Circuit.look .textStart).seek (onward 0 tokens) := by
  rw [exprOf, seek_seq]
  simp [seekAll, onward, Expr.circuit]

/-- A search that has no outcome behind a character has none but at the start of the text. -/
theorem leftmost_of_anchored {k : Onward} (h : ∀ s, s.before ≠ none → k s = none)
    (text : List Char) : leftmost k none 0 text = k ⟨none, 0, text⟩ := by
  have hbehind : ∀ (cs : List Char) (a : Char) (index : Nat),
      leftmost k (some a) index cs = none := by
    intro cs
    induction cs with
    | nil => exact fun a index => h _ (Option.some_ne_none a)
    | cons b cs ih =>
      intro a index
      rw [leftmost, h _ (Option.some_ne_none a), Option.none_or, ih]
  cases text with
  | nil => rfl
  | cons a cs => rw [leftmost, hbehind, Option.or_none]

/-- The match of a template in a path is what the search for its tokens finds at the start. -/
theorem trace?_exprOf (tokens : List Token) (names : List (String × Nat)) (path : List Char) :
    trace? ⟨⟨exprOf tokens, names⟩, (exprOf tokens).circuit⟩ path =
      onward 0 tokens ⟨none, 0, path⟩ := by
  have hanchored : ∀ s : Spot, s.before ≠ none →
      (Circuit.look .textStart).seek (onward 0 tokens) s = none := by
    intro s hs
    simp [Circuit.seek, Look.holds, hs]
  refine (trace?_eq (isSteady_exprOf tokens) path).trans ?_
  rw [seek_exprOf, leftmost_of_anchored hanchored]
  rfl

end Signpost.Template
