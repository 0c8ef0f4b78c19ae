import Mathlib.Data.List.Nodup
import Signpost.Proofs.Distinct
import Signpost.Proofs.Language

/-!
# Captured values

The groups of a compiled template hold the values of its placeholders in the preferred way to cut a
path.

## Main statements

* `Template.groupText_of_mem`: the group of a placeholder holds its value.
* `Pattern.captures_builtin`: what a template with builtin codes captures in a path that it matches.
-/

namespace Signpost

namespace Template

open Regex

/-! ## Placeholders in a path -/

namespace Preferred

variable {tokens : List Token} {path : List Char} {pieces : List (List Char)}

theorem map_number_holesFrom (h : Preferred tokens path pieces) (count index : Nat) :
    (holesFrom count index tokens pieces).map Hole.number =
      List.range' (count + 1) (placeholderCount tokens) := by
  induction h generalizing count index with
  | nil => rfl
  | literal later ih => exact ih ..
  | placeholder hk hv later best ih =>
    rw [holesFrom, List.map_cons, ih, placeholderCount, List.range'_succ]

theorem filterMap_name_holesFrom (h : Preferred tokens path pieces) (count index : Nat) :
    (holesFrom count index tokens pieces).filterMap (fun h => h.name.map (·, h.number)) =
      namesFrom count tokens := by
  induction h generalizing count index with
  | nil => rfl
  | literal later ih => exact ih ..
  | @placeholder code name k v tokens path pieces hk hv later best ih =>
    cases name <;> simp [holesFrom, namesFrom, ih]

theorem map_value_holesFrom (h : Preferred tokens path pieces) (count index : Nat) :
    (holesFrom count index tokens pieces).map (fun h => (h.name, String.ofList h.value)) =
      values tokens pieces := by
  induction h generalizing count index with
  | nil => rfl
  | literal later ih => exact ih ..
  | placeholder hk hv later best ih => exact congrArg _ (ih ..)

theorem map_fst_namedValues (h : Preferred tokens path pieces) :
    (namedValues tokens pieces).map Prod.fst = tokens.filterMap Token.name? := by
  induction h with
  | nil => rfl
  | literal later ih => exact ih
  | @placeholder code name k v tokens path pieces hk hv later best ih =>
    cases name with
    | none => exact ih
    | some n => exact congrArg (n :: ·) ih

/-- The value of a placeholder stands at its place in the path. -/
theorem slice_of_mem_holesFrom (h : Preferred tokens path pieces) (count : Nat)
    (before : List Char) :
    ∀ x ∈ holesFrom count before.length tokens pieces,
      slice (before ++ path) x.start (x.start + x.value.length) = String.ofList x.value := by
  -- What is before a token grows by the piece of the token.
  induction h generalizing count before with
  | nil => simp [holesFrom]
  | @literal text tokens path pieces later ih =>
    rw [holesFrom, ← List.length_append, ← List.append_assoc]
    exact ih count (before ++ text.toList)
  | @placeholder code name k v tokens path pieces hk hv later best ih =>
    intro x hx
    rcases List.mem_cons.1 hx with rfl | hx
    · simp [slice]
    · rw [← List.length_append] at hx
      rw [← List.append_assoc]
      exact ih (count + 1) (before ++ v) x hx

end Preferred

/-! ## Groups -/

/-- Of the marks of some placeholders with different numbers, those with the number of one are its
own. -/
theorem lastMark_of_mem {holes : List Hole} (hnodup : (holes.map Hole.number).Nodup) {x : Hole}
    (hx : x ∈ holes) (opens : Bool) :
    lastMark (holes.flatMap Hole.marks) x.number opens =
      some (if opens then x.start else x.start + x.value.length) := by
  have hfilter : (holes.flatMap Hole.marks).filter
      (fun m => m.group == x.number && m.opens == opens) =
        x.marks.filter fun m => m.group == x.number && m.opens == opens := by
    rw [List.filter_flatMap]
    refine flatMap_eq_of_unique hnodup.of_map hx fun y hy hne => ?_
    have hnumber : y.number ≠ x.number := fun heq =>
      hne (List.inj_on_of_nodup_map hnodup hy hx heq)
    simp [Hole.marks, hnumber]
  rw [lastMark, hfilter]
  cases opens <;> simp [Hole.marks]

/-- The group of a placeholder holds its value. -/
theorem groupText_of_mem {path : List Char} {holes : List Hole}
    (hnodup : (holes.map Hole.number).Nodup) {x : Hole} (hx : x ∈ holes)
    (hslice : slice path x.start (x.start + x.value.length) = String.ofList x.value) :
    groupText path (holes.flatMap Hole.marks) x.number = some (String.ofList x.value) := by
  simp [groupText, lastMark_of_mem hnodup hx, hslice]

theorem groups_seq (es : List Expr) : (Expr.seq es).groups = es.flatMap Expr.groups := by
  fun_induction Expr.seq es with
  | case1 => rfl
  | case2 e => simp
  | case3 e es hne ih => simp [Expr.groups, ih]

theorem groups_class (c : ValueClass) : c.expr.groups = [] := by
  unfold ValueClass.expr
  split <;> rfl

theorem flatMap_groups_itemsFrom (count : Nat) (tokens : List Token) :
    ((itemsFrom count tokens).flatMap fun i => i.expr.groups) =
      List.range' (count + 1) (placeholderCount tokens) := by
  induction tokens generalizing count with
  | nil => rfl
  | cons t tokens ih =>
    cases t with
    | literal text =>
      have hchars : (text.toList.map Item.char).flatMap (fun i => i.expr.groups) = [] := by
        simp [List.flatMap_map, Item.char, Expr.groups]
      rw [itemsFrom, List.flatMap_append, hchars, List.nil_append, ih, placeholderCount]
    | placeholder code name =>
      rw [itemsFrom, List.flatMap_cons, ih, placeholderCount, List.range'_succ]
      simp [Item.group, Expr.groups, groups_class]

/-- The groups of a template are its placeholders, numbered in their order. -/
theorem groups_exprOf (tokens : List Token) :
    (exprOf tokens).groups = List.range' 1 (placeholderCount tokens) := by
  have hitems := flatMap_groups_itemsFrom 0 tokens
  rw [exprOf, groups_seq]
  simpa [List.flatMap_map, Expr.groups] using hitems

theorem foldl_max_range' (n : Nat) : (List.range' 1 n).foldl max 0 = n := by
  induction n with
  | zero => rfl
  | succ n ih =>
    rw [List.range'_concat, List.foldl_append, ih]
    simp
    omega

theorem lookup_of_mem {es : List (String × Nat)} (hnodup : (es.map Prod.fst).Nodup)
    {e : String × Nat} (he : e ∈ es) : es.lookup e.1 = some e.2 := by
  induction es with
  | nil => cases he
  | cons x es ih =>
    obtain ⟨hx, hes⟩ := List.nodup_cons.1 hnodup
    rw [List.lookup_cons]
    rcases List.mem_cons.1 he with rfl | he
    · simp
    · have hne : e.1 ≠ x.1 := fun heq => hx (heq ▸ List.mem_map_of_mem he)
      rw [beq_false_of_ne hne]
      exact ih hes he

end Template

namespace Pattern

open Template

variable {template : String} {tokens : List Token} {pieces : List (List Char)} {p : Pattern}
  {path : String}

/-- The group of a placeholder holds its value in the preferred way to cut the path. -/
theorem groupText_of_mem_holesFrom (h : Preferred tokens path.toList pieces) {x : Hole}
    (hx : x ∈ holesFrom 0 0 tokens pieces) :
    Regex.groupText path.toList ((holesFrom 0 0 tokens pieces).flatMap Hole.marks) x.number =
      some (String.ofList x.value) := by
  refine groupText_of_mem ?_ hx (h.slice_of_mem_holesFrom 0 [] x hx)
  rw [h.map_number_holesFrom]
  exact List.nodup_range' ..

/-- The name of a placeholder stands for the number of its group. -/
theorem groupNamed?_of_mem_holesFrom (hp : compile template .builtin = .ok p)
    (hscan : scan template = .ok tokens) (hcodes : ∀ t ∈ tokens, t.HasBuiltinCode)
    (h : Preferred tokens path.toList pieces) {x : Hole}
    (hx : x ∈ holesFrom 0 0 tokens pieces) {n : String} (hn : x.name = some n) :
    p.regex.groupNamed? n = some x.number := by
  obtain ⟨hnodup, -, hregex⟩ := regex_of_compile hp hscan hcodes
  have hmem : (n, x.number) ∈ namesFrom 0 tokens := by
    rw [← h.filterMap_name_holesFrom 0 0]
    exact List.mem_filterMap.2 ⟨x, hx, by simp [hn]⟩
  have hlookup : (namesFrom 0 tokens).lookup n = some x.number :=
    lookup_of_mem (by rwa [map_fst_namesFrom]) hmem
  have hgroup : x.number ∈ (exprOf tokens).groups := by
    rw [groups_exprOf, ← h.map_number_holesFrom 0 0]
    exact List.mem_map_of_mem hx
  simp [Regex.groupNamed?, hregex, hlookup, hgroup]

theorem allCaptures_of_preferred (hp : compile template .builtin = .ok p)
    (hscan : scan template = .ok tokens) (hcodes : ∀ t ∈ tokens, t.HasBuiltinCode)
    (h : Preferred tokens path.toList pieces)
    (htrace : p.regex.trace? path.toList =
      some ((holesFrom 0 0 tokens pieces).flatMap Hole.marks)) :
    p.allCaptures path = some ((values tokens pieces).map fun x => some x.2) := by
  have hcount : p.regex.groupCount = placeholderCount tokens := by
    rw [Regex.groupCount, (regex_of_compile hp hscan hcodes).2.2, groups_exprOf,
      foldl_max_range']
  have hgroups := h.map_number_holesFrom 0 0
  rw [List.range'_eq_map_range] at hgroups
  rw [allCaptures, Regex.groups?, htrace, hcount, Option.map_some, ← h.map_value_holesFrom 0 0,
    List.map_map]
  congr 1
  calc (List.range (placeholderCount tokens)).map (fun i => Regex.groupText path.toList
          ((holesFrom 0 0 tokens pieces).flatMap Hole.marks) (i + 1))
      = ((holesFrom 0 0 tokens pieces).map Hole.number).map (Regex.groupText path.toList
          ((holesFrom 0 0 tokens pieces).flatMap Hole.marks)) := by
        rw [hgroups, List.map_map]
        simp [Function.comp_def, Nat.add_comm]
    _ = (holesFrom 0 0 tokens pieces).map fun x => some (String.ofList x.value) := by
        rw [List.map_map]
        exact List.map_congr_left fun x hx => groupText_of_mem_holesFrom h hx

theorem captures_of_preferred (hp : compile template .builtin = .ok p)
    (hscan : scan template = .ok tokens) (hcodes : ∀ t ∈ tokens, t.HasBuiltinCode)
    (h : Preferred tokens path.toList pieces)
    (htrace : p.regex.trace? path.toList =
      some ((holesFrom 0 0 tokens pieces).flatMap Hole.marks)) :
    p.captures path = some (namedValues tokens pieces) := by
  have hnames : p.names = (holesFrom 0 0 tokens pieces).filterMap Hole.name := by
    rw [(regex_of_compile hp hscan hcodes).2.1, ← map_fst_namesFrom 0,
      ← h.filterMap_name_holesFrom 0 0, List.map_filterMap]
    simp [Function.comp_def]
  rw [captures, Regex.named?, htrace, hnames, Option.map_some, namedValues,
    ← h.map_value_holesFrom 0 0, List.filterMap_map, List.filterMap_filterMap]
  congr 1
  refine List.filterMap_congr fun x hx => ?_
  cases hn : x.name with
  | none => simp [hn]
  | some n =>
    simp [hn, groupNamed?_of_mem_holesFrom hp hscan hcodes h hx hn,
      groupText_of_mem_holesFrom h hx]

/-- What a template with builtin codes captures in a path that it matches: the values of its
placeholders in the preferred way to cut the path, and by name those that have one. -/
theorem captures_builtin
    (hcodes : ∀ tokens, scan template = .ok tokens → ∀ t ∈ tokens, t.HasBuiltinCode)
    (hp : compile template .builtin = .ok p) (hmatch : p.isMatch path = true) :
    ∃ tokens pieces, scan template = .ok tokens ∧ Preferred tokens path.toList pieces ∧
      (∀ others, Preferred tokens path.toList others → others = pieces) ∧
      p.allCaptures path = some ((values tokens pieces).map fun x => some x.2) ∧
      p.captures path = some (namedValues tokens pieces) ∧
      (namedValues tokens pieces).map Prod.fst = tokens.filterMap Token.name? ∧
      (tokens.filterMap Token.name?).Nodup := by
  obtain ⟨tokens, hscan, hnodup⟩ := exists_tokens_of_compile hp
  have hfinds := finds_trace? hp hscan (hcodes _ hscan) path.toList
  rw [isMatch, Regex.isMatch, Option.isSome_iff_exists] at hmatch
  obtain ⟨trace, htrace⟩ := hmatch
  rw [htrace] at hfinds
  obtain ⟨pieces, hpieces, rfl⟩ := hfinds
  exact ⟨tokens, pieces, hscan, hpieces, fun others h => h.unique hpieces,
    allCaptures_of_preferred hp hscan (hcodes _ hscan) hpieces htrace,
    captures_of_preferred hp hscan (hcodes _ hscan) hpieces htrace,
    hpieces.map_fst_namedValues, hnodup⟩

/-- The first value is as long as it can be, and the second one has no name. -/
theorem captures_builtin_directory :
    ∃ p tokens pieces, compile "/[**:dir]/[*]" .builtin = .ok p ∧
      Preferred tokens "/a/b/c".toList pieces ∧
      (values tokens pieces).map Prod.snd = ["a/b", "c"] ∧
      p.captures "/a/b/c" = some [("dir", "a/b")] := by
  have hscan : scan "/[**:dir]/[*]" = .ok [.literal "/", .placeholder "**" (some "dir"),
      .literal "/", .placeholder "*" none] := by
    decide +kernel
  have hcodes : ∀ tokens, scan "/[**:dir]/[*]" = .ok tokens → ∀ t ∈ tokens, t.HasBuiltinCode := by
    intro tokens h
    cases h.symm.trans hscan
    simp [Token.HasBuiltinCode, builtinTypes]
  have hmatch : (compile "/[**:dir]/[*]" .builtin).toOption.any (·.isMatch "/a/b/c") = true := by
    decide +kernel
  have hall : (compile "/[**:dir]/[*]" .builtin).toOption.bind (·.allCaptures "/a/b/c") =
      some [some "a/b", some "c"] := by
    decide +kernel
  have hnamed : (compile "/[**:dir]/[*]" .builtin).toOption.bind (·.captures "/a/b/c") =
      some [("dir", "a/b")] := by
    decide +kernel
  cases hp : compile "/[**:dir]/[*]" .builtin with
  | error e => simp [hp, Except.toOption] at hall
  | ok p =>
    rw [hp] at hmatch hall hnamed
    obtain ⟨tokens, pieces, -, hpieces, -, hvalues, -⟩ := captures_builtin hcodes hp hmatch
    have hmap := congrArg (List.filterMap id) (Option.some.inj (hvalues.symm.trans hall))
    exact ⟨p, tokens, pieces, rfl, hpieces, by simpa using hmap, hnamed⟩

end Pattern

end Signpost
