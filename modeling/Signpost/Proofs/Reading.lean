import Signpost.Proofs.Scanning
import Signpost.Regex

/-!
# Reading the source of a template

What the source of a template is read as: a character of its own for each literal character, a
capturing group with the expression of its class for each placeholder, and the two ends of the text
around them.

## Main definitions

* `Regex.Leads`: reading goes from one state and text to another.
* `Template.itemsFrom`: the parts that tokens are read as.
* `Template.namesFrom`: the names of their groups with the numbers.

## Main statements

* `Regex.leads_escape`: escaped text is read as its characters.
* `Template.leads_tokens`: the source of tokens is read as their parts.
* `Template.read_source`: the expression of a source.
-/

namespace Signpost.Regex

/-- Reading goes from a state and a text to another state and text, and uses up no more steps than
characters. -/
def Leads (st : State) (cs : List Char) (st' : State) (cs' : List Char) : Prop :=
  ∃ n, n + cs'.length ≤ cs.length ∧ ∀ fuel, steps (fuel + n) st cs = steps fuel st' cs'

namespace Leads

variable {st st' st'' : State} {cs cs' cs'' : List Char}

theorem refl (st : State) (cs : List Char) : Leads st cs st cs :=
  ⟨0, by simp, fun _ => rfl⟩

theorem trans (h : Leads st cs st' cs') (g : Leads st' cs' st'' cs'') : Leads st cs st'' cs'' := by
  obtain ⟨n, hn, hsteps⟩ := h
  obtain ⟨m, hm, gsteps⟩ := g
  exact ⟨m + n, by omega, fun fuel => by rw [← Nat.add_assoc, hsteps, gsteps]⟩

theorem of_step {c : Char} (hx : st.flags.extended = false)
    (h : step st c cs = .ok (st', cs')) (hlen : cs'.length ≤ cs.length) :
    Leads st (c :: cs) st' cs' :=
  ⟨1, by simp only [List.length_cons]; omega, fun fuel => by
    simp only [steps, Flags.skip_of_not_extended hx, h]⟩

/-- A text that leads to its end is read in as many steps as it has characters. -/
theorem steps_eq (h : Leads st cs st' []) (hx : st'.flags.extended = false) :
    steps cs.length st cs = .ok st' := by
  obtain ⟨n, hn, hsteps⟩ := h
  obtain ⟨fuel, hfuel⟩ : ∃ fuel, cs.length = fuel + n := ⟨cs.length - n, by
    simp only [List.length_nil] at hn
    omega⟩
  rw [hfuel, hsteps]
  cases fuel <;> simp [steps, hx]

end Leads

/-! ## Literal text -/

/-- A part that stands for one character. -/
def Item.char (c : Char) : Item := { expr := .set (.single c) }

theorem literalExpr_default (c : Char) (byte : Bool) :
    literalExpr {} c byte = .ok (.set (.single c)) := by
  simp [literalExpr, Flags.fold]

theorem step_literal {st : State} (hf : st.flags = {}) {c : Char} (hc : isMeta c = false)
    (cs : List Char) : step st c cs = .ok (st.push (.char c), cs) := by
  unfold step
  split
  case h_13 => simp [hf, literalExpr_default, Except.map, Item.char]
  -- Each other character that the reader treats in a way of its own has a meaning.
  all_goals exact absurd hc (by decide)

theorem step_escaped {st : State} (hf : st.flags = {}) {c : Char} (hc : isMeta c = true)
    (cs : List Char) : step st '\\' (c :: cs) = .ok (st.push (.char c), cs) := by
  have hread : readEscape {} (c :: cs) = .ok (.literal c false, cs) := by
    simp [readEscape, isEscapable, hc]
  simp only [step, hf, hread, bind, Except.bind, Escaped.expr, literalExpr_default]
  rfl

theorem leads_escapeChar {st : State} (hf : st.flags = {}) (c : Char) (cs : List Char) :
    Leads st (escapeChar c ++ cs) (st.push (.char c)) cs := by
  have hx : st.flags.extended = false := by rw [hf]
  unfold escapeChar
  split
  · next hc => exact .of_step hx (step_escaped hf hc cs) (by simp)
  · next hc => exact .of_step hx (step_literal hf (by simpa using hc) cs) (Nat.le_refl _)

/-- The state with some more parts in the innermost group. -/
def State.pushAll (st : State) (items : List Item) : State :=
  { st with level.items := items.reverse ++ st.level.items }

@[simp] theorem State.pushAll_nil (st : State) : st.pushAll [] = st := rfl

theorem State.pushAll_push (st : State) (i : Item) (items : List Item) :
    (st.push i).pushAll items = st.pushAll (i :: items) := by
  simp [pushAll, push, Level.push]

/-- Escaped text is read as its characters, whatever stands behind it. -/
theorem leads_escape {st : State} (hf : st.flags = {}) (text rest : List Char) :
    Leads st (text.flatMap escapeChar ++ rest) (st.pushAll (text.map .char)) rest := by
  induction text generalizing st with
  | nil => exact .refl ..
  | cons c text ih =>
    rw [List.flatMap_cons, List.append_assoc]
    have hrest := @ih (st.push (.char c)) hf
    rw [State.pushAll_push] at hrest
    exact (leads_escapeChar hf c _).trans hrest

/-- Escaped text starts with no character that has a meaning, except for a backslash. -/
theorem head?_escape_append {d : Char} (hd : isMeta d = true) (hslash : d ≠ '\\')
    (text : List Char) {rest : List Char} (hrest : rest.head? ≠ some d) :
    (text.flatMap escapeChar ++ rest).head? ≠ some d := by
  cases text with
  | nil => exact hrest
  | cons c cs =>
    rw [List.flatMap_cons, List.append_assoc, escapeChar]
    split
    · simpa using hslash.symm
    · next hc =>
      rw [List.singleton_append, List.head?_cons]
      rintro ⟨⟩
      exact hc hd

/-! ## Groups -/

theorem toNat_lt_of_isAlphanum {c : Char} (h : c.isAlphanum = true) : c.toNat < 0x80 := by
  delta Char.isAlphanum Char.isAlpha Char.isUpper Char.isLower Char.isDigit at h
  simp only [Bool.or_eq_true, Bool.and_eq_true, decide_eq_true_eq, ge_iff_le,
    UInt32.le_iff_toNat_le] at h
  change c.val.toNat < 128
  rcases h with (⟨-, h⟩ | ⟨-, h⟩) | ⟨-, h⟩ <;> exact Nat.lt_of_le_of_lt h (by decide)

/-- The names of parameters are names of groups. -/
theorem isGroupNameChar_of_isNameStart {c : Char} (h : Template.isNameStart c = true) :
    isGroupNameChar true c = true := by
  rw [Template.isNameStart, Bool.or_eq_true] at h
  rcases h with h | h
  · have hlt : c.toNat < 0x80 := toNat_lt_of_isAlphanum (by simp [Char.isAlphanum, h])
    simp [isGroupNameChar, hlt, h]
  · rw [beq_iff_eq.1 h]
    decide

theorem isGroupNameChar_of_isNameRest {c : Char} (h : Template.isNameRest c = true) :
    isGroupNameChar false c = true := by
  rw [Template.isNameRest, Bool.or_eq_true] at h
  rcases h with h | h
  · have hlt : c.toNat < 0x80 := toNat_lt_of_isAlphanum h
    rw [Char.isAlphanum, Bool.or_eq_true] at h
    rcases h with h | h <;> simp [isGroupNameChar, hlt, h]
  · rw [beq_iff_eq.1 h]
    decide

theorem readGroupName_append {name : List Char}
    (h : ∀ c ∈ name, Template.isNameRest c = true) (rest : List Char) :
    readGroupName false (name ++ '>' :: rest) = .ok (name, rest) := by
  induction name with
  | nil => rfl
  | cons c name ih =>
    have hc := h c (List.mem_cons_self ..)
    have hne : c ≠ '>' := by
      rintro rfl
      exact absurd hc (by decide)
    simp [readGroupName, hne, isGroupNameChar_of_isNameRest hc,
      ih fun d hd => h d (List.mem_cons_of_mem _ hd), Except.map]

theorem readOpening_named {name : String} (h : Template.IsName name) (rest : List Char) :
    readOpening {} ('?' :: 'P' :: '<' :: (name.toList ++ '>' :: rest)) =
      .ok (.capture (some name), rest) := by
  obtain ⟨c, cs, hname, hc, hcs⟩ := h
  have hne : c ≠ '>' := by
    rintro rfl
    exact absurd hc (by decide)
  have hread : readGroupName true (name.toList ++ '>' :: rest) = .ok (name.toList, rest) := by
    simp [hname, readGroupName, hne, isGroupNameChar_of_isNameStart hc,
      readGroupName_append hcs, Except.map]
  simp [readOpening, Flags.skip, isLookAround, hread, Except.map]

/-- A class of a placeholder, as it is read: one character of a set, and any number of characters
of a set behind it. -/
structure ValueClass where
  /-- The characters that may come first. -/
  first : CharSet
  /-- The characters that may come behind the first. -/
  rest : CharSet
  /-- As many characters as possible are preferred, and not as few. -/
  greedy : Bool
  /-- The depth at which the brackets nest. -/
  depth : Nat

/-- The expression of a class. -/
def ValueClass.expr (c : ValueClass) : Expr :=
  if c.first = c.rest then .rounds 1 none c.greedy (.set c.first)
  else .cat (.set c.first) (.rounds 0 none c.greedy (.set c.rest))

/-- One character or more of a set. -/
def ValueClass.many (ranges : List (Nat × Nat)) (greedy : Bool) (depth : Nat) : ValueClass :=
  ⟨⟨ranges⟩, ⟨ranges⟩, greedy, depth⟩

/-- The class of a builtin code. -/
def builtinClass : String → ValueClass
  | "i" => .many [(0x30, 0x39)] true 2
  | "a" => .many [(0x30, 0x39), (0x41, 0x5A), (0x61, 0x7A)] true 3
  | "c" =>
    ⟨⟨[(0x41, 0x5A), (0x61, 0x7A)]⟩, ⟨[(0x30, 0x39), (0x41, 0x5A), (0x5F, 0x5F), (0x61, 0x7A)]⟩,
      true, 4⟩
  | "h" => .many [(0x30, 0x39), (0x41, 0x46), (0x61, 0x66)] true 3
  | "s" => .many [(0x2D, 0x2D), (0x30, 0x39), (0x41, 0x5A), (0x5F, 0x5F), (0x61, 0x7A)] true 3
  | "*" => .many [(0, 0x09), (0x0B, 0x10FFFF)] false 1
  | "**" => .many [(0, 0x09), (0x0B, 0x10FFFF)] true 1
  | _ => .many [(0, 0x2E), (0x30, 0x10FFFF)] false 2

/-- The group around the class of a builtin code. -/
def Item.group (number : Nat) (code : String) : Item :=
  { expr := .capture number (builtinClass code).expr, depth := (builtinClass code).depth + 1 }

/-- The class of a builtin code is read up to the end of its group. -/
theorem leads_builtinClass {e : String × String} (he : e ∈ Template.builtinTypes) (number : Nat)
    (outer : Level) (stack : List OpenGroup) (count : Nat) (names : List (String × Nat))
    (rest : List Char) :
    Leads ⟨{}, {}, ⟨some number, {}, outer⟩ :: stack, count, names⟩ (e.2.toList ++ ')' :: rest)
      ⟨{}, outer.push (.group number e.1), stack, count, names⟩ rest := by
  simp only [Template.builtinTypes, List.mem_cons, List.not_mem_nil, or_false] at he
  rcases he with rfl | rfl | rfl | rfl | rfl | rfl | rfl | rfl
  · exact ⟨3, by simp; omega, fun _ => rfl⟩
  · exact ⟨3, by simp; omega, fun _ => rfl⟩
  · exact ⟨4, by simp; omega, fun _ => rfl⟩
  · exact ⟨3, by simp; omega, fun _ => rfl⟩
  · exact ⟨3, by simp; omega, fun _ => rfl⟩
  · exact ⟨3, by simp; omega, fun _ => rfl⟩
  · exact ⟨3, by simp; omega, fun _ => rfl⟩
  · exact ⟨3, by simp; omega, fun _ => rfl⟩

theorem readOpening_unnamed {e : String × String} (he : e ∈ Template.builtinTypes)
    (rest : List Char) :
    readOpening {} (e.2.toList ++ rest) = .ok (.capture none, e.2.toList ++ rest) := by
  simp only [Template.builtinTypes, List.mem_cons, List.not_mem_nil, or_false] at he
  rcases he with rfl | rfl | rfl | rfl | rfl | rfl | rfl | rfl <;> rfl

theorem resolve_builtin : ∀ e ∈ Template.builtinTypes,
    Template.Catalog.builtin.resolve e.1 = e.2 := by decide +kernel

/-- The part of a source that a placeholder with a builtin code stands for is read as the group
around the class of the code. -/
theorem leads_placeholder {code : String} (hcode : code ∈ Template.builtinTypes.map Prod.fst)
    {name : Option String} (hname : ∀ n, name = some n → Template.IsName n)
    {st : State} (hf : st.flags = {}) (hfresh : ∀ n, name = some n → n ∉ st.names.map Prod.fst)
    (rest : List Char) :
    Leads st (((Template.Token.placeholder code name).source .builtin).toList ++ rest)
      { st.push (.group (st.count + 1) code) with
        count := st.count + 1, names := st.names ++ name.toList.map (·, st.count + 1) } rest := by
  obtain ⟨e, he, rfl⟩ := List.mem_map.1 hcode
  obtain ⟨flags, level, stack, count, names⟩ := st
  cases hf
  have hclass := leads_builtinClass he (count + 1) level stack (count + 1)
    (names ++ name.toList.map (·, count + 1)) rest
  cases name with
  | none =>
    have hopen : step ⟨{}, level, stack, count, names⟩ '(' (e.2.toList ++ ')' :: rest) =
        .ok (⟨{}, {}, ⟨some (count + 1), {}, level⟩ :: stack, count + 1, names⟩,
          e.2.toList ++ ')' :: rest) := by
      simp [step, readOpening_unnamed he, State.openGroup, bind, Except.bind, pure, Except.pure]
    have htext : ((Template.Token.placeholder e.1 none).source .builtin).toList ++ rest =
        '(' :: (e.2.toList ++ ')' :: rest) := by
      simp [Template.Token.source, resolve_builtin e he]
    rw [htext]
    refine Leads.trans (.of_step rfl hopen (Nat.le_refl _)) ?_
    simpa [State.push] using hclass
  | some n =>
    have hlookup : names.lookup n = none :=
      List.lookup_eq_none_iff.2 fun x hx => by
        have hmem := hfresh n rfl
        simp only [List.mem_map, not_exists, not_and] at hmem
        simpa using Ne.symm (hmem x hx)
    have hopen : step ⟨{}, level, stack, count, names⟩ '('
        ('?' :: 'P' :: '<' :: (n.toList ++ '>' :: (e.2.toList ++ ')' :: rest))) =
        .ok (⟨{}, {}, ⟨some (count + 1), {}, level⟩ :: stack, count + 1,
          names ++ [(n, count + 1)]⟩, e.2.toList ++ ')' :: rest) := by
      simp [step, readOpening_named (hname n rfl), State.openGroup, hlookup, bind, Except.bind,
        pure, Except.pure]
    have htext : ((Template.Token.placeholder e.1 (some n)).source .builtin).toList ++ rest =
        '(' :: '?' :: 'P' :: '<' :: (n.toList ++ '>' :: (e.2.toList ++ ')' :: rest)) := by
      simp [Template.Token.source, resolve_builtin e he]
    rw [htext]
    refine Leads.trans (.of_step rfl hopen (by simp; omega)) ?_
    simpa [State.push] using hclass

end Signpost.Regex

namespace Signpost.Template

open Regex

/-- The source of a token starts with no character that has a meaning, except for a parenthesis and
a backslash. -/
theorem Token.head?_source_append {catalog : Catalog} {d : Char} (hd : isMeta d = true)
    (hslash : d ≠ '\\') (hopen : d ≠ '(') (t : Token) {rest : List Char}
    (hrest : rest.head? ≠ some d) : ((t.source catalog).toList ++ rest).head? ≠ some d := by
  cases t with
  | literal text =>
    rw [Token.source, toList_escape]
    exact head?_escape_append hd hslash _ hrest
  | placeholder code name => cases name <;> simpa [Token.source] using hopen.symm

theorem head?_sources_append {catalog : Catalog} {d : Char} (hd : isMeta d = true)
    (hslash : d ≠ '\\') (hopen : d ≠ '(') (tokens : List Token) {rest : List Char}
    (hrest : rest.head? ≠ some d) :
    ((tokens.flatMap fun t => (t.source catalog).toList) ++ rest).head? ≠ some d := by
  induction tokens with
  | nil => exact hrest
  | cons t tokens ih =>
    rw [List.flatMap_cons, List.append_assoc]
    exact t.head?_source_append hd hslash hopen ih

/-- The parts that tokens are read as behind a number of groups. -/
def itemsFrom (count : Nat) : List Token → List Item
  | [] => []
  | .literal text :: tokens => text.toList.map .char ++ itemsFrom count tokens
  | .placeholder code _ :: tokens => .group (count + 1) code :: itemsFrom (count + 1) tokens

/-- The names that tokens declare behind a number of groups, with the numbers of their groups. -/
def namesFrom (count : Nat) : List Token → List (String × Nat)
  | [] => []
  | .literal _ :: tokens => namesFrom count tokens
  | .placeholder _ name :: tokens =>
    name.toList.map (·, count + 1) ++ namesFrom (count + 1) tokens

/-- How many placeholders there are. -/
def placeholderCount : List Token → Nat
  | [] => 0
  | .literal _ :: tokens => placeholderCount tokens
  | .placeholder _ _ :: tokens => placeholderCount tokens + 1

/-- The code of a placeholder is one that every catalog starts with. -/
def Token.HasBuiltinCode : Token → Prop
  | .literal _ => True
  | .placeholder code _ => code ∈ builtinTypes.map Prod.fst

@[simp] theorem filterMap_name?_literal (text : String) (tokens : List Token) :
    (Token.literal text :: tokens).filterMap Token.name? = tokens.filterMap Token.name? := rfl

@[simp] theorem filterMap_name?_placeholder (code : String) (name : Option String)
    (tokens : List Token) :
    (Token.placeholder code name :: tokens).filterMap Token.name? =
      name.toList ++ tokens.filterMap Token.name? := by
  cases name <;> rfl

theorem map_fst_namesFrom (count : Nat) (tokens : List Token) :
    (namesFrom count tokens).map Prod.fst = tokens.filterMap Token.name? := by
  induction tokens generalizing count with
  | nil => rfl
  | cons t tokens ih =>
    cases t with
    | literal text => simpa [namesFrom] using ih count
    | placeholder code name => simp [namesFrom, ih, Function.comp_def]

/-- The state behind the source of tokens. -/
def stateAfter (st : State) (tokens : List Token) : State :=
  { st.pushAll (itemsFrom st.count tokens) with
    count := st.count + placeholderCount tokens
    names := st.names ++ namesFrom st.count tokens }

/-- The source of tokens is read as their parts. -/
theorem leads_tokens {tokens : List Token} (hcodes : ∀ t ∈ tokens, t.HasBuiltinCode)
    (hwf : ∀ t ∈ tokens, t.IsWellFormed) (st : State) (hf : st.flags = {})
    (hnames : (st.names.map Prod.fst ++ tokens.filterMap Token.name?).Nodup) (rest : List Char) :
    Leads st (tokens.flatMap (fun t => (t.source .builtin).toList) ++ rest) (stateAfter st tokens)
      rest := by
  induction tokens generalizing st with
  | nil => simpa [stateAfter, itemsFrom, placeholderCount, namesFrom] using Leads.refl st rest
  | cons t tokens ih =>
    rw [List.flatMap_cons, List.append_assoc]
    have hcodes' := fun t ht => hcodes t (List.mem_cons_of_mem _ ht)
    have hwf' := fun t ht => hwf t (List.mem_cons_of_mem _ ht)
    have ht := hwf t (List.mem_cons_self ..)
    cases t with
    | literal text =>
      have hliteral := leads_escape hf text.toList
        (tokens.flatMap (fun t => (t.source .builtin).toList) ++ rest)
      have hrest := ih hcodes' hwf' (st.pushAll (text.toList.map .char)) hf
        (by simpa [State.pushAll] using hnames)
      rw [← toList_escape] at hliteral
      refine hliteral.trans ?_
      simpa [stateAfter, State.pushAll, itemsFrom, namesFrom, placeholderCount] using hrest
    | placeholder code name =>
      rw [filterMap_name?_placeholder, ← List.append_assoc] at hnames
      -- The names are distinct, so the reader does not know this one yet.
      have hfresh : ∀ n, name = some n → n ∉ st.names.map Prod.fst := by
        rintro n rfl hmem
        exact (List.nodup_append.1 (List.nodup_append.1 hnames).1).2.2 n hmem n (by simp) rfl
      have hgroup := leads_placeholder (hcodes _ (List.mem_cons_self ..)) ht.2.2 hf hfresh
        (tokens.flatMap (fun t => (t.source .builtin).toList) ++ rest)
      refine hgroup.trans ?_
      have hrest := ih hcodes' hwf' { st.push (.group (st.count + 1) code) with
        count := st.count + 1, names := st.names ++ name.toList.map (·, st.count + 1) } hf
        (by simpa [Function.comp_def] using hnames)
      have hcount : st.count + 1 + placeholderCount tokens =
          st.count + (placeholderCount tokens + 1) := by omega
      simpa [stateAfter, State.pushAll, State.push, Level.push, itemsFrom, namesFrom,
        placeholderCount, hcount] using hrest

/-- The expression of tokens: their parts between the two ends of the text. -/
def exprOf (tokens : List Token) : Expr :=
  .seq (.look .textStart :: ((itemsFrom 0 tokens).map Item.expr ++ [.look .textEnd]))

/-- A part of tokens is a character or a group. -/
theorem eq_of_mem_itemsFrom {count : Nat} {tokens : List Token} {i : Item}
    (hi : i ∈ itemsFrom count tokens) :
    (∃ c, i = .char c) ∨ ∃ number code, i = .group number code := by
  induction tokens generalizing count with
  | nil => cases hi
  | cons t tokens ih =>
    cases t with
    | literal text =>
      rcases List.mem_append.1 hi with hi | hi
      · obtain ⟨c, -, rfl⟩ := List.mem_map.1 hi
        exact .inl ⟨c, rfl⟩
      · exact ih hi
    | placeholder code name =>
      rcases List.mem_cons.1 hi with rfl | hi
      · exact .inr ⟨count + 1, code, rfl⟩
      · exact ih hi

theorem depth_builtinClass (code : String) : (builtinClass code).depth ≤ 4 := by
  unfold builtinClass
  split <;> decide

theorem depth_itemsFrom {count : Nat} {tokens : List Token} {i : Item}
    (hi : i ∈ itemsFrom count tokens) : i.depth ≤ 5 := by
  rcases eq_of_mem_itemsFrom hi with ⟨c, rfl⟩ | ⟨number, code, rfl⟩
  · exact Nat.zero_le _
  · exact Nat.succ_le_succ (depth_builtinClass code)

theorem foldl_max_le {items : List Item} {n : Nat} (h : ∀ i ∈ items, i.depth ≤ n) {d : Nat}
    (hd : d ≤ n) : items.foldl (fun d i => max d i.depth) d ≤ n := by
  induction items generalizing d with
  | nil => exact hd
  | cons i items ih =>
    exact ih (fun j hj => h j (List.mem_cons_of_mem _ hj))
      (Nat.max_le.2 ⟨hd, h i (List.mem_cons_self ..)⟩)

theorem joinDepth_le {items : List Item} {n : Nat} (h : ∀ i ∈ items, i.depth ≤ n) :
    Item.joinDepth items ≤ n + 1 := by
  unfold Item.joinDepth
  split
  · exact Nat.zero_le _
  · exact Nat.le_succ_of_le (h _ (List.mem_cons_self ..))
  · exact Nat.succ_le_succ (foldl_max_le h (Nat.zero_le _))

/-- Parts that do not nest deep are one after another the expression of a text. -/
theorem finish_of_items {items : List Item} (h : ∀ i ∈ items, i.depth ≤ 5) (flags : Flags)
    (count : Nat) (names : List (String × Nat)) :
    State.finish ⟨flags, ⟨items.reverse, []⟩, [], count, names⟩ =
      .ok ⟨.seq (items.map Item.expr), names⟩ := by
  have hclose : (Level.mk items.reverse []).close =
      { expr := .seq (items.map Item.expr), depth := Item.joinDepth items } := by
    simp [Level.close, Level.branch, Item.choice, Item.seq, Item.joinDepth, Expr.choice]
  have hdepth : ¬maxDepth < Item.joinDepth items :=
    Nat.not_lt.2 (Nat.le_trans (joinDepth_le h) (by decide))
  simp [State.finish, hclose, hdepth]

/-- The source of tokens is read as their expression. -/
theorem read_source {tokens : List Token} (hcodes : ∀ t ∈ tokens, t.HasBuiltinCode)
    (hwf : ∀ t ∈ tokens, t.IsWellFormed) (hnames : (tokens.filterMap Token.name?).Nodup) :
    Regex.read ("^" ++ String.join (tokens.map (Token.source .builtin)) ++ "$") =
      .ok ⟨exprOf tokens, namesFrom 0 tokens⟩ := by
  let start : State := State.push {} { expr := .look .textStart }
  have hstart : Leads {} ('^' :: (tokens.flatMap (fun t => (t.source .builtin).toList) ++ ['$']))
      start _ := .of_step rfl rfl (Nat.le_refl _)
  have htokens := leads_tokens hcodes hwf start rfl hnames ['$']
  have hend : Leads (stateAfter start tokens) ['$']
      ((stateAfter start tokens).push { expr := .look .textEnd }) [] :=
    .of_step rfl rfl (Nat.le_refl _)
  have htext : ("^" ++ String.join (tokens.map (Token.source .builtin)) ++ "$").toList =
      '^' :: (tokens.flatMap (fun t => (t.source .builtin).toList) ++ ['$']) := by
    simp [List.flatMap_map]
  have hitems : ∀ i ∈ { expr := .look .textStart } ::
      (itemsFrom 0 tokens ++ [{ expr := .look .textEnd }]), Item.depth i ≤ 5 := by
    intro i hi
    simp only [List.mem_cons, List.mem_append, List.not_mem_nil, or_false] at hi
    rcases hi with rfl | hi | rfl
    · exact Nat.zero_le _
    · exact depth_itemsFrom hi
    · exact Nat.zero_le _
  have hfinish := finish_of_items hitems {} (placeholderCount tokens) (namesFrom 0 tokens)
  rw [Regex.read, htext]
  simp only [((hstart.trans htokens).trans hend).steps_eq rfl, bind, Except.bind]
  simpa [stateAfter, start, State.pushAll, State.push, Level.push, exprOf] using hfinish

end Signpost.Template
