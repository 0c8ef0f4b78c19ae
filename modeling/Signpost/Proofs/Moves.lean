import Mathlib.Data.List.TakeWhile
import Signpost.Proofs.Brackets
import Signpost.Regex.Read

/-!
# Moves of reading

A step of reading an expression takes one character and what belongs to it, and changes the state.
What is taken, and how the state is to change, depends on the state through its flags only.

## Main definitions

* `Move`: the ways in which a step changes the state.
* `readMove`: the move of a step.
* `State.make`: the state after a move.

## Main statements

* `step_eq`: a step reads a move and makes it.
* `readMove_ok`: a move is read without what stands behind it.
-/

namespace Signpost.Regex

/-! ## Parentheses and repetitions -/

section Parts

variable (f : Flags)

theorem readGroupName_ok {isFirst : Bool} {name cs rest : List Char}
    (h : readGroupName isFirst cs = .ok (name, rest)) :
    rest <:+ cs ∧ cs ≠ [] ∧
      ∀ more, readGroupName isFirst (cs ++ more) = .ok (name, rest ++ more) := by
  induction cs generalizing isFirst name with
  | nil => cases h
  | cons c cs ih =>
    simp only [readGroupName, List.cons_append] at h ⊢
    split at h
    · next hc =>
      split at h
      · cases h
      · next hfirst =>
        cases h
        exact ⟨List.suffix_cons .., List.cons_ne_nil _ _, fun more => by
          rw [if_pos hc, if_neg hfirst]⟩
    · next hc =>
      split at h
      · next hname =>
        obtain ⟨⟨later, behind⟩, hlater, heq⟩ := map_eq_ok.1 h
        cases heq
        obtain ⟨hsuffix, -, happend⟩ := ih hlater
        exact ⟨hsuffix.trans (List.suffix_cons ..), List.cons_ne_nil _ _, fun more => by
          rw [if_neg hc, if_pos hname, happend]
          rfl⟩
      · cases h

theorem readFlags_ok {l l' : FlagList} {last : Char} {cs rest : List Char}
    (h : readFlags l cs = .ok (l', last, rest)) :
    rest <:+ cs ∧ cs ≠ [] ∧ ∀ more, readFlags l (cs ++ more) = .ok (l', last, rest ++ more) := by
  induction cs generalizing l with
  | nil => cases h
  | cons c cs ih =>
    have hcons : ∀ {l}, readFlags l cs = .ok (l', last, rest) → rest <:+ c :: cs ∧ c :: cs ≠ [] ∧
        ∀ more, readFlags l (cs ++ more) = .ok (l', last, rest ++ more) :=
      fun h => ⟨(ih h).1.trans (List.suffix_cons ..), List.cons_ne_nil _ _, (ih h).2.2⟩
    simp only [readFlags, List.cons_append] at h ⊢
    split at h
    · next hc =>
      split at h
      · cases h
      · next hdangling =>
        cases h
        exact ⟨List.suffix_cons .., List.cons_ne_nil _ _, fun more => by
          rw [if_pos hc, if_neg hdangling]⟩
    · next hc =>
      simp only [if_neg hc]
      split at h
      · next hminus =>
        simp only [if_pos hminus]
        split at h
        · cases h
        · next hnegated => simpa only [if_neg hnegated] using hcons h
      · next hminus =>
        simp only [if_neg hminus]
        split at h
        · cases h
        · next flags hset =>
          split at h
          · cases h
          · next hnew => simpa only [if_neg hnew] using hcons h

theorem isLookAround_cons_cons (c d : Char) (cs : List Char) :
    isLookAround (c :: d :: cs) = isLookAround [c, d] := by
  unfold isLookAround
  split <;> split <;> simp_all

theorem isLookAround_cons {c : Char} (hc : c ≠ '<') (cs : List Char) :
    isLookAround (c :: cs) = isLookAround [c] := by
  unfold isLookAround
  split <;> split <;> simp_all

/-- What flags and the character that ends them stand for. -/
def flagsOpening : Except Fault (FlagList × Char × List Char) → Except Fault (Opening × List Char)
  | .error e => .error e
  | .ok (l, last, cs) =>
    if last = ':' then .ok (.scoped l.flags, cs)
    else if l.letters = [] then .error .repetitionMissing
    else .ok (.directive l.flags, cs)

theorem flagsOpening_ok {l : FlagList} {last : Char} {opening : Opening} {behind rest : List Char}
    (h : flagsOpening (.ok (l, last, behind)) = .ok (opening, rest)) :
    rest = behind ∧ ∀ cs, flagsOpening (.ok (l, last, cs)) = .ok (opening, cs) := by
  simp only [flagsOpening] at h ⊢
  split at h
  · next hlast =>
    cases h
    exact ⟨rfl, fun cs => by rw [if_pos hlast]⟩
  · next hlast =>
    split at h
    · cases h
    · next hletters =>
      cases h
      exact ⟨rfl, fun cs => by rw [if_neg hlast, if_neg hletters]⟩

/-- What stands behind a parenthesis and a question mark. -/
def readMark (f : Flags) (cs : List Char) : Except Fault (Opening × List Char) :=
  if isLookAround cs then .error .lookAround
  else match cs with
    | 'P' :: '<' :: cs =>
      (readGroupName true cs).map fun r => (.capture (some (String.ofList r.1)), r.2)
    | '<' :: cs =>
      (readGroupName true cs).map fun r => (.capture (some (String.ofList r.1)), r.2)
    | cs => flagsOpening (readFlags { flags := f } cs)

theorem readOpening_eq (cs : List Char) : readOpening f cs =
    if (f.skip cs).head? = some '?' then readMark f (f.skip cs).tail
    else .ok (.capture none, f.skip cs) := by
  unfold readOpening
  split
  · next inner hskip =>
    rw [hskip]
    rfl
  · next hmark =>
    rw [if_neg]
    intro hhead
    obtain ⟨inner, hskip⟩ := List.head?_eq_some_iff.1 hhead
    exact hmark inner hskip

/-- Without the start of a name, there are flags. -/
theorem readMark_flags {c : Char} (hc : c ≠ '<') {cs : List Char}
    (hP : ∀ rest, c :: cs ≠ 'P' :: '<' :: rest) : readMark f (c :: cs) =
      if isLookAround [c] then .error .lookAround
      else flagsOpening (readFlags { flags := f } (c :: cs)) := by
  unfold readMark
  rw [isLookAround_cons hc]
  split
  · rfl
  · split
    · next heq => exact absurd heq (hP _)
    · next heq => exact absurd (List.cons.inj heq).1 hc
    · rfl

theorem readMark_ok {opening : Opening} {cs rest : List Char}
    (h : readMark f cs = .ok (opening, rest)) :
    rest <:+ cs ∧ ∀ more, readMark f (cs ++ more) = .ok (opening, rest ++ more) := by
  unfold readMark at h
  split at h
  · cases h
  next hlook =>
  split at h
  · next name =>
    obtain ⟨⟨chars, behind⟩, hname, heq⟩ := map_eq_ok.1 h
    cases heq
    obtain ⟨hsuffix, -, happend⟩ := readGroupName_ok hname
    refine ⟨hsuffix.trans (List.suffix_append ['P', '<'] _), fun more => ?_⟩
    simp [readMark, isLookAround, happend, Except.map]
  · next name =>
    obtain ⟨⟨chars, behind⟩, hname, heq⟩ := map_eq_ok.1 h
    cases heq
    obtain ⟨hsuffix, hne, happend⟩ := readGroupName_ok hname
    refine ⟨hsuffix.trans (List.suffix_cons ..), fun more => ?_⟩
    obtain ⟨c, name, rfl⟩ := List.exists_cons_of_ne_nil hne
    have happend' := happend more
    rw [List.cons_append] at happend'
    rw [isLookAround_cons_cons] at hlook
    simp [readMark, isLookAround_cons_cons '<' c (name ++ more), hlook, happend', Except.map]
  · next hP hangle =>
    cases hflags : readFlags { flags := f } cs with
    | error e =>
      rw [hflags] at h
      cases h
    | ok r =>
      obtain ⟨l, last, behind⟩ := r
      rw [hflags] at h
      obtain ⟨rfl, hopening⟩ := flagsOpening_ok h
      obtain ⟨hsuffix, hne, happend⟩ := readFlags_ok hflags
      refine ⟨hsuffix, fun more => ?_⟩
      obtain ⟨c, inner, rfl⟩ := List.exists_cons_of_ne_nil hne
      have hc : c ≠ '<' := by
        rintro rfl
        exact hangle _ rfl
      have hP' : ∀ behind, c :: (inner ++ more) ≠ 'P' :: '<' :: behind := by
        intro behind heq
        cases inner with
        | nil =>
          cases (List.cons.inj heq).1
          cases hflags
        | cons d inner =>
          simp only [List.cons_append, List.cons.injEq] at heq
          obtain ⟨rfl, rfl, -⟩ := heq
          exact hP _ rfl
      rw [isLookAround_cons hc] at hlook
      rw [List.cons_append, readMark_flags f hc hP', if_neg hlook, ← List.cons_append, happend,
        hopening]

/-- Where a parenthesis is followed by a mark, more text does not matter. -/
theorem readOpening_ok {opening : Opening} {cs rest : List Char}
    (h : readOpening f cs = .ok (opening, rest)) :
    rest <:+ cs ∧ ∀ more, Inert more →
      (opening = .capture none → rest = [] → f.extended = false) →
      readOpening f (cs ++ more) = .ok (opening, rest ++ more) := by
  rw [readOpening_eq] at h
  split at h
  · next hhead =>
    obtain ⟨inner, hskip⟩ := List.head?_eq_some_iff.1 hhead
    rw [hskip, List.tail_cons] at h
    obtain ⟨hsuffix, happend⟩ := readMark_ok f h
    refine ⟨hsuffix.trans ((List.suffix_cons ..).trans (hskip ▸ f.skip_suffix cs)),
      fun more _ _ => ?_⟩
    rw [readOpening_eq, f.skip_append (by simp [hskip]), hskip]
    simp [happend]
  · next hhead =>
    cases h
    refine ⟨f.skip_suffix cs, fun more hmore hend => ?_⟩
    have hlonger : (f.skip cs ++ more).head? ≠ some '?' := by
      cases hskip : f.skip cs with
      | nil => exact hmore.1
      | cons c inner => rwa [hskip] at hhead
    rw [readOpening_eq, f.skip_append (hend rfl), if_neg hlonger]

theorem local_readReluctant : Local f fun cs => .ok (readReluctant cs) := by
  refine ((Local.pure true).mark (.inl rfl) (Local.pure false)).congr fun cs => ?_
  unfold readReluctant
  split
  · rfl
  · next hmark =>
    rw [if_neg]
    intro hhead
    obtain ⟨cs, rfl⟩ := List.head?_eq_some_iff.1 hhead
    exact hmark cs rfl

theorem takes_dropWhile (p : Char → Bool) : Takes fun cs => ((), cs.dropWhile p) where
  suffix _ := List.dropWhile_suffix p
  append := by
    intro cs h more
    rw [List.dropWhile_append, if_neg (by simpa using h)]

/-- What of a text is a number, and what is behind it. -/
def countPart (cs : List Char) : List Char × List Char :=
  let cs := cs.dropWhile Text.isBlank
  let r := readDigits f cs.length cs
  (r.1, r.2.dropWhile Text.isBlank)

theorem takes_countPart : Takes (countPart f) := by
  have hdigits : Takes fun cs => readDigits f cs.length cs := by
    refine (takes_readWhile f Char.isDigit).congr fun cs => ?_
    have heq : ∀ n cs, readDigits f n cs = readWhile f Char.isDigit n cs := by
      intro n
      induction n with
      | zero => exact fun _ => rfl
      | succ n ih =>
        intro cs
        cases cs with
        | nil => rfl
        | cons c cs => rw [readDigits, readWhile, ih]
    exact heq ..
  exact ((takes_dropWhile Text.isBlank).andThen fun _ => hdigits).andThen fun digits =>
    (takes_dropWhile Text.isBlank).map fun _ => digits

theorem readCount_ok {n : Nat} {cs rest : List Char} (h : readCount f cs = .ok (n, rest)) :
    rest <:+ cs ∧ cs ≠ [] ∧
      (rest ≠ [] → ∀ more, readCount f (cs ++ more) = .ok (n, rest ++ more)) := by
  have hread : ∀ cs, readCount f cs =
      if (countPart f cs).1 = [] then .error .countEmpty
      else if maxCount < (countPart f cs).1.foldl (fun n c => n * 10 + (c.toNat - 48)) 0 then
        .error .countTooLarge
      else .ok ((countPart f cs).1.foldl (fun n c => n * 10 + (c.toNat - 48)) 0,
        (countPart f cs).2) := fun _ => rfl
  rw [hread] at h
  split at h
  · cases h
  next hdigits =>
  split at h
  · cases h
  next hsmall =>
  cases h
  refine ⟨(takes_countPart f).suffix cs, ?_, fun hne more => ?_⟩
  · rintro rfl
    exact hdigits rfl
  · rw [hread, (takes_countPart f).append hne more, if_neg hdigits, if_neg hsmall]

theorem readCounts_ok {least : Nat} {most : Option Nat} {cs rest : List Char}
    (h : readCounts f cs = .ok (least, most, rest)) :
    rest <:+ cs ∧ ∀ more, readCounts f (cs ++ more) = .ok (least, most, rest ++ more) := by
  obtain ⟨⟨low, mid⟩, hlow, h⟩ := bind_eq_ok.1 h
  obtain ⟨hmid, hdark, happend⟩ := readCount_ok f hlow
  have hmidcs := hmid.trans (f.skip_suffix cs)
  have hlonger : mid ≠ [] → ∀ more, readCount f (f.skip (cs ++ more)) = .ok (low, mid ++ more) := by
    intro hne more
    rw [f.skip_append fun hnil => absurd hnil hdark]
    exact happend hne more
  dsimp only at h
  split at h
  · next behind =>
    cases h
    refine ⟨(List.suffix_cons ..).trans hmidcs, fun more => ?_⟩
    exact bind_eq_ok.2 ⟨_, hlonger (List.cons_ne_nil _ _) more, rfl⟩
  · next behind =>
    have hbehind : behind <:+ cs := (List.suffix_cons ..).trans hmidcs
    split at h
    · next last hskip =>
      cases h
      have hlast := f.skip_suffix behind
      rw [hskip] at hlast
      refine ⟨((List.suffix_cons ..).trans hlast).trans hbehind, fun more => ?_⟩
      refine bind_eq_ok.2 ⟨_, hlonger (List.cons_ne_nil _ _) more, ?_⟩
      simp only [List.cons_append]
      rw [f.skip_append (by simp [hskip]), hskip]
      rfl
    · next hbrace =>
      obtain ⟨⟨high, mid'⟩, hhigh, h⟩ := bind_eq_ok.1 h
      obtain ⟨hmid', hdark', happend'⟩ := readCount_ok f hhigh
      dsimp only at h
      split at h
      · next last =>
        split at h
        · next hle =>
          cases h
          refine ⟨((List.suffix_cons ..).trans hmid').trans ((f.skip_suffix _).trans hbehind),
            fun more => ?_⟩
          refine bind_eq_ok.2 ⟨_, hlonger (List.cons_ne_nil _ _) more, ?_⟩
          have hskip := f.skip_append (fun hnil => absurd hnil hdark') more
          have hbrace' : ∀ last, f.skip behind ++ more ≠ '}' :: last := by
            intro last heq
            obtain ⟨c, dark, hdark⟩ := List.exists_cons_of_ne_nil hdark'
            rw [hdark, List.cons_append] at heq
            obtain ⟨rfl, -⟩ := List.cons.inj heq
            exact hbrace dark hdark
          simp only [List.cons_append, hskip]
          refine bind_eq_ok.2 ⟨_, happend' (List.cons_ne_nil _ _) more, ?_⟩
          simp only [List.cons_append, if_pos hle]
          rfl
        · cases h
      · cases h
  · cases h

/-- The bounds of a counted repetition. -/
theorem local_readCounts :
    Local f fun cs => (readCounts f cs).map fun r => ((r.1, r.2.1), r.2.2) where
  suffix := by
    intro cs counts rest h
    obtain ⟨r, hcounts, heq⟩ := map_eq_ok.1 h
    cases heq
    exact (readCounts_ok f hcounts).1
  append := by
    intro cs counts rest more h _ _
    obtain ⟨r, hcounts, heq⟩ := map_eq_ok.1 h
    cases heq
    exact map_eq_ok.2 ⟨_, (readCounts_ok f hcounts).2 more, rfl⟩

end Parts

/-! ## Moves -/

/-- The ways in which the state changes. -/
inductive Move
  /-- One more part. -/
  | part (expr : Expr) (depth : Nat)
  /-- A parenthesis opens. -/
  | opens (opening : Opening)
  /-- A parenthesis closes. -/
  | closes
  /-- Another branch. -/
  | branches
  /-- The last part is repeated. -/
  | repeats (least : Nat) (most : Option Nat) (reluctant : Bool)

/-- The state after a move. -/
def State.make (st : State) : Move → Except Fault State
  | .part expr depth => .ok (st.push { expr, depth })
  | .opens opening => st.openGroup opening
  | .closes => st.closeGroup
  | .branches => .ok { st with level := st.level.branch }
  | .repeats least most reluctant => st.repeatLast least most reluctant

/-- The move that a character and what belongs to it stand for. -/
def readMove (f : Flags) (c : Char) (cs : List Char) : Except Fault (Move × List Char) :=
  match c with
  | '(' => (readOpening f cs).map fun r => (.opens r.1, r.2)
  | ')' => .ok (.closes, cs)
  | '|' => .ok (.branches, cs)
  | '[' => (readBracket f cs).map fun r => (.part (.set r.1.chars) r.1.depth, r.2)
  | '?' => .ok (.repeats 0 (some 1) (readReluctant cs).1, (readReluctant cs).2)
  | '*' => .ok (.repeats 0 none (readReluctant cs).1, (readReluctant cs).2)
  | '+' => .ok (.repeats 1 none (readReluctant cs).1, (readReluctant cs).2)
  | '{' => do
    let (least, most, cs) ← readCounts f cs
    let (reluctant, cs) := readReluctant (f.skip cs)
    return (.repeats least most reluctant, cs)
  | '\\' => do
    let (escaped, cs) ← readEscape f cs
    return (.part (← escaped.expr f) 0, cs)
  | '.' => (dot f).map fun expr => (.part expr 0, cs)
  | '^' => .ok (.part (.look (if f.multiLine then .lineStart f.crlf else .textStart)) 0, cs)
  | '$' => .ok (.part (.look (if f.multiLine then .lineEnd f.crlf else .textEnd)) 0, cs)
  | _ => (literalExpr f c false).map fun expr => (.part expr 0, cs)

/-- A step reads a move and makes it. -/
theorem step_eq (st : State) (c : Char) (cs : List Char) :
    step st c cs = readMove st.flags c cs >>= fun r => (st.make r.1).map (·, r.2) := by
  unfold step
  split
  case h_13 =>
    have hread : readMove st.flags c cs =
        (literalExpr st.flags c false).map fun expr => (.part expr 0, cs) := by
      unfold readMove
      split
      case h_13 => rfl
      all_goals contradiction
    rw [hread]
    dsimp only
    cases literalExpr st.flags c false <;> rfl
  all_goals
    unfold readMove
    dsimp only
  · cases readOpening st.flags cs <;> rfl
  · rfl
  · rfl
  · cases readBracket st.flags cs <;> rfl
  · rfl
  · rfl
  · rfl
  · cases readCounts st.flags cs <;> rfl
  · cases readEscape st.flags cs with
    | error e => rfl
    | ok r =>
      obtain ⟨escaped, rest⟩ := r
      simp only [bind, Except.bind]
      cases escaped.expr st.flags <;> rfl
  · cases dot st.flags <;> rfl
  · rfl
  · rfl

/-- A character on its own, or a reader behind it, that does not open a group. -/
theorem local_readMove (f : Flags) {c : Char} (hc : c ≠ '(') : Local f (readMove f c) := by
  have hreluctant : ∀ least most,
      Local f fun cs => .ok (Move.repeats least most (readReluctant cs).1, (readReluctant cs).2) :=
    fun least most => (local_readReluctant f).bind fun reluctant =>
      .pure (Move.repeats least most reluctant)
  have hvalue : ∀ v : Except Fault Expr,
      Local f fun cs => v.map fun expr => (Move.part expr 0, cs) := by
    intro v
    cases v with
    | error e => exact .error e
    | ok expr => exact .pure _
  have hcounts : Local f (readMove f '{') :=
    ((local_readCounts f).bind fun counts => (hreluctant counts.1 counts.2).skip).congr fun cs => by
      simp only [readMove]
      cases readCounts f cs <;> rfl
  unfold readMove
  split
  · exact absurd rfl hc
  · exact .pure _
  · exact .pure _
  · exact (local_readBracket f).map fun cls => Move.part (.set cls.chars) cls.depth
  · exact hreluctant ..
  · exact hreluctant ..
  · exact hreluctant ..
  · exact hcounts
  · exact (local_readEscape f).bind fun escaped => .value _ fun expr => Move.part expr 0
  · exact hvalue _
  · exact .pure _
  · exact .pure _
  · exact hvalue _

/-- The move takes the whole of what it stands for, whatever follows. -/
def Move.IsWhole (m : Move) : Prop := m = .closes ∨ ∃ flags, m = .opens (.directive flags)

theorem eq_of_isWhole {f : Flags} {c : Char} {cs rest : List Char} {m : Move}
    (h : readMove f c cs = .ok (m, rest)) (hm : m.IsWhole) : c = '(' ∨ c = ')' := by
  have hpart : ∀ {expr depth}, ¬(Move.part expr depth).IsWhole := by simp [Move.IsWhole]
  have hrepeats : ∀ {least most reluctant}, ¬(Move.repeats least most reluctant).IsWhole := by
    simp [Move.IsWhole]
  unfold readMove at h
  split at h
  · exact .inl rfl
  · exact .inr rfl
  · cases h
    simp [Move.IsWhole] at hm
  · obtain ⟨r, -, heq⟩ := map_eq_ok.1 h
    cases heq
    exact absurd hm hpart
  · cases h
    exact absurd hm hrepeats
  · cases h
    exact absurd hm hrepeats
  · cases h
    exact absurd hm hrepeats
  · obtain ⟨r, -, h⟩ := bind_eq_ok.1 h
    cases h
    exact absurd hm hrepeats
  · obtain ⟨r, -, h⟩ := bind_eq_ok.1 h
    obtain ⟨expr, -, h⟩ := bind_eq_ok.1 h
    cases h
    exact absurd hm hpart
  · obtain ⟨expr, -, heq⟩ := map_eq_ok.1 h
    cases heq
    exact absurd hm hpart
  · cases h
    exact absurd hm hpart
  · cases h
    exact absurd hm hpart
  · obtain ⟨expr, -, heq⟩ := map_eq_ok.1 h
    cases heq
    exact absurd hm hpart

/-- A move is read without what stands behind it. Where blanks do not count, only a whole move may
end the text. -/
theorem readMove_ok {f : Flags} {c : Char} {cs rest : List Char} {m : Move}
    (h : readMove f c cs = .ok (m, rest)) :
    rest <:+ cs ∧ ∀ more, Inert more → (rest = [] → f.extended = true → m.IsWhole) →
      readMove f c (cs ++ more) = .ok (m, rest ++ more) := by
  by_cases hopen : c = '('
  · subst hopen
    obtain ⟨⟨opening, behind⟩, hopening, heq⟩ := map_eq_ok.1 h
    cases heq
    obtain ⟨hsuffix, happend⟩ := readOpening_ok f hopening
    refine ⟨hsuffix, fun more hmore hend => map_eq_ok.2 ⟨_, happend more hmore ?_, rfl⟩⟩
    rintro rfl hnil
    cases hx : f.extended with
    | false => rfl
    | true => simpa [Move.IsWhole] using hend hnil hx
  · refine ⟨(local_readMove f hopen).suffix h, fun more hmore hend => ?_⟩
    by_cases hclose : c = ')'
    · subst hclose
      cases h
      rfl
    · refine (local_readMove f hopen).append h (fun hnil => ?_) hmore
      cases hx : f.extended with
      | false => rfl
      | true => exact absurd (eq_of_isWhole h (hend hnil hx)) (by simp [hopen, hclose])

end Signpost.Regex
