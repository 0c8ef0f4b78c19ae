import Mathlib.Data.List.TakeWhile
import Signpost.Proofs.Locality
import Signpost.Regex.Bracket

/-!
# How far bracketed classes are read

A bracketed class is read up to the bracket that closes it, and what stands behind that bracket does
not matter.
-/

namespace Signpost.Regex

variable {α : Type}

/-! ## Bracketed classes -/

section Brackets

variable (f : Flags)

theorem readMinuses_eq (n : Nat) (r : Run) (cs : List Char) : readMinuses f n r cs =
    ((readWhile f (· == '-') n cs).1.foldl (fun r _ => r.add (.single '-') 0) r,
      (readWhile f (· == '-') n cs).2) := by
  induction n generalizing r cs with
  | zero => rfl
  | succ n ih =>
    cases cs with
    | nil => rfl
    | cons c cs =>
      by_cases hc : c = '-'
      · subst hc
        rw [readMinuses, ih]
        rfl
      · have hc' : (c == '-') = false := by simpa using hc
        simp only [readWhile, hc']
        unfold readMinuses
        split
        · next heq =>
          cases heq
          exact absurd rfl hc
        · rfl

theorem takes_readMinuses (r : Run) : Takes fun cs => readMinuses f cs.length r cs :=
  ((takes_readWhile f (· == '-')).map _).congr fun cs => readMinuses_eq f cs.length r cs

/-- Whether a class is negated, and what stands behind its caret. -/
def readCaret (cs : List Char) : Bool × List Char :=
  match cs with
  | '^' :: cs => (true, f.skip cs)
  | cs => (false, cs)

theorem takes_readCaret : Takes (readCaret f) := by
  refine (Takes.mark '^' false ((Takes.keep true).skip (f := f))).congr fun cs => ?_
  by_cases hcs : cs.head? = some '^'
  · obtain ⟨cs, rfl⟩ := List.head?_eq_some_iff.1 hcs
    rfl
  · rw [if_neg hcs]
    unfold readCaret
    split
    · exact absurd rfl hcs
    · rfl

/-- A closing bracket that comes first is a character of the class. -/
def readClosing (r : Run) (cs : List Char) : Run × List Char :=
  match cs with
  | ']' :: rest => if r.count = 0 then (r.add (.single ']') 0, f.skip rest) else (r, cs)
  | cs => (r, cs)

theorem takes_readClosing (r : Run) : Takes (readClosing f r) := by
  by_cases hr : r.count = 0
  · refine (Takes.mark ']' r ((Takes.keep (r.add (.single ']') 0)).skip (f := f))).congr
      fun cs => ?_
    by_cases hcs : cs.head? = some ']'
    · obtain ⟨cs, rfl⟩ := List.head?_eq_some_iff.1 hcs
      simp only [readClosing, hr, if_true]
      rfl
    · rw [if_neg hcs]
      unfold readClosing
      split
      · exact absurd rfl hcs
      · rfl
  · refine (Takes.keep r).congr fun cs => ?_
    simp only [readClosing, hr, if_false]
    split <;> rfl

/-- The start of a class: whether it is negated, and its first characters. -/
def bracketStart (cs : List Char) : (Bool × Run) × List Char :=
  let caret := readCaret f (f.skip cs)
  let minuses := readMinuses f caret.2.length {} caret.2
  let closing := readClosing f minuses.1 minuses.2
  ((caret.1, closing.1), closing.2)

theorem takes_bracketStart : Takes (bracketStart f) :=
  ((takes_readCaret f).andThen fun negated =>
    (takes_readMinuses f {}).andThen fun r => (takes_readClosing f r).map (negated, ·)).skip

theorem openBracket_eq (cs : List Char) : openBracket f cs =
    if (bracketStart f cs).2 = [] then .error .classUnclosed
    else .ok ((bracketStart f cs).1.1, (bracketStart f cs).1.2, (bracketStart f cs).2) := rfl

theorem openBracket_ok {cs rest : List Char} {negated : Bool} {r : Run}
    (h : openBracket f cs = .ok (negated, r, rest)) :
    rest <:+ cs ∧ ∀ more, openBracket f (cs ++ more) = .ok (negated, r, rest ++ more) := by
  rw [openBracket_eq] at h
  split at h
  · cases h
  · next hne =>
    cases h
    refine ⟨(takes_bracketStart f).suffix cs, fun more => ?_⟩
    rw [openBracket_eq, (takes_bracketStart f).append hne more, if_neg (by simp [hne])]

theorem asciiClass?_of_mem {name : List Char} (h : ']' ∈ name) : asciiClass? name = none := by
  have hname : ∀ s : String, ']' ∉ s.toList → String.ofList name ≠ s := by
    rintro s hs rfl
    rw [String.toList_ofList] at hs
    exact hs h
  unfold asciiClass?
  split
  case h_15 => rfl
  all_goals
    next heq => exact absurd heq (hname _ (by decide))

/-- The name of a class in front of a colon and a bracket, and what stands behind these. -/
def asciiName? (cs : List Char) : Option (CharSet × List Char) :=
  match cs.dropWhile (· != ':') with
  | ':' :: ']' :: rest => (asciiClass? (cs.takeWhile (· != ':'))).map (·, rest)
  | _ => none

theorem asciiName?_append_cons {name : List Char} (h : ':' ∉ name) (cs : List Char) :
    asciiName? (name ++ ':' :: cs) =
      if cs.head? = some ']' then (asciiClass? name).map (·, cs.tail) else none := by
  have hne : ∀ c ∈ name, (c != ':') = true := fun c hc => by
    rw [bne_iff_ne]
    rintro rfl
    exact h hc
  rw [asciiName?, List.dropWhile_append_of_pos hne, List.takeWhile_append_of_pos hne,
    List.dropWhile_cons_of_neg (by simp), List.takeWhile_cons_of_neg (by simp), List.append_nil]
  by_cases hcs : cs.head? = some ']'
  · obtain ⟨cs, rfl⟩ := List.head?_eq_some_iff.1 hcs
    rfl
  · rw [if_neg hcs]
    split
    · next heq =>
      cases heq
      exact absurd rfl hcs
    · rfl

theorem asciiName?_of_notMem {cs : List Char} (h : ':' ∉ cs) : asciiName? cs = none := by
  have hnil : cs.dropWhile (· != ':') = [] := List.dropWhile_eq_nil_iff.2 fun c hc => by
    rw [bne_iff_ne]
    rintro rfl
    exact h hc
  rw [asciiName?, hnil]

theorem asciiName?_some {cs rest : List Char} {chars : CharSet}
    (h : asciiName? cs = some (chars, rest)) :
    rest <:+ cs ∧ ∀ more, asciiName? (cs ++ more) = some (chars, rest ++ more) := by
  by_cases hmem : ':' ∈ cs
  · obtain ⟨name, behind, rfl, hname⟩ := List.eq_append_cons_of_mem hmem
    rw [asciiName?_append_cons hname] at h
    split at h
    · next hhead =>
      obtain ⟨behind, rfl⟩ := List.head?_eq_some_iff.1 hhead
      obtain ⟨x, hx, heq⟩ := Option.map_eq_some_iff.1 h
      cases heq
      refine ⟨⟨name ++ [':', ']'], by simp⟩, fun more => ?_⟩
      rw [List.append_assoc, List.cons_append, asciiName?_append_cons hname, hx]
      rfl
    · cases h
  · rw [asciiName?_of_notMem hmem] at h
    cases h

/-- A bracket that is closed in a text does not become a named class if the text goes on. -/
theorem asciiName?_none {cs : List Char} (h : asciiName? cs = none) (hmem : ']' ∈ cs)
    (more : List Char) : asciiName? (cs ++ more) = none := by
  by_cases hcolon : ':' ∈ cs
  · obtain ⟨name, behind, rfl, hname⟩ := List.eq_append_cons_of_mem hcolon
    rw [List.append_assoc, List.cons_append, asciiName?_append_cons hname]
    rw [asciiName?_append_cons hname] at h
    cases behind with
    | nil =>
      have hclose : ']' ∈ name := by simpa using hmem
      rw [asciiClass?_of_mem hclose]
      exact ite_self _
    | cons c behind =>
      by_cases hc : c = ']'
      · subst hc
        have hnone : asciiClass? name = none := by simpa using h
        rw [hnone]
        exact ite_self _
      · simp [hc]
  · by_cases hmore : ':' ∈ more
    · obtain ⟨name, behind, rfl, hname⟩ := List.eq_append_cons_of_mem hmore
      rw [← List.append_assoc, asciiName?_append_cons (by simp [hcolon, hname]),
        asciiClass?_of_mem (by simp [hmem])]
      exact ite_self _
    · exact asciiName?_of_notMem (by simp [hcolon, hmore])

theorem readAsciiClass?_eq (cs : List Char) : readAsciiClass? cs =
    if cs.head? = some ':' then
      if cs.tail.head? = some '^' then (asciiName? cs.tail.tail).map fun r => (true, r.1, r.2)
      else (asciiName? cs.tail).map fun r => (false, r.1, r.2)
    else none := by
  have hname : ∀ (negated : Bool) (cs : List Char), (match cs.dropWhile (· != ':') with
      | ':' :: ']' :: rest =>
        (asciiClass? (cs.takeWhile (· != ':'))).map fun chars => (negated, chars, rest)
      | _ => none) = (asciiName? cs).map fun r => (negated, r.1, r.2) := by
    intro negated cs
    unfold asciiName?
    split
    · rw [Option.map_map]
      rfl
    · rfl
  by_cases hcolon : cs.head? = some ':'
  · obtain ⟨cs, rfl⟩ := List.head?_eq_some_iff.1 hcolon
    by_cases hcaret : cs.head? = some '^'
    · obtain ⟨cs, rfl⟩ := List.head?_eq_some_iff.1 hcaret
      exact hname true cs
    · rw [if_pos hcolon, List.tail_cons, if_neg hcaret, ← hname false cs]
      unfold readAsciiClass?
      split
      · next heq =>
        cases heq
        split
        · next heq =>
          split at heq
          · exact absurd rfl hcaret
          · cases heq
            rfl
      · next hne => exact absurd rfl (hne cs)
  · rw [if_neg hcolon]
    unfold readAsciiClass?
    split
    · exact absurd rfl hcolon
    · rfl

theorem readAsciiClass?_some {cs rest : List Char} {negated : Bool} {chars : CharSet}
    (h : readAsciiClass? cs = some (negated, chars, rest)) :
    rest <:+ cs ∧ ∀ more, readAsciiClass? (cs ++ more) = some (negated, chars, rest ++ more) := by
  rw [readAsciiClass?_eq] at h
  split at h
  · next hcolon =>
    obtain ⟨cs, rfl⟩ := List.head?_eq_some_iff.1 hcolon
    rw [List.tail_cons] at h
    split at h
    · next hcaret =>
      obtain ⟨cs, rfl⟩ := List.head?_eq_some_iff.1 hcaret
      obtain ⟨r, hr, heq⟩ := Option.map_eq_some_iff.1 h
      cases heq
      obtain ⟨hsuffix, happend⟩ := asciiName?_some hr
      refine ⟨hsuffix.trans ⟨[':', '^'], rfl⟩, fun more => ?_⟩
      rw [List.tail_cons] at happend
      simp [readAsciiClass?_eq, happend]
    · next hcaret =>
      obtain ⟨r, hr, heq⟩ := Option.map_eq_some_iff.1 h
      cases heq
      obtain ⟨hsuffix, happend⟩ := asciiName?_some hr
      refine ⟨hsuffix.trans (List.suffix_cons ..), fun more => ?_⟩
      have hlonger : (cs ++ more).head? ≠ some '^' := by
        cases cs with
        | nil => cases hr
        | cons c cs => exact hcaret
      rw [readAsciiClass?_eq, List.cons_append, List.head?_cons, if_pos rfl, List.tail_cons,
        if_neg hlonger, happend, Option.map_some]
  · cases h

/-- A bracket that is closed in a text does not open a named class if the text goes on. -/
theorem readAsciiClass?_none {cs : List Char} (h : readAsciiClass? cs = none) (hmem : ']' ∈ cs)
    (more : List Char) : readAsciiClass? (cs ++ more) = none := by
  obtain ⟨c, cs, rfl⟩ := List.exists_cons_of_ne_nil (List.ne_nil_of_mem hmem)
  rw [readAsciiClass?_eq] at h ⊢
  by_cases hc : c = ':'
  · subst hc
    have hmem : ']' ∈ cs := by simpa using hmem
    obtain ⟨d, cs, rfl⟩ := List.exists_cons_of_ne_nil (List.ne_nil_of_mem hmem)
    by_cases hd : d = '^'
    · subst hd
      have hmem : ']' ∈ cs := by simpa using hmem
      have hname : asciiName? cs = none := by simpa using h
      simp [asciiName?_none hname hmem]
    · have hname : asciiName? (d :: cs) = none := by simpa [hd] using h
      have hlonger := asciiName?_none hname hmem more
      rw [List.cons_append] at hlonger
      simp [hd, hlonger]
  · simp [hc]

theorem local_readMember : Local f (readMember f) := by
  refine .cons ⟨_, rfl⟩ fun c => ?_
  simp only [readMember]
  split
  · exact local_readEscape f
  · exact .pure _

variable {f}

theorem Flags.skip_cons_minus (cs : List Char) : f.skip ('-' :: cs) = '-' :: cs := by
  unfold skip
  split <;> rfl

/-- A range ends where the class goes on. A minus sign that ends no range needs to be followed by
something. -/
theorem length_readMember_lt {cs rest : List Char} {member : Escaped}
    (h : readMember f cs = .ok (member, rest)) : rest.length < cs.length := by
  cases cs with
  | nil => cases h
  | cons c cs =>
    rw [readMember] at h
    split at h
    · exact Nat.lt_succ_of_le ((local_readEscape f).suffix h).length_le
    · cases h
      exact Nat.lt_succ_self _

theorem readRange_ok {cs rest : List Char} {chars : CharSet}
    (h : readRange f cs = .ok (chars, rest)) :
    rest <:+ cs ∧ 1 < cs.length ∧ ∀ more, Inert more → rest ≠ [] →
      (rest.head? = some '-' → f.skip rest.tail ≠ []) →
      readRange f (cs ++ more) = .ok (chars, rest ++ more) := by
  unfold readRange at h
  obtain ⟨⟨first, mid⟩, hfirst, h⟩ := bind_eq_ok.1 h
  have hshorter := length_readMember_lt hfirst
  have hmidcs := (local_readMember f).suffix hfirst
  cases hskip : f.skip mid with
  | nil => simp [hskip] at h
  | cons c behind =>
    have hbehind : c :: behind <:+ mid := hskip ▸ f.skip_suffix mid
    have hpos := hbehind.length_le
    have hmid : mid ≠ [] := by
      rintro rfl
      simp at hpos
    have hlonger : ∀ more, Inert more → readMember f (cs ++ more) = .ok (first, mid ++ more) ∧
        f.skip (mid ++ more) = c :: (behind ++ more) := fun more hmore =>
      ⟨(local_readMember f).append hfirst (fun hnil => absurd hnil hmid) hmore, by
        rw [f.skip_append (by simp [hskip]), hskip, List.cons_append]⟩
    simp only [hskip] at h
    split at h
    · next hc =>
      obtain ⟨⟨last, rest'⟩, hlast, h⟩ := bind_eq_ok.1 h
      obtain ⟨lo, hlo, h⟩ := bind_eq_ok.1 h
      obtain ⟨hi, hhi, h⟩ := bind_eq_ok.1 h
      split at h
      · next hle =>
        cases h
        have hdark : f.skip behind ≠ [] := by
          intro hnil
          rw [hnil] at hlast
          cases hlast
        refine ⟨?_, ?_, fun more hmore hrest _ => ?_⟩
        · exact (((local_readMember f).skip.suffix hlast).trans
            (List.suffix_cons ..)).trans (hbehind.trans hmidcs)
        · simp only [List.length_cons] at hpos
          omega
        · obtain ⟨hread, hskip'⟩ := hlonger more hmore
          have hlast' := (local_readMember f).append hlast (fun hnil => absurd hnil hrest) hmore
          unfold readRange
          refine bind_eq_ok.2 ⟨_, hread, ?_⟩
          simp only [hskip', f.peek_append hdark, if_pos hc]
          rw [f.skip_append fun hnil => absurd hnil hdark]
          refine bind_eq_ok.2 ⟨_, hlast', bind_eq_ok.2 ⟨lo, hlo, bind_eq_ok.2 ⟨hi, hhi, ?_⟩⟩⟩
          rw [if_pos hle]
          rfl
      · cases h
    · next hc =>
      obtain ⟨set, hset, h⟩ := bind_eq_ok.1 h
      cases h
      refine ⟨hbehind.trans hmidcs, ?_, fun more hmore _ hminus => ?_⟩
      · simp only [List.length_cons] at hpos
        omega
      · obtain ⟨hread, hskip'⟩ := hlonger more hmore
        have hc' : ¬(c = '-' ∧ f.peek (behind ++ more) ≠ some ']' ∧
            f.peek (behind ++ more) ≠ some '-') := by
          rintro ⟨rfl, hpeek⟩
          have hdark : f.skip behind ≠ [] := hminus rfl
          rw [f.peek_append hdark] at hpeek
          exact hc ⟨rfl, hpeek⟩
        unfold readRange
        refine bind_eq_ok.2 ⟨_, hread, ?_⟩
        simp only [hskip', if_neg hc']
        exact bind_eq_ok.2 ⟨_, hset, rfl⟩

/-- The content of a class after one of its rounds. -/
inductive Round
  /-- The bracket around all of it is closed. -/
  | closed (content : Nested)
  /-- It goes on. -/
  | goesOn (pending : List Pending) (r : Run)

/-- The content of a class after a closing bracket. -/
def closeRound (f : Flags) (pending : List Pending) (r : Run) : Except Fault Round :=
  match settle f r.close pending with
  | (content, .bracket before negated :: pending) => do
    let chars ← closeBracket f negated content.chars
    if pending = [] then return .closed ⟨chars, content.depth + 1⟩
    else return .goesOn pending (before.add chars (content.depth + 1))
  | _ => .error .classUnclosed

/-- Reads one member, range, operation or bracket of a class. -/
def readRound (f : Flags) (pending : List Pending) (r : Run) (cs : List Char) :
    Except Fault (Round × List Char) :=
  match f.skip cs with
  | [] => .error .classUnclosed
  | c :: cs =>
    if c = '[' then
      match readAsciiClass? cs with
      | some (negated, chars, rest) => do
        let chars ← closeBracket f negated chars
        return (.goesOn pending (r.add chars 0), rest)
      | none => do
        let (negated, inner, rest) ← openBracket f cs
        return (.goesOn (.bracket r negated :: pending) inner, rest)
    else if c = ']' then (closeRound f pending r).map (·, cs)
    else match setOp? c cs with
      | some (op, rest) =>
        let (left, pending) := settle f r.close pending
        return (.goesOn (.op op left :: pending) {}, rest)
      | none => do
        let (chars, rest) ← readRange f (c :: cs)
        return (.goesOn pending (r.add chars 0), rest)

theorem readContent_succ (fuel : Nat) (pending : List Pending) (r : Run) (cs : List Char) :
    readContent f (fuel + 1) pending r cs = (do
      let (round, rest) ← readRound f pending r cs
      match round with
      | .closed content => return (content, rest)
      | .goesOn pending r => readContent f fuel pending r rest) := by
  rw [readContent, readRound]
  cases f.skip cs with
  | nil => rfl
  | cons c cs =>
    by_cases hopen : c = '['
    · simp only [hopen, if_true]
      cases readAsciiClass? cs with
      | none => cases openBracket f cs <;> rfl
      | some named =>
        obtain ⟨negated, chars, rest⟩ := named
        dsimp only
        cases closeBracket f negated chars <;> rfl
    by_cases hclose : c = ']'
    · simp only [hclose, Char.reduceEq, if_true, if_false, closeRound]
      generalize settle f r.close pending = settled
      obtain ⟨content, _ | ⟨⟨before, negated⟩ | ⟨op, left⟩, pending⟩⟩ := settled
      · rfl
      · dsimp only
        cases closeBracket f negated content.chars with
        | error e => rfl
        | ok chars =>
          simp only [bind, Except.bind]
          by_cases hpending : pending = []
          · simp only [if_pos hpending]
            rfl
          · simp only [if_neg hpending]
            rfl
      · rfl
    · simp only [if_neg hopen, if_neg hclose]
      cases setOp? c cs with
      | none => cases readRange f (c :: cs) <;> rfl
      | some op => rfl

theorem setOp?_some {c : Char} {cs rest : List Char} {op : SetOp}
    (h : setOp? c cs = some (op, rest)) :
    rest <:+ cs ∧ cs.head? = some c ∧ ∀ more, setOp? c (cs ++ more) = some (op, rest ++ more) := by
  unfold setOp? at h
  split at h
  · cases h
    exact ⟨List.suffix_cons .., rfl, fun _ => rfl⟩
  · cases h
    exact ⟨List.suffix_cons .., rfl, fun _ => rfl⟩
  · cases h
    exact ⟨List.suffix_cons .., rfl, fun _ => rfl⟩
  · cases h

theorem setOp?_none {c : Char} {cs : List Char} (h : setOp? c cs = none) (hne : cs ≠ [])
    (more : List Char) : setOp? c (cs ++ more) = none := by
  obtain ⟨d, cs, rfl⟩ := List.exists_cons_of_ne_nil hne
  unfold setOp? at h ⊢
  split at h
  · cases h
  · cases h
  · cases h
  · next hinter hdiff hsymm =>
    split
    · next heq =>
      cases heq
      exact absurd rfl (hinter cs rfl)
    · next heq =>
      cases heq
      exact absurd rfl (hdiff cs rfl)
    · next heq =>
      cases heq
      exact absurd rfl (hsymm cs rfl)
    · rfl

/-- A minus sign at the start of a member is not the last thing in a class. -/
theorem skip_ne_nil_of_readRange {cs rest : List Char} {chars : CharSet}
    (h : readRange f ('-' :: cs) = .ok (chars, rest)) : f.skip cs ≠ [] := by
  intro hnil
  have hread : readMember f ('-' :: cs) = .ok (.literal '-' false, cs) := rfl
  unfold readRange at h
  rw [hread] at h
  simp [bind, Except.bind, hnil] at h

theorem skip_ne_nil_of_readRound {pending : List Pending} {r : Run} {cs rest : List Char}
    {round : Round} (h : readRound f pending r ('-' :: cs) = .ok (round, rest)) :
    f.skip cs ≠ [] := by
  unfold readRound at h
  simp only [Flags.skip_cons_minus, Char.reduceEq, if_false] at h
  split at h
  · next op behind hop =>
    obtain ⟨-, hhead, -⟩ := setOp?_some hop
    obtain ⟨cs, rfl⟩ := List.head?_eq_some_iff.1 hhead
    simp [Flags.skip_cons_minus]
  · obtain ⟨⟨chars, behind⟩, hrange, -⟩ := bind_eq_ok.1 h
    exact skip_ne_nil_of_readRange hrange

/-- What a round leaves is read on: there is a closing bracket in it, and more than a minus sign. -/
def Round.IsReadOn (f : Flags) (rest : List Char) : Round → Prop
  | .closed _ => True
  | .goesOn _ _ => ']' ∈ rest ∧ (rest.head? = some '-' → f.skip rest.tail ≠ [])

theorem readRound_ok {pending : List Pending} {r : Run} {cs rest : List Char} {round : Round}
    (h : readRound f pending r cs = .ok (round, rest)) (hon : round.IsReadOn f rest) :
    rest <:+ cs ∧ ']' ∈ cs ∧ ∀ more, Inert more →
      readRound f pending r (cs ++ more) = .ok (round, rest ++ more) := by
  unfold readRound at h
  cases hskip : f.skip cs with
  | nil => simp [hskip] at h
  | cons c behind =>
    have hbehind : c :: behind <:+ cs := hskip ▸ f.skip_suffix cs
    have hlonger : ∀ more, f.skip (cs ++ more) = c :: (behind ++ more) := fun more => by
      rw [f.skip_append (by simp [hskip]), hskip, List.cons_append]
    -- What is left of the round is left of the text, and so is the bracket in it.
    have hwithin : ∀ {inner : List Char}, inner <:+ c :: behind → ']' ∈ inner →
        inner <:+ cs ∧ ']' ∈ cs := fun hinner hmem =>
      ⟨hinner.trans hbehind, (hinner.trans hbehind).subset hmem⟩
    simp only [hskip] at h
    by_cases hopen : c = '['
    · simp only [if_pos hopen] at h
      split at h
      · next negated chars rest' hnamed =>
        obtain ⟨set, hset, h⟩ := bind_eq_ok.1 h
        cases h
        obtain ⟨hsuffix, happend⟩ := readAsciiClass?_some hnamed
        obtain ⟨hcs, hmem⟩ := hwithin (hsuffix.trans (List.suffix_cons ..)) hon.1
        refine ⟨hcs, hmem, fun more _ => ?_⟩
        simp only [readRound, hlonger, if_pos hopen, happend]
        exact bind_eq_ok.2 ⟨_, hset, rfl⟩
      · next hnamed =>
        obtain ⟨⟨negated, inner, rest'⟩, hbracket, h⟩ := bind_eq_ok.1 h
        cases h
        obtain ⟨hsuffix, happend⟩ := openBracket_ok f hbracket
        obtain ⟨hcs, hmem⟩ := hwithin (hsuffix.trans (List.suffix_cons ..)) hon.1
        refine ⟨hcs, hmem, fun more _ => ?_⟩
        simp only [readRound, hlonger, if_pos hopen,
          readAsciiClass?_none hnamed (hsuffix.subset hon.1)]
        exact bind_eq_ok.2 ⟨_, happend more, rfl⟩
    by_cases hclose : c = ']'
    · subst hclose
      simp only [Char.reduceEq, if_false, if_true] at h
      obtain ⟨closed, hclosed, heq⟩ := map_eq_ok.1 h
      cases heq
      refine ⟨(List.suffix_cons ..).trans hbehind, hbehind.subset List.mem_cons_self,
        fun more _ => ?_⟩
      simp only [readRound, hlonger, Char.reduceEq, if_false, if_true]
      exact map_eq_ok.2 ⟨_, hclosed, rfl⟩
    · simp only [if_neg hopen, if_neg hclose] at h
      split at h
      · next op rest' hop =>
        cases h
        obtain ⟨hsuffix, -, happend⟩ := setOp?_some hop
        obtain ⟨hcs, hmem⟩ := hwithin (hsuffix.trans (List.suffix_cons ..)) hon.1
        refine ⟨hcs, hmem, fun more _ => ?_⟩
        simp only [readRound, hlonger, if_neg hopen, if_neg hclose, happend]
        rfl
      · next hop =>
        obtain ⟨⟨chars, rest'⟩, hrange, h⟩ := bind_eq_ok.1 h
        cases h
        obtain ⟨hsuffix, hlength, happend⟩ := readRange_ok hrange
        obtain ⟨hcs, hmem⟩ := hwithin hsuffix hon.1
        have hne : behind ≠ [] := by
          rintro rfl
          simp at hlength
        refine ⟨hcs, hmem, fun more hmore => ?_⟩
        simp only [readRound, hlonger, if_neg hopen, if_neg hclose, setOp?_none hop hne]
        exact bind_eq_ok.2 ⟨_, happend more hmore (List.ne_nil_of_mem hon.1) hon.2, rfl⟩

/-- The content of a class goes up to a closing bracket, and no further. -/
theorem readContent_ok {n : Nat} {pending : List Pending} {r : Run} {cs rest : List Char}
    {content : Nested} (h : readContent f n pending r cs = .ok (content, rest)) :
    rest <:+ cs ∧ ']' ∈ cs ∧ ∀ m more, n ≤ m → Inert more →
      readContent f m pending r (cs ++ more) = .ok (content, rest ++ more) := by
  induction n generalizing pending r cs with
  | zero => cases h
  | succ n ih =>
    rw [readContent_succ] at h
    obtain ⟨⟨round, behind⟩, hround, h⟩ := bind_eq_ok.1 h
    cases round with
    | closed content =>
      cases h
      obtain ⟨hsuffix, hmem, happend⟩ := readRound_ok hround trivial
      refine ⟨hsuffix, hmem, fun m more hnm hmore => ?_⟩
      obtain ⟨m, rfl⟩ : ∃ k, m = k + 1 := ⟨m - 1, by omega⟩
      rw [readContent_succ]
      exact bind_eq_ok.2 ⟨_, happend more hmore, rfl⟩
    | goesOn pending r =>
      replace h : readContent f n pending r behind = .ok (content, rest) := h
      obtain ⟨hsuffix', hmem', happend'⟩ := ih h
      have hminus : behind.head? = some '-' → f.skip behind.tail ≠ [] := by
        intro hhead
        obtain ⟨behind, rfl⟩ := List.head?_eq_some_iff.1 hhead
        obtain ⟨n, rfl⟩ : ∃ k, n = k + 1 := by
          cases n with
          | zero => cases h
          | succ n => exact ⟨n, rfl⟩
        rw [readContent_succ] at h
        obtain ⟨_, hnext, -⟩ := bind_eq_ok.1 h
        exact skip_ne_nil_of_readRound hnext
      obtain ⟨hsuffix, hmem, happend⟩ := readRound_ok hround ⟨hmem', hminus⟩
      refine ⟨hsuffix'.trans hsuffix, hmem, fun m more hnm hmore => ?_⟩
      obtain ⟨m, rfl⟩ : ∃ k, m = k + 1 := ⟨m - 1, by omega⟩
      rw [readContent_succ]
      exact bind_eq_ok.2 ⟨_, happend more hmore, happend' m more (by omega) hmore⟩

variable (f)

theorem local_readBracket : Local f (readBracket f) where
  suffix := by
    intro cs cls rest h
    obtain ⟨⟨negated, r, inner⟩, hopen, h⟩ := bind_eq_ok.1 h
    obtain ⟨hinner, -⟩ := openBracket_ok f hopen
    exact (readContent_ok h).1.trans hinner
  append := by
    intro cs cls rest more h _ hmore
    obtain ⟨⟨negated, r, inner⟩, hopen, h⟩ := bind_eq_ok.1 h
    obtain ⟨-, happend⟩ := openBracket_ok f hopen
    exact bind_eq_ok.2 ⟨_, happend more, (readContent_ok h).2.2 _ more (by simp) hmore⟩

end Brackets

end Signpost.Regex
