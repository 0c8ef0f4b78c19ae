import Signpost.Proofs.Moves
import Signpost.Proofs.Reading

/-!
# Texts that stand alone

A part of the text of an expression may be read on its own. If it closes the groups that it opens,
opens no branch outside of them and leaves the flags as they are, then it is read in the same way
within the text: what it is read as stands between what is in front and what is behind.

## Main definitions

* `StandsAlone`: reading a text on its own ends where it started.
* `Over`: a state within a text goes along with that of a part read on its own.

## Main statements

* `Over.make`: the two states go along through every move.
* `Over.leads`: the two states go along through the whole part.
* `leads_of_standsAlone`: within a text, the part adds its items and changes nothing else.
-/

namespace Signpost.Regex

/-! ## Steps as moves -/

section Steps

variable {st st' next : State} {c : Char} {cs behind rest : List Char} {m : Move} {n : Nat}

theorem steps_of_move (hskip : st.flags.skip cs = c :: behind)
    (hread : readMove st.flags c behind = .ok (m, rest)) (hmake : st.make m = .ok next) (n : Nat) :
    steps (n + 1) st cs = steps n next rest := by
  have hstep : step st c behind = .ok (next, rest) := by
    rw [step_eq, hread]
    exact map_eq_ok.2 ⟨_, hmake, rfl⟩
  rw [steps, hskip]
  simp only [hstep]

/-- Reading is at its end, or makes a move and goes on. -/
theorem move_of_steps (h : steps (n + 1) st cs = .ok st') :
    (st.flags.skip cs = [] ∧ st' = st) ∨
      ∃ c behind m rest next, st.flags.skip cs = c :: behind ∧
        readMove st.flags c behind = .ok (m, rest) ∧ st.make m = .ok next ∧
        steps n next rest = .ok st' := by
  rw [steps] at h
  split at h
  · next hskip =>
    cases h
    exact .inl ⟨hskip, rfl⟩
  · next c behind hskip =>
    split at h
    · cases h
    · next hstep =>
      rw [step_eq] at hstep
      obtain ⟨⟨m, rest⟩, hread, hmake⟩ := bind_eq_ok.1 hstep
      obtain ⟨_, hnext, heq⟩ := map_eq_ok.1 hmake
      cases heq
      exact .inr ⟨c, behind, m, rest, _, hskip, hread, hnext, h⟩

theorem steps_nil (n : Nat) (st : State) : steps n st [] = .ok st := by
  cases n with
  | zero => rfl
  | succ n =>
    have hskip : st.flags.skip [] = [] := List.suffix_nil.1 (st.flags.skip_suffix [])
    rw [steps, hskip]

end Steps

/-! ## The outermost group -/

/-- The group around all open groups. -/
def bottomOf (level : Level) : List OpenGroup → Level
  | [] => level
  | g :: stack => bottomOf g.outer stack

namespace State

variable {st st' : State}

/-- The group around all open groups. -/
def bottom (st : State) : Level := bottomOf st.level st.stack

theorem branches_bottom {level : Level} {stack : List OpenGroup}
    (hlevel : level.branches <:+ st'.level.branches) (hstack : st'.stack = stack) :
    (bottomOf level stack).branches <:+ st'.bottom.branches := by
  subst hstack
  rw [bottom]
  cases st'.stack with
  | nil => exact hlevel
  | cons g stack => exact List.suffix_rfl

/-- A capturing group is opened like any other, if its name is new. -/
theorem eq_of_openGroup {name : Option String} (h : st.openGroup (.capture name) = .ok st') :
    ∃ names, st' = ⟨st.flags, {}, ⟨some (st.count + 1), st.flags, st.level⟩ :: st.stack,
      st.count + 1, names⟩ := by
  simp only [openGroup] at h
  split at h
  · cases h
    exact ⟨_, rfl⟩
  · split at h
    · cases h
    · cases h
      exact ⟨_, rfl⟩

/-- No move takes back a branch. -/
theorem branches_make {m : Move} (h : st.make m = .ok st') :
    st.bottom.branches <:+ st'.bottom.branches := by
  cases m with
  | part expr depth =>
    cases h
    exact branches_bottom List.suffix_rfl rfl
  | opens opening =>
    obtain name | flags | flags := opening
    · obtain ⟨names, rfl⟩ := eq_of_openGroup h
      exact List.suffix_rfl
    · cases h
      exact List.suffix_rfl
    · cases h
      exact branches_bottom List.suffix_rfl rfl
  | closes =>
    simp only [make, closeGroup] at h
    split at h
    · cases h
    · next g stack hstack =>
      cases h
      rw [bottom, hstack, bottomOf]
      exact branches_bottom List.suffix_rfl rfl
  | branches =>
    cases h
    exact branches_bottom (List.suffix_cons ..) rfl
  | repeats least most reluctant =>
    simp only [make, repeatLast] at h
    split at h
    · cases h
    · split at h
      · cases h
      · cases h
        exact branches_bottom List.suffix_rfl rfl

theorem branches_steps {n : Nat} {cs : List Char} (h : steps n st cs = .ok st') :
    st.bottom.branches <:+ st'.bottom.branches := by
  induction n generalizing st cs with
  | zero =>
    cases h
    exact List.suffix_rfl
  | succ n ih =>
    rcases move_of_steps h with ⟨-, rfl⟩ | ⟨c, behind, m, rest, next, -, -, hmake, hrest⟩
    · exact List.suffix_rfl
    · exact (branches_make hmake).trans (ih hrest)

end State

/-! ## A part on its own and within a text -/

section Above

variable {base : Level} {l l' : Level} {stack stack' : List OpenGroup}

/-- The levels of a part that is read on its own, and those of the same part within a text. The
innermost come first, and `base` is what is in front of the part. -/
inductive Above (base : Level) : Level → List OpenGroup → Level → List OpenGroup → Prop
  | bottom {l : Level} {own : List Item}
      (h : own.map Item.isDirective = l.items.map Item.isDirective) :
      Above base l [] ⟨own ++ base.items, base.branches⟩ []
  | inner {l l' : Level} {g g' : OpenGroup} {stack stack' : List OpenGroup}
      (h : l'.items.map Item.isDirective = l.items.map Item.isDirective)
      (hflags : g'.flags = g.flags) (outer : Above base g.outer stack g'.outer stack') :
      Above base l (g :: stack) l' (g' :: stack')

theorem Above.push (h : Above base l stack l' stack') {i i' : Item}
    (hi : i'.isDirective = i.isDirective) : Above base (l.push i) stack (l'.push i') stack' := by
  cases h with
  | @bottom _ own h => exact @Above.bottom base _ (i' :: own) (by simp [Level.push, h, hi])
  | inner h hflags outer => exact .inner (by simp [Level.push, h, hi]) hflags outer

/-- A part that was added last may be taken for another. -/
theorem Above.replace (h : Above base l stack l' stack') {i : Item} {items : List Item}
    (hl : l.items = i :: items) : ∃ i' items', l'.items = i' :: items' ∧
      ∀ {j j' : Item}, j'.isDirective = j.isDirective →
        Above base { l with items := j :: items } stack { l' with items := j' :: items' }
          stack' := by
  cases h with
  | @bottom _ own h =>
    rw [hl] at h
    cases own with
    | nil => cases h
    | cons i' own =>
      obtain ⟨-, hown⟩ := List.cons.inj h
      refine ⟨i', own ++ base.items, rfl, fun {j j'} hj => ?_⟩
      exact @Above.bottom base _ (j' :: own) (by simp [hj, hown])
  | @inner _ l' _ _ _ _ h hflags outer =>
    rw [hl] at h
    obtain ⟨items, branches⟩ := l'
    cases items with
    | nil => cases h
    | cons i' items =>
      obtain ⟨-, hitems⟩ := List.cons.inj h
      exact ⟨i', items, rfl, fun hj => .inner (by simp [hj, hitems]) hflags outer⟩

end Above

/-- The state of a part that is read on its own, and that of the same part within a text. -/
structure Over (base : Level) (own inner : State) : Prop where
  flags : inner.flags = own.flags
  above : Above base own.level own.stack inner.level inner.stack

namespace Over

variable {base : Level} {own own' inner inner' : State}

/-- The two go along as long as there is no branch in the outermost group. -/
theorem make (h : Over base own inner) {m : Move} (hown : own.make m = .ok own')
    (hinner : inner.make m = .ok inner') (hbranches : own'.bottom.branches = []) :
    Over base own' inner' := by
  cases m with
  | part expr depth =>
    cases hown
    cases hinner
    exact ⟨h.flags, h.above.push rfl⟩
  | opens opening =>
    obtain name | flags | flags := opening
    · obtain ⟨names, rfl⟩ := State.eq_of_openGroup hown
      obtain ⟨names', rfl⟩ := State.eq_of_openGroup hinner
      exact ⟨h.flags, .inner rfl h.flags h.above⟩
    · cases hown
      cases hinner
      exact ⟨rfl, .inner rfl h.flags h.above⟩
    · cases hown
      cases hinner
      exact ⟨rfl, h.above.push rfl⟩
  | closes =>
    simp only [State.make, State.closeGroup] at hown hinner
    split at hown
    · cases hown
    next g stack hstack =>
    split at hinner
    · cases hinner
    next g' stack' hstack' =>
    cases hown
    cases hinner
    have habove := h.above
    rw [hstack, hstack'] at habove
    cases habove with
    | inner _ hflags outer => exact ⟨hflags, outer.push rfl⟩
  | branches =>
    cases hown
    cases hinner
    refine ⟨h.flags, ?_⟩
    have habove := h.above
    cases hstack : own.stack with
    | nil => simp [State.bottom, hstack, bottomOf, Level.branch] at hbranches
    | cons g stack =>
      rw [hstack] at habove
      generalize inner.stack = stack' at habove ⊢
      generalize inner.level = level' at habove ⊢
      cases habove with
      | inner h hflags outer => exact .inner rfl hflags outer
  | repeats least most reluctant =>
    simp only [State.make, State.repeatLast] at hown hinner
    split at hown
    · cases hown
    next i items hitems =>
    obtain ⟨i', items', hitems', hreplace⟩ := h.above.replace hitems
    simp only [hitems'] at hinner
    split at hown
    · cases hown
    split at hinner
    · cases hinner
    cases hown
    cases hinner
    exact ⟨h.flags, hreplace rfl⟩

/-- A move after which blanks count and no group is open, though they did not count before. -/
theorem isWhole_of_make {st st' : State} {m : Move} (h : st.make m = .ok st')
    (hextended : st.flags.extended = true) (hflags : st'.flags = {}) (hstack : st'.stack = []) :
    m.IsWhole := by
  have hkept : st'.flags ≠ st.flags := by
    intro heq
    rw [← heq, hflags] at hextended
    cases hextended
  cases m with
  | part expr depth =>
    cases h
    exact absurd rfl hkept
  | opens opening =>
    obtain name | flags | flags := opening
    · obtain ⟨names, rfl⟩ := State.eq_of_openGroup h
      cases hstack
    · cases h
      cases hstack
    · exact .inr ⟨flags, rfl⟩
  | closes => exact .inl rfl
  | branches =>
    cases h
    exact absurd rfl hkept
  | repeats least most reluctant =>
    simp only [State.make, State.repeatLast] at h
    split at h
    · cases h
    · split at h
      · cases h
      · cases h
        exact absurd rfl hkept

/-- The two go along through the rest of the part, whatever stands behind it. -/
theorem leads (h : Over base own inner) {n : Nat} {cs more : List Char} (hn : cs.length ≤ n)
    (hown : steps n own cs = .ok own') (hflags : own'.flags = {}) (hstack : own'.stack = [])
    (hbranches : own'.bottom.branches = []) (hmore : Inert more) {m : Nat} {whole : State}
    (hm : (cs ++ more).length ≤ m) (hinner : steps m inner (cs ++ more) = .ok whole) :
    ∃ inner', Over base own' inner' ∧ Leads inner (cs ++ more) inner' more := by
  induction n generalizing own inner cs m with
  | zero =>
    obtain rfl : cs = [] := List.length_eq_zero_iff.1 (Nat.le_zero.1 hn)
    cases hown
    exact ⟨inner, h, .refl ..⟩
  | succ n ih =>
    rcases move_of_steps hown with
      ⟨hskip, rfl⟩ | ⟨c, behind, move, rest, own₁, hskip, hmove, hown₁, hrest⟩
    · rw [Flags.skip_of_not_extended (by rw [hflags])] at hskip
      subst hskip
      exact ⟨inner, h, .refl ..⟩
    have hlonger : inner.flags.skip (cs ++ more) = c :: (behind ++ more) := by
      rw [h.flags, own.flags.skip_append (by simp [hskip]), hskip, List.cons_append]
    obtain ⟨hsuffix, happend⟩ := readMove_ok hmove
    have hmove' : readMove inner.flags c (behind ++ more) = .ok (move, rest ++ more) := by
      rw [h.flags]
      refine happend more hmore fun hnil hextended => ?_
      rw [hnil, steps_nil] at hrest
      cases hrest
      exact isWhole_of_make hown₁ hextended hflags hstack
    have hlength := (hskip ▸ own.flags.skip_suffix cs).length_le
    have hlength' := hsuffix.length_le
    simp only [List.length_cons, List.length_append] at hlength hm
    obtain ⟨m, rfl⟩ : ∃ k, m = k + 1 := ⟨m - 1, by omega⟩
    -- The text around is read to its end, so the move is possible there, too.
    obtain ⟨inner₁, hinner₁, hrest'⟩ : ∃ inner₁, inner.make move = .ok inner₁ ∧
        steps m inner₁ (rest ++ more) = .ok whole := by
      rcases move_of_steps hinner with
        ⟨hend, -⟩ | ⟨c', behind', move', rest', inner₁, hskip', hread', hinner₁, hrest'⟩
      · simp [hlonger] at hend
      · cases hlonger.symm.trans hskip'
        cases hmove'.symm.trans hread'
        exact ⟨inner₁, hinner₁, hrest'⟩
    have hbranches₁ := State.branches_steps hrest
    rw [hbranches, List.suffix_nil] at hbranches₁
    obtain ⟨inner', hover, hleads⟩ := ih (h.make hown₁ hinner₁ hbranches₁) (by omega) hrest
      (by simp only [List.length_append]; omega) hrest'
    have hone : Leads inner (cs ++ more) inner₁ (rest ++ more) :=
      ⟨1, by simp only [List.length_append]; omega, steps_of_move hlonger hmove' hinner₁⟩
    exact ⟨inner', hover, hone.trans hleads⟩

end Over

/-- Reading the text on its own ends with the flags as they were at its start, with no group open
and no other branch. -/
def standsAlone (cs : List Char) : Bool :=
  match steps cs.length {} cs with
  | .error _ => false
  | .ok st => st.flags = {} ∧ st.stack.isEmpty ∧ st.level.branches.isEmpty

/-- Within a text, a part that stands alone adds its items to those in front of it. -/
theorem leads_of_standsAlone {cs more : List Char} (h : standsAlone cs = true) (hmore : Inert more)
    {st whole : State} (hflags : st.flags = {}) (hstack : st.stack = []) {n : Nat}
    (hn : (cs ++ more).length ≤ n) (hread : steps n st (cs ++ more) = .ok whole) :
    ∃ items count names, Leads st (cs ++ more)
      ⟨{}, ⟨items ++ st.level.items, st.level.branches⟩, [], count, names⟩ more := by
  unfold standsAlone at h
  split at h
  · cases h
  next own hown =>
  simp only [Bool.decide_and, Bool.and_eq_true, decide_eq_true_eq, List.isEmpty_iff] at h
  obtain ⟨hown_flags, hown_stack, hown_branches⟩ := h
  have hstart : Over st.level {} st := by
    refine ⟨hflags, ?_⟩
    rw [hstack]
    exact @Above.bottom st.level {} [] rfl
  obtain ⟨inner, hover, hleads⟩ := hstart.leads (Nat.le_refl _) hown hown_flags hown_stack
    (by rw [State.bottom, hown_stack, bottomOf, hown_branches]) hmore hn hread
  have habove := hover.above
  rw [hown_stack] at habove
  obtain ⟨flags, level, stack, count, names⟩ := inner
  obtain rfl : flags = {} := hover.flags.trans hown_flags
  cases habove with
  | @bottom _ items _ => exact ⟨items, count, names, hleads⟩

end Signpost.Regex
