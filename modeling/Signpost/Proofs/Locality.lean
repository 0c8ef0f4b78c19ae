import Signpost.Regex.Read

/-!
# How far readers look

A reader takes something from the front of a text. What it makes of the text it also makes of the
text with more behind it, as long as it leaves something, or what comes behind cannot be taken for
a part of it.

## Main definitions

* `Inert`: a text does not go on with what stands in front of it.
* `Local`: a reader leaves an end of its text, and looks no further than the text.
* `Takes`: the same of a part that never fails.
* `readWhile`: the part that takes characters of one kind.

## Main statements

* `Local.bind`, `Local.cons`, `Local.mark`: how local readers are put together.
* `local_readEscape`: the reader behind a backslash is local.
-/

namespace Signpost.Regex

variable {α β : Type}

/-- The text does not start with a character that belongs to a repetition, a word boundary or a
parenthesis in front of it. -/
def Inert (more : List Char) : Prop := more.head? ≠ some '?' ∧ more.head? ≠ some '{'

/-- The reader leaves an end of its text. If it leaves something, or nothing in front of which
blanks would not count, then more text behind does not matter. -/
structure Local (f : Flags) (read : List Char → Except Fault (α × List Char)) : Prop where
  suffix : ∀ {cs x rest}, read cs = .ok (x, rest) → rest <:+ cs
  append : ∀ {cs x rest more}, read cs = .ok (x, rest) → (rest = [] → f.extended = false) →
    Inert more → read (cs ++ more) = .ok (x, rest ++ more)

theorem bind_eq_ok {ε : Type} {x : Except ε α} {g : α → Except ε β} {b : β} :
    x >>= g = .ok b ↔ ∃ a, x = .ok a ∧ g a = .ok b := by
  cases x with
  | error e => simp [bind, Except.bind]
  | ok a => simp [bind, Except.bind]

theorem map_eq_ok {ε : Type} {x : Except ε α} {g : α → β} {b : β} :
    x.map g = .ok b ↔ ∃ a, x = .ok a ∧ g a = b := by
  cases x with
  | error e => simp [Except.map]
  | ok a => simp [Except.map]

theorem eq_ok_get {ε : Type} {x : Except ε α} (h : x.toOption.isSome = true) :
    x = .ok (x.toOption.get h) := by
  cases x with
  | error e => cases h
  | ok a => rfl

/-! ## Blanks and comments -/

section Blanks

theorem dropComments_suffix (inComment : Bool) (cs : List Char) :
    dropComments inComment cs <:+ cs := by
  induction cs generalizing inComment with
  | nil => exact List.suffix_rfl
  | cons c cs ih =>
    unfold dropComments
    split
    · exact (ih _).trans (List.suffix_cons c cs)
    · split
      · exact (ih _).trans (List.suffix_cons c cs)
      · split
        · exact (ih _).trans (List.suffix_cons c cs)
        · exact List.suffix_rfl

theorem dropComments_append {inComment : Bool} {cs : List Char}
    (h : dropComments inComment cs ≠ []) (more : List Char) :
    dropComments inComment (cs ++ more) = dropComments inComment cs ++ more := by
  induction cs generalizing inComment with
  | nil => exact absurd rfl h
  | cons c cs ih =>
    simp only [dropComments, List.cons_append] at h ⊢
    split
    · next hc =>
      rw [if_pos hc] at h
      exact ih h
    · next hc =>
      rw [if_neg hc] at h
      split
      · next hb =>
        rw [if_pos hb] at h
        exact ih h
      · next hb =>
        rw [if_neg hb] at h
        split
        · next hn =>
          rw [if_pos hn] at h
          exact ih h
        · rfl

theorem Flags.skip_suffix (f : Flags) (cs : List Char) : f.skip cs <:+ cs := by
  unfold skip
  split
  · exact dropComments_suffix ..
  · exact List.suffix_rfl

theorem Flags.skip_append {f : Flags} {cs : List Char} (h : f.skip cs = [] → f.extended = false)
    (more : List Char) : f.skip (cs ++ more) = f.skip cs ++ more := by
  unfold skip at h ⊢
  split
  · next hx =>
    rw [if_pos hx] at h
    refine dropComments_append (fun hnil => ?_) more
    rw [h hnil] at hx
    cases hx
  · rfl

theorem firstDark_comment_isSome {inComment : Bool} {cs : List Char}
    (h : dropComments inComment cs ≠ []) : (firstDark true cs).isSome = true := by
  induction cs generalizing inComment with
  | nil => exact absurd rfl h
  | cons c cs ih =>
    unfold firstDark
    split
    · next hblank =>
      simp only [dropComments, hblank, if_true] at h
      split at h
      · exact ih h
      · exact ih h
    · simp

/-- Where something counts, the first character that is not blank stands for it. -/
theorem firstDark_isSome {cs : List Char} (h : dropComments false cs ≠ []) :
    (firstDark false cs).isSome = true := by
  induction cs with
  | nil => exact absurd rfl h
  | cons c cs ih =>
    unfold firstDark
    simp only [dropComments, Bool.false_eq_true, if_false] at h
    split
    · next hblank =>
      rw [if_pos hblank] at h
      exact ih h
    · next hblank =>
      rw [if_neg hblank] at h
      split
      · next hnumber =>
        rw [if_pos hnumber.1] at h
        exact firstDark_comment_isSome h
      · rfl

theorem firstDark_append {inComment : Bool} {cs : List Char}
    (h : (firstDark inComment cs).isSome = true) (more : List Char) :
    firstDark inComment (cs ++ more) = firstDark inComment cs := by
  induction cs generalizing inComment with
  | nil => cases h
  | cons c cs ih =>
    simp only [firstDark, List.cons_append] at h ⊢
    split
    · next hblank =>
      rw [if_pos hblank] at h
      exact ih h
    · next hblank =>
      rw [if_neg hblank] at h
      split
      · next hnumber =>
        rw [if_pos hnumber] at h
        exact ih h
      · rfl

theorem Flags.peek_append {f : Flags} {cs : List Char} (h : f.skip cs ≠ []) (more : List Char) :
    f.peek (cs ++ more) = f.peek cs := by
  unfold peek
  split
  · next hx =>
    rw [skip, if_pos hx] at h
    have hdark := firstDark_isSome h
    rw [firstDark_append hdark]
    obtain ⟨c, hc⟩ := Option.isSome_iff_exists.1 hdark
    rw [hc]
    rfl
  · next hx =>
    rw [skip, if_neg hx] at h
    obtain ⟨c, cs, rfl⟩ := List.exists_cons_of_ne_nil h
    rfl

end Blanks

/-! ## Parts of readers -/

namespace Local

variable {f : Flags} {read : List Char → Except Fault (α × List Char)}

theorem error (e : Fault) : Local f (fun _ => (.error e : Except Fault (α × List Char))) :=
  ⟨nofun, nofun⟩

theorem pure (x : α) : Local f (fun cs => .ok (x, cs)) where
  suffix h := by
    cases h
    exact List.suffix_rfl
  append h _ _ := by
    cases h
    rfl

/-- Blanks and comments in front do not matter. -/
theorem skip (h : Local f read) : Local f (fun cs => read (f.skip cs)) where
  suffix hr := (h.suffix hr).trans (f.skip_suffix _)
  append := by
    intro cs x rest more hr hend hmore
    have hskip : f.skip cs = [] → f.extended = false := fun hnil => hend (by
      have hsuffix := h.suffix hr
      rw [hnil] at hsuffix
      exact List.suffix_nil.1 hsuffix)
    simp only [f.skip_append hskip]
    exact h.append hr hend hmore

/-- One reader after another. -/
theorem bind {next : α → List Char → Except Fault (β × List Char)} (h : Local f read)
    (hnext : ∀ x, Local f (next x)) :
    Local f (fun cs => read cs >>= fun r => next r.1 r.2) where
  suffix := by
    intro cs y rest hr
    obtain ⟨r, hread, hr⟩ := bind_eq_ok.1 hr
    exact ((hnext r.1).suffix hr).trans (h.suffix hread)
  append := by
    intro cs y rest more hr hend hmore
    obtain ⟨r, hread, hr⟩ := bind_eq_ok.1 hr
    have hmid : r.2 = [] → f.extended = false := fun hnil => hend (by
      have hsuffix := (hnext r.1).suffix hr
      rw [hnil] at hsuffix
      exact List.suffix_nil.1 hsuffix)
    exact bind_eq_ok.2 ⟨_, h.append hread hmid hmore, (hnext r.1).append hr hend hmore⟩

theorem congr {read' : List Char → Except Fault (α × List Char)} (h : Local f read)
    (heq : ∀ cs, read' cs = read cs) : Local f read' := by
  rwa [funext heq]

theorem map (h : Local f read) (g : α → β) :
    Local f fun cs => (read cs).map fun r => (g r.1, r.2) :=
  (h.bind fun x => .pure (g x)).congr fun cs => by cases read cs <;> rfl

/-- What is returned may be refused. -/
theorem value {γ : Type} (v : Except Fault γ) (g : γ → α) :
    Local f (fun cs => v >>= fun c => Pure.pure (g c, cs)) := by
  cases v with
  | error e => exact error e
  | ok c => exact pure (g c)

/-- A character first, and a reader that it chooses. -/
theorem cons (hnil : ∃ e, read [] = .error e) (hcons : ∀ c, Local f fun cs => read (c :: cs)) :
    Local f read where
  suffix := by
    intro cs x rest hr
    cases cs with
    | nil =>
      obtain ⟨e, he⟩ := hnil
      rw [he] at hr
      cases hr
    | cons c cs => exact ((hcons c).suffix hr).trans (List.suffix_cons c cs)
  append := by
    intro cs x rest more hr hend hmore
    cases cs with
    | nil =>
      obtain ⟨e, he⟩ := hnil
      rw [he] at hr
      cases hr
    | cons c cs => exact (hcons c).append hr hend hmore

/-- A first brace or question mark is taken by one reader, and any other text by another. -/
theorem mark {d : Char} (hd : d = '?' ∨ d = '{')
    {other : List Char → Except Fault (α × List Char)} (h : Local f read) (ho : Local f other) :
    Local f fun cs => if cs.head? = some d then read cs.tail else other cs where
  suffix := by
    intro cs x rest hr
    cases cs with
    | nil => exact ho.suffix hr
    | cons c cs =>
      by_cases hc : c = d
      · rw [if_pos (by rw [hc]; rfl)] at hr
        exact (h.suffix hr).trans (List.suffix_cons c cs)
      · rw [if_neg (by simpa using hc)] at hr
        exact ho.suffix hr
  append := by
    intro cs x rest more hr hend hmore
    cases cs with
    | nil =>
      have hne : more.head? ≠ some d := by
        rcases hd with rfl | rfl
        · exact hmore.1
        · exact hmore.2
      rw [List.nil_append, if_neg hne]
      exact ho.append hr hend hmore
    | cons c cs =>
      by_cases hc : c = d
      · rw [if_pos (by rw [hc]; rfl)] at hr ⊢
        exact h.append hr hend hmore
      · rw [if_neg (by simpa using hc)] at hr ⊢
        exact ho.append hr hend hmore

end Local

/-! ## Parts that never fail -/

/-- The part leaves an end of its text. If it leaves something, more text behind does not matter. -/
structure Takes (part : List Char → α × List Char) : Prop where
  suffix : ∀ cs, (part cs).2 <:+ cs
  append : ∀ {cs}, (part cs).2 ≠ [] → ∀ more,
    part (cs ++ more) = ((part cs).1, (part cs).2 ++ more)

namespace Takes

variable {part : List Char → α × List Char} {f : Flags}

theorem keep (x : α) : Takes fun cs => (x, cs) := ⟨fun _ => List.suffix_rfl, fun _ _ => rfl⟩

theorem skip (h : Takes part) : Takes fun cs => part (f.skip cs) where
  suffix cs := (h.suffix _).trans (f.skip_suffix cs)
  append := by
    intro cs hne more
    have hskip : f.skip cs ≠ [] := fun hnil => by
      have hsuffix := h.suffix (f.skip cs)
      rw [hnil] at hsuffix hne
      exact hne (List.suffix_nil.1 hsuffix)
    rw [f.skip_append (fun hnil => absurd hnil hskip)]
    exact h.append hne more

theorem andThen {next : α → List Char → β × List Char} (h : Takes part)
    (hnext : ∀ x, Takes (next x)) : Takes fun cs => next (part cs).1 (part cs).2 where
  suffix cs := ((hnext _).suffix _).trans (h.suffix cs)
  append := by
    intro cs hne more
    have hmid : (part cs).2 ≠ [] := fun hnil => by
      have hsuffix := (hnext (part cs).1).suffix (part cs).2
      rw [hnil] at hsuffix hne
      exact hne (List.suffix_nil.1 hsuffix)
    simp only [h.append hmid more]
    exact (hnext _).append hne more

/-- A first character is taken if it is a given one. -/
theorem mark (d : Char) (x : α) (h : Takes part) :
    Takes fun cs => if cs.head? = some d then part cs.tail else (x, cs) where
  suffix cs := by
    split
    · exact (h.suffix _).trans (List.tail_suffix cs)
    · exact List.suffix_rfl
  append := by
    intro cs hne more
    cases cs with
    | nil => exact absurd rfl hne
    | cons c cs =>
      simp only [List.cons_append, List.head?_cons, List.tail_cons] at hne ⊢
      by_cases hc : c = d
      · simp only [hc, if_true] at hne ⊢
        exact h.append hne more
      · simp [hc]

theorem map (h : Takes part) (g : α → β) : Takes fun cs => (g (part cs).1, (part cs).2) :=
  h.andThen fun x => .keep (g x)

theorem congr {part' : List Char → α × List Char} (h : Takes part)
    (heq : ∀ cs, part' cs = part cs) : Takes part' := by
  rwa [funext heq]

end Takes

/-- Characters in front as long as they are of a kind, where blanks and comments do not count, and
what follows them. -/
def readWhile (f : Flags) (p : Char → Bool) : Nat → List Char → List Char × List Char
  | fuel + 1, c :: cs =>
    if p c then
      let r := readWhile f p fuel (f.skip cs)
      (c :: r.1, r.2)
    else ([], c :: cs)
  | _, cs => ([], cs)

section ReadWhile

variable (f : Flags) (p : Char → Bool)

theorem readWhile_nil (n : Nat) : readWhile f p n [] = ([], []) := by
  cases n <;> rfl

theorem readWhile_suffix (n : Nat) (cs : List Char) : (readWhile f p n cs).2 <:+ cs := by
  induction n generalizing cs with
  | zero => exact List.suffix_rfl
  | succ n ih =>
    cases cs with
    | nil => exact List.suffix_rfl
    | cons c cs =>
      rw [readWhile]
      split
      · exact ((ih _).trans (f.skip_suffix cs)).trans (List.suffix_cons c cs)
      · exact List.suffix_rfl

/-- As many rounds as there are characters are enough. -/
theorem readWhile_append {n m : Nat} {cs more : List Char} (hn : cs.length ≤ n)
    (hm : (cs ++ more).length ≤ m) (h : (readWhile f p n cs).2 ≠ []) :
    readWhile f p m (cs ++ more) = ((readWhile f p n cs).1, (readWhile f p n cs).2 ++ more) := by
  induction n generalizing m cs with
  | zero =>
    obtain rfl : cs = [] := List.length_eq_zero_iff.1 (Nat.le_zero.1 hn)
    exact absurd rfl h
  | succ n ih =>
    cases cs with
    | nil => exact absurd rfl h
    | cons c cs =>
      obtain ⟨m, rfl⟩ : ∃ k, m = k + 1 := ⟨m - 1, by
        simp only [List.cons_append, List.length_cons] at hm
        omega⟩
      rw [List.cons_append, readWhile, readWhile]
      rw [readWhile] at h
      split
      · next hc =>
        rw [if_pos hc] at h
        have hdark : f.skip cs ≠ [] := fun hnil => by
          simp [hnil, readWhile_nil] at h
        have hlength := (f.skip_suffix cs).length_le
        have hlength' := (f.skip_suffix (cs ++ more)).length_le
        rw [f.skip_append fun hnil => absurd hnil hdark] at hlength' ⊢
        simp only [List.length_cons, List.cons_append] at hn hm
        rw [ih (by omega) (by omega) h]
      · rfl

theorem takes_readWhile : Takes fun cs => readWhile f p cs.length cs :=
  ⟨fun cs => readWhile_suffix f p _ cs,
    fun h _ => readWhile_append f p (Nat.le_refl _) (Nat.le_refl _) h⟩

end ReadWhile

/-! ## Escapes -/

section Escapes

variable (f : Flags)

theorem allUpTo_some {stop : Char} {cs found rest : List Char}
    (h : allUpTo stop cs = some (found, rest)) :
    rest <:+ cs ∧ ∀ more, allUpTo stop (cs ++ more) = some (found, rest ++ more) := by
  induction cs generalizing found with
  | nil => cases h
  | cons c cs ih =>
    simp only [allUpTo, List.cons_append] at h ⊢
    split at h
    · next hc =>
      cases h
      exact ⟨List.suffix_cons .., fun more => by rw [if_pos hc]⟩
    · next hc =>
      obtain ⟨⟨later, rest'⟩, hlater, heq⟩ := Option.map_eq_some_iff.1 h
      cases heq
      obtain ⟨hsuffix, happend⟩ := ih hlater
      exact ⟨hsuffix.trans (List.suffix_cons c cs), fun more => by
        rw [if_neg hc, happend]
        rfl⟩

theorem darkUpTo_some {stop : Char} {inComment : Bool} {cs found rest : List Char}
    (h : darkUpTo stop inComment cs = some (found, rest)) :
    rest <:+ cs ∧ ∀ more, darkUpTo stop inComment (cs ++ more) = some (found, rest ++ more) := by
  induction cs generalizing inComment found with
  | nil => cases h
  | cons c cs ih =>
    have hcons : ∀ {b found}, darkUpTo stop b cs = some (found, rest) →
        rest <:+ c :: cs ∧ ∀ more, darkUpTo stop b (cs ++ more) = some (found, rest ++ more) :=
      fun h => ⟨(ih h).1.trans (List.suffix_cons c cs), (ih h).2⟩
    simp only [darkUpTo, List.cons_append] at h ⊢
    split at h
    · next hc => simpa only [if_pos hc] using hcons h
    · next hc =>
      simp only [if_neg hc]
      split at h
      · next hb => simpa only [if_pos hb] using hcons h
      · next hb =>
        simp only [if_neg hb]
        split at h
        · next hn => simpa only [if_pos hn] using hcons h
        · next hn =>
          simp only [if_neg hn]
          split at h
          · next hs =>
            cases h
            exact ⟨List.suffix_cons .., fun more => by rw [if_pos hs]⟩
          · next hs =>
            obtain ⟨⟨later, rest'⟩, hlater, heq⟩ := Option.map_eq_some_iff.1 h
            cases heq
            obtain ⟨hsuffix, happend⟩ := hcons hlater
            exact ⟨hsuffix, fun more => by
              rw [if_neg hs, happend]
              rfl⟩

theorem Flags.upTo_some {stop : Char} {cs found rest : List Char}
    (h : f.upTo stop cs = some (found, rest)) :
    rest <:+ cs ∧ ∀ more, f.upTo stop (cs ++ more) = some (found, rest ++ more) := by
  unfold upTo at h ⊢
  split
  · next hx =>
    rw [if_pos hx] at h
    exact darkUpTo_some h
  · next hx =>
    rw [if_neg hx] at h
    exact allUpTo_some h

theorem local_upTo {stop : Char} {e : Fault}
    {next : List Char → List Char → Except Fault (α × List Char)}
    (h : ∀ found, Local f (next found)) :
    Local f fun cs => match f.upTo stop cs with
      | none => .error e
      | some (found, rest) => next found rest where
  suffix := by
    intro cs x rest hr
    split at hr
    · cases hr
    · next found behind hfound => exact ((h found).suffix hr).trans (f.upTo_some hfound).1
  append := by
    intro cs x rest more hr hend hmore
    split at hr
    · cases hr
    · next found behind hfound =>
      simp only [(f.upTo_some hfound).2]
      exact (h found).append hr hend hmore

theorem local_readHexFixed (count n : Nat) : Local f (readHexFixed f count n) := by
  induction count generalizing n with
  | zero => exact Local.pure n
  | succ count ih =>
    refine .cons ⟨_, rfl⟩ fun c => ?_
    simp only [readHexFixed]
    cases Text.hexDigit? c with
    | none => exact .error _
    | some d => exact (ih _).skip

theorem local_readHex (count : Nat) : Local f (readHex f count) := by
  have hbraced : Local f fun cs => match f.upTo '}' cs with
      | none => .error .escapeUnfinished
      | some (digits, rest) =>
        (if digits = [] then .error .hexEmpty else hexNumber 0 digits >>= charOf) >>= fun c =>
          Pure.pure (Escaped.literal c false, rest) :=
    local_upTo f fun _ => .value _ fun c => Escaped.literal c false
  have hfixed : Local f fun cs => readHexFixed f count 0 cs >>= fun r =>
      charOf r.1 >>= fun c => Pure.pure (Escaped.literal c (count = 2), r.2) :=
    (local_readHexFixed f count 0).bind fun n =>
      .value (charOf n) fun c => Escaped.literal c (count = 2)
  refine ((hbraced.mark (.inr rfl) hfixed).skip).congr fun cs => ?_
  rw [readHex]
  split
  · next inner hskip =>
    simp only [hskip, List.head?_cons, if_true, List.tail_cons]
    rcases f.upTo '}' inner with _ | ⟨_ | ⟨c, digits⟩, rest⟩
    · rfl
    · rfl
    · simp
  · next hskip =>
    rw [if_neg (mt List.head?_eq_some_iff.1 (not_exists.2 hskip))]

/-- The set of a property, with what stands behind it. -/
def propertyOf (negated : Bool) (text rest : List Char) : Except Fault (Escaped × List Char) :=
  if f.unicode then propertySet text >>= fun s =>
    Pure.pure (Escaped.set (if negated then (f.fold s).complement else f.fold s), rest)
  else .error .unicodeRequired

theorem local_propertyOf (negated : Bool) (text : List Char) :
    Local f (propertyOf f negated text) := by
  unfold propertyOf
  by_cases hu : f.unicode = true
  · simp only [hu, if_true]
    exact .value (propertySet text) fun s =>
      Escaped.set (if negated then (f.fold s).complement else f.fold s)
  · simp only [hu]
    exact .error _

/-- The set of the property that the first letter names. -/
def propertyLetter (negated : Bool) : List Char → Except Fault (Escaped × List Char)
  | [] => .error .escapeUnfinished
  | c :: cs => if c = '\\' then .error .propertyInvalid else propertyOf f negated [c] cs

theorem local_propertyLetter (negated : Bool) : Local f (propertyLetter f negated) := by
  refine .cons ⟨_, rfl⟩ fun c => ?_
  simp only [propertyLetter]
  split
  · exact .error _
  · exact local_propertyOf f negated [c]

theorem local_readProperty (negated : Bool) : Local f (readProperty f negated) := by
  have hbraced : Local f fun cs => match f.upTo '}' cs with
      | none => .error .escapeUnfinished
      | some (found, rest) => propertyOf f negated found rest :=
    local_upTo f (local_propertyOf f negated)
  refine ((hbraced.mark (.inr rfl) (local_propertyLetter f negated)).skip).congr fun cs => ?_
  rw [readProperty]
  split
  · next hskip =>
    simp only [hskip]
    rfl
  · next inner hskip =>
    simp only [hskip, List.head?_cons, if_true, List.tail_cons]
    cases f.upTo '}' inner <;> rfl
  · next inner hskip =>
    simp only [hskip]
    rfl
  · next c inner hbrace hslash hskip =>
    have hc : ¬(c :: inner).head? = some '{' := by simpa using hbrace
    have hc' : ¬c = '\\' := hslash
    simp only [hskip, if_neg hc, propertyLetter, if_neg hc']
    rfl

/-- A word boundary, with what stands behind it. -/
def boundaryOf (boundary : Boundary) (rest : List Char) : Except Fault (Escaped × List Char) :=
  .ok (.look (.word boundary (!f.unicode)), rest)

/-- The word boundary with the name in front of a closing brace. -/
def boundaryNamed (cs : List Char) : Except Fault (Escaped × List Char) :=
  match f.upTo '}' cs with
  | none => .error .boundaryUnclosed
  | some (name, rest) =>
    if name = "start".toList then boundaryOf f .first rest
    else if name = "end".toList then boundaryOf f .last rest
    else if name = "start-half".toList then boundaryOf f .firstHalf rest
    else if name = "end-half".toList then boundaryOf f .lastHalf rest
    else .error .boundaryUnknown

theorem local_boundaryNamed : Local f (boundaryNamed f) := by
  refine local_upTo f fun name => ?_
  repeat' split
  all_goals first | exact .pure _ | exact .error _

theorem readBoundary_of_head? {cs : List Char} (h : cs.head? ≠ some '{') :
    readBoundary f cs = boundaryOf f .edge cs := by
  unfold readBoundary
  split
  · exact absurd rfl h
  · rfl

/-- Braces that do not start with a name of a boundary are looked at, but not taken. -/
theorem readBoundary_brace (cs : List Char) : readBoundary f ('{' :: cs) =
    match (f.skip cs).head? with
    | none => .error .boundaryUnclosed
    | some c =>
      if isBoundaryChar c then boundaryNamed f cs else boundaryOf f .edge ('{' :: cs) := by
  cases hskip : f.skip cs with
  | nil => simp only [readBoundary, hskip, List.head?_nil]
  | cons c behind =>
    simp only [readBoundary, hskip, List.head?_cons]
    rfl

theorem local_readBoundary : Local f (readBoundary f) where
  suffix := by
    intro cs x rest h
    by_cases hcs : cs.head? = some '{'
    · obtain ⟨inner, rfl⟩ := List.head?_eq_some_iff.1 hcs
      rw [readBoundary_brace] at h
      split at h
      · cases h
      · split at h
        · exact ((local_boundaryNamed f).suffix h).trans (List.suffix_cons ..)
        · cases h
          exact List.suffix_rfl
    · rw [readBoundary_of_head? f hcs] at h
      cases h
      exact List.suffix_rfl
  append := by
    intro cs x rest more h hend hmore
    by_cases hcs : cs.head? = some '{'
    · obtain ⟨inner, rfl⟩ := List.head?_eq_some_iff.1 hcs
      rw [readBoundary_brace] at h
      rw [List.cons_append, readBoundary_brace]
      split at h
      · cases h
      · next c hhead =>
        obtain ⟨behind, hskip⟩ := List.head?_eq_some_iff.1 hhead
        rw [f.skip_append (by simp [hskip]), hskip, List.cons_append, List.head?_cons]
        dsimp only
        split at h
        · next hc =>
          rw [if_pos hc]
          exact (local_boundaryNamed f).append h hend hmore
        · next hc =>
          rw [if_neg hc]
          cases h
          rfl
    · have hlonger : (cs ++ more).head? ≠ some '{' := by
        cases cs with
        | nil => exact hmore.2
        | cons c cs => exact hcs
      rw [readBoundary_of_head? f hcs] at h
      rw [readBoundary_of_head? f hlonger]
      cases h
      rfl

theorem local_readEscape : Local f (readEscape f) := by
  have hclass : ∀ v : Except Fault Escaped, Local f fun cs => v.map (·, cs) := by
    intro v
    cases v with
    | error e => exact .error e
    | ok x => exact .pure x
  refine .cons ⟨_, rfl⟩ fun c => ?_
  simp only [readEscape]
  -- Each escape ends with its letter, or goes on with a number, a property or a boundary.
  repeat' split
  all_goals first
    | exact .pure _
    | exact .error _
    | exact local_readHex f _
    | exact local_readProperty f _
    | exact local_readBoundary f
    | exact hclass _

end Escapes

end Signpost.Regex
