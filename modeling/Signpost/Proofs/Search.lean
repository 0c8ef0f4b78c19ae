import Signpost.Regex

/-!
# Sweeping and searching

A sweep reads a text from its end and keeps one outcome for each cell of a circuit. A search in
depth starts at a place and tries the ways through the circuit in their order of preference. Where
every round of every loop takes a character, the sweep finds at each place what the search finds.

## Main definitions

* `Spot`: a place in a text with the text behind it.
* `Circuit.seek`: the search, for any way of going on behind the circuit.
* `Circuit.IsSteady`: the rounds of the loops take characters.
* `Circuit.load`: the circuit with the outcomes of going on from a spot in its cells.
* `leftmost`: the outcome of the first spot that has one.

## Main statements

* `Circuit.feed_load`: one step of a sweep leaves what the search finds one place further to the
  front.
* `Circuit.sweep_eq`: a whole sweep finds what the search finds.
* `Regex.trace?_eq`: so does the match of an expression.
-/

namespace Signpost.Regex

/-- A place in a text with the text behind it. -/
structure Spot where
  before : Option Char
  /-- How many characters are before the place. -/
  index : Nat
  rest : List Char

namespace Spot

/-- The place alone. -/
def place (s : Spot) : Place := ⟨s.before, s.rest.head?, s.index⟩

/-- The spot behind the next character. -/
def next? (s : Spot) : Option Spot :=
  match s.rest with
  | [] => none
  | a :: cs => some ⟨some a, s.index + 1, cs⟩

/-- The spot `t` is further to the end than `s`. -/
def Behind (t s : Spot) : Prop := t.rest.length < s.rest.length

instance (t s : Spot) : Decidable (t.Behind s) := Nat.decLt ..

theorem Behind.trans {s t u : Spot} (h : u.Behind t) (g : t.Behind s) : u.Behind s :=
  Nat.lt_trans h g

theorem not_behind_self (s : Spot) : ¬s.Behind s := Nat.lt_irrefl _

end Spot

/-- The outcome of going on from each spot. -/
abbrev Onward := Spot → Outcome

/-- Any number of rounds, each of which takes a character, and then `k`. -/
def loop (greedy : Bool) (round : Onward → Onward) (k : Onward) (s : Spot) : Outcome :=
  Outcome.prefer greedy
    (round (fun t => if _h : t.Behind s then loop greedy round k t else none) s) (k s)
termination_by s.rest.length

/-- What comes of one more round depends on the further spots alone. -/
theorem loop_congr {greedy : Bool} {round : Onward → Onward} {k k' : Onward} {s : Spot}
    (h : ∀ t, t.Behind s → k t = k' t) (hs : k s = k' s) :
    loop greedy round k s = loop greedy round k' s := by
  rw [loop, loop, hs]
  congr 2
  funext t
  split
  · next ht => exact loop_congr (fun u hu => h u (hu.trans ht)) (h t ht)
  · rfl
termination_by s.rest.length

namespace Circuit

/-- Every way through the circuit takes a character. -/
def takes : Circuit → Bool
  | empty => false
  | cell _ _ => true
  | look _ => false
  | capture _ body => body.takes
  | cat first second => first.takes || second.takes
  | alt left right => left.takes && right.takes
  | optional _ _ => false
  | plus _ body => body.takes
  | star _ _ => false
  | cycle _ body => body.takes

/-- The rounds of all loops take characters. -/
def IsSteady : Circuit → Prop
  | empty => True
  | cell _ _ => True
  | look _ => True
  | capture _ body => body.IsSteady
  | cat first second => first.IsSteady ∧ second.IsSteady
  | alt left right => left.IsSteady ∧ right.IsSteady
  | optional _ body => body.IsSteady
  | plus _ body => body.takes = true ∧ body.IsSteady
  | star _ body => body.takes = true ∧ body.IsSteady
  | cycle _ _ => False

/-- The outcome of a search in depth that enters the circuit at a spot and goes on with `k` behind
it. A loop that may take nothing counts as one round. -/
def seek : Circuit → Onward → Onward
  | empty, k => k
  | cell chars _, k => fun s =>
    match s.rest with
    | [] => none
    | a :: cs => if chars.contains a then k ⟨some a, s.index + 1, cs⟩ else none
  | look condition, k => fun s => if condition.holds s.before s.rest.head? then k s else none
  | capture group body, k => fun s =>
    (seek body (fun t => (k t).mark t.place group false) s).mark s.place group true
  | cat first second, k => seek first (seek second k)
  | alt left right, k => fun s => (seek left k s).or (seek right k s)
  | optional greedy body, k => fun s => Outcome.prefer greedy (seek body k s) (k s)
  | plus greedy body, k => seek body (loop greedy (seek body) k)
  | star greedy body, k => loop greedy (seek body) k
  | cycle _ body, k => seek body k

/-- A search looks at the way of going on from its own spot and from further ones alone. -/
theorem seek_congr (c : Circuit) {k k' : Onward} {s : Spot}
    (h : ∀ t, t.Behind s → k t = k' t) (hs : k s = k' s) : c.seek k s = c.seek k' s := by
  induction c generalizing k k' s with
  | empty => exact hs
  | cell chars next =>
    simp only [seek]
    split
    · rfl
    · next a cs hrest => rw [h _ (by simp [Spot.Behind, hrest])]
  | look condition => simp only [seek, hs]
  | capture group body ih =>
    simp only [seek]
    rw [ih (fun t ht => by rw [h t ht]) (by rw [hs])]
  | cat first second ih₁ ih₂ =>
    exact ih₁ (fun t ht => ih₂ (fun u hu => h u (hu.trans ht)) (h t ht)) (ih₂ h hs)
  | alt left right ih₁ ih₂ => simp only [seek, ih₁ h hs, ih₂ h hs]
  | optional greedy body ih => simp only [seek, ih h hs, hs]
  | plus greedy body ih =>
    exact ih (fun t ht => loop_congr (fun u hu => h u (hu.trans ht)) (h t ht)) (loop_congr h hs)
  | star greedy body => exact loop_congr h hs
  | cycle greedy body ih => exact ih h hs

/-- If every way takes a character, the search looks at further spots alone. -/
theorem seek_congr_of_takes {c : Circuit} (hc : c.takes = true) {k k' : Onward} {s : Spot}
    (h : ∀ t, t.Behind s → k t = k' t) : c.seek k s = c.seek k' s := by
  induction c generalizing k k' s with
  | empty | look | optional | star => simp [takes] at hc
  | cell chars next =>
    simp only [seek]
    split
    · rfl
    · next a cs hrest => rw [h _ (by simp [Spot.Behind, hrest])]
  | capture group body ih =>
    simp only [seek]
    rw [ih hc fun t ht => by rw [h t ht]]
  | cat first second ih₁ ih₂ =>
    have hsecond : ∀ t, t.Behind s → second.seek k t = second.seek k' t := fun t ht =>
      second.seek_congr (fun u hu => h u (hu.trans ht)) (h t ht)
    rw [takes, Bool.or_eq_true] at hc
    rcases hc with hc | hc
    · exact ih₁ hc hsecond
    · exact first.seek_congr hsecond (ih₂ hc h)
  | alt left right ih₁ ih₂ =>
    rw [takes, Bool.and_eq_true] at hc
    simp only [seek, ih₁ hc.1 h, ih₂ hc.2 h]
  | plus greedy body ih =>
    exact ih hc fun t ht => loop_congr (fun u hu => h u (hu.trans ht)) (h t ht)
  | cycle greedy body ih => exact ih hc h

/-- A loop is a round and the loop again, or its end. -/
theorem loop_seek {body : Circuit} (hb : body.takes = true) (greedy : Bool) (k : Onward)
    (s : Spot) :
    loop greedy body.seek k s =
      Outcome.prefer greedy (body.seek (loop greedy body.seek k) s) (k s) := by
  rw [loop]
  congr 1
  exact seek_congr_of_takes hb fun t ht => dif_pos ht

/-- The circuit with the outcomes of going on from a spot in its cells. Without a spot they stay. -/
def load : Circuit → Onward → Option Spot → Circuit
  | empty, _, _ => empty
  | cell chars next, k, o => cell chars ((o.map k).getD next)
  | look condition, _, _ => look condition
  | capture group body, k, o =>
    capture group (load body (fun t => (k t).mark t.place group false) o)
  | cat first second, k, o => cat (load first (second.seek k) o) (load second k o)
  | alt left right, k, o => alt (load left k o) (load right k o)
  | optional greedy body, k, o => optional greedy (load body k o)
  | plus greedy body, k, o => plus greedy (load body (loop greedy body.seek k) o)
  | star greedy body, k, o => star greedy (load body (loop greedy body.seek k) o)
  | cycle greedy body, _, _ => cycle greedy body

@[simp] theorem load_none (c : Circuit) (k : Onward) : c.load k none = c := by
  induction c generalizing k with
  | empty | cell | look | cycle => simp [load]
  | capture | optional | plus | star => simp [load, *]
  | cat | alt => simp [load, *]

theorem take_place (s : Spot) (chars : CharSet) (k : Onward) (next : Outcome) :
    take s.place chars ((s.next?.map k).getD next) = (cell chars next).seek k s := by
  cases hrest : s.rest <;> simp [take, seek, Spot.place, Spot.next?, hrest]

/-- Entering a loaded circuit finds what the search finds. The outcome of leaving it at once may
differ from that of the way of going on that the cells were loaded with. -/
theorem run_load {c : Circuit} (hc : c.IsSteady) (k k' : Onward) {s : Spot}
    (h : ∀ t, t.Behind s → k t = k' t) :
    run s.place (c.load k s.next?) (k' s) = c.seek k' s := by
  induction c generalizing k k' with
  | empty => rfl
  | cell chars next =>
    rw [load, run, take_place]
    exact seek_congr_of_takes rfl h
  | look condition => rfl
  | capture group body ih =>
    have hbody := ih hc (fun t => (k t).mark t.place group false)
      (fun t => (k' t).mark t.place group false) fun t ht => by rw [h t ht]
    simp only [load, run, seek, hbody]
  | cat first second ih₁ ih₂ =>
    rw [load, run, ih₂ hc.2 k k' h]
    exact ih₁ hc.1 _ _ fun t ht =>
      second.seek_congr (fun u hu => h u (hu.trans ht)) (h t ht)
  | alt left right ih₁ ih₂ => simp only [load, run, seek, ih₁ hc.1 k k' h, ih₂ hc.2 k k' h]
  | optional greedy body ih => simp only [load, run, seek, ih hc k k' h]
  | plus greedy body ih =>
    have hround := ih hc.2 (loop greedy body.seek k)
      (fun t => if t.Behind s then loop greedy body.seek k' t else k' s) fun t ht => by
        rw [if_pos ht]
        exact loop_congr (fun u hu => h u (hu.trans ht)) (h t ht)
    rw [if_neg s.not_behind_self] at hround
    rw [load, run, hround]
    exact seek_congr_of_takes hc.1 fun t ht => if_pos ht
  | star greedy body ih =>
    have hround := ih hc.2 (loop greedy body.seek k)
      (fun t => if t.Behind s then loop greedy body.seek k' t else none) fun t ht => by
        rw [if_pos ht]
        exact loop_congr (fun u hu => h u (hu.trans ht)) (h t ht)
    rw [if_neg s.not_behind_self] at hround
    rw [load, run, hround, seek, loop_seek hc.1]
    congr 1
    exact seek_congr_of_takes hc.1 fun t ht => if_pos ht
  | cycle greedy body => exact hc.elim

/-- Entering the body of a loaded loop finds what a round and the loop again find. -/
theorem run_load_loop {body : Circuit} (ht : body.takes = true) (hb : body.IsSteady)
    (greedy : Bool) (k : Onward) (s : Spot) :
    run s.place (body.load (loop greedy body.seek k) s.next?) none =
      body.seek (loop greedy body.seek k) s := by
  have hround := run_load hb (loop greedy body.seek k)
    (fun t => if t.Behind s then loop greedy body.seek k t else none)
    fun t ht => (if_pos ht).symm
  rw [if_neg s.not_behind_self] at hround
  rw [hround]
  exact seek_congr_of_takes ht fun t ht => if_pos ht

/-- A step of a sweep: from the circuit loaded for the spot behind the next character it makes the
one loaded for the spot itself, and the outcome of the search. -/
theorem feed_load {c : Circuit} (hc : c.IsSteady) (k : Onward) (s : Spot) :
    feed s.place (c.load k s.next?) (k s) = (c.load k (some s), c.seek k s) := by
  induction c generalizing k with
  | empty => rfl
  | cell chars next => simp only [load, feed, take_place, Option.map_some, Option.getD_some]
  | look condition => rfl
  | capture group body ih =>
    have hbody := ih hc fun t => (k t).mark t.place group false
    simp only [load, feed, seek, hbody]
  | cat first second ih₁ ih₂ => simp only [load, feed, seek, ih₂ hc.2 k, ih₁ hc.1 (second.seek k)]
  | alt left right ih₁ ih₂ => simp only [load, feed, seek, ih₁ hc.1 k, ih₂ hc.2 k]
  | optional greedy body ih => simp only [load, feed, seek, ih hc k]
  | plus greedy body ih =>
    simp only [load, feed, seek, run_load_loop hc.1 hc.2, ← loop_seek hc.1, ih hc.2]
  | star greedy body ih =>
    simp only [load, feed, seek, run_load_loop hc.1 hc.2, ← loop_seek hc.1, ih hc.2]
  | cycle greedy body => exact hc.elim

end Circuit

/-- The outcome of the first spot that has one, from one spot to the end of the text. -/
def leftmost (k : Onward) (before : Option Char) (index : Nat) : List Char → Outcome
  | [] => k ⟨before, index, []⟩
  | a :: cs => (k ⟨before, index, a :: cs⟩).or (leftmost k (some a) (index + 1) cs)

/-- Nothing is left to do. -/
def done : Onward := fun _ => some []

/-- A sweep finds what the search finds from the first spot where it finds something. -/
theorem Circuit.sweep_eq {c : Circuit} (hc : c.IsSteady) (before : Option Char) (index : Nat)
    (text : List Char) :
    c.sweep before index text =
      (c.load done (some ⟨before, index, text⟩), leftmost (c.seek done) before index text) := by
  induction text generalizing before index with
  | nil =>
    have hfeed := feed_load hc done ⟨before, index, []⟩
    simpa [sweep, leftmost, Spot.next?, Spot.place, done] using hfeed
  | cons a cs ih =>
    have hfeed := feed_load hc done ⟨before, index, a :: cs⟩
    simp only [Spot.next?, Spot.place, done, List.head?_cons] at hfeed
    simp only [sweep, ih, leftmost]
    rw [hfeed]

/-! ## Expressions -/

/-- The rounds of all unbounded repetitions take characters. -/
def Expr.IsSteady : Expr → Prop
  | empty => True
  | set _ => True
  | look _ => True
  | capture _ body => body.IsSteady
  | rounds _ none _ body => body.consumes = true ∧ body.IsSteady
  | rounds _ (some _) _ body => body.IsSteady
  | cat first second => first.IsSteady ∧ second.IsSteady
  | alt left right => left.IsSteady ∧ right.IsSteady

/-- An expression whose matches have a character becomes a circuit that takes one. -/
theorem Expr.takes_circuit {e : Expr} {n : Nat} (h : e.minLength? = some n) (hn : 0 < n) :
    e.circuit.takes = true := by
  induction e generalizing n with
  | empty => cases h; omega
  | set chars => rfl
  | look condition => cases h; omega
  | capture group body ih => exact ih h hn
  | rounds least most greedy body ih =>
    obtain ⟨m, hm, rfl⟩ := Option.map_eq_some_iff.1 h
    have hbody := ih hm (Nat.pos_of_mul_pos_left hn)
    obtain ⟨l, rfl⟩ : ∃ l, least = l + 1 := ⟨least - 1, by
      have := Nat.pos_of_mul_pos_right hn
      omega⟩
    cases most with
    | some most => simp [Expr.circuit, Circuit.copies, Circuit.takes, hbody]
    | none =>
      simp only [Expr.circuit]
      cases l with
      | zero => split <;> simp [Circuit.copies, Circuit.takes, hbody]
      | succ l => simp [Circuit.copies, Circuit.takes, hbody]
  | cat first second ih₁ ih₂ =>
    simp only [minLength?] at h
    split at h
    · next l m hl hm =>
      cases h
      simp only [Expr.circuit, Circuit.takes, Bool.or_eq_true]
      rcases Nat.eq_zero_or_pos l with rfl | hpos
      · exact .inr (ih₂ hm (by omega))
      · exact .inl (ih₁ hl hpos)
    · cases h
  | alt left right ih₁ ih₂ =>
    simp only [minLength?] at h
    split at h
    · next l m hl hm =>
      cases h
      simp [Expr.circuit, Circuit.takes, ih₁ hl (by omega), ih₂ hm (by omega)]
    · cases h

theorem Expr.takes_circuit_of_consumes {e : Expr} (h : e.consumes = true) :
    e.circuit.takes = true := by
  unfold consumes at h
  cases hn : e.minLength? with
  | none => simp [hn] at h
  | some n => exact takes_circuit hn (by simpa [hn] using h)

theorem Circuit.isSteady_copies {c last : Circuit} (hc : c.IsSteady) (hl : last.IsSteady)
    (n : Nat) : (copies c last n).IsSteady := by
  induction n with
  | zero => exact hl
  | succ n ih => exact ⟨hc, ih⟩

theorem Circuit.isSteady_upTo {c : Circuit} (hc : c.IsSteady) (greedy : Bool) (n : Nat) :
    (upTo greedy c n).IsSteady := by
  induction n with
  | zero => trivial
  | succ n ih => exact ⟨hc, ih⟩

theorem Expr.isSteady_circuit {e : Expr} (h : e.IsSteady) : e.circuit.IsSteady := by
  induction e with
  | empty | set | look => trivial
  | capture group body ih => exact ih h
  | rounds least most greedy body ih =>
    cases most with
    | some most =>
      exact Circuit.isSteady_copies (ih h) (Circuit.isSteady_upTo (ih h) ..) least
    | none =>
      obtain ⟨hc, hb⟩ := h
      have ht : body.circuit.takes = true := takes_circuit_of_consumes hc
      cases least with
      | zero =>
        have hstar : (Circuit.star greedy body.circuit).IsSteady := ⟨ht, ih hb⟩
        simpa only [Expr.circuit, hc, if_true] using hstar
      | succ least =>
        have hplus : (Circuit.plus greedy body.circuit).IsSteady := ⟨ht, ih hb⟩
        simpa only [Expr.circuit, hc, if_true] using Circuit.isSteady_copies (ih hb) hplus least
  | cat first second ih₁ ih₂ => exact ⟨ih₁ h.1, ih₂ h.2⟩
  | alt left right ih₁ ih₂ => exact ⟨ih₁ h.1, ih₂ h.2⟩

/-- The match of an expression is what the search finds from the first place where it finds
something. -/
theorem trace?_eq {reading : Reading} (h : reading.expr.IsSteady) (text : List Char) :
    trace? ⟨reading, reading.expr.circuit⟩ text =
      leftmost (reading.expr.circuit.seek done) none 0 text := by
  rw [trace?, Circuit.sweep_eq (Expr.isSteady_circuit h)]

end Signpost.Regex
