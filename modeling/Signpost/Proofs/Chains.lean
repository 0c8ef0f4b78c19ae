import Mathlib.Data.List.Forall2
import Signpost.Regex.Circuit

/-!
# Chains of circuits

The circuit of an expression that is anchored at both ends is a chain of circuits. Where it finds a
match, each link has taken a piece of the text, the pieces one behind the other from the start of
the text to its end. This needs nothing to be known of the links but that their cells hold outcomes
of going on behind them.

## Main definitions

* `Circuit.Holds`: the cells of a circuit hold outcomes that a proposition follows from.
* `Cuts`: a text falls into the pieces of a chain.
* `Keeps`: the cells of a chain hold outcomes of going on in a text.
* `IsAnchored`: a chain behind the start of a text finds a match only if it cuts all of the text.

## Main statements

* `Circuit.Holds.feed`: one place further, the cells hold the outcomes of that place.
* `Keeps.feed`: the same of a chain.
* `isAnchored_sweep`: a match of a chain between the two ends of a text cuts the text.
-/

namespace Signpost.Regex

@[simp] theorem Outcome.isSome_mark (p : Place) (group : Nat) (opens : Bool) (k : Outcome) :
    (k.mark p group opens).isSome = k.isSome := Option.isSome_map

@[simp] theorem Outcome.isSome_prefer (greedy : Bool) (round rest : Outcome) :
    (Outcome.prefer greedy round rest).isSome = (round.isSome || rest.isSome) := by
  cases greedy <;> simp [prefer, Option.isSome_or, Bool.or_comm]

namespace Circuit

/-- Where a cell holds a match, the proposition is true. -/
def Holds (q : Prop) : Circuit → Prop
  | empty => True
  | cell _ next => next.isSome → q
  | look _ => True
  | capture _ body => body.Holds q
  | cat first second => first.Holds q ∧ second.Holds q
  | alt left right => left.Holds q ∧ right.Holds q
  | optional _ body => body.Holds q
  | plus _ body => body.Holds q
  | star _ body => body.Holds q
  | cycle _ body => body.Holds q

theorem holds_copies {q : Prop} {c last : Circuit} (hc : c.Holds q) (hlast : last.Holds q)
    (n : Nat) : (copies c last n).Holds q := by
  induction n with
  | zero => exact hlast
  | succ n ih => exact ⟨hc, ih⟩

theorem holds_upTo {q : Prop} {c : Circuit} (hc : c.Holds q) (greedy : Bool) (n : Nat) :
    (upTo greedy c n).Holds q := by
  induction n with
  | zero => trivial
  | succ n ih => exact ⟨hc, ih⟩

section Feed

variable {p : Place} {before q : Prop} (hplace : p.after.isSome → before → q)

include hplace

theorem take_of_holds {chars : CharSet} {next : Outcome} (h : next.isSome → before)
    (ht : (take p chars next).isSome) : q := by
  unfold take at ht
  split at ht
  · next hafter =>
    refine hplace ?_ (h ht)
    cases hp : p.after with
    | none => simp [hp] at hafter
    | some c => rfl
  · cases ht

/-- A circuit that is entered at a place finds nothing but what its cells hold or what is behind
it. -/
theorem Holds.run {c : Circuit} (h : c.Holds before) {k : Outcome} (hk : k.isSome → q) :
    (run p c k).isSome → q := by
  induction c generalizing k with
  | empty => exact hk
  | cell chars next => exact take_of_holds hplace h
  | look condition =>
    rw [Circuit.run]
    split
    · exact hk
    · simp
  | capture group body ih =>
    rw [Circuit.run, Outcome.isSome_mark]
    exact ih h (by rwa [Outcome.isSome_mark])
  | cat first second ih₁ ih₂ => exact ih₁ h.1 (ih₂ h.2 hk)
  | alt left right ih₁ ih₂ =>
    rw [Circuit.run, Option.isSome_or, Bool.or_eq_true]
    exact Or.rec (ih₁ h.1 hk) (ih₂ h.2 hk)
  | optional greedy body ih =>
    rw [Circuit.run, Outcome.isSome_prefer, Bool.or_eq_true]
    exact Or.rec (ih h hk) hk
  | plus greedy body ih => exact ih h hk
  | star greedy body ih =>
    rw [Circuit.run, Outcome.isSome_prefer, Bool.or_eq_true]
    exact Or.rec (ih h (by simp)) hk
  | cycle greedy body ih => exact ih h hk

/-- One place further to the front, the cells hold outcomes of that place. -/
theorem Holds.feed_and_route {c : Circuit} (h : c.Holds before) :
    (∀ {k : Outcome}, (k.isSome → q) →
      (feed p c k).1.Holds q ∧ ((feed p c k).2.isSome → q)) ∧
    ∀ {k : Outcome → Outcome}, (∀ x : Outcome, (x.isSome → q) → (k x).isSome → q) →
      (route p c k).Holds q := by
  have hprefer : ∀ {greedy : Bool} {round rest : Outcome}, (round.isSome → q) →
      (rest.isSome → q) → (Outcome.prefer greedy round rest).isSome → q := by
    intro greedy round rest hround hrest
    rw [Outcome.isSome_prefer, Bool.or_eq_true]
    exact Or.rec hround hrest
  induction c with
  | empty => exact ⟨fun hk => ⟨trivial, hk⟩, fun _ => trivial⟩
  | cell chars next =>
    have htake := @take_of_holds p before q hplace chars next h
    exact ⟨fun hk => ⟨hk, htake⟩, fun hk => hk _ htake⟩
  | look condition =>
    refine ⟨fun hk => ⟨trivial, ?_⟩, fun _ => trivial⟩
    rw [Circuit.feed]
    split
    · exact hk
    · simp
  | capture group body ih =>
    obtain ⟨hfeed, hroute⟩ := ih h
    refine ⟨fun {k} hk => ?_, fun {k} hk => ?_⟩
    · obtain ⟨hcells, houtcome⟩ := @hfeed (k.mark p group false) (by rwa [Outcome.isSome_mark])
      exact ⟨hcells, by rwa [Circuit.feed, Outcome.isSome_mark]⟩
    · refine hroute fun x hx => ?_
      rw [Outcome.isSome_mark]
      exact hk _ (by rwa [Outcome.isSome_mark])
  | cat first second ih₁ ih₂ =>
    obtain ⟨hfeed₁, hroute₁⟩ := ih₁ h.1
    obtain ⟨hfeed₂, hroute₂⟩ := ih₂ h.2
    refine ⟨fun hk => ?_, fun hk => ⟨hroute₁ fun x hx => ?_, hroute₂ fun x hx => ?_⟩⟩
    · obtain ⟨hsecond, hinner⟩ := hfeed₂ hk
      obtain ⟨hfirst, houter⟩ := hfeed₁ hinner
      exact ⟨⟨hfirst, hsecond⟩, houter⟩
    · exact h.2.run hplace (hk x hx)
    · exact hk _ (h.1.run hplace hx)
  | alt left right ih₁ ih₂ =>
    obtain ⟨hfeed₁, hroute₁⟩ := ih₁ h.1
    obtain ⟨hfeed₂, hroute₂⟩ := ih₂ h.2
    have hor : ∀ {a b : Outcome}, (a.isSome → q) → (b.isSome → q) → (a.or b).isSome → q := by
      intro a b ha hb
      rw [Option.isSome_or, Bool.or_eq_true]
      exact Or.rec ha hb
    have hnone : (none : Outcome).isSome → q := by simp
    refine ⟨fun hk => ?_, fun hk => ⟨hroute₁ fun x hx => ?_, hroute₂ fun x hx => ?_⟩⟩
    · exact ⟨⟨(hfeed₁ hk).1, (hfeed₂ hk).1⟩, hor (hfeed₁ hk).2 (hfeed₂ hk).2⟩
    · exact hk _ (hor hx (h.2.run hplace hnone))
    · exact hk _ (hor (h.1.run hplace hnone) hx)
  | optional greedy body ih =>
    obtain ⟨hfeed, hroute⟩ := ih h
    exact ⟨fun hk => ⟨(hfeed hk).1, hprefer (hfeed hk).2 hk⟩, fun hk => hroute hk⟩
  | plus greedy body ih =>
    obtain ⟨hfeed, -⟩ := ih h
    have hbody : body.Holds before := h
    have hagain : (Circuit.run p body none).isSome → q := hbody.run hplace (by simp)
    exact ⟨fun hk => ⟨(hfeed (hprefer hagain hk)).1, hagain⟩,
      fun hk => (hfeed (hprefer hagain (hk _ hagain))).1⟩
  | star greedy body ih =>
    obtain ⟨hfeed, -⟩ := ih h
    have hbody : body.Holds before := h
    have hagain : (Circuit.run p body none).isSome → q := hbody.run hplace (by simp)
    exact ⟨fun hk => ⟨(hfeed (hprefer hagain hk)).1, hprefer hagain hk⟩,
      fun hk => (hfeed (hprefer hagain (hk none (by simp)))).1⟩
  | cycle greedy body ih =>
    obtain ⟨-, hroute⟩ := ih h
    have hbody : body.Holds before := h
    exact ⟨fun hk => ⟨hroute fun x hx => hprefer hx hk, hbody.run hplace hk⟩,
      fun hk => hroute fun x hx => hprefer hx (hk x hx)⟩

end Feed

end Circuit

/-- A circuit that has read nothing holds no match. -/
theorem Expr.holds_circuit (q : Prop) (e : Expr) : e.circuit.Holds q := by
  induction e with
  | empty => trivial
  | set chars => exact fun h => absurd h (by simp)
  | look condition => trivial
  | capture group body ih => exact ih
  | cat first second ih₁ ih₂ => exact ⟨ih₁, ih₂⟩
  | alt left right ih₁ ih₂ => exact ⟨ih₁, ih₂⟩
  | rounds least most greedy body ih =>
    cases most with
    | some most => exact Circuit.holds_copies ih (Circuit.holds_upTo ih ..) _
    | none =>
      cases least with
      | zero =>
        rw [Expr.circuit]
        split
        · exact ih
        · exact ih
      | succ least =>
        rw [Expr.circuit]
        refine Circuit.holds_copies ih ?_ _
        split
        · exact ih
        · exact ih

/-! ## Chains -/

/-- A link of a chain: a character, or anything. -/
abbrev Link := Option Char

/-- A text falls into pieces, one for each link. -/
def Cuts : List Link → List Char → Prop
  | [], cs => cs = []
  | some c :: links, cs => ∃ rest, cs = c :: rest ∧ Cuts links rest
  | none :: links, cs => ∃ rest, rest <:+ cs ∧ Cuts links rest

/-- The circuit is a chain of links in front of the end of the text, and its cells hold outcomes of
going on in front of a text. -/
inductive Keeps (cs : List Char) : List Link → Circuit → Prop
  | nil : Keeps cs [] (.look .textEnd)
  | char {c : Char} {next : Outcome} {links : List Link} {rest : Circuit}
      (h : next.isSome → Cuts links cs) (hrest : Keeps cs links rest) :
      Keeps cs (some c :: links) (.cat (.cell (.single c) next) rest)
  | hole {links : List Link} {link rest : Circuit} (h : link.Holds (Cuts (none :: links) cs))
      (hrest : Keeps cs links rest) : Keeps cs (none :: links) (.cat link rest)

/-- The link stands for an expression: a character for itself, and anything for any. -/
def Link.IsOf (e : Expr) (link : Link) : Prop := ∀ c, link = some c → e = .set (.single c)

/-- Expressions in front of the end of the text are a chain that has read nothing. -/
theorem keeps_circuit (cs : List Char) {es : List Expr} {links : List Link}
    (h : List.Forall₂ Link.IsOf es links) :
    Keeps cs links (Expr.seq (es ++ [.look .textEnd])).circuit := by
  induction h with
  | nil => exact .nil
  | @cons e link es links hlink _ ih =>
    have hseq : Expr.seq (e :: es ++ [.look .textEnd]) =
        .cat e (.seq (es ++ [.look .textEnd])) := by
      cases es <;> rfl
    rw [hseq]
    cases link with
    | some c =>
      rw [hlink c rfl]
      exact .char (by simp) ih
    | none => exact .hole (e.holds_circuit _) ih

/-- One character further to the front, the cells hold outcomes of going on there. -/
theorem Keeps.feed {links : List Link} {c : Circuit} {cs : List Char} (h : Keeps cs.tail links c)
    (before : Option Char) (index : Nat) :
    Keeps cs links (Circuit.feed ⟨before, cs.head?, index⟩ c (some [])).1 ∧
      ((Circuit.feed ⟨before, cs.head?, index⟩ c (some [])).2.isSome → Cuts links cs) := by
  induction h with
  | nil =>
    refine ⟨.nil, ?_⟩
    cases cs with
    | nil => exact fun _ => rfl
    | cons a cs => simp [Circuit.feed, Look.holds]
  | @char c next links rest h hrest ih =>
    obtain ⟨hrest', hinner⟩ := ih
    refine ⟨.char hinner hrest', fun houtcome => ?_⟩
    cases cs with
    | nil => simp [Circuit.feed, Circuit.take] at houtcome
    | cons a cs =>
      simp only [Circuit.feed, Circuit.take, List.head?_cons, Option.any_some,
        CharSet.contains_single, decide_eq_true_eq] at houtcome
      split at houtcome
      · next ha => exact ⟨cs, by rw [ha], h houtcome⟩
      · cases houtcome
  | @hole links link rest h hrest ih =>
    obtain ⟨hrest', hinner⟩ := ih
    -- A piece that may start one character later may start here.
    have hfurther : cs.head?.isSome → Cuts (none :: links) cs.tail → Cuts (none :: links) cs := by
      rintro - ⟨behind, hbehind, hcuts⟩
      exact ⟨behind, hbehind.trans (List.tail_suffix cs), hcuts⟩
    have hlink := (h.feed_and_route (p := ⟨before, cs.head?, index⟩) hfurther).1
      fun hk => ⟨cs, List.suffix_rfl, hinner hk⟩
    exact ⟨.hole hlink.1 hrest', hlink.2⟩

/-- A chain behind the start of the text keeps to a text, and an outcome is a match only if all of
the text is cut. -/
def IsAnchored (links : List Link) (before : Option Char) (cs : List Char)
    (r : Circuit × Outcome) : Prop :=
  ∃ c, Keeps cs links c ∧ r.1 = .cat (.look .textStart) c ∧
    (r.2.isSome → before = none ∧ Cuts links cs)

theorem Keeps.isAnchored_feed {links : List Link} {c : Circuit} {cs : List Char}
    (h : Keeps cs.tail links c) (before : Option Char) (index : Nat) :
    IsAnchored links before cs
      (Circuit.feed ⟨before, cs.head?, index⟩ (.cat (.look .textStart) c) (some [])) := by
  obtain ⟨hkeeps, hcuts⟩ := h.feed before index
  refine ⟨_, hkeeps, rfl, ?_⟩
  cases before with
  | none => exact fun hinner => ⟨rfl, hcuts hinner⟩
  | some a => simp [Circuit.feed, Look.holds]

/-- A chain between the two ends of a text finds a match only if all of the text is cut. -/
theorem isAnchored_sweep {links : List Link} {c : Circuit} (h : Keeps [] links c)
    (before : Option Char) (index : Nat) (cs : List Char) :
    IsAnchored links before cs (Circuit.sweep (.cat (.look .textStart) c) before index cs) := by
  induction cs generalizing before index with
  | nil => exact @Keeps.isAnchored_feed links c [] h before index
  | cons a cs ih =>
    obtain ⟨c', hc', hcircuit, hlater⟩ := ih (some a) (index + 1)
    obtain ⟨c'', hc'', hcircuit', hhere⟩ :=
      @Keeps.isAnchored_feed links c' (a :: cs) hc' before index
    rw [← hcircuit] at hcircuit' hhere
    refine ⟨c'', hc'', hcircuit', ?_⟩
    rw [Circuit.sweep, Option.isSome_or, Bool.or_eq_true]
    -- Further behind, the text has started.
    exact Or.rec hhere fun hbehind => absurd (hlater hbehind).1 (Option.some_ne_none a)

end Signpost.Regex
