import Signpost.Regex.Expr

/-!
# Circuits

An expression as a circuit that reads a text from its end to its start. Every set of characters
in the circuit is a cell; it holds the outcome of going on behind it at the place read last, which
is the outcome of taking the character before that place. One sweep over the text thus finds the
preferred match from each place, in time linear in the text.

The preferred match is the first one of a search in depth that enters no point of the circuit
twice at one place. A loop whose rounds all take a character enters none twice. In a loop whose
rounds may be empty, a point that the search has passed on its way round is closed to it, so each
cell there has a way of its own to go on.

## Main definitions

* `Trace`: the places at which groups open and close.
* `Circuit`: the circuits.
* `Circuit.run`: the outcome of entering a circuit at a place.
* `Circuit.feed`: the circuit one place further to the front.
* `Circuit.sweep`: the outcome of the leftmost match in a text.
* `Expr.circuit`: the circuit of an expression.
-/

namespace Signpost.Regex

/-- A group opens or closes at a place. -/
structure Mark where
  group : Nat
  /-- How many characters are before the place. -/
  place : Nat
  opens : Bool
deriving DecidableEq, Repr

/-- The groups that a match opens and closes, in the order of the text. -/
abbrev Trace := List Mark

/-- The trace of a match, or that there is none. -/
abbrev Outcome := Option Trace

/-- A place in a text with the characters around it. -/
structure Place where
  before : Option Char
  after : Option Char
  /-- How many characters are before the place. -/
  index : Nat
deriving DecidableEq, Repr

/-- The outcome with a group opening or closing in front. -/
def Outcome.mark (p : Place) (group : Nat) (opens : Bool) (k : Outcome) : Outcome :=
  k.map (⟨group, p.index, opens⟩ :: ·)

/-- The outcome of one more round or of none; a greedy repetition prefers the round. -/
def Outcome.prefer (greedy : Bool) (round rest : Outcome) : Outcome :=
  if greedy then round.or rest else rest.or round

/-- A circuit. -/
inductive Circuit
  | empty
  /-- One character of a set, and the outcome of going on behind it. -/
  | cell (chars : CharSet) (next : Outcome)
  | look (condition : Look)
  | capture (group : Nat) (body : Circuit)
  | cat (first second : Circuit)
  | alt (left right : Circuit)
  /-- One round or none. -/
  | optional (greedy : Bool) (body : Circuit)
  /-- One round or more, each of which takes a character. -/
  | plus (greedy : Bool) (body : Circuit)
  /-- Any number of rounds, each of which takes a character. -/
  | star (greedy : Bool) (body : Circuit)
  /-- One round or more, each of which may be empty. -/
  | cycle (greedy : Bool) (body : Circuit)
deriving Repr, Inhabited

namespace Circuit

/-- The outcome of a cell: that of going on, if the next character is in its set. -/
def take (p : Place) (chars : CharSet) (next : Outcome) : Outcome :=
  if p.after.any chars.contains then next else none

/-- The outcome of entering a circuit at a place, where `k` is the outcome of leaving it there. -/
def run (p : Place) : Circuit → Outcome → Outcome
  | empty, k => k
  | cell chars next, _ => take p chars next
  | look condition, k => if condition.holds p.before p.after then k else none
  | capture group body, k => (run p body (k.mark p group false)).mark p group true
  | cat first second, k => run p first (run p second k)
  | alt left right, k => (run p left k).or (run p right k)
  | optional greedy body, k => Outcome.prefer greedy (run p body k) k
  | plus _ body, k => run p body k
  | star greedy body, k => Outcome.prefer greedy (run p body none) k
  | cycle _ body, k => run p body k

mutual

/-- The circuit whose cells hold the outcome of going on at a place, where `k` is the outcome of
leaving the circuit there; and the outcome of entering it. -/
def feed (p : Place) : Circuit → Outcome → Circuit × Outcome
  | empty, k => (empty, k)
  | cell chars next, k => (cell chars k, take p chars next)
  | look condition, k => (look condition, if condition.holds p.before p.after then k else none)
  | capture group body, k =>
    let (body, inner) := feed p body (k.mark p group false)
    (capture group body, inner.mark p group true)
  | cat first second, k =>
    let (second, inner) := feed p second k
    let (first, outer) := feed p first inner
    (cat first second, outer)
  | alt left right, k =>
    let (left, a) := feed p left k
    let (right, b) := feed p right k
    (alt left right, a.or b)
  | optional greedy body, k =>
    let (body, inner) := feed p body k
    (optional greedy body, Outcome.prefer greedy inner k)
  | plus greedy body, k =>
    let again := run p body none
    (plus greedy (feed p body (Outcome.prefer greedy again k)).1, again)
  | star greedy body, k =>
    let outcome := Outcome.prefer greedy (run p body none) k
    (star greedy (feed p body outcome).1, outcome)
  | cycle greedy body, k =>
    (cycle greedy (route p body fun again => Outcome.prefer greedy again k), run p body k)

/-- The same within a loop whose rounds may be empty. From the outcome of coming back to a cell at
this place, `k` makes the outcome of going on behind it. -/
def route (p : Place) : Circuit → (Outcome → Outcome) → Circuit
  | empty, _ => empty
  | cell chars next, k => cell chars (k (take p chars next))
  | look condition, _ => look condition
  | capture group body, k =>
    capture group (route p body fun x => (k (x.mark p group true)).mark p group false)
  | cat first second, k =>
    cat (route p first fun x => run p second (k x)) (route p second fun x => k (run p first x))
  | alt left right, k =>
    alt (route p left fun x => k (x.or (run p right none)))
      (route p right fun x => k ((run p left none).or x))
  | optional greedy body, k => optional greedy (route p body k)
  | plus greedy body, k =>
    let again := run p body none
    plus greedy (feed p body (Outcome.prefer greedy again (k again))).1
  | star greedy body, k =>
    star greedy (feed p body (Outcome.prefer greedy (run p body none) (k none))).1
  | cycle greedy body, k => cycle greedy (route p body fun x => Outcome.prefer greedy x (k x))

end

/-- Reads a text behind `before`, of which `index` characters are read already, from its end. The
result is the circuit at its start, and the outcome of the leftmost match in it. -/
def sweep (c : Circuit) (before : Option Char) (index : Nat) : List Char → Circuit × Outcome
  | [] => feed ⟨before, none, index⟩ c (some [])
  | a :: cs =>
    let (c, later) := sweep c (some a) (index + 1) cs
    let (c, here) := feed ⟨before, some a, index⟩ c (some [])
    (c, here.or later)

/-- A number of copies of a circuit, and another behind them. -/
def copies (c : Circuit) (last : Circuit) : Nat → Circuit
  | 0 => last
  | n + 1 => cat c (copies c last n)

/-- Up to a number of copies of a circuit. -/
def upTo (greedy : Bool) (c : Circuit) : Nat → Circuit
  | 0 => empty
  | n + 1 => optional greedy (cat c (upTo greedy c n))

end Circuit

/-- The circuit of an expression, before it has read anything. -/
def Expr.circuit : Expr → Circuit
  | empty => .empty
  | set chars => .cell chars none
  | look condition => .look condition
  | capture group body => .capture group body.circuit
  | cat first second => .cat first.circuit second.circuit
  | alt left right => .alt left.circuit right.circuit
  | rounds least (some most) greedy body =>
    .copies body.circuit (.upTo greedy body.circuit (most - least)) least
  | rounds 0 none greedy body =>
    if body.consumes then .star greedy body.circuit
    else .optional greedy (.cycle greedy body.circuit)
  | rounds (least + 1) none greedy body =>
    .copies body.circuit
      (if body.consumes then .plus greedy body.circuit else .cycle greedy body.circuit) least

end Signpost.Regex
