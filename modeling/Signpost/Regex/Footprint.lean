import Signpost.Regex.Expr

/-!
# Room of an automaton

How many bytes the states of an automaton for an expression take, which reads the bytes of a text.
There is one automaton that reads forwards and one that reads backwards. Repetitions copy their
body, so the room is computed without building them.

## Main definitions

* `utf8Runs`: the runs of byte ranges that a range of code points is written with.
* `Prices`: what the parts of an expression take in one of the automata.
* `Expr.footprint`: the room of the greater automaton for an expression.
* `maxFootprint`: the greatest room that is allowed.
-/

namespace Signpost.Regex

/-- The greatest room that an automaton may take, in bytes. -/
def maxFootprint : Nat := 10 * 1024 * 1024

/-- The room of a state without what it leads to. -/
def stateRoom : Nat := 32

/-- The bytes of a code point. -/
def codeBytes (n : Nat) : List Nat :=
  if n < 0x80 then [n]
  else if n < 0x800 then [0xC0 + n / 64, 0x80 + n % 64]
  else if n < 0x10000 then [0xE0 + n / 4096, 0x80 + n / 64 % 64, 0x80 + n % 64]
  else [0xF0 + n / 262144, 0x80 + n / 4096 % 64, 0x80 + n / 64 % 64, 0x80 + n % 64]

/-- The greatest code points of each length in bytes, and the ends of the gap of code points that
are no characters. -/
def codeBorders : List Nat := [0x7F, 0x7FF, 0xD7FF, 0xDFFF, 0xFFFF]

/-- The parts of a range of code points between the borders. -/
def cutAt (lo hi : Nat) : List Nat → List (Nat × Nat)
  | [] => if lo ≤ hi then [(lo, hi)] else []
  | b :: bs =>
    if lo ≤ b ∧ b < hi then (lo, b) :: cutAt (b + 1) hi bs else cutAt lo hi bs

/-- The parts of a range whose trailing bytes run through all their values or stay the same.
`shifts` lists the numbers of values of the trailing bytes. -/
def cutBytes (lo hi : Nat) : List Nat → List (Nat × Nat)
  | [] => [(lo, hi)]
  | m :: ms =>
    if lo / m = hi / m then cutBytes lo hi ms
    else
      let first := if lo % m = 0 then lo else lo - lo % m + m
      let last := if hi % m = m - 1 then hi + 1 else hi - hi % m
      (if lo < first then cutBytes lo (first - 1) ms else []) ++
        (if first < last then cutBytes first (last - 1) ms else []) ++
        (if last ≤ hi then cutBytes last hi ms else [])

/-- The runs of byte ranges that a range of code points is written with. -/
def utf8Runs (lo hi : Nat) : List (List (Nat × Nat)) :=
  let parts := (cutAt lo hi codeBorders).filter fun r => r.1 < 0xD800 || 0xDFFF < r.1
  (parts.flatMap fun r =>
      if r.2 < 0x80 then [r] else cutBytes r.1 r.2 [262144, 4096, 64]).map fun r =>
    (codeBytes r.1).zip (codeBytes r.2)

/-- How many nodes a tree of the runs has, in which runs with the same start share it. Runs with
the same start are neighbours; `previous` is the run before. -/
def sharedNodes (previous : List (Nat × Nat)) : List (List (Nat × Nat)) → Nat
  | [] => 0
  | run :: runs =>
    let shared := ((run.zip previous).takeWhile fun r => r.1 == r.2).length
    run.length - shared + sharedNodes run runs

/-- What the parts of an expression take. -/
structure Prices where
  /-- The room of a set that goes beyond ASCII, given its runs. -/
  wideSet : List (List (Nat × Nat)) → Nat
  /-- The room of the two ends of a group. -/
  group : Nat

/-- The prices of the automaton that reads forwards. Runs share their ends, so that few states are
needed besides the one that tells them apart. -/
def Prices.forwards : Prices := ⟨fun runs => 9 * stateRoom + 8 * runs.length, 2 * stateRoom⟩

/-- The prices of the automaton that reads backwards. Runs share their starts, and groups do not
count. -/
def Prices.backwards : Prices :=
  ⟨fun runs => stateRoom * (sharedNodes [] runs + 2) + 4 * runs.length, 0⟩

/-- The room of a set of characters. -/
def Prices.set (p : Prices) (s : CharSet) : Nat :=
  match s.ranges with
  | [] => stateRoom
  | [(lo, hi)] =>
    if lo = hi then stateRoom * (codeBytes lo).length
    else if hi < 0x80 then 2 * stateRoom
    else p.wideSet (utf8Runs lo hi)
  | ranges =>
    if s.isAscii then 2 * stateRoom + 8 * ranges.length
    else p.wideSet (ranges.flatMap fun r => utf8Runs r.1 r.2)

namespace Expr

/-- The expression is a choice between others. -/
def isAlt : Expr → Bool
  | alt _ _ => true
  | _ => false

/-- The room of the states of an automaton for an expression, at given prices. -/
def room (p : Prices) : Expr → Nat
  | empty => stateRoom
  | set chars => p.set chars
  | look _ => stateRoom
  | capture _ body => body.room p + p.group
  | rounds least none _ body =>
    let loop := max least 1 * body.room p + stateRoom + 8
    if least = 0 ∧ !body.consumes then loop + 2 * stateRoom + 8 else loop
  | rounds least (some most) _ body =>
    if least = most then least * body.room p
    else
      let start := if least = 0 ∧ most ≠ 1 then stateRoom else 0
      start + least * body.room p + stateRoom + (most - least) * (body.room p + stateRoom + 8)
  | cat first second => first.room p + second.room p
  | alt left right =>
    let branch := fun (e : Expr) (n : Nat) => if e.isAlt then n - 2 * stateRoom else n + 4
    branch left (left.room p) + branch right (right.room p) + 2 * stateRoom

/-- The room of the greater one of the two automata for an expression. -/
def footprint (e : Expr) : Nat := max (e.room .forwards) (e.room .backwards)

end Expr

end Signpost.Regex
