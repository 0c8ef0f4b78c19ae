import Signpost.Regex.Look

/-!
# Regular expressions

Expressions as trees. Of two branches the left one is preferred, and a greedy repetition prefers
one more round to none.

## Main definitions

* `Expr`: the expressions.
* `Expr.times`: a repetition in its least form.
* `Expr.minLength?`, `Expr.isZeroWidth`: bounds on the lengths of matches.
* `Expr.groups`: the capturing groups of an expression.
-/

namespace Signpost.Regex

/-- A regular expression. -/
inductive Expr
  | empty
  /-- One character of a set. -/
  | set (chars : CharSet)
  /-- A condition on the place. -/
  | look (condition : Look)
  /-- A capturing group with its number. -/
  | capture (group : Nat) (body : Expr)
  /-- From `least` to `most` rounds, without an upper bound if `most` is missing. -/
  | rounds (least : Nat) (most : Option Nat) (greedy : Bool) (body : Expr)
  | cat (first second : Expr)
  | alt (left right : Expr)
deriving DecidableEq, Repr, Inhabited

namespace Expr

/-- No match has a character. -/
def isZeroWidth : Expr → Bool
  | empty => true
  | set _ => false
  | look _ => true
  | capture _ body => body.isZeroWidth
  | rounds _ most _ body => body.isZeroWidth || most == some 0
  | cat first second => first.isZeroWidth && second.isZeroWidth
  | alt left right => left.isZeroWidth && right.isZeroWidth

/-- The length of the shortest matches; missing if a part can never match. -/
def minLength? : Expr → Option Nat
  | empty => some 0
  | set chars => if chars.isEmpty then none else some 1
  | look _ => some 0
  | capture _ body => body.minLength?
  | rounds least _ _ body => body.minLength?.map (least * ·)
  | cat first second =>
    match first.minLength?, second.minLength? with
    | some m, some n => some (m + n)
    | _, _ => none
  | alt left right =>
    match left.minLength?, right.minLength? with
    | some m, some n => some (min m n)
    | _, _ => none

/-- Every match has a character. -/
def consumes (e : Expr) : Bool := e.minLength?.any (0 < ·)

/-- A repetition in its least form: a second round of a body without characters adds nothing, no
round at all is the empty expression, and exactly one round is the body. -/
def times (least : Nat) (most : Option Nat) (greedy : Bool) (body : Expr) : Expr :=
  let least := if body.isZeroWidth then min least 1 else least
  let most := if body.isZeroWidth then some (min (most.getD 1) 1) else most
  if most = some 0 then empty
  else if least = 1 ∧ most = some 1 then body
  else rounds least most greedy body

/-- One expression after another. -/
def seq : List Expr → Expr
  | [] => empty
  | [e] => e
  | e :: es => cat e (seq es)

/-- One expression or another. -/
def choice : List Expr → Expr
  | [] => empty
  | [e] => e
  | e :: es => alt e (choice es)

/-- The numbers of the capturing groups. -/
def groups : Expr → List Nat
  | empty | set _ | look _ => []
  | capture group body => group :: body.groups
  | rounds _ _ _ body => body.groups
  | cat first second => first.groups ++ second.groups
  | alt left right => left.groups ++ right.groups

end Expr

end Signpost.Regex
