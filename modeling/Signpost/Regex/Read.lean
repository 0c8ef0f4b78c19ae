import Signpost.Regex.Bracket
import Signpost.Regex.Expr

/-!
# Reading expressions

The expression that a text stands for. The text is read from left to right, with the groups that
are still open on a stack; the flags and the numbers and names of groups go along.

## Main definitions

* `State`: what is known in the middle of a text.
* `step`: the state after one character and what belongs to it.
* `read`: the expression of a text, or why it is none.
-/

namespace Signpost.Regex

/-- The greatest depth at which the brackets of an expression may nest. -/
def maxDepth : Nat := 250

/-- The greatest number in a counted repetition. -/
def maxCount : Nat := 0xFFFFFFFF

/-- A part of an expression that is read. -/
structure Item where
  /-- The expression of the part. -/
  expr : Expr
  /-- The depth at which its brackets nest. -/
  depth : Nat := 0
  /-- It only sets flags. -/
  isDirective : Bool := false
deriving Repr, Inhabited

namespace Item

/-- The greatest depth of some parts, and one more if they are two or more. -/
def joinDepth (items : List Item) : Nat :=
  match items with
  | [] => 0
  | [i] => i.depth
  | is => is.foldl (fun d i => max d i.depth) 0 + 1

/-- Parts that stand one after another. -/
def seq (items : List Item) : Item := { expr := .seq (items.map expr), depth := joinDepth items }

/-- Parts that stand for one another. -/
def choice (items : List Item) : Item :=
  { expr := .choice (items.map expr), depth := joinDepth items }

end Item

/-- The branches of a group, the current one last. Both lists run backwards. -/
structure Level where
  /-- The parts of the current branch. -/
  items : List Item := []
  /-- The finished branches. -/
  branches : List Item := []
deriving Repr, Inhabited

namespace Level

/-- The level with one more part. -/
def push (l : Level) (i : Item) : Level := { l with items := i :: l.items }

/-- The level after a `|`. -/
def branch (l : Level) : Level := ⟨[], .seq l.items.reverse :: l.branches⟩

/-- The branches as one part. -/
def close (l : Level) : Item := .choice (l.branch.branches.reverse)

end Level

/-- A group that is still open. -/
structure OpenGroup where
  /-- Its number, if it captures. -/
  number : Option Nat
  /-- The flags behind it. -/
  flags : Flags
  /-- The group around it. -/
  outer : Level
deriving Repr

/-- What is known in the middle of a text. -/
structure State where
  flags : Flags := {}
  /-- The innermost group, as far as it is read. -/
  level : Level := {}
  /-- The groups that are open, the innermost first. -/
  stack : List OpenGroup := []
  /-- How many capturing groups there are so far. -/
  count : Nat := 0
  /-- The names of capturing groups with their numbers. -/
  names : List (String × Nat) := []
deriving Repr, Inhabited

/-- The state with one more part in the innermost group. -/
def State.push (st : State) (i : Item) : State := { st with level := st.level.push i }

/-- A character of the name of a group. -/
def isGroupNameChar (isFirst : Bool) (c : Char) : Bool :=
  if c.toNat < 0x80 then
    c.isAlpha || c == '_' || (!isFirst && (c.isDigit || c == '.' || c == '[' || c == ']'))
  else if isFirst then Unicode.alphabetic.contains c
  else Unicode.alphanumeric.contains c

/-- Reads the name of a group up to its `>`. -/
def readGroupName (isFirst : Bool) : List Char → Except Fault (List Char × List Char)
  | [] => .error .groupNameUnclosed
  | c :: cs =>
    if c = '>' then if isFirst then .error .groupNameEmpty else .ok ([], cs)
    else if isGroupNameChar isFirst c then
      (readGroupName false cs).map fun r => (c :: r.1, r.2)
    else .error .groupNameInvalid

/-- The ways in which a parenthesis goes on. -/
inductive Opening
  /-- A capturing group, maybe with a name. -/
  | capture (name : Option String)
  /-- A group that does not capture, with flags of its own. -/
  | scoped (flags : Flags)
  /-- Flags for the rest of the group around. -/
  | directive (flags : Flags)
deriving Repr

/-- The text goes on with a condition on what stands around. -/
def isLookAround : List Char → Bool
  | '=' :: _ | '!' :: _ | '<' :: '=' :: _ | '<' :: '!' :: _ => true
  | _ => false

/-- Reads how a parenthesis goes on. -/
def readOpening (f : Flags) (cs : List Char) : Except Fault (Opening × List Char) :=
  match f.skip cs with
  | '?' :: cs =>
    if isLookAround cs then .error .lookAround
    else match cs with
      | 'P' :: '<' :: cs =>
        (readGroupName true cs).map fun r => (.capture (some (String.ofList r.1)), r.2)
      | '<' :: cs =>
        (readGroupName true cs).map fun r => (.capture (some (String.ofList r.1)), r.2)
      | cs =>
        match readFlags { flags := f } cs with
        | .error e => .error e
        | .ok (l, last, cs) =>
          if last = ':' then .ok (.scoped l.flags, cs)
          else if l.letters = [] then .error .repetitionMissing
          else .ok (.directive l.flags, cs)
  | cs => .ok (.capture none, cs)

namespace State

/-- The state behind an opening parenthesis. -/
def openGroup (st : State) : Opening → Except Fault State
  | .directive flags =>
    .ok { st.push { expr := .empty, isDirective := true } with flags }
  | .scoped flags =>
    .ok { st with flags, level := {}, stack := ⟨none, st.flags, st.level⟩ :: st.stack }
  | .capture name => do
    let number := st.count + 1
    let names ← match name with
      | none => .ok st.names
      | some name =>
        if (st.names.lookup name).isSome then .error (.groupNameRepeated name)
        else .ok (st.names ++ [(name, number)])
    return { st with
      level := {}, stack := ⟨some number, st.flags, st.level⟩ :: st.stack, count := number, names }

/-- The state behind a closing parenthesis. -/
def closeGroup (st : State) : Except Fault State :=
  match st.stack with
  | [] => .error .groupUnopened
  | g :: stack =>
    let body := st.level.close
    let expr := match g.number with
      | some number => .capture number body.expr
      | none => body.expr
    .ok { st with
      flags := g.flags, level := g.outer.push { expr, depth := body.depth + 1 }, stack }

/-- The state with the last part repeated. -/
def repeatLast (st : State) (least : Nat) (most : Option Nat) (reluctant : Bool) :
    Except Fault State :=
  match st.level.items with
  | [] => .error .repetitionMissing
  | i :: items =>
    if i.isDirective then .error .repetitionMissing
    else
      let expr := i.expr.times least most (reluctant == st.flags.swapGreed)
      .ok { st with level.items := { expr, depth := i.depth + 1 } :: items }

end State

/-- The digits at the start of a text, and what follows them. -/
def readDigits (f : Flags) : Nat → List Char → List Char × List Char
  | fuel + 1, c :: cs =>
    if c.isDigit then
      let r := readDigits f fuel (f.skip cs)
      (c :: r.1, r.2)
    else ([], c :: cs)
  | _, cs => ([], cs)

/-- Reads a number with blanks around it. -/
def readCount (f : Flags) (cs : List Char) : Except Fault (Nat × List Char) :=
  let cs := cs.dropWhile Text.isBlank
  let (digits, rest) := readDigits f cs.length cs
  let n := digits.foldl (fun n c => n * 10 + (c.toNat - 48)) 0
  if digits = [] then .error .countEmpty
  else if maxCount < n then .error .countTooLarge
  else .ok (n, rest.dropWhile Text.isBlank)

/-- Reads a counted repetition behind its opening brace. -/
def readCounts (f : Flags) (cs : List Char) :
    Except Fault (Nat × Option Nat × List Char) := do
  let (least, cs) ← readCount f (f.skip cs)
  match cs with
  | '}' :: cs => return (least, some least, cs)
  | ',' :: cs =>
    match f.skip cs with
    | '}' :: cs => return (least, none, cs)
    | cs =>
      let (most, cs) ← readCount f cs
      match cs with
      | '}' :: cs => if least ≤ most then return (least, some most, cs) else .error .countReversed
      | _ => .error .countUnclosed
  | _ => .error .countUnclosed

/-- A question mark at the start of a text makes a repetition reluctant. -/
def readReluctant : List Char → Bool × List Char
  | '?' :: cs => (true, cs)
  | cs => (false, cs)

/-- The expression of one literal character. -/
def literalExpr (f : Flags) (c : Char) (byte : Bool) : Except Fault Expr :=
  if f.unicode then .ok (.set (f.fold (.single c)))
  else if byte ∧ 0x7F < c.toNat then .error .asciiRequired
  else .ok (.set (f.fold (.single c)))

/-- The expression of an escape. -/
def Escaped.expr (f : Flags) : Escaped → Except Fault Expr
  | .literal c byte => literalExpr f c byte
  | .set chars => .ok (.set chars)
  | .look condition => .ok (.look condition)

/-- The expression of a dot. -/
def dot (f : Flags) : Except Fault Expr :=
  if !f.unicode then .error .asciiRequired
  else if f.dotAll then .ok (.set .full)
  else if f.crlf then .ok (.set (CharSet.ofRanges [(0x0A, 0x0A), (0x0D, 0x0D)]).complement)
  else .ok (.set (CharSet.single '\n').complement)

/-- The state after the character `c` and what belongs to it of the text behind it. -/
def step (st : State) (c : Char) (cs : List Char) : Except Fault (State × List Char) :=
  let f := st.flags
  match c with
  | '(' => do
    let (opening, cs) ← readOpening f cs
    return (← st.openGroup opening, cs)
  | ')' => st.closeGroup.map (·, cs)
  | '|' => .ok ({ st with level := st.level.branch }, cs)
  | '[' => do
    let (cls, cs) ← readBracket f cs
    return (st.push { expr := .set cls.chars, depth := cls.depth }, cs)
  | '?' =>
    let (reluctant, cs) := readReluctant cs
    (st.repeatLast 0 (some 1) reluctant).map (·, cs)
  | '*' =>
    let (reluctant, cs) := readReluctant cs
    (st.repeatLast 0 none reluctant).map (·, cs)
  | '+' =>
    let (reluctant, cs) := readReluctant cs
    (st.repeatLast 1 none reluctant).map (·, cs)
  | '{' => do
    let (least, most, cs) ← readCounts f cs
    let (reluctant, cs) := readReluctant (f.skip cs)
    return (← st.repeatLast least most reluctant, cs)
  | '\\' => do
    let (escaped, cs) ← readEscape f cs
    return (st.push { expr := ← escaped.expr f }, cs)
  | '.' => (dot f).map fun expr => (st.push { expr }, cs)
  | '^' =>
    let look := if f.multiLine then .lineStart f.crlf else .textStart
    .ok (st.push { expr := .look look }, cs)
  | '$' =>
    let look := if f.multiLine then .lineEnd f.crlf else .textEnd
    .ok (st.push { expr := .look look }, cs)
  | _ => (literalExpr f c false).map fun expr => (st.push { expr }, cs)

/-- The state behind a text. Each step takes a character, so `fuel` need not exceed their
number. -/
def steps : Nat → State → List Char → Except Fault State
  | 0, st, _ => .ok st
  | fuel + 1, st, cs =>
    match st.flags.skip cs with
    | [] => .ok st
    | c :: cs =>
      match step st c cs with
      | .error e => .error e
      | .ok (st, cs) => steps fuel st cs

/-- A text that is read. -/
structure Reading where
  /-- The expression. -/
  expr : Expr
  /-- The names of capturing groups with their numbers. -/
  names : List (String × Nat)
deriving Repr

/-- What a text stands for once all of it is read. -/
def State.finish (st : State) : Except Fault Reading :=
  match st.stack with
  | _ :: _ => .error .groupUnclosed
  | [] =>
    let whole := st.level.close
    if maxDepth < whole.depth then .error .tooDeep else .ok ⟨whole.expr, st.names⟩

/-- The expression of a text. -/
def read (text : String) : Except Fault Reading := do
  let cs := text.toList
  (← steps cs.length {} cs).finish

end Signpost.Regex
