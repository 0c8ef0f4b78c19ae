import Signpost.Regex.Backslash

/-!
# Bracketed classes

Sets of characters in square brackets: characters, ranges, escapes, named classes of ASCII and
nested brackets, joined by `&&`, `--` and `~~`. These three bind alike and to the left, and weaker
than standing side by side.

## Main definitions

* `asciiClass?`: the named classes of ASCII.
* `readBracket`: reads a class behind its opening bracket, with the depth of its nesting.
-/

namespace Signpost.Regex

/-- The named classes of ASCII. -/
def asciiClass? (name : List Char) : Option CharSet :=
  match String.ofList name with
  | "alnum" => some (.ofRanges [(0x30, 0x39), (0x41, 0x5A), (0x61, 0x7A)])
  | "alpha" => some (.ofRanges [(0x41, 0x5A), (0x61, 0x7A)])
  | "ascii" => some (.range 0x00 0x7F)
  | "blank" => some (.ofRanges [(0x09, 0x09), (0x20, 0x20)])
  | "cntrl" => some (.ofRanges [(0x00, 0x1F), (0x7F, 0x7F)])
  | "digit" => some (.range 0x30 0x39)
  | "graph" => some (.range 0x21 0x7E)
  | "lower" => some (.range 0x61 0x7A)
  | "print" => some (.range 0x20 0x7E)
  | "punct" => some (.ofRanges [(0x21, 0x2F), (0x3A, 0x40), (0x5B, 0x60), (0x7B, 0x7E)])
  | "space" => some (.ofRanges [(0x09, 0x0D), (0x20, 0x20)])
  | "upper" => some (.range 0x41 0x5A)
  | "word" => some (.ofRanges [(0x30, 0x39), (0x41, 0x5A), (0x5F, 0x5F), (0x61, 0x7A)])
  | "xdigit" => some (.ofRanges [(0x30, 0x39), (0x41, 0x46), (0x61, 0x66)])
  | _ => none

/-- A set with the depth at which its brackets nest. -/
structure Nested where
  chars : CharSet
  depth : Nat
deriving Repr

/-- Sets that stand side by side. -/
structure Run where
  /-- The union of the sets. -/
  chars : CharSet := .empty
  /-- How many there are. -/
  count : Nat := 0
  /-- The greatest depth of one of them. -/
  depth : Nat := 0
deriving Repr, Inhabited

/-- The sets with one more. -/
def Run.add (r : Run) (chars : CharSet) (depth : Nat) : Run :=
  ⟨r.chars.union chars, r.count + 1, max r.depth depth⟩

/-- The sets as one; two or more are one step deeper than each. -/
def Run.close (r : Run) : Nested := ⟨r.chars, if r.count < 2 then r.depth else r.depth + 1⟩

/-- The operations between sets. -/
inductive SetOp
  | inter | diff | symmDiff
deriving DecidableEq, Repr

/-- The outcome of an operation. -/
def SetOp.apply : SetOp → CharSet → CharSet → CharSet
  | .inter => CharSet.inter
  | .diff => CharSet.diff
  | .symmDiff => CharSet.symmDiff

/-- What is still open around the place that is read. -/
inductive Pending
  /-- A bracket, maybe negated, and the sets before it in the bracket around it. -/
  | bracket (before : Run) (negated : Bool)
  /-- An operation and the set on its left. -/
  | op (op : SetOp) (left : Nested)
deriving Repr

/-- Carries out the operation that waits for its right side, if one does. -/
def settle (f : Flags) (right : Nested) : List Pending → Nested × List Pending
  | .op op left :: pending =>
    (⟨op.apply (f.fold left.chars) (f.fold right.chars), max left.depth right.depth + 1⟩, pending)
  | pending => (right, pending)

/-- The set of a bracket with the given content. -/
def closeBracket (f : Flags) (negated : Bool) (content : CharSet) : Except Fault CharSet :=
  let chars := f.fold content
  let chars := if negated then chars.complement else chars
  if f.unicode || chars.isAscii then .ok chars else .error .asciiRequired

/-- Leading minus signs, each a character of the class. -/
def readMinuses (f : Flags) : Nat → Run → List Char → Run × List Char
  | fuel + 1, r, '-' :: cs => readMinuses f fuel (r.add (.single '-') 0) (f.skip cs)
  | _, r, cs => (r, cs)

/-- Reads the start of a class behind its opening bracket: whether it is negated, and the
characters that have no meaning of their own there, which are minus signs and one closing
bracket. -/
def openBracket (f : Flags) (cs : List Char) : Except Fault (Bool × Run × List Char) :=
  let cs := f.skip cs
  let (negated, cs) := match cs with
    | '^' :: cs => (true, f.skip cs)
    | cs => (false, cs)
  let (r, cs) := readMinuses f cs.length {} cs
  let (r, cs) := match cs with
    | ']' :: rest => if r.count = 0 then (r.add (.single ']') 0, f.skip rest) else (r, cs)
    | cs => (r, cs)
  if cs = [] then .error .classUnclosed else .ok (negated, r, cs)

/-- Reads a named class of ASCII behind the bracket that opens it; missing if there is none. -/
def readAsciiClass? (cs : List Char) : Option (Bool × CharSet × List Char) :=
  match cs with
  | ':' :: cs =>
    let (negated, cs) := match cs with
      | '^' :: cs => (true, cs)
      | cs => (false, cs)
    match cs.dropWhile (· != ':') with
    | ':' :: ']' :: rest =>
      (asciiClass? (cs.takeWhile (· != ':'))).map (negated, ·, rest)
    | _ => none
  | _ => none

/-- Reads one character or escape of a class. -/
def readMember (f : Flags) : List Char → Except Fault (Escaped × List Char)
  | [] => .error .classUnclosed
  | c :: cs => if c = '\\' then readEscape f cs else .ok (.literal c false, cs)

/-- A character as a member of a class. -/
def memberChar (f : Flags) (c : Char) (byte : Bool) : Except Fault Char :=
  if f.unicode || c.toNat < 0x80 then .ok c
  else .error (if byte then .asciiRequired else .unicodeRequired)

/-- The set of one member of a class. -/
def memberSet (f : Flags) : Escaped → Except Fault CharSet
  | .literal c byte => (memberChar f c byte).map .single
  | .set chars => .ok chars
  | .look _ => .error .classEscape

/-- The character at an end of a range. -/
def rangeEnd (f : Flags) : Escaped → Except Fault Char
  | .literal c byte => memberChar f c byte
  | _ => .error .rangeEnd

/-- Reads one member of a class or a range between two. A minus sign before a closing bracket or
before another minus sign makes no range. -/
def readRange (f : Flags) (cs : List Char) : Except Fault (CharSet × List Char) := do
  let (first, cs) ← readMember f cs
  match f.skip cs with
  | [] => .error .classUnclosed
  | c :: cs =>
    if c = '-' ∧ f.peek cs ≠ some ']' ∧ f.peek cs ≠ some '-' then
      let (last, cs) ← readMember f (f.skip cs)
      let lo ← rangeEnd f first
      let hi ← rangeEnd f last
      if lo ≤ hi then return (.range lo.toNat hi.toNat, cs) else .error .rangeReversed
    else return (← memberSet f first, c :: cs)

/-- The operation that starts with a character, which is written twice. -/
def setOp? (c : Char) (cs : List Char) : Option (SetOp × List Char) :=
  match c, cs with
  | '&', '&' :: cs => some (.inter, cs)
  | '-', '-' :: cs => some (.diff, cs)
  | '~', '~' :: cs => some (.symmDiff, cs)
  | _, _ => none

/-- Reads the content of a class up to the bracket that closes the outermost one. Each round takes
a character, so `fuel` need not exceed their number. -/
def readContent (f : Flags) : Nat → List Pending → Run → List Char →
    Except Fault (Nested × List Char)
  | 0, _, _, _ => .error .classUnclosed
  | fuel + 1, pending, r, cs =>
    match f.skip cs with
    | [] => .error .classUnclosed
    | c :: cs =>
      if c = '[' then
        match readAsciiClass? cs with
        | some (negated, chars, rest) => do
          let chars ← closeBracket f negated chars
          readContent f fuel pending (r.add chars 0) rest
        | none => do
          let (negated, inner, rest) ← openBracket f cs
          readContent f fuel (.bracket r negated :: pending) inner rest
      else if c = ']' then
        match settle f r.close pending with
        | (content, .bracket before negated :: pending) => do
          let chars ← closeBracket f negated content.chars
          if pending = [] then return (⟨chars, content.depth + 1⟩, cs)
          else readContent f fuel pending (before.add chars (content.depth + 1)) cs
        | _ => .error .classUnclosed
      else match setOp? c cs with
        | some (op, rest) =>
          let (left, pending) := settle f r.close pending
          readContent f fuel (.op op left :: pending) {} rest
        | none => do
          let (chars, rest) ← readRange f (c :: cs)
          readContent f fuel pending (r.add chars 0) rest

/-- Reads a class behind its opening bracket. -/
def readBracket (f : Flags) (cs : List Char) : Except Fault (Nested × List Char) := do
  let (negated, r, rest) ← openBracket f cs
  readContent f (rest.length + 1) [.bracket {} negated] r rest

end Signpost.Regex
