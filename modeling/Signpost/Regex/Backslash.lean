import Signpost.Regex.Escape
import Signpost.Regex.Flags
import Signpost.Regex.Look
import Signpost.Text.Hex
import Signpost.Unicode.Fold

/-!
# Escapes

What a backslash and the characters after it stand for.

## Main definitions

* `Escaped`: a character, a set of characters or a condition.
* `readEscape`: reads what stands behind a backslash.
-/

namespace Signpost.Regex

/-- What an escape stands for. -/
inductive Escaped
  /-- A character; `byte` tells that it was given by the two digits of a byte. -/
  | literal (c : Char) (byte : Bool)
  | set (chars : CharSet)
  | look (condition : Look)
deriving DecidableEq, Repr

/-- The character with a code point. -/
def charOf (n : Nat) : Except Fault Char :=
  if n.isValidChar then .ok (Char.ofNat n) else .error .hexInvalid

/-- The number that digits stand for. -/
def hexNumber (n : Nat) : List Char → Except Fault Nat
  | [] => .ok n
  | c :: cs =>
    match Text.hexDigit? c with
    | none => .error (.hexDigit c)
    | some d => hexNumber (n * 16 + d) cs

/-- The number of a fixed count of digits. -/
def readHexFixed (f : Flags) : Nat → Nat → List Char → Except Fault (Nat × List Char)
  | 0, n, cs => .ok (n, cs)
  | _ + 1, _, [] => .error .escapeUnfinished
  | count + 1, n, c :: cs =>
    match Text.hexDigit? c with
    | none => .error (.hexDigit c)
    | some d => readHexFixed f count (n * 16 + d) (f.skip cs)

/-- Reads the number behind `\x`, `\u` or `\U`: a fixed count of digits, or any in braces. -/
def readHex (f : Flags) (count : Nat) (cs : List Char) : Except Fault (Escaped × List Char) := do
  match f.skip cs with
  | '{' :: cs =>
    match f.upTo '}' cs with
    | none => .error .escapeUnfinished
    | some ([], _) => .error .hexEmpty
    | some (digits, rest) =>
      let c ← charOf (← hexNumber 0 digits)
      return (.literal c false, rest)
  | cs =>
    let (n, rest) ← readHexFixed f count 0 cs
    let c ← charOf n
    return (.literal c (count = 2), rest)

/-- The part of a list before a first occurrence of `mark`, and the part after it. -/
def breakAt (mark : List Char) : List Char → Option (List Char × List Char)
  | [] => none
  | c :: cs =>
    match mark.isPrefixOf? (c :: cs) with
    | some rest => some ([], rest)
    | none => (breakAt mark cs).map fun r => (c :: r.1, r.2)

/-- The set of the text between the braces of a property: a name alone, or a name and a value. -/
def propertySet (text : List Char) : Except Fault CharSet :=
  match (breakAt ['!', '='] text).or ((breakAt [':'] text).or (breakAt ['='] text)) with
  | some (name, value) => Unicode.valued name value
  | none =>
    match Unicode.named? text with
    | some s => .ok s
    | none => .error .propertyUnknown

/-- The set with the characters that its characters match whatever their case, if the flag says
so. -/
def Flags.fold (f : Flags) (s : CharSet) : CharSet :=
  if f.ignoreCase then if f.unicode then Unicode.foldCase s else Unicode.foldLetters s else s

/-- Reads the property behind `\p` or `\P`. -/
def readProperty (f : Flags) (negated : Bool) (cs : List Char) :
    Except Fault (Escaped × List Char) := do
  let (text, rest) ← match f.skip cs with
    | [] => .error .escapeUnfinished
    | '{' :: cs =>
      match f.upTo '}' cs with
      | none => .error .escapeUnfinished
      | some r => .ok r
    | '\\' :: _ => .error .propertyInvalid
    | c :: cs => .ok ([c], cs)
  if f.unicode then
    let s := f.fold (← propertySet text)
    return (.set (if negated then s.complement else s), rest)
  else .error .unicodeRequired

/-- The decimal digits, blanks or word characters. -/
def classOf (f : Flags) (letter : Char) : CharSet :=
  match letter with
  | 'd' => if f.unicode then Unicode.digits else .range 0x30 0x39
  | 's' => if f.unicode then Text.blanks else .ofRanges [(0x09, 0x0D), (0x20, 0x20)]
  | _ =>
    if f.unicode then Unicode.wordChars
    else .ofRanges [(0x30, 0x39), (0x41, 0x5A), (0x5F, 0x5F), (0x61, 0x7A)]

/-- The set behind `\d`, `\s`, `\w` or, negated, behind their capitals. -/
def readClass (f : Flags) (negated : Bool) (letter : Char) : Except Fault Escaped :=
  if !negated then .ok (.set (classOf f letter))
  else if f.unicode then .ok (.set (classOf f letter).complement)
  else .error .asciiRequired

/-- A character that may stand behind a backslash for itself. -/
def isEscapable (c : Char) : Bool :=
  isMeta c || (c.toNat < 0x80 && !c.isAlphanum && c != '<' && c != '>')

/-- A character of the name of a word boundary. -/
def isBoundaryChar (c : Char) : Bool := c.isAlpha || c == '-'

/-- Reads what may follow `\b`: the name of a special word boundary in braces. Braces that start
otherwise are left to be a counted repetition. -/
def readBoundary (f : Flags) (cs : List Char) : Except Fault (Escaped × List Char) :=
  let found := fun boundary rest => .ok (.look (.word boundary (!f.unicode)), rest)
  match cs with
  | '{' :: inner =>
    match f.skip inner with
    | [] => .error .boundaryUnclosed
    | c :: _ =>
      if isBoundaryChar c then
        match f.upTo '}' inner with
        | none => .error .boundaryUnclosed
        | some (name, rest) =>
          if name = "start".toList then found .first rest
          else if name = "end".toList then found .last rest
          else if name = "start-half".toList then found .firstHalf rest
          else if name = "end-half".toList then found .lastHalf rest
          else .error .boundaryUnknown
      else found .edge cs
  | _ => found .edge cs

/-- Reads what stands behind a backslash. -/
def readEscape (f : Flags) : List Char → Except Fault (Escaped × List Char)
  | [] => .error .escapeUnfinished
  | c :: cs =>
    if isEscapable c then .ok (.literal c false, cs)
    else if c.isDigit then .error .backreference
    else match c with
      | 'x' => readHex f 2 cs
      | 'u' => readHex f 4 cs
      | 'U' => readHex f 8 cs
      | 'p' => readProperty f false cs
      | 'P' => readProperty f true cs
      | 'd' | 's' | 'w' => (readClass f false c).map (·, cs)
      | 'D' | 'S' | 'W' => (readClass f true c.toLower).map (·, cs)
      | 'a' => .ok (.literal '\x07' false, cs)
      | 'f' => .ok (.literal '\x0C' false, cs)
      | 't' => .ok (.literal '\t' false, cs)
      | 'n' => .ok (.literal '\n' false, cs)
      | 'r' => .ok (.literal '\r' false, cs)
      | 'v' => .ok (.literal '\x0B' false, cs)
      | 'A' => .ok (.look .textStart, cs)
      | 'z' => .ok (.look .textEnd, cs)
      | 'b' => readBoundary f cs
      | 'B' => .ok (.look (.word .inside (!f.unicode)), cs)
      | '<' => .ok (.look (.word .first (!f.unicode)), cs)
      | '>' => .ok (.look (.word .last (!f.unicode)), cs)
      | _ => .error (.escapeUnknown c)

end Signpost.Regex
