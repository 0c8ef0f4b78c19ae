import Signpost.Regex.Fault
import Signpost.Text.Blank

/-!
# Flags of expressions

The flags change how the text of an expression is read. They are set for the rest of a group by
`(?flags)` and within a group by `(?flags:…)`; the flags behind a minus sign are taken back.

## Main definitions

* `Flags`: the flags, as they are at the start of an expression.
* `Flags.skip`: the text without the blanks and comments that the flag `x` allows.
* `Flags.upTo`: the characters up to a closing one.
* `readFlags`: the flags that a list of flags leads to.
-/

namespace Signpost.Regex

/-- The flags that change how the text of an expression is read. -/
structure Flags where
  /-- Letters match whatever their case (`i`). -/
  ignoreCase : Bool := false
  /-- `^` and `$` match at the ends of lines (`m`). -/
  multiLine : Bool := false
  /-- `.` matches line feeds (`s`). -/
  dotAll : Bool := false
  /-- Repetitions are greedy with a `?` and not without (`U`). -/
  swapGreed : Bool := false
  /-- Classes go beyond ASCII (`u`). -/
  unicode : Bool := true
  /-- Lines may end in a carriage return (`R`). -/
  crlf : Bool := false
  /-- Blanks and comments do not count (`x`). -/
  extended : Bool := false
deriving DecidableEq, Repr, Inhabited

/-- The text without the blanks and the comments it starts with. A comment goes from `#` to the
end of the line. -/
def dropComments (inComment : Bool) : List Char → List Char
  | [] => []
  | c :: cs =>
    if inComment then dropComments (c != '\n') cs
    else if Text.isBlank c then dropComments false cs
    else if c = '#' then dropComments true cs
    else c :: cs

/-- The first character that is no blank, after a first `#`. -/
def firstDark (inComment : Bool) : List Char → Option Char
  | [] => none
  | c :: cs =>
    if Text.isBlank c then firstDark inComment cs
    else if c = '#' ∧ !inComment then firstDark true cs
    else some c

/-- The characters up to `stop`, and the text after it, where blanks and comments do not count. -/
def darkUpTo (stop : Char) (inComment : Bool) : List Char → Option (List Char × List Char)
  | [] => none
  | c :: cs =>
    if inComment then darkUpTo stop (c != '\n') cs
    else if Text.isBlank c then darkUpTo stop false cs
    else if c = '#' then darkUpTo stop true cs
    else if c = stop then some ([], cs)
    else (darkUpTo stop false cs).map fun r => (c :: r.1, r.2)

/-- The characters up to `stop`, and the text after it. -/
def allUpTo (stop : Char) : List Char → Option (List Char × List Char)
  | [] => none
  | c :: cs => if c = stop then some ([], cs) else (allUpTo stop cs).map fun r => (c :: r.1, r.2)

namespace Flags

/-- The text without what does not count at its start. -/
def skip (f : Flags) (cs : List Char) : List Char :=
  if f.extended then dropComments false cs else cs

/-- The next character that counts. Of a comment it is the first character, and of a text where
nothing counts the first of all. -/
def peek (f : Flags) (cs : List Char) : Option Char :=
  if f.extended then (firstDark false cs).or cs.head? else cs.head?

/-- The characters that count up to `stop`, and the text after it. -/
def upTo (f : Flags) (stop : Char) (cs : List Char) : Option (List Char × List Char) :=
  if f.extended then darkUpTo stop false cs else allUpTo stop cs

/-- The flags with that of one letter set or taken back. -/
def set? (f : Flags) (letter : Char) (on : Bool) : Option Flags :=
  match letter with
  | 'i' => some { f with ignoreCase := on }
  | 'm' => some { f with multiLine := on }
  | 's' => some { f with dotAll := on }
  | 'U' => some { f with swapGreed := on }
  | 'u' => some { f with unicode := on }
  | 'R' => some { f with crlf := on }
  | 'x' => some { f with extended := on }
  | _ => none

@[simp] theorem skip_of_not_extended {f : Flags} (h : f.extended = false) (cs : List Char) :
    f.skip cs = cs := by simp [skip, h]

@[simp] theorem peek_of_not_extended {f : Flags} (h : f.extended = false) (cs : List Char) :
    f.peek cs = cs.head? := by simp [peek, h]

end Flags

/-- A list of flags as far as it is read. -/
structure FlagList where
  /-- The flags that it leads to. -/
  flags : Flags
  /-- The letters read. -/
  letters : List Char := []
  /-- A minus sign is read. -/
  negated : Bool := false
  /-- The last character read is a minus sign. -/
  dangling : Bool := false

/-- Reads a list of flags up to its `:` or `)`, which is given back with the rest of the text. -/
def readFlags (l : FlagList) : List Char → Except Fault (FlagList × Char × List Char)
  | [] => .error .flagsUnclosed
  | c :: cs =>
    if c = ':' ∨ c = ')' then
      if l.dangling then .error .flagNegationDangling else .ok (l, c, cs)
    else if c = '-' then
      if l.negated then .error .flagNegationRepeated
      else readFlags { l with negated := true, dangling := true } cs
    else match l.flags.set? c (!l.negated) with
      | none => .error (.flagUnknown c)
      | some flags =>
        if c ∈ l.letters then .error .flagRepeated
        else readFlags { l with flags, letters := c :: l.letters, dangling := false } cs

end Signpost.Regex
