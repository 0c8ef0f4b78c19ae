/-!
# Faults of regular expressions

Why a text is refused as a regular expression.

## Main definitions

* `Regex.Fault`: the reasons.
* `Regex.Fault.message`: the reason in words.
-/

namespace Signpost.Regex

/-- The reason why a text is no regular expression. -/
inductive Fault
  /-- A group is not closed. -/
  | groupUnclosed
  /-- A `)` closes nothing. -/
  | groupUnopened
  /-- The name of a group has no `>` after it. -/
  | groupNameUnclosed
  /-- The name of a group is empty. -/
  | groupNameEmpty
  /-- The name of a group has a character that names do not have. -/
  | groupNameInvalid
  /-- Two groups have one name. -/
  | groupNameRepeated (name : String)
  /-- A condition on the text around the match is none of those known. -/
  | lookAround
  /-- A reference to an earlier group. -/
  | backreference
  /-- The text ends within the flags of a group. -/
  | flagsUnclosed
  /-- A character is no flag. -/
  | flagUnknown (found : Char)
  /-- A flag occurs twice in one list. -/
  | flagRepeated
  /-- A list of flags has two minus signs. -/
  | flagNegationRepeated
  /-- No flag follows a minus sign. -/
  | flagNegationDangling
  /-- Nothing stands before a repetition. -/
  | repetitionMissing
  /-- A counted repetition has no closing brace. -/
  | countUnclosed
  /-- A number is missing in a counted repetition. -/
  | countEmpty
  /-- A number of a counted repetition is too large. -/
  | countTooLarge
  /-- The least number of a counted repetition is above the greatest. -/
  | countReversed
  /-- The text ends within an escape. -/
  | escapeUnfinished
  /-- An escape is none of those known. -/
  | escapeUnknown (found : Char)
  /-- A character is no hexadecimal digit. -/
  | hexDigit (found : Char)
  /-- The braces of a hexadecimal number are empty. -/
  | hexEmpty
  /-- A number stands for no character. -/
  | hexInvalid
  /-- A special word boundary has no closing brace. -/
  | boundaryUnclosed
  /-- A special word boundary is none of those known. -/
  | boundaryUnknown
  /-- A bracketed class is not closed. -/
  | classUnclosed
  /-- An end of a range is no single character. -/
  | rangeEnd
  /-- The first character of a range is above the last. -/
  | rangeReversed
  /-- An escape stands for no set of characters. -/
  | classEscape
  /-- A property name cannot start so. -/
  | propertyInvalid
  /-- No property has this name. -/
  | propertyUnknown
  /-- No value of the property has this name. -/
  | propertyValueUnknown
  /-- A property or a character needs the flag `u`. -/
  | unicodeRequired
  /-- Without the flag `u` only sets of ASCII characters can be written. -/
  | asciiRequired
  /-- The brackets nest too deep. -/
  | tooDeep
  /-- The automaton takes too much room. -/
  | tooLarge
deriving DecidableEq, Repr, Inhabited

/-- The reason in words. -/
def Fault.message : Fault → String
  | .groupUnclosed => "unclosed group"
  | .groupUnopened => "unopened group"
  | .groupNameUnclosed => "unclosed group name"
  | .groupNameEmpty => "empty group name"
  | .groupNameInvalid => "invalid character in a group name"
  | .groupNameRepeated name => "repeated group name '" ++ name ++ "'"
  | .lookAround => "look-around is not supported"
  | .backreference => "backreferences are not supported"
  | .flagsUnclosed => "unclosed list of flags"
  | .flagUnknown found => "unknown flag '" ++ String.singleton found ++ "'"
  | .flagRepeated => "repeated flag"
  | .flagNegationRepeated => "repeated negation of flags"
  | .flagNegationDangling => "negation of no flag"
  | .repetitionMissing => "repetition of nothing"
  | .countUnclosed => "unclosed counted repetition"
  | .countEmpty => "missing number in a counted repetition"
  | .countTooLarge => "number of a counted repetition is too large"
  | .countReversed => "least number of a counted repetition is above the greatest"
  | .escapeUnfinished => "unfinished escape"
  | .escapeUnknown found => "unknown escape '" ++ String.singleton found ++ "'"
  | .hexDigit found => "'" ++ String.singleton found ++ "' is no hexadecimal digit"
  | .hexEmpty => "empty hexadecimal number"
  | .hexInvalid => "number stands for no character"
  | .boundaryUnclosed => "unclosed word boundary"
  | .boundaryUnknown => "unknown word boundary"
  | .classUnclosed => "unclosed class"
  | .rangeEnd => "end of a range is no single character"
  | .rangeReversed => "first character of a range is above the last"
  | .classEscape => "escape stands for no set of characters"
  | .propertyInvalid => "invalid property name"
  | .propertyUnknown => "unknown property"
  | .propertyValueUnknown => "unknown value of a property"
  | .unicodeRequired => "not available without the flag u"
  | .asciiRequired => "set goes beyond ASCII without the flag u"
  | .tooDeep => "brackets nest too deep"
  | .tooLarge => "automaton takes too much room"

end Signpost.Regex
