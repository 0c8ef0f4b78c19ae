import Signpost.Dict
import Signpost.Text.Hex
import Signpost.Text.Utf8

/-!
# Queries

The path and the query of a URI, and the form decoding of a query. A query is cut at every `&`
and each part at its first `=`; decoding comes after the cuts, so no decoded character cuts.

## Main definitions

* `splitUri`: a URI cut at its first `?`.
* `parseQuery`: the parameters of a query. A repeated key keeps its last value.
-/

namespace Signpost

/-- The parameters of a query. -/
abbrev Query := Dict String

namespace Query

/-- The list cut at the first `sep`, which is dropped; no second part if there is none. -/
def cut (sep : Char) : List Char → List Char × Option (List Char)
  | [] => ([], none)
  | c :: cs => if c = sep then ([], some cs) else (c :: (cut sep cs).1, (cut sep cs).2)

/-- The parts between the occurrences of `sep`. -/
def split (sep : Char) : List Char → List (List Char)
  | [] => [[]]
  | c :: cs =>
    if c = sep then [] :: split sep cs
    else match split sep cs with
      | [] => [[c]]
      | part :: parts => (c :: part) :: parts

/-- The bytes that form text stands for: `+` is a space, `%` with two hexadecimal digits is one
byte, and every other character its own bytes. -/
def formBytes : List Char → List UInt8
  | '%' :: h :: l :: cs =>
    match Text.hexDigit? h, Text.hexDigit? l with
    | some m, some n => UInt8.ofNat (m * 16 + n) :: formBytes cs
    | _, _ => 37 :: formBytes (h :: l :: cs)
  | '+' :: cs => 32 :: formBytes cs
  | c :: cs => String.utf8EncodeChar c ++ formBytes cs
  | [] => []

/-- The text that form text stands for. -/
def formText (cs : List Char) : String := String.ofList (Utf8.decode (formBytes cs))

/-- The key and the value of one part of a query. -/
def pair (part : List Char) : String × String :=
  (formText (cut '=' part).1, formText ((cut '=' part).2.getD []))

/-- The decoded pairs of a query in order; empty parts do not count. -/
def pairs (query : List Char) : List (String × String) :=
  ((split '&' query).filter (· ≠ [])).map pair

end Query

/-- The parameters of a query. -/
def parseQuery (query : String) : Query := .ofList (Query.pairs query.toList)

/-- The path of a URI, and its query if there is a `?`. -/
def splitUri (uri : String) : String × Option String :=
  let r := Query.cut '?' uri.toList
  (String.ofList r.1, r.2.map String.ofList)

end Signpost
