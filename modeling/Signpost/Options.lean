import Signpost.Template.Catalog
import Signpost.Text.Blank
import Signpost.Text.Letter

/-!
# Options

The settings of a router.

## Main definitions

* `Options`: the settings, with their default values.
* `Options.validate`: whether settings can be used together, or the first reason why not.
* `Options.build`: validated settings from a sequence of changes to the defaults.
* `Options.catalog`: the placeholder types that the settings lead to.
* `Options.strip`: a path without the URL suffix.
-/

namespace Signpost

/-- The settings of a router. -/
structure Options where
  /-- The name of the command-line flag that carries the URI. -/
  requestUriSource : String := "REQUEST_URI"
  /-- The file suffix that request paths may have, without its dot. -/
  urlSuffix : String := "html"
  /-- The query parameter that marks a request made by a script. -/
  ajaxParamName : String := "ajax"
  /-- Further placeholder types; one with a builtin code replaces the builtin. -/
  matchTypes : Dict String := .empty
  /-- The one host of all requests, if it is fixed in advance. -/
  host : Option String := none
deriving DecidableEq, Repr, Inhabited

/-- The reason why settings cannot be used. -/
inductive OptionsError
  /-- The command-line flag has no name. -/
  | requestUriSourceEmpty
  /-- The name of the command-line flag starts with `-` or has a `=` or a space. -/
  | requestUriSourceInvalid (value : String)
  /-- The query parameter has no name. -/
  | ajaxParamNameEmpty
  /-- The suffix starts with a dot or has a slash. -/
  | urlSuffixInvalid (value : String)
  /-- No placeholder can have this code. -/
  | typeCodeInvalid (code : String)
  /-- The placeholder type has an empty class. -/
  | typeClassEmpty (code : String)
  /-- The fixed host is blank. -/
  | hostEmpty
deriving DecidableEq, Repr

/-- The reason in words. -/
def OptionsError.message : OptionsError → String
  | .requestUriSourceEmpty => "request_uri_source must not be empty"
  | .requestUriSourceInvalid value =>
    "request_uri_source '" ++ value ++ "' is not a usable flag name"
  | .ajaxParamNameEmpty => "ajax_param_name must not be empty"
  | .urlSuffixInvalid value =>
    "url_suffix '" ++ value ++ "' must not start with '.' or contain '/'"
  | .typeCodeInvalid code => "match type code '" ++ code ++ "' must not contain ':', '[' or ']'"
  | .typeClassEmpty code => "match type '" ++ code ++ "' has an empty class"
  | .hostEmpty => "host must not be empty"

namespace Options

/-- A host as requests and settings are compared by it: without blanks at its ends, in small
letters. -/
def normalHost (host : String) : String := Text.lower (Text.trim host)

/-- The first placeholder type that cannot be used: its code has a character that ends a code, or
its class is empty. -/
def typeError? : List (String × String) → Option OptionsError
  | [] => none
  | (code, cls) :: types =>
    if ':' ∈ code.toList ∨ ']' ∈ code.toList ∨ '[' ∈ code.toList then some (.typeCodeInvalid code)
    else if cls = "" then some (.typeClassEmpty code)
    else typeError? types

/-- The first reason why the settings cannot be used. -/
def error? (o : Options) : Option OptionsError :=
  let source := o.requestUriSource.toList
  if source = [] then some .requestUriSourceEmpty
  else if source.head? = some '-' ∨ '=' ∈ source ∨ ' ' ∈ source then
    some (.requestUriSourceInvalid o.requestUriSource)
  else if o.ajaxParamName = "" then some .ajaxParamNameEmpty
  else if o.urlSuffix.toList.head? = some '.' ∨ '/' ∈ o.urlSuffix.toList then
    some (.urlSuffixInvalid o.urlSuffix)
  else (typeError? o.matchTypes.entries).or <|
    match o.host with
    | some host => if Text.trim host = "" then some .hostEmpty else none
    | none => none

/-- Accepts settings that can be used. -/
def validate (o : Options) : Except OptionsError Unit :=
  match o.error? with
  | some e => .error e
  | none => .ok ()

/-- A change of one setting. -/
inductive Change
  | requestUriSource (value : String)
  | urlSuffix (value : String)
  | ajaxParamName (value : String)
  /-- Adds one placeholder type. -/
  | matchType (code cls : String)
  /-- Replaces all placeholder types. -/
  | matchTypes (types : Dict String)
  | host (value : String)
deriving DecidableEq, Repr

/-- The settings after a change. -/
def apply (o : Options) : Change → Options
  | .requestUriSource value => { o with requestUriSource := value }
  | .urlSuffix value => { o with urlSuffix := value }
  | .ajaxParamName value => { o with ajaxParamName := value }
  | .matchType code cls => { o with matchTypes := o.matchTypes.insert code cls }
  | .matchTypes types => { o with matchTypes := types }
  | .host value => { o with host := some (normalHost value) }

/-- The settings after a sequence of changes to the defaults, if they can be used. -/
def build (changes : List Change) : Except OptionsError Options :=
  let o := changes.foldl apply {}
  o.validate.map fun _ => o

/-- The placeholder types of the settings. -/
def catalog (o : Options) : Template.Catalog := .withExtra o.matchTypes.entries

/-- The path without the URL suffix and its dot. A path that is nothing else keeps them. -/
def strip (o : Options) (path : String) : String :=
  if o.urlSuffix = "" then path
  else match ('.' :: o.urlSuffix.toList).isSuffixOf? path.toList with
    | some (c :: cs) => String.ofList (c :: cs)
    | _ => path

end Options

end Signpost
