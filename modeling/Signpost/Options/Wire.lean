import Signpost.Options

/-!
# Wire form of options

Settings as a value of a data format: an object with the five settings by name, or a list of them
by place.

## Main definitions

* `Wire`: the values of the format.
* `Options.toWire`: the object of all five settings.
* `Options.ofWire`: the settings that a value stands for. A setting that is not given has its
  default, and a name that is no setting does not count.
-/

namespace Signpost

/-- A value of the data format. -/
inductive Wire
  | null
  | bool (value : Bool)
  | number (digits : String)
  | text (value : String)
  | list (items : List Wire)
  | object (members : List (String × Wire))
deriving Inhabited

/-- The reason why a value stands for no settings. -/
inductive WireError
  /-- The value is neither an object nor a list. -/
  | noOptions
  /-- A setting has a value of the wrong kind. -/
  | wrongKind (name : String)
  /-- A setting is given twice. -/
  | repeated (name : String)
  /-- The list has more values than there are settings. -/
  | tooMany
deriving DecidableEq, Repr

namespace Options

/-- The settings that have a wire form. -/
inductive Field
  | requestUriSource | urlSuffix | ajaxParamName | matchTypes | host
deriving DecidableEq, Repr

namespace Field

/-- The settings in the order of a list. -/
def all : List Field := [.requestUriSource, .urlSuffix, .ajaxParamName, .matchTypes, .host]

/-- The name of a setting in an object. -/
def name : Field → String
  | .requestUriSource => "request_uri_source"
  | .urlSuffix => "url_suffix"
  | .ajaxParamName => "ajax_param_name"
  | .matchTypes => "match_types"
  | .host => "host"

/-- The setting with a name. -/
def ofName? (name : String) : Option Field := all.find? fun f => f.name = name

end Field

/-- The texts of an object whose members are all texts. -/
def texts? : List (String × Wire) → Option (List (String × String))
  | [] => some []
  | (key, .text value) :: members => (texts? members).map ((key, value) :: ·)
  | _ => none

/-- The value of one setting. -/
def get (o : Options) : Field → Wire
  | .requestUriSource => .text o.requestUriSource
  | .urlSuffix => .text o.urlSuffix
  | .ajaxParamName => .text o.ajaxParamName
  | .matchTypes => .object (o.matchTypes.entries.map fun e => (e.1, .text e.2))
  | .host =>
    match o.host with
    | some host => .text host
    | none => .null

/-- The settings with one of them read from a value. -/
def set (o : Options) : Field → Wire → Except WireError Options
  | .requestUriSource, .text value => .ok { o with requestUriSource := value }
  | .urlSuffix, .text value => .ok { o with urlSuffix := value }
  | .ajaxParamName, .text value => .ok { o with ajaxParamName := value }
  | .matchTypes, .object members =>
    match texts? members with
    | some types => .ok { o with matchTypes := .ofList types }
    | none => .error (.wrongKind Field.matchTypes.name)
  | .host, .text value => .ok { o with host := some value }
  | .host, .null => .ok { o with host := none }
  | field, _ => .error (.wrongKind field.name)

/-- The object of all settings. -/
def toWire (o : Options) : Wire := .object (Field.all.map fun f => (f.name, o.get f))

/-- Reads the members of an object into the settings, those in `seen` having been read before. -/
def setMembers (o : Options) (seen : List Field) : List (String × Wire) → Except WireError Options
  | [] => .ok o
  | (name, value) :: members =>
    match Field.ofName? name with
    | none => setMembers o seen members
    | some field =>
      if field ∈ seen then .error (.repeated name)
      else match o.set field value with
        | .error e => .error e
        | .ok o => setMembers o (field :: seen) members

/-- Reads the items of a list into the settings, in the order of the fields. -/
def setItems (o : Options) : List Field → List Wire → Except WireError Options
  | _, [] => .ok o
  | [], _ :: _ => .error .tooMany
  | field :: fields, value :: values =>
    match o.set field value with
    | .error e => .error e
    | .ok o => setItems o fields values

/-- The settings that a value stands for. -/
def ofWire : Wire → Except WireError Options
  | .object members => setMembers {} [] members
  | .list items => setItems {} Field.all items
  | _ => .error .noOptions

end Options

end Signpost
