import Rollout.Json.Parser
import Rollout.Settings.Place
import Rollout.Settings.Conversion
import Rollout.Toml.Parser

/-!
# Sources of settings

Settings come from layers that are put over each other: what is always there, the preset of the
network, a configuration file, and the variables of the process. Each layer says which values stand at
which places. Variables are named `ETF_DRIVER__RETRY__MAX_RETRIES`, in any case; two underscores lead
into a table.

A file is written in TOML or JSON, as its extension says. Other formats that configurations are
sometimes kept in (YAML, INI, RON, JSON5) are not modelled: a file in one of them is taken for one
that cannot be used, and a path without an extension never leads to it.

The preset is a table of the network file. Without a usable entry for it the network that is used by
default is the built-in one, and any other network is unknown.
-/

namespace Rollout

/-- What a process finds around it: its variables, the files, and the directory for configuration. -/
structure Surroundings where
  environment : List (String × String)
  files : Files
  configHome : String

/-- Values and the places they stand at. -/
abbrev Layer := List (Place × Json)

namespace Layer

/-- A layer put over a configuration. -/
def overlay (base : Json) (l : Layer) : Json := l.foldl (fun v e => v.put e.1 e.2) base

/-- The layer of a document: its keys are places. -/
def ofDocument (v : Json) : Layer := v.fieldsOf.map fun f => (Place.ofText f.1, f.2)

/-! ## Variables -/

def variablePrefix : List Char := "etf_".toList

/-- Two underscores become a point. -/
def pointed : List Char → List Char
  | '_' :: '_' :: cs => '.' :: pointed cs
  | c :: cs => c :: pointed cs
  | [] => []

/-- The value of a text: a truth value, a whole number, a number, or the text itself. -/
def valueOfText (s : String) : Json :=
  let lower := s.map Char.toLower
  if lower = "true" then .bool true
  else if lower = "false" then .bool false
  else
    match (Text.readInt? s.toList).filter Text.isInt64 with
    | some n => .int n
    | none =>
      match Decimal.readLiteral? s.toList with
      | some x => .real x
      | none => .str s

/-- The small letter of a capital one. The sign for kelvin is the only character beyond ASCII whose
small letter is one of ASCII; a name with any other character beyond ASCII is no place. -/
def smallLetter (c : Char) : Char := if c = '\u212A' then 'k' else c.toLower

/-- The place that a variable stands for, if it is one for settings. -/
def placeOf? (name : String) : Option Place :=
  let cs := name.toList.map smallLetter
  if variablePrefix.isPrefixOf cs then
    some (Place.ofText (String.ofList (pointed (cs.drop variablePrefix.length))))
  else none

/-- The place and value of a variable, if it is one for settings. -/
def ofVariable? (v : String × String) : Option (Place × Json) :=
  (placeOf? v.1).map fun place => (place, valueOfText v.2)

def ofVariables (vs : List (String × String)) : Layer := vs.filterMap ofVariable?

end Layer

/-! ## Files -/

/-- The formats of configuration files that are modelled. -/
inductive ConfigFormat where
  | toml
  | json
deriving DecidableEq

namespace ConfigFormat

def extension : ConfigFormat → String
  | toml => "toml"
  | json => "json"

/-- The extension of the last name of a path. -/
def extensionOf? (path : String) : Option String :=
  let name := ((Files.names path).filter fun n => n ≠ "" ∧ n ≠ ".").getLast?.getD ""
  let after := (name.toList.reverse.takeWhile (· ≠ '.')).reverse
  if after.length + 1 < name.length then some (String.ofList after) else none

/-- The format of a file, by its extension. -/
def ofPath? (path : String) : Option ConfigFormat :=
  (extensionOf? path).bind fun e => [toml, json].find? fun f => f.extension = e

mutual

/-- Dates and times are texts in a configuration. -/
def ofToml : Toml → Json
  | .text s => .str s
  | .integer n => .int n
  | .float x => .real x
  | .boolean b => .bool b
  | .moment s => .str s
  | .array xs => .arr (itemsOfToml xs)
  | .table fs => .obj (fieldsOfToml fs)

def itemsOfToml : List Toml → List Json
  | [] => []
  | x :: xs => ofToml x :: itemsOfToml xs

def fieldsOfToml : List (String × Toml) → List (String × Json)
  | [] => []
  | (k, v) :: fs => (k, ofToml v) :: fieldsOfToml fs

end

mutual

/-- Whole numbers that do not fit 64 bits with a sign are doubles in a configuration. -/
def ofJson : Json → Json
  | .int n => if Text.isInt64 n then .int n else .real (Float.ofInt n)
  | .arr xs => .arr (itemsOfJson xs)
  | .obj fs => .obj (fieldsOfJson fs)
  | v => v

def itemsOfJson : List Json → List Json
  | [] => []
  | x :: xs => ofJson x :: itemsOfJson xs

def fieldsOfJson : List (String × Json) → List (String × Json)
  | [] => []
  | (k, v) :: fs => (k, ofJson v) :: fieldsOfJson fs

end

/-- The table that is written in a text. -/
def read? (format : ConfigFormat) (s : String) : Option Json :=
  match format with
  | toml => (Toml.parse? .v11 s).map ofToml
  | json =>
    match Json.parse? s with
    | some (.obj fs) => some (ofJson (.obj fs))
    | _ => none

end ConfigFormat

namespace Surroundings

def variableValue? (s : Surroundings) (name : String) : Option String := valueOf? name s.environment

/-- The paths at which a configuration is looked for: the path itself, and then the path with each
extension after its last name. -/
def candidates (path : String) : List String :=
  let bare := String.ofList (path.toList.reverse.dropWhile (· = '/')).reverse
  path :: [ConfigFormat.toml, .json].map fun f => bare ++ "." ++ f.extension

/-- The text of a configuration file: a byte order mark is left out, and what is not text is replaced. -/
def textOf (content : Bytes) : String :=
  Text.ofBytesLossy (if content.take 3 = [0xEF, 0xBB, 0xBF] then content.drop 3 else content)

/-- The layer of a file. -/
def layerOf? (s : Surroundings) (path : String) : Option Layer := do
  let isFile (p : String) : Bool := (s.files.read p).toOption.isSome
  let found ← (candidates path).find? isFile
  let format ← ConfigFormat.ofPath? found
  let content ← (s.files.read found).toOption
  return Layer.ofDocument (← format.read? (textOf content))

/-- The directory of the network file. -/
def configDirectory (s : Surroundings) : String := (s.variableValue? "ETF_CONFIG_DIR").getD "config"

/-- The configuration file that is used if none is named. -/
def defaultPath (s : Surroundings) : String :=
  Files.join s.configHome (Files.join "etf-driver" "config.toml")

end Surroundings

/-- The preset of a network from the network file. -/
def Network.load (s : Surroundings) (name : String) : Except ConfigFault Network :=
  let found : Option Json := do
    let layer ← s.layerOf? (s.configDirectory ++ "/network")
    (Layer.overlay (.obj []) layer).at? (← Place.parse? name)
  match found with
  | some v => ((shapeFor Conversion.readers).decodeLong v).mapError fun _ => .source
  | none => .error .source

namespace Settings

/-- The preset of the network with the given name. -/
def preset (s : Surroundings) (name : String) : Except ConfigFault Network :=
  match Network.load s name with
  | .ok n => .ok n
  | .error _ =>
    if name = Network.defaultName then .ok .builtIn else .error (.unknownNetwork name)

/-- What the settings are without any other source. -/
def defaults (preset : Network) : Json :=
  .obj
    [("account_index", .int 0), ("driver", RunPolicy.standard.encode),
      ("network", preset.encode)]

/-- The layer of the configuration file: the one that is named, or else the one that is used by
default if it is there. -/
def fileLayer (s : Surroundings) (path : Option String) : Except ConfigFault Layer :=
  let read (path : String) : Except ConfigFault Layer :=
    match s.layerOf? path with
    | some l => .ok l
    | none => .error .source
  match path with
  | some path => if s.files.contains path then read path else .error (.fileNotFound path)
  | none => if s.files.contains s.defaultPath then read s.defaultPath else .ok []

/-- The name of the network: the one given, the one of the variable for it, or the default. -/
def networkName (s : Surroundings) (network : Option String) : String :=
  (network <|> s.variableValue? "ETF_NETWORK_PRESET").getD Network.defaultName

/-- All layers put over each other. -/
def gather (s : Surroundings) (path network : Option String) : Except ConfigFault Json := do
  let preset ← preset s (networkName s network)
  let file ← fileLayer s path
  let base := (Json.obj []).overlay (defaults preset)
  return Layer.overlay (Layer.overlay base file) (Layer.ofVariables s.environment)

/-- The settings from all sources, if they are complete and valid. -/
def load (s : Surroundings) (path network : Option String) : Fallible Settings := do
  let v ← (gather s path network).mapError .configuration
  let settings ←
    ((shapeFor Conversion.readers).decodeLong v).mapError fun _ => .configuration .source
  settings.validate
  return settings

end Settings

end Rollout
