import Pgml.Configuration
import Pgml.Notice
import Pgml.Value.Json
import Pgml.Value.Yaml

/-! Files of settings: a configuration, or a table of owners. A file is YAML if the ending of
its name says so and JSON otherwise. -/
namespace Pgml

/-- The contents of files by their names. -/
abbrev Files := String → Option ByteArray

/-- Why settings cannot be loaded. -/
inductive LoadFault where
  | noFile (name : String)
  /-- The file is not text in UTF-8. -/
  | notText
  | badJson
  | badYaml (cause : Yaml.ReadError)
  | numeralTooLong
  | badConfiguration
  | notMapping (name : String)
  deriving DecidableEq, Repr

def LoadFault.message : LoadFault → String
  | noFile name => (Fault.noFile name).message
  | notText => "The file is not text in UTF-8"
  | badJson => "The file is not JSON"
  | badYaml .badCharacter => "The file has a character in it that YAML may not have"
  | badYaml .badToken => "The file has something in it that is not YAML"
  | badYaml .severalDocuments => "The file has more than one document"
  | badYaml _ => "The file is not YAML"
  | numeralTooLong => Fault.numeralTooLong.message
  | badConfiguration => "Error parsing configuration file"
  | notMapping name => "Owner file " ++ name ++ " must contain a mapping"

namespace Settings

/-- The last part of a path. -/
def fileName (path : String) : List Char :=
  ((path.toList.reverse.dropWhile (· == '/')).takeWhile (· != '/')).reverse

/-- The ending of a file name, from its last point on. A name has none if that point is its
first or its last character. -/
def ending (path : String) : String :=
  let name := fileName path
  let after := (name.reverse.takeWhile (· != '.')).reverse
  let before := name.length - after.length
  if after.isEmpty || before ≤ 1 then "" else String.ofList ('.' :: after)

def isYaml (path : String) : Bool := ending path == ".yaml" || ending path == ".yml"

def readYaml (text : String) : Except LoadFault Value :=
  match Yaml.parse text with
  | .ok v => .ok v
  | .error .numeralTooLong => .error .numeralTooLong
  | .error cause => .error (.badYaml cause)

def readJson (text : String) : Except LoadFault Value :=
  match Json.parse text with
  | .ok v => .ok v
  | .error .malformed => .error .badJson
  | .error .numeralTooLong => .error .numeralTooLong

/-- The value in a file. -/
def load (files : Files) (path : String) : Except LoadFault Value :=
  match files path with
  | none => .error (.noFile path)
  | some content =>
    match String.fromUTF8? content with
    | none => .error .notText
    | some text => if isYaml path then readYaml text else readJson text

/-- The configuration in a value. A value that counts as nothing stands for the initial one. -/
def configurationOf (v : Value) : Except LoadFault Configuration :=
  if v.isVoid then .ok .initial
  else match Configuration.ofValue? v with
    | some c => .ok c
    | none => .error .badConfiguration

/-- The configuration in a file, or the initial one if no file is given. -/
def loadConfiguration (files : Files) : Option String → Except LoadFault Configuration
  | none => .ok .initial
  | some path => (load files path).bind configurationOf

/-- The owners in a value; ids are the texts of its keys. -/
def ownersOf (path : String) : Value → Except LoadFault (Table Value)
  | .scalar .null => .ok .empty
  | .mapping entries =>
    if entries.all fun e => (Value.scalar e.1).isWritable then
      .ok (Table.ofList (entries.map fun e => (e.1.plain, e.2)))
    else .error .numeralTooLong
  | _ => .error (.notMapping path)

/-- The owners in a file, or none if no file is given. -/
def loadOwners (files : Files) : Option String → Except LoadFault (Table Value)
  | none => .ok .empty
  | some path => (load files path).bind (ownersOf path)

end Settings

end Pgml
