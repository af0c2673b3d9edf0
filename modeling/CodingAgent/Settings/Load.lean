import CodingAgent.Settings.Read
import CodingAgent.Yaml.Document
import CodingAgent.Text.Utf8

/-!
# Loading a settings file

A settings file holds one YAML mapping from section names to sections. The file is read as
text, with every line end read as `\n`.

* A missing file, an empty one and a document that counts as false (null, `false`, zero,
  an empty text or collection) all give the defaults.
* A document of another kind is refused with the file's path in the message.
* The section names are passed on as names, so each must be a text.
* The sections are then read as `Settings.read` reads them: keys that are not texts name
  no setting, and dates, times and undecodable binary data fit no setting.
-/

namespace CodingAgent.Settings

open CodingAgent.Json CodingAgent.Yaml

/-- Why settings could not be loaded. -/
inductive LoadError where
  /-- The document is no mapping. -/
  | notMapping (path : String)
  /-- A section name is not a text. -/
  | nameNotText
  /-- The mapping does not fit the settings. -/
  | invalid (e : ReadError)
  /-- The text is no document of the accepted form: the error's class and message. -/
  | malformed (cls : String) (message : String)

/-- The class name of a load error, as errors are reported. -/
def LoadError.className : LoadError → String
  | .notMapping _ => "ConfigurationError"
  | .nameNotText => "TypeError"
  | .invalid e => e.className
  | .malformed cls _ => cls

/-- The message of a load error. -/
def LoadError.message : LoadError → String
  | .notMapping path => "Config file " ++ path ++ " must contain a mapping"
  | .nameNotText => "keywords must be strings"
  | .invalid e => e.message
  | .malformed _ message => message

/-- Whether a datum counts as true. -/
def isTruthy : Datum → Bool
  | .none => false
  | .bool b => b
  | .int n => n != 0
  | .float x => x != 0.0
  | .str s => !s.isEmpty
  | .bytes bs => !bs.isEmpty
  | .timestamp => true
  | .list items => !items.isEmpty
  | .dict entries => !entries.isEmpty
  | .set items => !items.isEmpty
  | .pair _ _ => true

/-- A datum at `place` as a value for reading settings, down to `depth` levels of
collections; deeper data, dates and times, and binary data that is not UTF-8 become null,
which no setting accepts either. Binary data is read as its text, except where a setting
takes one of a few words (`choicePlaces`): binary data is none of them. Keys of
dictionaries that are not texts are left out. -/
def settingValue (d : Document) : Nat → Nat → List String → Value
  | 0, _, _ => .null
  | depth + 1, r, place =>
    let inItems (items : List Nat) : List Value :=
      items.zipIdx.map (fun (x, i) => settingValue d depth x (place ++ [toString i]))
    match d.at r with
    | .none => .null
    | .bool b => .bool b
    | .int n => .int n
    | .float x => .num x
    | .str s => .str s
    | .bytes bs =>
      if choicePlaces.contains place then .null
      else match CodingAgent.Text.decodeUtf8 bs with
        | .ok s => .str s
        | .error _ => .null
    | .timestamp => .null
    | .list items => .arr (inItems items.toList)
    | .set items => .arr (inItems items.toList)
    | .pair k v => .arr (inItems [k, v])
    | .dict entries => .obj (entries.toList.filterMap (fun (k, v) =>
        match d.at k with
        | .str s => some (s, settingValue d depth v (place ++ [s]))
        | _ => none))

/-- The places, as paths of keys and positions, of binary data that is not UTF-8 in a datum
read by `settingValue` at `place`. -/
def undecodablePlaces (d : Document) : Nat → Nat → List String → List (List String)
  | 0, _, _ => []
  | depth + 1, r, place =>
    let inItems (items : List Nat) : List (List String) :=
      (items.zipIdx.map (fun (x, i) => undecodablePlaces d depth x (place ++ [toString i]))).flatten
    match d.at r with
    | .bytes bs => match CodingAgent.Text.decodeUtf8 bs with
      | .ok _ => []
      | .error _ => [place]
    | .list items => inItems items.toList
    | .set items => inItems items.toList
    | .pair k v => inItems [k, v]
    | .dict entries => (entries.toList.map (fun (k, v) =>
        match d.at k with
        | .str s => undecodablePlaces d depth v (place ++ [s])
        | _ => [])).flatten
    | _ => []

/-- An issue met where binary data that is not UTF-8 stood: such data was read as null, so
the issue says the value had the wrong type, where a field of text, a number or a flag
reports that the data could not be decoded or parsed. -/
def undecodableIssue (places : List (List String)) (i : Issue) : Issue :=
  if !places.contains i.loc then i
  else match i.kind with
    | "string_type" => { i with kind := "string_unicode" }
    | "int_type" => { i with kind := "int_parsing" }
    | "float_type" => { i with kind := "float_parsing" }
    | "bool_type" => { i with kind := "bool_parsing" }
    | _ => i

/-- Settings from a loaded document. -/
def ofDocument (path : String) : Option Document → Except LoadError Settings
  | none => (Settings.read []).mapError .invalid
  | some d =>
    let top := d.at d.root
    if !isTruthy top then (Settings.read []).mapError .invalid
    else match top with
      | .dict entries => do
        let keys ← entries.toList.mapM (fun (k, _) =>
          match d.at k with
          | .str s => .ok s
          | _ => .error LoadError.nameNotText)
        let placeOf (s : String) : List String := [(sectionOfKey? keys s).getD s]
        let sections := entries.toList.filterMap (fun (k, v) =>
          match d.at k with
          | .str s => some (s, settingValue d 8 v (placeOf s))
          | _ => none)
        let places := (entries.toList.map (fun (k, v) =>
          match d.at k with
          | .str s => match sectionOfKey? keys s with
            | some name => undecodablePlaces d 8 v [name]
            | none => []
          | _ => [])).flatten
        (Settings.read sections).mapError (fun e => .invalid (match e with
          | .invalid is => .invalid (is.map (undecodableIssue places))
          | e => e))
      | _ => .error (.notMapping path)

/-- Settings from the text of the file at `path`, or the defaults when there is no file. -/
def load (path : String) : Option String → Except LoadError Settings
  | none => .ok {}
  | some text =>
    match loadDocument text with
    | .error e => .error (.malformed e.className (e.render path))
    | .ok doc => ofDocument path doc

end CodingAgent.Settings
