import CodingAgent.Json.Display

/-!
# Places in a YAML document and the errors of reading one

A `Mark` is a place in a document: the number of characters before it, and its line and
column, both counted from zero. Errors name places as `in "<file>", line L, column C`, with
line and column counted from one.

Most errors of a loader are *marked*: an optional context (what was being read, and where
it began) and a problem (what went wrong, and where). The context's place is left out when
it is the problem's place. A character that a document may not hold is reported by its
position alone. Converting a scalar may also fail the way the conversion fails, with an
error of its own class.
-/

namespace CodingAgent.Yaml

/-- A place in a document. -/
structure Mark where
  index : Nat
  line : Nat
  column : Nat
  deriving Inhabited, BEq

/-- The line that names a place of the document `name`. -/
def Mark.describe (m : Mark) (name : String) : String :=
  "  in \"" ++ name ++ "\", line " ++ toString (m.line + 1) ++ ", column " ++
    toString (m.column + 1)

/-- Why a document cannot be loaded. -/
inductive YamlError where
  /-- An error of a stage of the loader (`ScannerError`, `ParserError`, `ComposerError`,
  `ConstructorError`): what was being read and where it began, what went wrong and where. -/
  | marked (cls : String) (context : Option String) (contextMark : Option Mark)
      (problem : String) (problemMark : Option Mark)
  /-- A character the document may not hold (its code point), at a character position. -/
  | unacceptable (code : Nat) (position : Nat)
  /-- A scalar that its conversion refuses, with the conversion's error. -/
  | conversion (cls : String) (message : String)

namespace YamlError

/-- The class of the error. -/
def className : YamlError → String
  | .marked cls .. => cls
  | .unacceptable .. => "ReaderError"
  | .conversion cls _ => cls

/-- The text of the error for the document `name`. -/
def render (name : String) : YamlError → String
  | .marked _ context contextMark problem problemMark =>
    let showContextMark := match contextMark, problemMark with
      | some c, some p => c.line != p.line || c.column != p.column
      | some _, none => true
      | none, _ => false
    let parts := (match context with
        | some c => [c]
        | none => []) ++
      (match contextMark with
        | some c => if showContextMark then [c.describe name] else []
        | none => []) ++
      [problem] ++
      (match problemMark with
        | some p => [p.describe name]
        | none => [])
    "\n".intercalate parts
  | .unacceptable code position =>
    "unacceptable character #x" ++ CodingAgent.Json.hexPadded 4 code ++
      ": special characters are not allowed\n  in \"" ++ name ++ "\", position " ++
      toString position
  | .conversion _ message => message

end YamlError

/-- A character as it is quoted in messages. -/
def quotedChar (c : Char) : String :=
  CodingAgent.Json.quoted (CodingAgent.Text.ofCodePoints [c.toNat])

end CodingAgent.Yaml
