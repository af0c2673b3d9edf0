import CodingAgent.Yaml.Error

/-!
# Tokens of a YAML document

The scanner cuts a document into tokens: the start and end of the stream and of documents,
directives, the starts and ends of block and flow collections, the indicators of keys,
values and entries, anchors, aliases, tags and scalars. Each token carries the places where
it starts and ends. Errors name a token by its `id`.
-/

namespace CodingAgent.Yaml

/-- The value of a directive. -/
inductive DirectiveValue where
  /-- `%YAML major.minor`. -/
  | version (major minor : Nat)
  /-- `%TAG handle prefix`. -/
  | tagPrefix (handle pre : String)
  /-- Any other directive, which is skipped. -/
  | other

/-- What a token is. -/
inductive TokenKind where
  | directive (name : String) (value : DirectiveValue)
  | documentStart
  | documentEnd
  | streamStart
  | streamEnd
  | blockSequenceStart
  | blockMappingStart
  | blockEnd
  | flowSequenceStart
  | flowMappingStart
  | flowSequenceEnd
  | flowMappingEnd
  | key
  | value
  | blockEntry
  | flowEntry
  | alias (name : String)
  | anchor (name : String)
  /-- A tag: its handle (none for a verbatim tag) and its suffix. -/
  | tag (handle : Option String) (suffix : String)
  /-- A scalar: its text, whether it was plain, and its quote or block style. -/
  | scalar (text : String) (plain : Bool) (style : Option Char)

/-- How errors name a kind of token. -/
def TokenKind.id : TokenKind → String
  | .directive .. => "<directive>"
  | .documentStart => "<document start>"
  | .documentEnd => "<document end>"
  | .streamStart => "<stream start>"
  | .streamEnd => "<stream end>"
  | .blockSequenceStart => "<block sequence start>"
  | .blockMappingStart => "<block mapping start>"
  | .blockEnd => "<block end>"
  | .flowSequenceStart => "["
  | .flowMappingStart => "\x7b"
  | .flowSequenceEnd => "]"
  | .flowMappingEnd => "\x7d"
  | .key => "?"
  | .value => ":"
  | .blockEntry => "-"
  | .flowEntry => ","
  | .alias _ => "<alias>"
  | .anchor _ => "<anchor>"
  | .tag .. => "<tag>"
  | .scalar .. => "<scalar>"

/-- The kinds of tokens without their contents, to ask which kind a token is. -/
inductive TokenTag where
  | directive | documentStart | documentEnd | streamStart | streamEnd
  | blockSequenceStart | blockMappingStart | blockEnd
  | flowSequenceStart | flowMappingStart | flowSequenceEnd | flowMappingEnd
  | key | value | blockEntry | flowEntry | alias | anchor | tag | scalar
  deriving DecidableEq

/-- The kind of a token without its contents. -/
def TokenKind.kindTag : TokenKind → TokenTag
  | .directive .. => .directive
  | .documentStart => .documentStart
  | .documentEnd => .documentEnd
  | .streamStart => .streamStart
  | .streamEnd => .streamEnd
  | .blockSequenceStart => .blockSequenceStart
  | .blockMappingStart => .blockMappingStart
  | .blockEnd => .blockEnd
  | .flowSequenceStart => .flowSequenceStart
  | .flowMappingStart => .flowMappingStart
  | .flowSequenceEnd => .flowSequenceEnd
  | .flowMappingEnd => .flowMappingEnd
  | .key => .key
  | .value => .value
  | .blockEntry => .blockEntry
  | .flowEntry => .flowEntry
  | .alias _ => .alias
  | .anchor _ => .anchor
  | .tag .. => .tag
  | .scalar .. => .scalar

/-- A token and where it starts and ends. -/
structure Token where
  kind : TokenKind
  start : Mark
  stop : Mark

/-- Whether a token is of one of the kinds. -/
def Token.isOneOf (t : Token) (kinds : List TokenTag) : Bool :=
  kinds.contains t.kind.kindTag

end CodingAgent.Yaml
