import CodingAgent.Yaml.Token
import CodingAgent.Yaml.Reader
import CodingAgent.Text.Utf8

/-!
# Scanning a YAML document

The scanner reads a document code point by code point and produces its tokens on demand: a
caller asks for the next token, and the scanner reads just far enough to know it.

Indentation opens and closes block collections. The scanner keeps a stack of indentation
columns; a line that starts to the left of the current column closes collections (block
end tokens) until the column fits, and a key or an entry further right opens one (block
sequence or block mapping start).

A *simple key* is a key written without `?`: a scalar or a collection that turns out to be
a key when a `:` follows it on the same line. Every token that may start such a key is
remembered with its token number; when `:` comes, a key token (and, in block context, a
mapping start) is inserted before it. Because of that insertion the scanner holds tokens
back while a possible simple key is open. A key that must be simple (one at the current
indentation in block context) and finds no `:` on its line is an error.

Flow collections (`[...]`, `{...}`) ignore indentation. Scalars come plain, single- or
double-quoted (with escapes), or as literal (`|`) and folded (`>`) blocks with chomping and
indentation indicators.

Line ends are `\r\n`, `\r`, `\n`, `\x85`, `U+2028` and `U+2029`; the first four read as
`\n`. A byte order mark at the start is skipped, and never counts as a column.

Every scanning function is a step on the reader's stack (see `Reader`), and so is every
test of what comes next; each looks at the text through the reader's steps, one peek per
code point it examines, and builds its marks, tokens and errors as records.
-/

namespace CodingAgent.Yaml

/-- Whether a character ends a line. -/
def isBreakChar (c : Char) : Bool :=
  c == '\r' || c == '\n' || c == '\x85' || c == '\u2028' || c == '\u2029'

/-- Whether a character ends a line or the text (the end reads as `\x00`). -/
def isBreakOrEnd (c : Char) : Bool :=
  c == '\x00' || isBreakChar c

/-- Whether a character is a blank, a line end or the end. -/
def isBlankOrEnd (c : Char) : Bool :=
  c == ' ' || c == '\t' || isBreakOrEnd c

/-- Whether a character is a space, a line end or the end (a tab is not). -/
def isSpaceOrEnd (c : Char) : Bool :=
  c == ' ' || isBreakOrEnd c

/-- Whether a character may be part of an anchor, a directive name or a tag handle. -/
def isWordChar (c : Char) : Bool :=
  ('0' ≤ c && c ≤ '9') || ('A' ≤ c && c ≤ 'Z') || ('a' ≤ c && c ≤ 'z') ||
    c == '-' || c == '_'

/-- Whether a character is a hexadecimal digit. -/
def isHexChar (c : Char) : Bool :=
  ('0' ≤ c && c ≤ '9') || ('A' ≤ c && c ≤ 'F') || ('a' ≤ c && c ≤ 'f')

/-- Whether a character is an ASCII digit. -/
def isDigitChar (c : Char) : Bool :=
  '0' ≤ c && c ≤ '9'

/-- Whether a character may be part of a tag URI. -/
def isUriChar (c : Char) : Bool :=
  ('0' ≤ c && c ≤ '9') || ('A' ≤ c && c ≤ 'Z') || ('a' ≤ c && c ≤ 'z') ||
    "-;/?:@&=+$,_.!~*'()[]%".toList.contains c

/-- The value of a hexadecimal digit. -/
def hexValue (c : Char) : Nat :=
  if '0' ≤ c && c ≤ '9' then c.toNat - '0'.toNat
  else if 'a' ≤ c && c ≤ 'f' then c.toNat - 'a'.toNat + 10
  else c.toNat - 'A'.toNat + 10

/-- The value of hexadecimal digits. -/
def hexDigitsValue (s : String) : Nat :=
  s.toList.foldl (fun acc d => acc * 16 + hexValue d) 0

/-- A token that may start a simple key: its number among all tokens, whether it must be a
key, and where it starts. -/
structure SimpleKey where
  tokenNumber : Nat
  required : Bool
  index : Nat
  line : Nat
  column : Nat
  mark : Mark

/-- The state of a scanner: the reader and what the scanner keeps of the tokens. -/
structure Scanner extends Reader where
  /-- The end of the stream has been scanned. -/
  done : Bool := false
  /-- How many flow collections are open (a stray closing bracket makes it negative). -/
  flowLevel : Int := 0
  /-- Tokens scanned and not yet taken. -/
  tokens : List Token := []
  tokensTaken : Nat := 0
  indent : Int := -1
  indents : List Int := []
  allowSimpleKey : Bool := true
  /-- The possible simple key of each flow level, in the order they were kept. -/
  possibleSimpleKeys : List (Int × SimpleKey) := []

namespace Scanner

/-- Forget the possible simple key of the current flow level. -/
def dropKey (s : Scanner) : Scanner :=
  { s with possibleSimpleKeys := s.possibleSimpleKeys.filter (fun kv => kv.1 != s.flowLevel) }

/-- Remember a possible simple key for the current flow level. -/
def keepKey (s : Scanner) (key : SimpleKey) : Scanner :=
  let s := s.dropKey
  { s with possibleSimpleKeys := s.possibleSimpleKeys ++ [(s.flowLevel, key)] }

/-- The earliest token number of the possible simple keys. -/
def earliestKey (s : Scanner) : Option Nat :=
  s.possibleSimpleKeys.foldl (fun acc kv =>
    match acc with
    | some n => some (min n kv.2.tokenNumber)
    | none => some kv.2.tokenNumber) none

/-- A scanner at the start of a text, with the start of the stream queued. -/
def start (r : Reader) : Scanner :=
  { toReader := r, tokens := [⟨.streamStart, r.mark, r.mark⟩] }

end Scanner

instance : Reading Scanner := ⟨Scanner.toReader, fun s r => { s with toReader := r }⟩

/-- A computation of the scanner. -/
abbrev ScanM := ReadM Scanner

/-- Move over the characters that satisfy `p`, peeking at each and passing it. -/
def skipWhile (p : Char → Bool) : ScanM Unit := do
  go ((← get).remaining + 1)
where
  go : Nat → ScanM Unit
    | 0 => pure ()
    | fuel + 1 => do
      if p (← peekChar) then
        advance 1
        go fuel

/-- How many characters from `start` places ahead satisfy `p`, peeking at each and at the
first that does not, which is returned too. -/
def spanAhead (start : Nat) (p : Char → Bool) : ScanM (Nat × Char) := do
  go ((← get).remaining + 1) start
where
  go : Nat → Nat → ScanM (Nat × Char)
    | 0, n => pure (n - start, '\x00')
    | fuel + 1, n => do
      let ch ← peekChar n
      if p ch then go fuel (n + 1) else pure (n - start, ch)

/-- Fail at the current place: the place is marked, then the error is built. -/
def scanError (context : Option String) (contextMark : Option Mark) (problem : String) :
    ScanM α := do
  let m ← currentMark
  construct
  throw (.marked "ScannerError" context contextMark problem (some m))

/-- Add a token at the end of the queue. -/
def appendToken (t : Token) : ScanM Unit :=
  modify fun s => { s with tokens := s.tokens ++ [t] }

/-- Build a token and add it at the end of the queue. -/
def emit (kind : TokenKind) (start stop : Mark) : ScanM Unit := do
  construct
  appendToken ⟨kind, start, stop⟩

/-- Put a token into the queue at position `i`. -/
def insertToken (i : Nat) (t : Token) : ScanM Unit :=
  modify fun s => { s with tokens := s.tokens.take i ++ t :: s.tokens.drop i }

/-- Set whether a simple key may start here. -/
def setAllowSimpleKey (b : Bool) : ScanM Unit :=
  modify fun s => { s with allowSimpleKey := b }

/-- Read a line break: `\r\n`, `\r`, `\n` and `\x85` read as `\n`, the two Unicode
separators as themselves; anything else reads nothing. -/
def scanLineBreak : ScanM String := step do
  let ch ← peekChar
  if ch == '\r' || ch == '\n' || ch == '\x85' then
    if (← prefixOf 2) == "\r\n" then advance 2 else advance 1
    return "\n"
  else if ch == '\u2028' || ch == '\u2029' then
    advance 1
    return ch.toString
  else return ""

/-! ## Simple keys and indentation -/

/-- Forget the possible simple keys that can no longer be keys: those on an earlier line
or more than 1024 characters back. Such a key that must be a key is an error. -/
def staleSimpleKeys : ScanM Unit := step do
  let s ← get
  let mut kept : List (Int × SimpleKey) := []
  for (level, key) in s.possibleSimpleKeys do
    if key.line != s.line || s.pointer - key.index > 1024 then
      if key.required then
        scanError (some "while scanning a simple key") (some key.mark)
          "could not find expected ':'"
    else kept := kept ++ [(level, key)]
  modify fun s => { s with possibleSimpleKeys := kept }

/-- Forget the possible simple key of the current flow level; one that must be a key is an
error. -/
def removePossibleSimpleKey : ScanM Unit := step do
  let s ← get
  match s.possibleSimpleKeys.lookup s.flowLevel with
  | some key =>
    if key.required then
      scanError (some "while scanning a simple key") (some key.mark)
        "could not find expected ':'"
    modify (·.dropKey)
  | none => pure ()

/-- Remember that the next token may start a simple key. -/
def savePossibleSimpleKey : ScanM Unit := step do
  let s ← get
  let required := s.flowLevel == 0 && s.indent == (s.column : Int)
  if s.allowSimpleKey then
    removePossibleSimpleKey
    let s ← get
    let tokenNumber := s.tokensTaken + s.tokens.length
    let m ← currentMark
    construct
    modify fun s => s.keepKey
      { tokenNumber, required, index := s.pointer, line := s.line, column := s.column,
        mark := m }

/-- The earliest token number of the possible simple keys (a step). -/
def nextPossibleSimpleKey : ScanM (Option Nat) := step do
  return (← get).earliestKey

/-- Close the block collections indented deeper than `column` (not in flow context). -/
def unwindIndent (column : Int) : ScanM Unit := step do
  if (← get).flowLevel != 0 then return
  go ((← get).indents.length + 1)
where
  go : Nat → ScanM Unit
    | 0 => pure ()
    | fuel + 1 => do
      if (← get).indent > column then
        let m ← currentMark
        modify fun s => match s.indents with
          | top :: rest => { s with indent := top, indents := rest }
          | [] => s
        emit .blockEnd m m
        go fuel

/-- Open an indentation level at `column` if it is deeper than the current one. -/
def addIndent (column : Int) : ScanM Bool := step do
  let s ← get
  if s.indent < column then
    set { s with indents := s.indent :: s.indents, indent := column }
    return true
  else return false

/-! ## Skipping to a token -/

/-- Skip spaces, comments and line breaks up to the next token; a line break in block
context lets a simple key start again. -/
def scanToNextToken : ScanM Unit := step do
  if (← get).pointer == 0 then
    if (← peekChar) == '\uFEFF' then advance 1
  go ((← get).remaining + 1)
where
  go : Nat → ScanM Unit
    | 0 => pure ()
    | fuel + 1 => do
      skipWhile (· == ' ')
      if (← peekChar) == '#' then skipWhile (fun c => !isBreakOrEnd c)
      if !(← scanLineBreak).isEmpty then
        if (← get).flowLevel == 0 then setAllowSimpleKey true
        go fuel

/-! ## Directives -/

/-- The name of a directive. -/
def scanDirectiveName (startMark : Mark) : ScanM String := step do
  let (n, ch) ← spanAhead 0 isWordChar
  if n == 0 then
    scanError (some "while scanning a directive") (some startMark)
      ("expected alphabetic or numeric character, but found " ++ quotedChar ch)
  let value ← prefixOf n
  advance n
  let ch ← peekChar
  if !isSpaceOrEnd ch then
    scanError (some "while scanning a directive") (some startMark)
      ("expected alphabetic or numeric character, but found " ++ quotedChar ch)
  return value

/-- A number of a `%YAML` directive. -/
def scanVersionNumber (startMark : Mark) : ScanM Nat := step do
  let ch ← peekChar
  if !isDigitChar ch then
    scanError (some "while scanning a directive") (some startMark)
      ("expected a digit, but found " ++ quotedChar ch)
  let (n, _) ← spanAhead 0 isDigitChar
  let text ← prefixOf n
  advance n
  return text.toList.foldl (fun acc d => acc * 10 + (d.toNat - '0'.toNat)) 0

/-- The version of a `%YAML` directive. -/
def scanVersionValue (startMark : Mark) : ScanM DirectiveValue := step do
  skipWhile (· == ' ')
  let major ← scanVersionNumber startMark
  if (← peekChar) != '.' then
    scanError (some "while scanning a directive") (some startMark)
      ("expected a digit or '.', but found " ++ quotedChar (← peekChar))
  advance 1
  let minor ← scanVersionNumber startMark
  if !isSpaceOrEnd (← peekChar) then
    scanError (some "while scanning a directive") (some startMark)
      ("expected a digit or ' ', but found " ++ quotedChar (← peekChar))
  return .version major minor

/-- A tag handle: `!`, `!!` or `!word!`. -/
def scanTagHandle (name : String) (startMark : Mark) : ScanM String := step do
  let ch ← peekChar
  if ch != '!' then
    scanError (some ("while scanning a " ++ name)) (some startMark)
      ("expected '!', but found " ++ quotedChar ch)
  let mut length := 1
  if (← peekChar 1) != ' ' then
    let (n, ch) ← spanAhead 1 isWordChar
    length := 1 + n
    if ch != '!' then
      advance length
      scanError (some ("while scanning a " ++ name)) (some startMark)
        ("expected '!', but found " ++ quotedChar ch)
    length := length + 1
  let value ← prefixOf length
  advance length
  return value

/-- Percent escapes in a tag URI, read as UTF-8. -/
def scanUriEscapes (name : String) (startMark : Mark) : ScanM String := step do
  let m ← currentMark
  let codes ← go ((← get).remaining + 1) []
  match CodingAgent.Text.decodeUtf8 codes with
  | .ok s => return s
  | .error e =>
    construct
    throw (.marked "ScannerError" (some ("while scanning a " ++ name)) (some startMark)
      e.message (some m))
where
  go : Nat → List UInt8 → ScanM (List UInt8)
    | 0, acc => pure acc
    | fuel + 1, acc => do
      if (← peekChar) != '%' then return acc
      advance 1
      for k in [0, 1] do
        if !isHexChar (← peekChar k) then
          scanError (some ("while scanning a " ++ name)) (some startMark)
            ("expected URI escape sequence of 2 hexadecimal numbers, but found " ++
              quotedChar (← peekChar k))
      let digits ← prefixOf 2
      advance 2
      go fuel (acc ++ [UInt8.ofNat (hexDigitsValue digits)])

/-- The URI of a tag. -/
def scanTagUri (name : String) (startMark : Mark) : ScanM String := step do
  let (text, any, ch) ← go ((← get).remaining + 1) "" false 0
  if !any then
    scanError (some ("while parsing a " ++ name)) (some startMark)
      ("expected URI, but found " ++ quotedChar ch)
  return text
where
  go : Nat → String → Bool → Nat → ScanM (String × Bool × Char)
    | 0, acc, any, _ => pure (acc, any, '\x00')
    | fuel + 1, acc, any, length => do
      let ch ← peekChar length
      if isUriChar ch then
        if ch == '%' then
          let piece ← prefixOf length
          advance length
          let decoded ← scanUriEscapes name startMark
          go fuel (acc ++ piece ++ decoded) true 0
        else go fuel acc any (length + 1)
      else if length > 0 then
        let piece ← prefixOf length
        advance length
        pure (acc ++ piece, true, ch)
      else pure (acc, any, ch)

/-- The handle of a `%TAG` directive, which a space must follow. -/
def scanTagDirectiveHandle (startMark : Mark) : ScanM String := step do
  let value ← scanTagHandle "directive" startMark
  let ch ← peekChar
  if ch != ' ' then
    scanError (some "while scanning a directive") (some startMark)
      ("expected ' ', but found " ++ quotedChar ch)
  return value

/-- The prefix of a `%TAG` directive. -/
def scanTagDirectivePrefix (startMark : Mark) : ScanM String := step do
  let value ← scanTagUri "directive" startMark
  let ch ← peekChar
  if !isSpaceOrEnd ch then
    scanError (some "while scanning a directive") (some startMark)
      ("expected ' ', but found " ++ quotedChar ch)
  return value

/-- The handle and prefix of a `%TAG` directive. -/
def scanTagDirectiveValue (startMark : Mark) : ScanM DirectiveValue := step do
  skipWhile (· == ' ')
  let handle ← scanTagDirectiveHandle startMark
  skipWhile (· == ' ')
  let pre ← scanTagDirectivePrefix startMark
  return .tagPrefix handle pre

/-- The rest of a directive's line: blanks and a comment. -/
def scanDirectiveIgnoredLine (startMark : Mark) : ScanM Unit := step do
  skipWhile (· == ' ')
  if (← peekChar) == '#' then skipWhile (fun c => !isBreakOrEnd c)
  let ch ← peekChar
  if !isBreakOrEnd ch then
    scanError (some "while scanning a directive") (some startMark)
      ("expected a comment or a line break, but found " ++ quotedChar ch)
  discard scanLineBreak

/-- A directive. -/
def scanDirective : ScanM Token := step do
  let startMark ← currentMark
  advance 1
  let name ← scanDirectiveName startMark
  let (value, endMark) ← if name == "YAML" then do
      let v ← scanVersionValue startMark
      pure (v, ← currentMark)
    else if name == "TAG" then do
      let v ← scanTagDirectiveValue startMark
      pure (v, ← currentMark)
    else do
      let m ← currentMark
      skipWhile (fun c => !isBreakOrEnd c)
      pure (DirectiveValue.other, m)
  scanDirectiveIgnoredLine startMark
  construct
  return ⟨.directive name value, startMark, endMark⟩

/-! ## Anchors and tags -/

/-- An anchor (`&name`) or an alias (`*name`). -/
def scanAnchor (isAlias : Bool) : ScanM Token := step do
  let startMark ← currentMark
  discard peekChar
  let name := if isAlias then "alias" else "anchor"
  advance 1
  let (n, ch) ← spanAhead 0 isWordChar
  if n == 0 then
    scanError (some ("while scanning an " ++ name)) (some startMark)
      ("expected alphabetic or numeric character, but found " ++ quotedChar ch)
  let value ← prefixOf n
  advance n
  let ch ← peekChar
  if !(isBlankOrEnd ch || "?:,]\x7d%@".toList.contains ch || ch == '\x60') then
    scanError (some ("while scanning an " ++ name)) (some startMark)
      ("expected alphabetic or numeric character, but found " ++ quotedChar ch)
  let endMark ← currentMark
  construct
  return ⟨if isAlias then .alias value else .anchor value, startMark, endMark⟩

/-- A tag: verbatim `!<uri>`, the non-specific `!`, or a handle and a suffix. -/
def scanTag : ScanM Token := step do
  let startMark ← currentMark
  let ch ← peekChar 1
  let (handle, suffix) ← if ch == '<' then do
      advance 2
      let suffix ← scanTagUri "tag" startMark
      if (← peekChar) != '>' then
        scanError (some "while parsing a tag") (some startMark)
          ("expected '>', but found " ++ quotedChar (← peekChar))
      advance 1
      pure (none, suffix)
    else if isBlankOrEnd ch then do
      advance 1
      pure (none, "!")
    else do
      let (_, stop) ← spanAhead 1 (fun c => !isSpaceOrEnd c && c != '!')
      let handle ← if stop == '!' then scanTagHandle "tag" startMark
        else do
          advance 1
          pure "!"
      let suffix ← scanTagUri "tag" startMark
      pure (some handle, suffix)
  let ch ← peekChar
  if !isSpaceOrEnd ch then
    scanError (some "while scanning a tag") (some startMark)
      ("expected ' ', but found " ++ quotedChar ch)
  let endMark ← currentMark
  construct
  return ⟨.tag handle suffix, startMark, endMark⟩

/-! ## Block scalars -/

/-- The chomping indicator (`+` keeps, `-` strips) and the indentation indicator of a
block scalar's header. -/
def scanBlockScalarIndicators (startMark : Mark) : ScanM (Option Bool × Option Nat) :=
    step do
  let zeroIndent : ScanM Unit :=
    scanError (some "while scanning a block scalar") (some startMark)
      "expected indentation indicator in the range 1-9, but found 0"
  let mut chomping : Option Bool := none
  let mut increment : Option Nat := none
  let ch ← peekChar
  if ch == '+' || ch == '-' then
    chomping := some (ch == '+')
    advance 1
    let ch ← peekChar
    if isDigitChar ch then
      if ch == '0' then zeroIndent
      increment := some (ch.toNat - '0'.toNat)
      advance 1
  else if isDigitChar ch then
    if ch == '0' then zeroIndent
    increment := some (ch.toNat - '0'.toNat)
    advance 1
    let ch ← peekChar
    if ch == '+' || ch == '-' then
      chomping := some (ch == '+')
      advance 1
  let ch ← peekChar
  if !isSpaceOrEnd ch then
    scanError (some "while scanning a block scalar") (some startMark)
      ("expected chomping or indentation indicators, but found " ++ quotedChar ch)
  return (chomping, increment)

/-- The rest of a block scalar's header line: blanks and a comment. -/
def scanBlockScalarIgnoredLine (startMark : Mark) : ScanM Unit := step do
  skipWhile (· == ' ')
  if (← peekChar) == '#' then skipWhile (fun c => !isBreakOrEnd c)
  let ch ← peekChar
  if !isBreakOrEnd ch then
    scanError (some "while scanning a block scalar") (some startMark)
      ("expected a comment or a line break, but found " ++ quotedChar ch)
  discard scanLineBreak

/-- The leading empty lines of a block scalar without an indentation indicator, and the
deepest column among them. -/
def scanBlockScalarIndentation : ScanM (List String × Nat × Mark) := step do
  let endMark ← currentMark
  go ((← get).remaining + 1) [] 0 endMark
where
  go : Nat → List String → Nat → Mark → ScanM (List String × Nat × Mark)
    | 0, chunks, maxIndent, endMark => pure (chunks, maxIndent, endMark)
    | fuel + 1, chunks, maxIndent, endMark => do
      let ch ← peekChar
      if ch == ' ' || isBreakChar ch then
        if (← peekChar) != ' ' then
          let br ← scanLineBreak
          go fuel (chunks ++ [br]) maxIndent (← currentMark)
        else
          advance 1
          go fuel chunks (max maxIndent (← get).column) endMark
      else pure (chunks, maxIndent, endMark)

/-- Skip indentation up to `indent`. -/
def skipIndentation (indent : Int) : ScanM Unit := do
  go ((← get).remaining + 1)
where
  go : Nat → ScanM Unit
    | 0 => pure ()
    | fuel + 1 => do
      if ((← get).column : Int) < indent then
        if (← peekChar) == ' ' then
          advance 1
          go fuel

/-- The empty lines inside a block scalar at `indent`. -/
def scanBlockScalarBreaks (indent : Int) : ScanM (List String × Mark) := step do
  let endMark ← currentMark
  skipIndentation indent
  go ((← get).remaining + 1) [] endMark
where
  go : Nat → List String → Mark → ScanM (List String × Mark)
    | 0, chunks, endMark => pure (chunks, endMark)
    | fuel + 1, chunks, endMark => do
      if isBreakChar (← peekChar) then
        let br ← scanLineBreak
        let m ← currentMark
        skipIndentation indent
        go fuel (chunks ++ [br]) m
      else pure (chunks, endMark)

/-- Whether a line of a block scalar at `indent` goes on here: the column is the
indentation and the text has not ended. -/
def atBlockLine (indent : Int) : ScanM Bool := do
  if ((← get).column : Int) == indent then return (← peekChar) != '\x00'
  else return false

/-- A literal (`|`) or folded (`>`) block scalar. -/
def scanBlockScalar (style : Char) : ScanM Token := step do
  let folded := style == '>'
  let startMark ← currentMark
  advance 1
  let (chomping, increment) ← scanBlockScalarIndicators startMark
  scanBlockScalarIgnoredLine startMark
  let minIndent : Int := max 1 ((← get).indent + 1)
  let (breaks, indent, endMark) ← match increment with
    | none => do
      let (breaks, maxIndent, endMark) ← scanBlockScalarIndentation
      pure (breaks, max minIndent (maxIndent : Int), endMark)
    | some inc => do
      let indent := minIndent + inc - 1
      let (breaks, endMark) ← scanBlockScalarBreaks indent
      pure (breaks, indent, endMark)
  let (chunks, lineBreak, breaks, endMark) ←
    body folded indent ((← get).remaining + 1) "" "" breaks endMark
  let chunks := if chomping != some false then chunks ++ lineBreak else chunks
  let chunks := if chomping == some true then chunks ++ String.join breaks else chunks
  construct
  return ⟨.scalar chunks false (some style), startMark, endMark⟩
where
  /-- The lines of the scalar: the text so far, the last line break, the pending empty
  lines and the end place. -/
  body (folded : Bool) (indent : Int) : Nat → String → String → List String → Mark →
      ScanM (String × String × List String × Mark)
    | 0, chunks, lineBreak, breaks, endMark => pure (chunks, lineBreak, breaks, endMark)
    | fuel + 1, chunks, lineBreak, breaks, endMark => do
      if !(← atBlockLine indent) then return (chunks, lineBreak, breaks, endMark)
      let chunks := chunks ++ String.join breaks
      let first ← peekChar
      let leadingNonSpace := first != ' ' && first != '\t'
      let (n, _) ← spanAhead 0 (fun c => !isBreakOrEnd c)
      let chunks := chunks ++ (← prefixOf n)
      advance n
      let lineBreak ← scanLineBreak
      let (breaks, endMark) ← scanBlockScalarBreaks indent
      if ← atBlockLine indent then
        let joins ← if folded && lineBreak == "\n" && leadingNonSpace then do
            let next ← peekChar
            pure (next != ' ' && next != '\t')
          else pure false
        let chunks :=
          if joins then (if breaks.isEmpty then chunks ++ " " else chunks)
          else chunks ++ lineBreak
        body folded indent fuel chunks lineBreak breaks endMark
      else return (chunks, lineBreak, breaks, endMark)

/-! ## Quoted scalars -/

/-- The character a one-letter escape of a double-quoted scalar stands for. -/
def escapeReplacement : Char → Option Char
  | '0' => some '\x00'
  | 'a' => some '\x07'
  | 'b' => some '\x08'
  | 't' => some '\t'
  | '\t' => some '\t'
  | 'n' => some '\n'
  | 'v' => some '\x0B'
  | 'f' => some '\x0C'
  | 'r' => some '\r'
  | 'e' => some '\x1B'
  | ' ' => some ' '
  | '"' => some '"'
  | '\\' => some '\\'
  | '/' => some '/'
  | 'N' => some '\x85'
  | '_' => some '\xA0'
  | 'L' => some '\u2028'
  | 'P' => some '\u2029'
  | _ => none

/-- The number of hex digits of a numeric escape. -/
def escapeCodeLength : Char → Option Nat
  | 'x' => some 2
  | 'u' => some 4
  | 'U' => some 8
  | _ => none

/-- The line breaks inside a quoted scalar; a document marker there is an error. -/
def scanFlowScalarBreaks (startMark : Mark) : ScanM String := step do
  go ((← get).remaining + 1) ""
where
  go : Nat → String → ScanM String
    | 0, chunks => pure chunks
    | fuel + 1, chunks => do
      let pre ← prefixOf 3
      if pre == "---" || pre == "..." then
        if isBlankOrEnd (← peekChar 3) then
          scanError (some "while scanning a quoted scalar") (some startMark)
            "found unexpected document separator"
      skipWhile (fun c => c == ' ' || c == '\t')
      if isBreakChar (← peekChar) then
        let br ← scanLineBreak
        go fuel (chunks ++ br)
      else pure chunks

/-- A run of a quoted scalar without blanks or line breaks, escapes and doubled quotes
resolved. -/
def scanFlowScalarNonSpaces (double : Bool) (startMark : Mark) : ScanM String := step do
  go ((← get).remaining + 1) ""
where
  go : Nat → String → ScanM String
    | 0, chunks => pure chunks
    | fuel + 1, chunks => do
      let (n, _) ← spanAhead 0
        (fun c => !(c == '\'' || c == '"' || c == '\\' || isBlankOrEnd c))
      let chunks ← if n > 0 then do
          let piece ← prefixOf n
          advance n
          pure (chunks ++ piece)
        else pure chunks
      let ch ← peekChar
      let doubled ← if !double && ch == '\'' then do
          pure ((← peekChar 1) == '\'')
        else pure false
      if doubled then
        advance 2
        go fuel (chunks ++ "'")
      else if (double && ch == '\'') || (!double && (ch == '"' || ch == '\\')) then
        advance 1
        go fuel (chunks.push ch)
      else if double && ch == '\\' then
        advance 1
        let ch ← peekChar
        match escapeReplacement ch, escapeCodeLength ch with
        | some r, _ =>
          advance 1
          go fuel (chunks.push r)
        | none, some length =>
          advance 1
          for k in List.range length do
            if !isHexChar (← peekChar k) then
              scanError (some "while scanning a double-quoted scalar") (some startMark)
                ("expected escape sequence of " ++ toString length ++
                  " hexadecimal numbers, but found " ++ quotedChar (← peekChar k))
          let code := hexDigitsValue (← prefixOf length)
          if code > 0x7FFFFFFF then
            throw (.conversion "OverflowError" "Python int too large to convert to C int")
          if code ≥ 0x110000 then
            throw (.conversion "ValueError" "chr() arg not in range(0x110000)")
          advance length
          go fuel (chunks ++ String.ofList (CodingAgent.Text.codeChars code))
        | none, none =>
          if isBreakChar ch then
            discard scanLineBreak
            let more ← scanFlowScalarBreaks startMark
            go fuel (chunks ++ more)
          else
            scanError (some "while scanning a double-quoted scalar") (some startMark)
              ("found unknown escape character " ++ quotedChar ch)
      else pure chunks

/-- Blanks and line breaks inside a quoted scalar, folded: a single line break reads as a
space, more of them as the breaks after the first. -/
def scanFlowScalarSpaces (startMark : Mark) : ScanM String := step do
  let (n, _) ← spanAhead 0 (fun c => c == ' ' || c == '\t')
  let whitespaces ← prefixOf n
  advance n
  let ch ← peekChar
  if ch == '\x00' then
    scanError (some "while scanning a quoted scalar") (some startMark)
      "found unexpected end of stream"
  else if isBreakChar ch then
    let lineBreak ← scanLineBreak
    let breaks ← scanFlowScalarBreaks startMark
    let first := if lineBreak != "\n" then lineBreak
      else if breaks.isEmpty then " " else ""
    return first ++ breaks
  else return whitespaces

/-- A single- or double-quoted scalar. -/
def scanFlowScalar (style : Char) : ScanM Token := step do
  let double := style == '"'
  let startMark ← currentMark
  let quote ← peekChar
  advance 1
  let first ← scanFlowScalarNonSpaces double startMark
  let chunks ← go double startMark quote ((← get).remaining + 1) first
  advance 1
  let endMark ← currentMark
  construct
  return ⟨.scalar chunks false (some style), startMark, endMark⟩
where
  go (double : Bool) (startMark : Mark) (quote : Char) : Nat → String → ScanM String
    | 0, chunks => pure chunks
    | fuel + 1, chunks => do
      if (← peekChar) == quote then return chunks
      let spaces ← scanFlowScalarSpaces startMark
      let more ← scanFlowScalarNonSpaces double startMark
      go double startMark quote fuel (chunks ++ spaces ++ more)

/-! ## Plain scalars -/

/-- Whether a document marker (`---` or `...` and a blank) starts here. -/
def atDocumentMarker : ScanM Bool := do
  let pre ← prefixOf 3
  if pre == "---" || pre == "..." then return isBlankOrEnd (← peekChar 3)
  else return false

/-- The blanks and line breaks after a piece of a plain scalar, folded; `none` when a
document marker follows a line break, which ends the scalar. -/
def scanPlainSpaces : ScanM (Option String) := step do
  let (n, _) ← spanAhead 0 (· == ' ')
  let whitespaces ← prefixOf n
  advance n
  let ch ← peekChar
  if isBreakChar ch then
    let lineBreak ← scanLineBreak
    setAllowSimpleKey true
    if ← atDocumentMarker then return none
    match ← breaksGo ((← get).remaining + 1) [] with
    | none => return none
    | some breaks =>
      let first := if lineBreak != "\n" then lineBreak
        else if breaks.isEmpty then " " else ""
      return some (first ++ String.join breaks)
  else return some whitespaces
where
  breaksGo : Nat → List String → ScanM (Option (List String))
    | 0, breaks => pure (some breaks)
    | fuel + 1, breaks => do
      let ch ← peekChar
      if ch == ' ' || isBreakChar ch then
        if (← peekChar) == ' ' then
          advance 1
          breaksGo fuel breaks
        else
          let br ← scanLineBreak
          if ← atDocumentMarker then return none
          breaksGo fuel (breaks ++ [br])
      else pure (some breaks)

/-- The length of the piece of a plain scalar that starts here: it ends at a blank, at `:`
before a blank, and in flow context at `,`, `?` and brackets and at `:` before those. -/
def plainPieceLength (flow : Bool) : ScanM Nat := do
  go ((← get).remaining + 1) 0
where
  go : Nat → Nat → ScanM Nat
    | 0, n => pure n
    | fuel + 1, n => do
      let ch ← peekChar n
      if isBlankOrEnd ch then return n
      if ch == ':' then
        let next ← peekChar (n + 1)
        if isBlankOrEnd next || (flow && ",[]\x7b\x7d".toList.contains next) then return n
      if flow && ",?[]\x7b\x7d".toList.contains ch then return n
      go fuel (n + 1)

/-- A plain scalar. In flow context it also ends at `,`, `?` and brackets, and at `:`
before those; in block context it ends at a line indented less than the block. -/
def scanPlain : ScanM Token := step do
  let startMark ← currentMark
  let indent : Int := (← get).indent + 1
  let (chunks, endMark) ← go indent ((← get).remaining + 1) "" "" startMark
  construct
  return ⟨.scalar chunks true none, startMark, endMark⟩
where
  go (indent : Int) : Nat → String → String → Mark → ScanM (String × Mark)
    | 0, chunks, _, endMark => pure (chunks, endMark)
    | fuel + 1, chunks, spaces, endMark => do
      if (← peekChar) == '#' then return (chunks, endMark)
      let n ← plainPieceLength ((← get).flowLevel != 0)
      if n == 0 then return (chunks, endMark)
      setAllowSimpleKey false
      let chunks := chunks ++ spaces ++ (← prefixOf n)
      advance n
      let endMark ← currentMark
      match ← scanPlainSpaces with
      | none => return (chunks, endMark)
      | some spaces =>
        if spaces.isEmpty then return (chunks, endMark)
        if (← peekChar) == '#' then return (chunks, endMark)
        let s ← get
        if s.flowLevel == 0 && (s.column : Int) < indent then return (chunks, endMark)
        go indent fuel chunks spaces endMark

/-! ## Fetching tokens -/

/-- The end of the stream. -/
def fetchStreamEnd : ScanM Unit := step do
  unwindIndent (-1)
  removePossibleSimpleKey
  modify fun s => { s with allowSimpleKey := false, possibleSimpleKeys := [] }
  let m ← currentMark
  emit .streamEnd m m
  modify fun s => { s with done := true }

/-- A directive. -/
def fetchDirective : ScanM Unit := step do
  unwindIndent (-1)
  removePossibleSimpleKey
  setAllowSimpleKey false
  appendToken (← scanDirective)

/-- A document start (`---`) or end (`...`) marker. -/
def fetchDocumentIndicator (kind : TokenKind) : ScanM Unit := step do
  unwindIndent (-1)
  removePossibleSimpleKey
  setAllowSimpleKey false
  let startMark ← currentMark
  advance 3
  let endMark ← currentMark
  emit kind startMark endMark

/-- The opening bracket of a flow collection. -/
def fetchFlowCollectionStart (kind : TokenKind) : ScanM Unit := step do
  savePossibleSimpleKey
  modify fun s => { s with flowLevel := s.flowLevel + 1, allowSimpleKey := true }
  let startMark ← currentMark
  advance 1
  let endMark ← currentMark
  emit kind startMark endMark

/-- The closing bracket of a flow collection. -/
def fetchFlowCollectionEnd (kind : TokenKind) : ScanM Unit := step do
  removePossibleSimpleKey
  modify fun s => { s with flowLevel := s.flowLevel - 1, allowSimpleKey := false }
  let startMark ← currentMark
  advance 1
  let endMark ← currentMark
  emit kind startMark endMark

/-- A `,` between flow entries. -/
def fetchFlowEntry : ScanM Unit := step do
  setAllowSimpleKey true
  removePossibleSimpleKey
  let startMark ← currentMark
  advance 1
  let endMark ← currentMark
  emit .flowEntry startMark endMark

/-- A `-` of a block sequence entry. -/
def fetchBlockEntry : ScanM Unit := step do
  if (← get).flowLevel == 0 then
    if !(← get).allowSimpleKey then
      scanError none none "sequence entries are not allowed here"
    if ← addIndent (← get).column then
      let m ← currentMark
      emit .blockSequenceStart m m
  setAllowSimpleKey true
  removePossibleSimpleKey
  let startMark ← currentMark
  advance 1
  let endMark ← currentMark
  emit .blockEntry startMark endMark

/-- A `?` of an explicit key. -/
def fetchKey : ScanM Unit := step do
  if (← get).flowLevel == 0 then
    if !(← get).allowSimpleKey then
      scanError none none "mapping keys are not allowed here"
    if ← addIndent (← get).column then
      let m ← currentMark
      emit .blockMappingStart m m
  setAllowSimpleKey ((← get).flowLevel == 0)
  removePossibleSimpleKey
  let startMark ← currentMark
  advance 1
  let endMark ← currentMark
  emit .key startMark endMark

/-- A `:` of a value; the possible simple key before it becomes a key. -/
def fetchValue : ScanM Unit := step do
  let s ← get
  match s.possibleSimpleKeys.lookup s.flowLevel with
  | some key =>
    modify (·.dropKey)
    let place := key.tokenNumber - s.tokensTaken
    construct
    insertToken place ⟨.key, key.mark, key.mark⟩
    if s.flowLevel == 0 then
      if ← addIndent key.column then
        construct
        insertToken place ⟨.blockMappingStart, key.mark, key.mark⟩
    setAllowSimpleKey false
  | none =>
    if s.flowLevel == 0 then
      if !s.allowSimpleKey then
        scanError none none "mapping values are not allowed here"
      if ← addIndent s.column then
        let m ← currentMark
        emit .blockMappingStart m m
    setAllowSimpleKey (s.flowLevel == 0)
    removePossibleSimpleKey
  let startMark ← currentMark
  advance 1
  let endMark ← currentMark
  emit .value startMark endMark

/-- A token that may start a simple key and ends further simple keys on its line. -/
def fetchKeyCandidate (scan : ScanM Token) : ScanM Unit := step do
  savePossibleSimpleKey
  setAllowSimpleKey false
  appendToken (← scan)

/-- A block scalar. -/
def fetchBlockScalar (style : Char) : ScanM Unit := step do
  setAllowSimpleKey true
  removePossibleSimpleKey
  appendToken (← scanBlockScalar style)

/-- Whether a `%` starts a directive: only at the start of a line. -/
def checkDirective : ScanM Bool := step do
  return (← get).column == 0

/-- Whether a document marker (`---` or `...`) starts here. -/
def checkDocumentMarker (marker : String) : ScanM Bool := step do
  if (← get).column != 0 then return false
  if (← prefixOf 3) != marker then return false
  return isBlankOrEnd (← peekChar 3)

/-- Whether a blank or the end follows the indicator here: a `-` entry, or a `?` or `:`
in block context (in flow context they need nothing after them). -/
def checkIndicator (anyInFlow : Bool) : ScanM Bool := step do
  if anyInFlow && (← get).flowLevel != 0 then return true
  return isBlankOrEnd (← peekChar 1)

/-- Whether a plain scalar starts here. -/
def checkPlain : ScanM Bool := step do
  let ch ← peekChar
  if !(isBlankOrEnd ch || "-?:,[]\x7b\x7d#&*!|>'\"%@".toList.contains ch || ch == '\x60') then
    return true
  let next ← peekChar 1
  return !isBlankOrEnd next && (ch == '-' || ((← get).flowLevel == 0 && (ch == '?' || ch == ':')))

/-- Scan the next token or tokens. -/
def fetchMoreTokens : ScanM Unit := step do
  scanToNextToken
  staleSimpleKeys
  unwindIndent ((← get).column : Int)
  let ch ← peekChar
  let flow := (← get).flowLevel != 0
  if ch == '\x00' then return ← fetchStreamEnd
  if ch == '%' then
    if ← checkDirective then return ← fetchDirective
  if ch == '-' then
    if ← checkDocumentMarker "---" then
      return ← step (fetchDocumentIndicator .documentStart)
  if ch == '.' then
    if ← checkDocumentMarker "..." then
      return ← step (fetchDocumentIndicator .documentEnd)
  if ch == '[' then return ← step (fetchFlowCollectionStart .flowSequenceStart)
  if ch == '\x7b' then return ← step (fetchFlowCollectionStart .flowMappingStart)
  if ch == ']' then return ← step (fetchFlowCollectionEnd .flowSequenceEnd)
  if ch == '\x7d' then return ← step (fetchFlowCollectionEnd .flowMappingEnd)
  if ch == ',' then return ← fetchFlowEntry
  if ch == '-' then
    if ← checkIndicator false then return ← fetchBlockEntry
  if ch == '?' then
    if ← checkIndicator true then return ← fetchKey
  if ch == ':' then
    if ← checkIndicator true then return ← fetchValue
  if ch == '*' then return ← fetchKeyCandidate (scanAnchor true)
  if ch == '&' then return ← fetchKeyCandidate (scanAnchor false)
  if ch == '!' then return ← fetchKeyCandidate scanTag
  if ch == '|' && !flow then return ← step (fetchBlockScalar '|')
  if ch == '>' && !flow then return ← step (fetchBlockScalar '>')
  if ch == '\'' then return ← step (fetchKeyCandidate (scanFlowScalar '\''))
  if ch == '"' then return ← step (fetchKeyCandidate (scanFlowScalar '"'))
  if ← checkPlain then return ← fetchKeyCandidate scanPlain
  scanError (some "while scanning for the next token") none
    ("found character " ++ quotedChar ch ++ " that cannot start any token")

/-- Whether more tokens must be scanned before the next one can be handed out: none is
queued, or the first queued one may still get a key inserted before it. -/
def needMoreTokens : ScanM Bool := step do
  let s ← get
  if s.done then return false
  if s.tokens.isEmpty then return true
  staleSimpleKeys
  let earliest ← nextPossibleSimpleKey
  return earliest == some (← get).tokensTaken

/-- Scan until the next token can be handed out. Every round reads at least one character
or ends the stream, so the rounds are bounded by the characters left. -/
def ensureTokens : ScanM Unit := do
  go ((← get).remaining + 2)
where
  go : Nat → ScanM Unit
    | 0 => pure ()
    | fuel + 1 => do
      if ← needMoreTokens then
        fetchMoreTokens
        go fuel

/-- The next token, left in place (a step). -/
def peekToken : ScanM (Option Token) := step do
  ensureTokens
  return (← get).tokens.head?

/-- Take the next token (a step). -/
def takeToken : ScanM (Option Token) := step do
  ensureTokens
  let s ← get
  match s.tokens with
  | t :: rest =>
    set { s with tokens := rest, tokensTaken := s.tokensTaken + 1 }
    return some t
  | [] => return none

/-- Whether the next token is of one of the kinds (a step). -/
def checkToken (kinds : List TokenTag) : ScanM Bool := step do
  ensureTokens
  match (← get).tokens.head? with
  | some t => return t.isOneOf kinds
  | none => return false

end CodingAgent.Yaml
