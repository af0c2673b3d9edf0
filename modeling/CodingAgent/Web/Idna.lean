import CodingAgent.Web.Punycode
import CodingAgent.Web.IdnaTable
import CodingAgent.Text.Normal
import CodingAgent.Text.Bidi
import CodingAgent.Text.CodePoints
import CodingAgent.Json.Display

/-!
# Internationalized domain names

A host name beyond ASCII is written in ASCII label by label (IDNA 2008): a label that is
already ASCII is checked as an A-label (`xn--` and Punycode) or as a plain label, and any
other label is checked and written as `xn--` and its Punycode. Reading a host back decodes
every `xn--` label and checks what it stands for.

The checks on a label, in order: its length; normalization form C; no hyphen at either end
nor in both the third and fourth places; no mark first; every code point valid, a joiner or
a contextual code point only where its rule allows it; and, in a label with right-to-left
characters, the bidirectional rules of RFC 5893.

Labels are separated by full stops: `.`, and also the ideographic and full-width ones.
-/

namespace CodingAgent.Web

open CodingAgent.Text

/-- Why a host name cannot be written in ASCII or read back. -/
inductive IdnaError where
  /-- A label or the text handled is too long. -/
  | labelTooLong
  /-- An empty label. -/
  | emptyLabel
  /-- A label not in normalization form C. -/
  | notNormal
  /-- Hyphens in the third and fourth places. -/
  | hyphensInside
  /-- A hyphen at the start or end. -/
  | hyphenAtEnd
  /-- A mark first. -/
  | markFirst
  /-- A joiner outside its context, at a place (from 1) of a label. -/
  | joiner (code place : Nat) (label : List Nat)
  /-- A contextual code point outside its context. -/
  | outOfContext (code place : Nat) (label : List Nat)
  /-- A code point that no label may hold. -/
  | disallowed (code place : Nat) (label : List Nat)
  /-- A code point without a bidirectional class. -/
  | unknownDirection (label : List Nat) (place : Nat)
  /-- A label with right-to-left characters whose first is not strong. -/
  | weakFirst (label : List Nat)
  /-- A code point whose direction the label's direction does not allow. -/
  | wrongDirection (place : Nat) (rightToLeft : Bool)
  /-- Arabic and European digits in one right-to-left label. -/
  | mixedDigits
  /-- A label ending in a code point of the wrong direction. -/
  | wrongEnding
  /-- An `xn--` label with nothing after the prefix. -/
  | emptyEncoding
  /-- An `xn--` label ending in a hyphen. -/
  | encodingHyphen
  /-- An `xn--` label whose rest is no Punycode. -/
  | badEncoding
  /-- A domain that is too long. -/
  | domainTooLong
  /-- An empty domain. -/
  | emptyDomain

/-- The class of the error, as errors are reported. -/
def IdnaError.className : IdnaError → String
  | .disallowed .. => "InvalidCodepoint"
  | .outOfContext .. => "InvalidCodepointContext"
  | .unknownDirection .. | .weakFirst _ | .wrongDirection .. | .mixedDigits | .wrongEnding =>
    "IDNABidiError"
  | _ => "IDNAError"

/-- A code point as `U+` and at least four upper-case hex digits. -/
def codeName (n : Nat) : String :=
  "U+" ++ (CodingAgent.Json.hexPadded 4 n).toUpper

/-- A label, quoted. -/
def quotedLabel (label : List Nat) : String :=
  CodingAgent.Json.quoted (ofCodePoints label)

/-- The message of the error. -/
def IdnaError.message : IdnaError → String
  | .labelTooLong => "Label too long"
  | .emptyLabel => "Empty Label"
  | .notNormal => "Label must be in Normalization Form C"
  | .hyphensInside => "Label has disallowed hyphens in 3rd and 4th position"
  | .hyphenAtEnd => "Label must not start or end with a hyphen"
  | .markFirst => "Label begins with an illegal combining character"
  | .joiner code place label =>
    "Unknown codepoint adjacent to joiner " ++ codeName code ++ " at position " ++
      toString place ++ " in " ++ quotedLabel label
  | .outOfContext code place label =>
    "Codepoint " ++ codeName code ++ " not allowed at position " ++ toString place ++ " in " ++
      quotedLabel label
  | .disallowed code place label =>
    "Codepoint " ++ codeName code ++ " at position " ++ toString place ++ " of " ++
      quotedLabel label ++ " not allowed"
  | .unknownDirection label place =>
    "Unknown directionality in label " ++ quotedLabel label ++ " at position " ++ toString place
  | .weakFirst label =>
    "First codepoint in label " ++ quotedLabel label ++ " must be directionality L, R or AL"
  | .wrongDirection place rtl =>
    "Invalid direction for codepoint at position " ++ toString place ++ " in a " ++
      (if rtl then "right-to-left" else "left-to-right") ++ " label"
  | .mixedDigits => "Can not mix numeral types in a right-to-left label"
  | .wrongEnding => "Label ends with illegal codepoint directionality"
  | .emptyEncoding => "Malformed A-label, no Punycode eligible content found"
  | .encodingHyphen => "A-label must not end with a hyphen"
  | .badEncoding => "Invalid A-label"
  | .domainTooLong => "Domain too long"
  | .emptyDomain => "Empty domain"

/-- The longest text the checks take. -/
def idnaInputLimit : Nat := 1024

/-- The joining type of a code point, looked up in the order causing, dual, left, right,
transparent. -/
def joiningType? (n : Nat) : Option Char :=
  if joiningCRanges.contains n then some 'C'
  else if joiningDRanges.contains n then some 'D'
  else if joiningLRanges.contains n then some 'L'
  else if joiningRRanges.contains n then some 'R'
  else if joiningTRanges.contains n then some 'T'
  else none

/-- Whether the first code point that is not transparent has one of the joining types
`types`. -/
def joinsWith (types : List Char) : List Nat → Bool
  | [] => false
  | n :: rest =>
    match joiningType? n with
    | some 'T' => joinsWith types rest
    | some t => types.contains t
    | none => false

/-- Whether the joiner at `pos` is allowed: after a virama, or (for the zero width
non-joiner) between a code point that joins to the right and one that joins to the left,
transparent ones skipped. A code point before it that the character database does not name
fails the check. -/
def joinerAllowed (label : List Nat) (pos : Nat) : Bool :=
  let code := label.getD pos 0
  let before := if pos > 0 then combiningClass? (label.getD (pos - 1) 0) else some 0
  let joins := joinsWith ['L', 'D'] (label.take pos).reverse &&
    joinsWith ['R', 'D'] (label.drop (pos + 1))
  if code == 0x200C then
    match before with
    | none => false
    | some 9 => true
    | some _ => joins
  else if code == 0x200D then pos > 0 && before == some 9
  else false

/-- Whether the contextual code point at `pos` is allowed: the middle dot between two `l`,
the Greek numeral sign before Greek, the Hebrew punctuation after Hebrew, the katakana
middle dot with some Hiragana, Katakana or Han, and Arabic-Indic digits of one kind only. -/
def contextAllowed (label : List Nat) (pos : Nat) : Bool :=
  let code := label.getD pos 0
  let len := label.length
  if code == 0xB7 then
    0 < pos && pos + 1 < len && label.getD (pos - 1) 0 == 0x6C && label.getD (pos + 1) 0 == 0x6C
  else if code == 0x375 then
    pos + 1 < len && len > 1 && scriptGreekRanges.contains (label.getD (pos + 1) 0)
  else if code == 0x5F3 || code == 0x5F4 then
    pos > 0 && scriptHebrewRanges.contains (label.getD (pos - 1) 0)
  else if code == 0x30FB then
    label.any (fun n => n != 0x30FB && (scriptHiraganaRanges.contains n ||
      scriptKatakanaRanges.contains n || scriptHanRanges.contains n))
  else if 0x660 ≤ code && code ≤ 0x669 then !label.any (fun n => 0x6F0 ≤ n && n ≤ 0x6F9)
  else if 0x6F0 ≤ code && code ≤ 0x6F9 then !label.any (fun n => 0x660 ≤ n && n ≤ 0x669)
  else false

/-- Check every code point of a label, from place `pos`. -/
def checkCodes (label : List Nat) : Nat → List Nat → Except IdnaError Unit
  | _, [] => .ok ()
  | pos, n :: rest => do
    if validRanges.contains n then pure ()
    else if joinerRanges.contains n then
      unless joinerAllowed label pos do throw (.joiner n (pos + 1) label)
    else if contextualRanges.contains n then
      unless contextAllowed label pos do throw (.outOfContext n (pos + 1) label)
    else throw (.disallowed n (pos + 1) label)
    checkCodes label (pos + 1) rest

/-- The bidirectional classes allowed in a right-to-left label. -/
def rightToLeftAllowed : List BidiClass :=
  [.rightToLeft, .arabicLetter, .arabicNumber, .europeanNumber, .europeanSeparator,
    .commonSeparator, .europeanTerminator, .otherNeutral, .boundaryNeutral, .nonspacingMark]

/-- The bidirectional classes allowed in a left-to-right label. -/
def leftToRightAllowed : List BidiClass :=
  [.leftToRight, .europeanNumber, .europeanSeparator, .commonSeparator, .europeanTerminator,
    .otherNeutral, .boundaryNeutral, .nonspacingMark]

/-- The state of the bidirectional check: whether the label ends well so far and the kind
of digits seen. -/
structure BidiScan where
  endsWell : Bool := false
  digits : Option BidiClass := none

/-- Take the class of the code point at `place` of a label of direction `rtl`. -/
def BidiScan.take (rtl : Bool) (st : BidiScan) (place : Nat) (d : BidiClass) :
    Except IdnaError BidiScan := do
  if rtl then
    unless rightToLeftAllowed.contains d do throw (.wrongDirection place true)
    let endsWell := if [.rightToLeft, .arabicLetter, .europeanNumber, .arabicNumber].contains d
      then true else if d == .nonspacingMark then st.endsWell else false
    if d == .arabicNumber || d == .europeanNumber then
      match st.digits with
      | none => return { endsWell, digits := some d }
      | some k => if k != d then throw .mixedDigits else return { st with endsWell }
    return { st with endsWell }
  else
    unless leftToRightAllowed.contains d do throw (.wrongDirection place false)
    let endsWell := if d == .leftToRight || d == .europeanNumber then true
      else if d == .nonspacingMark then st.endsWell else false
    return { st with endsWell }

/-- The bidirectional rules, applied to a label with a right-to-left character: it starts
with a strong character, holds only the classes its direction allows, ends well, and a
right-to-left one holds digits of one kind. -/
def checkBidi (label : List Nat) : Except IdnaError Unit := do
  let classes ← (label.zipIdx 1).mapM (fun (n, place) =>
    match bidiClass? n with
    | some d => .ok d
    | none => .error (.unknownDirection label place))
  unless classes.any (fun d => d == .rightToLeft || d == .arabicLetter || d == .arabicNumber) do
    return ()
  let rtl : Bool ← match classes.head? with
    | some BidiClass.rightToLeft | some BidiClass.arabicLetter => pure true
    | some BidiClass.leftToRight => pure false
    | _ => throw (IdnaError.weakFirst label)
  let st ← (classes.zipIdx 1).foldlM
    (fun (st : BidiScan) (d, place) => st.take rtl place d) ({} : BidiScan)
  unless st.endsWell do throw IdnaError.wrongEnding

/-- All checks on a label. -/
def checkLabel (label : List Nat) : Except IdnaError Unit := do
  if label.length > idnaInputLimit then throw .labelTooLong
  if label.isEmpty then throw .emptyLabel
  if label.length > 254 then throw .labelTooLong
  unless isNormalC label do throw .notNormal
  if (label.drop 2).take 2 == [0x2D, 0x2D] then throw .hyphensInside
  if label.head? == some 0x2D || label.getLast? == some 0x2D then throw .hyphenAtEnd
  if isMarkCode (label.headD 0) then throw .markFirst
  checkCodes label 0 label
  checkBidi label

/-- ASCII letters in lower case. -/
def asciiLower (label : List Nat) : List Nat :=
  label.map (fun n => if 0x41 ≤ n && n ≤ 0x5A then n + 0x20 else n)

/-- The prefix of labels written in Punycode. -/
def encodedPrefix : List Nat := [0x78, 0x6E, 0x2D, 0x2D]

/-- Read an ASCII label back: an `xn--` label is decoded and checked, any other is checked
as it is, both in lower case. -/
def readAsciiLabel (label : List Nat) : Except IdnaError (List Nat) := do
  if label.length > idnaInputLimit then throw .labelTooLong
  let label := asciiLower label
  if label.take 4 == encodedPrefix then
    let rest := label.drop 4
    if rest.isEmpty then throw .emptyEncoding
    if rest.getLast? == some 0x2D then throw .encodingHyphen
    match punyDecode rest with
    | none => throw .badEncoding
    | some decoded => checkLabel decoded; return decoded
  else
    checkLabel label
    return label

/-- Write a label in ASCII: an ASCII label is read back as a check and kept, any other is
checked and written as `xn--` and its Punycode; the result has at most 63 characters. -/
def writeLabel (label : List Nat) : Except IdnaError (List Nat) := do
  if label.length > idnaInputLimit then throw .labelTooLong
  let written ← if label.all (· < 0x80) then do
      let _ ← readAsciiLabel label
      pure label
    else do
      checkLabel label
      pure (encodedPrefix ++ (punycode label).toList.map Char.toNat)
  if written.length > 63 then throw .labelTooLong
  return written

/-- Whether a code point separates labels. -/
def isFullStop (n : Nat) : Bool :=
  n == 0x2E || n == 0x3002 || n == 0xFF0E || n == 0xFF61

/-- The pieces of a text between full stops, empty pieces kept. -/
def splitFullStops (ns : List Nat) : List (List Nat) :=
  ns.foldr (fun n acc => if isFullStop n then [] :: acc else
    match acc with
    | first :: rest => (n :: first) :: rest
    | [] => [[n]]) [[]]

/-- The labels of a domain, and whether it ends with a full stop; the domain must have
one label at least. -/
def domainLabels (domain : List Nat) : Except IdnaError (List (List Nat) × Bool) := do
  if domain.length > idnaInputLimit then throw .domainTooLong
  if domain.length > 254 then throw .domainTooLong
  let labels := splitFullStops domain
  if labels == [[]] then throw .emptyDomain
  if labels.getLast? == some [] then return (labels.dropLast, true)
  return (labels, false)

/-- The ASCII form of a domain: each label written in ASCII, the labels joined by `.`, a
final full stop kept. -/
def idnaEncode (domain : List Nat) : Except IdnaError String := do
  let (labels, trailing) ← domainLabels domain
  let written ← labels.mapM writeLabel
  let text := String.intercalate "." (written.map ofCodePoints) ++ (if trailing then "." else "")
  if text.length > (if trailing then 254 else 253) then throw .domainTooLong
  return text

/-- The domain an ASCII domain stands for: each label read back. -/
def idnaDecode (domain : List Nat) : Except IdnaError String := do
  let (labels, trailing) ← domainLabels domain
  let read ← labels.mapM readAsciiLabel
  return String.intercalate "." (read.map ofCodePoints) ++ (if trailing then "." else "")

end CodingAgent.Web
