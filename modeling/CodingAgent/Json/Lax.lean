import CodingAgent.Json.Value
import CodingAgent.Decimal.Literal
import CodingAgent.Text.Blank
import CodingAgent.Text.CodePoints

/-!
# Lax reading of typed fields

Settings and tool results are given as JSON values and read leniently into typed fields.
The rules:

* an integer field takes an integer, a boolean (as 0 or 1), a whole double strictly
  between `-2^63` and `2^63`, or text that is an integer after trimming white space
  (`readLaxInt?`): a JSON integer of at most 4300 digits, or, read leniently, ASCII
  digits with an optional sign, leading zeros and underscores, separating underscores,
  optionally followed by a point and one or more zeros;
* a real field takes any number or boolean, or text that is a decimal literal after
  trimming (or, untrimmed, one whose underscores all go away, none doubled or at an end);
* a text field takes text only;
* a flag takes a boolean, the numbers 0 and 1, or one of the words `0`, `1`, `f`, `t`, `n`,
  `y`, `no`, `yes`, `off`, `on`, `false`, `true` in any ASCII letter case; a number that
  is not a whole number in the 64-bit range is not even of the type of a flag;
* a list field takes a list, and reads each item;
* a choice takes one of its words;
* text that holds a lone surrogate fits no field but a text field (`string_unicode`).

A value that does not fit gives an `Issue`: the path of keys to it and the name of the rule
it broke (`int_parsing`, `int_parsing_size`, `int_type`, `int_from_float`, `finite_number`,
`float_parsing`, `float_type`, `string_type`, `string_unicode`, `bool_parsing`, `bool_type`,
`list_type`, `literal_error`).
-/

namespace CodingAgent.Json

open CodingAgent.Decimal CodingAgent.Text

/-- A value that did not fit its field: where, the rule it broke, and the value. -/
structure Issue where
  loc : List String
  kind : String
  input : Value

/-- `path.to.key: rule`. -/
def Issue.text (i : Issue) : String :=
  ".".intercalate i.loc ++ ": " ++ i.kind

/-- All issues of a validation, joined by `; `. -/
def issuesText (is : List Issue) : String :=
  "; ".intercalate (is.map Issue.text)

/-- A value read with the issues met on the way; a value that did not fit is replaced by its
default so that reading can go on and report every issue. -/
structure Checked (α : Type) where
  value : α
  issues : List Issue := []

instance : Monad Checked where
  pure a := { value := a }
  bind c f := let d := f c.value; { value := d.value, issues := c.issues ++ d.issues }

/-- Text without its underscores, unless two stand together or one stands at either end. -/
def dropUnderscores? (s : String) : Option String :=
  let cs := s.toList
  if cs.head? == some '_' || cs.getLast? == some '_' ||
      (cs.zip cs.tail).any (fun (a, b) => a == '_' && b == '_') then none
  else some (String.ofList (cs.filter (· != '_')))

/-- Why a text or number is not an integer. -/
inductive IntFault where
  /-- The text does not have the form of an integer. -/
  | parsing
  /-- The text is too long, or the number is out of the 64-bit range. -/
  | size

/-- The longest integer text, in characters, and the most digits an integer may have. -/
def intTextLimit : Nat := 4300

/-- An integer in the strict form of JSON, `-?(0|[1-9][0-9]*)` and nothing after it: its
value, a size fault when the digits run past `intTextLimit` of them (whatever follows them),
or `none` when the text has another form. -/
def readStrictInt? (cs : List Char) : Option (Except IntFault Int) :=
  let (neg, rest) := match cs with
    | '-' :: more => (true, more)
    | more => (false, more)
  match rest with
  | ['0'] => some (.ok 0)
  | d :: _ =>
    if '1' ≤ d && d ≤ '9' then
      let ds := rest.takeWhile isAsciiDigit
      if ds.length > intTextLimit then some (.error .size)
      else if ds.length == rest.length then
        let n : Int := asciiDigitsValue ds
        some (.ok (if neg then -n else n))
      else none
    else none
  | [] => none

/-- The text before a final point that only zeros follow, one at least. -/
def dropZeroFraction (cs : List Char) : List Char :=
  let frac := (cs.reverse.takeWhile (· != '.')).reverse
  if frac.length < cs.length && !frac.isEmpty && frac.all (· == '0') then
    cs.take (cs.length - frac.length - 1)
  else cs

/-- The text without underscores, unless one stands at either end or two stand together. -/
def dropSeparators? (cs : List Char) : Option (List Char) :=
  if cs.head? == some '_' || cs.getLast? == some '_' ||
      (cs.zip cs.tail).any (fun (a, b) => a == '_' && b == '_') then none
  else some (cs.filter (· != '_'))

/-- The rest of a text after the zeros and underscores that follow its first zero: from the
first other digit or minus on, or `0` when only zeros and underscores are left and the last
of them, `last`, is a zero. Any other character refuses the text. -/
def afterZeros? (last : Char) : List Char → Option (List Char)
  | [] => if last == '0' then some ['0'] else none
  | c :: rest =>
    if c == '0' || c == '_' then afterZeros? c rest
    else if ('1' ≤ c && c ≤ '9') || c == '-' then some (c :: rest)
    else none

/-- The text without the zeros that lead it (`afterZeros?`), when it starts with a digit. -/
def skipLeadingZeros? (cs : List Char) : Option (List Char) :=
  match cs with
  | '0' :: rest => afterZeros? '0' rest
  | d :: _ => if '1' ≤ d && d ≤ '9' then some cs else none
  | [] => none

/-- An integer written as text. Text in the strict form of JSON, as it is given, is read as
such, and refused for its size when its digits run past 4300. Any other text is read
leniently once white space is trimmed: a leading sign goes, then a final point with only
zeros after it, then the zeros and underscores that lead the digits, then the underscores
(none at either end, no two together); what is left, with a minus again in front when the
sign was one, must be an integer in the strict form of JSON, of at most 4300 digits. A minus
met just after the leading zeros is kept, so that `0-5` reads as `-5` but `-0-5` is
refused. -/
def readLaxInt? (raw : String) : Except IntFault Int :=
  match readStrictInt? raw.toList with
  | some r => r
  | none =>
    let cs := (trimWhiteSpace raw).toList
    let (neg, unsigned) := match cs with
      | '+' :: more => (false, more)
      | '-' :: more => (true, more)
      | more => (false, more)
    let cleaned := (skipLeadingZeros? (dropZeroFraction unsigned)).bind dropSeparators?
    match cleaned.bind (fun ds => readStrictInt? (if neg then '-' :: ds else ds)) with
    | some (.ok n) => .ok n
    | _ => .error .parsing

/-- The least integer a 64-bit signed integer cannot hold, `2^63`. -/
def wordBound : Int := 9223372036854775808

/-- The integer a double stands for when it is a whole number strictly between `-2^63` and
`2^63`. -/
def Float.toWord? (x : Float) : Except String Int :=
  match Kind.ofFloat x with
  | .finite b =>
    let t := b.truncate
    if !(b.q ≥ 0 || b.m % Nat.pow 2 (-b.q).toNat == 0) then .error "int_from_float"
    else if -wordBound < t && t < wordBound then .ok t
    else .error "int_parsing_size"
  | _ => .error "finite_number"

/-- Whether a text holds a surrogate, which no field but a text field takes: such text
breaks the rule `string_unicode` before any other. -/
def hasSurrogate (s : String) : Bool :=
  (firstSurrogate? s).isSome

/-- An integer field. -/
def laxInt : Value → Except String Int
  | .int n => .ok n
  | .bool b => .ok (if b then 1 else 0)
  | .num x => Float.toWord? x
  | .str s => if hasSurrogate s then .error "string_unicode" else match readLaxInt? s with
    | .ok n => .ok n
    | .error .parsing => .error "int_parsing"
    | .error .size => .error "int_parsing_size"
  | _ => .error "int_type"

/-- A real field. -/
def laxFloat : Value → Except String Float
  | .num x => .ok x
  | .int n => match ofInt? n with
    | some x => .ok x
    | none => .error "float_type"
  | .bool b => .ok (if b then 1.0 else 0.0)
  | .str s =>
    if hasSurrogate s then .error "string_unicode" else
    match readFloat? (trimWhiteSpace s) with
    | some x => .ok x
    | none => match (dropUnderscores? s).bind readFloat? with
      | some x => .ok x
      | none => .error "float_parsing"
  | _ => .error "float_type"

/-- A text field. -/
def laxText : Value → Except String String
  | .str s => .ok s
  | _ => .error "string_type"

/-- A flag field. -/
def laxFlag : Value → Except String Bool
  | .bool b => .ok b
  | .int 0 => .ok false
  | .int 1 => .ok true
  | .int n =>
    if -wordBound ≤ n && n < wordBound then .error "bool_parsing" else .error "bool_type"
  | .num x => match Float.toWord? x with
    | .ok 0 => .ok false
    | .ok 1 => .ok true
    | .ok _ => .error "bool_parsing"
    | .error _ => .error "bool_type"
  | .str s =>
    if hasSurrogate s then .error "string_unicode" else
    let w := String.ofList (asciiLower s.toList)
    if ["0", "f", "n", "no", "off", "false"].contains w then .ok false
    else if ["1", "t", "y", "yes", "on", "true"].contains w then .ok true
    else .error "bool_parsing"
  | _ => .error "bool_type"

/-- A field that is one of a few words. -/
def laxChoice (words : List String) : Value → Except String String
  | .str s =>
    if hasSurrogate s then .error "string_unicode"
    else if words.contains s then .ok s else .error "literal_error"
  | _ => .error "literal_error"

/-- Read a value at `loc` with a rule, falling back to `default` with an issue. -/
def checkWith (loc : List String) (rule : Value → Except String α) (default : α) (v : Value) :
    Checked α :=
  match rule v with
  | .ok a => { value := a }
  | .error kind => { value := default, issues := [⟨loc, kind, v⟩] }

/-- Read the items of a list field at `loc`, each by the rule. -/
def checkItems (loc : List String) (rule : Value → Except String α) (default : List α) :
    Value → Checked (List α)
  | .arr xs =>
    let read := (xs.zipIdx).map (fun (x, i) => (rule x, i, x))
    let issues := read.filterMap (fun (r, i, x) => match r with
      | .error kind => some ⟨loc ++ [toString i], kind, x⟩
      | .ok _ => none)
    let values := read.filterMap (fun (r, _, _) => match r with
      | .ok a => some a
      | .error _ => none)
    if issues.isEmpty then { value := values } else { value := default, issues := issues }
  | v => { value := default, issues := [⟨loc, "list_type", v⟩] }

/-- The field `key` of an object at `loc`: read when present, else the default. -/
def field (ms : Members) (loc : List String) (key : String)
    (read : List String → α → Value → Checked α) (default : α) : Checked α :=
  match Members.get? ms key with
  | some v => read (loc ++ [key]) default v
  | none => { value := default }

/-- `checkWith` in the argument order `field` expects. -/
def scalar (rule : Value → Except String α) (loc : List String) (default : α) (v : Value) :
    Checked α :=
  checkWith loc rule default v

/-- `checkItems` in the argument order `field` expects. -/
def listOf (rule : Value → Except String α) (loc : List String) (default : List α) (v : Value) :
    Checked (List α) :=
  checkItems loc rule default v

end CodingAgent.Json
