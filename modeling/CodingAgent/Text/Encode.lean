import CodingAgent.Text.CodePoints
import CodingAgent.Text.Utf8

/-!
# Code points an encoding refuses

ASCII holds only the code points below 128, and UTF-8 every code point but the surrogates.
An encoder that meets code points it cannot write stops at the first run of them and
reports the run: its place in code points and, for a run of one, the code point itself,
written `\xhh`, `\uhhhh` or `\Uhhhhhhhh` by size.

File names are written in UTF-8 too, except that a surrogate from `0xDC80` to `0xDCFF`
stands for the single byte it escapes (its low eight bits), so that any byte string read
back as a name can be written again. Within a run of surrogates the escaping ones at its
front are written; the run is refused from its first other surrogate to its end.
-/

namespace CodingAgent.Text

/-- `width` lower-case hex digits of `n`. -/
def lowerHex (width n : Nat) : String :=
  let ds := Nat.toDigits 16 n
  String.ofList (List.replicate (width - ds.length) '0' ++ ds)

/-- The escape of a code point in an encoder's message. -/
def encodeEscape (n : Nat) : String :=
  if n < 0x100 then "\\x" ++ lowerHex 2 n
  else if n < 0x10000 then "\\u" ++ lowerHex 4 n
  else "\\U" ++ lowerHex 8 n

/-- The first run of code points that `refused` holds for: its place, and its code points. -/
def refusedRun? (refused : Nat → Bool) (s : String) : Option (Nat × List Nat) :=
  let ns := codePoints s.toList
  let start := (ns.takeWhile (fun n => !refused n)).length
  match (ns.drop start).takeWhile refused with
  | [] => none
  | run => some (start, run)

/-- The message of an encoder named `codec` that refuses the run `run` at `start`, for the
reason given. -/
def refusalMessage (codec reason : String) (start : Nat) (run : List Nat) : String :=
  match run with
  | [n] => "'" ++ codec ++ "' codec can't encode character '" ++ encodeEscape n ++
      "' in position " ++ toString start ++ ": " ++ reason
  | _ => "'" ++ codec ++ "' codec can't encode characters in position " ++ toString start ++
      "-" ++ toString (start + run.length - 1) ++ ": " ++ reason

/-- Why a text cannot be written in ASCII, if it cannot. -/
def asciiFault? (s : String) : Option String :=
  (refusedRun? (· ≥ 128) s).map (fun (start, run) =>
    refusalMessage "ascii" "ordinal not in range(128)" start run)

/-- Why a text cannot be written in UTF-8, if it cannot: it holds a lone surrogate. -/
def utf8Fault? (s : String) : Option String :=
  (refusedRun? isSurrogateCode s).map (fun (start, run) =>
    refusalMessage "utf-8" "surrogates not allowed" start run)

/-- Whether a surrogate escapes a byte in a file name (`0xDC80` to `0xDCFF`). -/
def isEscapedByte (n : Nat) : Bool :=
  0xDC80 ≤ n && n ≤ 0xDCFF

/-- The maximal runs of surrogates among code points from place `i`, with their places;
`cur` is the run being read, reversed. -/
def surrogateRuns : List Nat → Nat → List Nat → List (Nat × List Nat)
  | [], i, cur => if cur.isEmpty then [] else [(i - cur.length, cur.reverse)]
  | n :: rest, i, cur =>
    if isSurrogateCode n then surrogateRuns rest (i + 1) (n :: cur)
    else (if cur.isEmpty then [] else [(i - cur.length, cur.reverse)]) ++
      surrogateRuns rest (i + 1) []

/-- The first run of code points that a file name cannot hold: the part of the first run of
surrogates that follows its escaping front, when that part is not empty. -/
def nameRefusedRun? (s : String) : Option (Nat × List Nat) :=
  (surrogateRuns (codePoints s.toList) 0 []).findSome? (fun (start, run) =>
    let escaped := (run.takeWhile isEscapedByte).length
    if escaped < run.length then some (start + escaped, run.drop escaped) else none)

/-- The bytes of a file name: UTF-8, with the escaping surrogates written as their bytes. -/
def nameBytes (s : String) : List UInt8 :=
  (codePoints s.toList).flatMap (fun n =>
    if isEscapedByte n then [(n - 0xDC00).toUInt8] else codeBytes n)

end CodingAgent.Text
