/-!
# Base64

Bytes as text in the standard base64 alphabet (RFC 4648 §4), with `=` padding. Decoding
skips characters outside the alphabet and stops at the first `=`; bits left over that do not
fill a byte are dropped.
-/

namespace CodingAgent.Text

/-- The base64 alphabet. -/
def base64Alphabet : List Char :=
  "ABCDEFGHIJKLMNOPQRSTUVWXYZabcdefghijklmnopqrstuvwxyz0123456789+/".toList

/-- The character of a six-bit value. -/
def base64Char (n : Nat) : Char :=
  base64Alphabet.getD n 'A'

/-- Encode groups of up to three bytes. -/
def base64Groups : List UInt8 → List Char
  | a :: b :: c :: rest =>
    let n := a.toNat * 65536 + b.toNat * 256 + c.toNat
    base64Char (n / 262144) :: base64Char (n / 4096 % 64) :: base64Char (n / 64 % 64) ::
      base64Char (n % 64) :: base64Groups rest
  | [a, b] =>
    let n := a.toNat * 65536 + b.toNat * 256
    [base64Char (n / 262144), base64Char (n / 4096 % 64), base64Char (n / 64 % 64), '=']
  | [a] =>
    let n := a.toNat * 65536
    [base64Char (n / 262144), base64Char (n / 4096 % 64), '=', '=']
  | [] => []

/-- Bytes as base64 text. -/
def base64Encode (bytes : List UInt8) : String :=
  String.ofList (base64Groups bytes)

/-- The six-bit value of a base64 character. -/
def base64Value (c : Char) : Option Nat :=
  base64Alphabet.idxOf? c

/-- The bytes of base64 text. -/
def base64Decode (s : String) : List UInt8 :=
  let values := (s.toList.takeWhile (· != '=')).filterMap base64Value
  let (bytes, _, _) := values.foldl (fun (acc : List UInt8 × Nat × Nat) v =>
    let (out, buffer, bits) := acc
    let buffer := buffer * 64 + v
    let bits := bits + 6
    if bits ≥ 8 then
      (UInt8.ofNat (buffer / Nat.pow 2 (bits - 8)) :: out, buffer % Nat.pow 2 (bits - 8), bits - 8)
    else (out, buffer, bits)) ([], 0, 0)
  bytes.reverse

end CodingAgent.Text
