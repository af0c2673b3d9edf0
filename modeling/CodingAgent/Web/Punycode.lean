/-!
# Punycode

Punycode (RFC 3492) writes a label of any code points with the letters, digits and hyphen
of ASCII: the ASCII code points first, then a hyphen when there were any, then the other
code points as a sequence of variable-length numbers, each the distance (in insertions) to
the next code point to insert, the code points taken in increasing order. The digits of a
number are `a` to `z` for 0 to 25 and `0` to `9` for 26 to 35; the threshold that ends a
number adapts to the numbers written so far.

Decoding reads the numbers back and inserts each code point at its place; it fails when the
digits end inside a number, when a character is no digit, or when a code point would pass
`U+10FFFF`. The code points before the last hyphen are taken as they are.

Every loop is bounded: the digits of a number by the number itself, the scaling of the bias
by the distance it scales, the insertions by the distinct code points of the label, and the
decoding by the digits left, of which every number reads one at least.
-/

namespace CodingAgent.Web

/-- The character of a digit: `a` to `z` for 0 to 25, `0` to `9` for 26 to 35. -/
def punyDigit (d : Nat) : Char :=
  if d < 26 then Char.ofNat (0x61 + d) else Char.ofNat (0x30 + d - 26)

/-- The threshold of the digit at weight position `k` under `bias`: between 1 and 26. -/
def punyThreshold (k bias : Nat) : Nat :=
  if k ≤ bias then 1 else if bias + 26 ≤ k then 26 else k - bias

/-- The digits of the number `q`, from weight position `k`; `fuel` bounds the digits. -/
def punyNumber (bias : Nat) : Nat → Nat → Nat → List Char
  | 0, _, q => [punyDigit (q % 36)]
  | fuel + 1, k, q =>
    let t := punyThreshold k bias
    if q < t then [punyDigit q]
    else punyDigit (t + (q - t) % (36 - t)) :: punyNumber bias fuel (k + 36) ((q - t) / (36 - t))

/-- Scale a distance down by 35 until it is at most 455, counting the steps in `k`. -/
def punyScale : Nat → Nat → Nat → Nat × Nat
  | 0, delta, k => (delta, k)
  | fuel + 1, delta, k => if 455 < delta then punyScale fuel (delta / 35) (k + 36) else (delta, k)

/-- The bias after a number `delta` was written, with `points` code points placed so far. -/
def punyAdapt (delta points : Nat) (first : Bool) : Nat :=
  let d := if first then delta / 700 else delta / 2
  let d := d + d / points
  let (d, k) := punyScale (d + 1) d 0
  k + 36 * d / (d + 38)

/-- The state of an encoding: the digits so far, the distance, the bias and the number of
code points placed. -/
structure PunyState where
  out : List Char
  delta : Nat
  bias : Nat
  placed : Nat

/-- Pass one code point of the label while inserting the code point `m`; `basics` is the
number of ASCII code points. -/
def punyPass (basics m : Nat) (st : PunyState) (c : Nat) : PunyState :=
  if c < m then { st with delta := st.delta + 1 }
  else if c == m then
    { out := st.out ++ punyNumber st.bias (st.delta + 1) 36 st.delta, delta := 0,
      bias := punyAdapt st.delta (st.placed + 1) (st.placed == basics),
      placed := st.placed + 1 }
  else st

/-- Insert the code points `ms` (increasing, distinct), the last one inserted being `n`. -/
def punyInsert (label : List Nat) (basics : Nat) : List Nat → Nat → PunyState → PunyState
  | [], _, st => st
  | m :: rest, n, st =>
    let st := { st with delta := st.delta + (m - n) * (st.placed + 1) }
    let st := label.foldl (punyPass basics m) st
    punyInsert label basics rest (m + 1) { st with delta := st.delta + 1 }

/-- The distinct members of a list of numbers, in increasing order. -/
def increasingDistinct (ns : List Nat) : List Nat :=
  (ns.mergeSort (· ≤ ·)).eraseDups

/-- The Punycode of a label given as code points (without the `xn--` prefix). -/
def punycode (label : List Nat) : String :=
  let basic := label.filter (· < 0x80)
  let others := increasingDistinct (label.filter (0x80 ≤ ·))
  let st := punyInsert label basic.length others 128
    { out := [], delta := 0, bias := 72, placed := basic.length }
  String.ofList (basic.map Char.ofNat ++ (if basic.isEmpty then [] else ['-']) ++ st.out)

/-- The value of a digit, in either case. -/
def punyDigitValue (c : Nat) : Option Nat :=
  if 0x41 ≤ c && c ≤ 0x5A then some (c - 0x41)
  else if 0x61 ≤ c && c ≤ 0x7A then some (c - 0x61)
  else if 0x30 ≤ c && c ≤ 0x39 then some (c - 0x30 + 26)
  else none

/-- Read one number from weight position `k`, the digits so far weighing `w` and giving
`acc`: the number and the digits after it, or none when the digits end first or a character
is no digit. -/
def punyReadNumber (bias : Nat) : List Nat → Nat → Nat → Nat → Option (Nat × List Nat)
  | [], _, _, _ => none
  | c :: rest, k, w, acc =>
    match punyDigitValue c with
    | none => none
    | some d =>
      if d < punyThreshold k bias then some (acc + d * w, rest)
      else punyReadNumber bias rest (k + 36) (w * (36 - punyThreshold k bias)) (acc + d * w)

/-- Reading a number reads one digit at least. -/
theorem punyReadNumber_length (bias : Nat) :
    ∀ (l : List Nat) (k w acc : Nat) (r : Nat × List Nat),
      punyReadNumber bias l k w acc = some r → r.2.length < l.length
  | [], _, _, _, _, h => by simp [punyReadNumber] at h
  | c :: rest, k, w, acc, r, h => by
    rw [punyReadNumber] at h
    split at h
    · simp at h
    · split at h
      · rw [← Option.some.inj h]; simp
      · have := punyReadNumber_length bias rest (k + 36) _ _ r h
        simp; omega

/-- Insert the code points that the digits stand for into `out`: `n` is the last code point
inserted, `i` the place after the last insertion, and `first` tells whether no number was
read yet. -/
def punyDecodeFrom (out : List Nat) (n i bias : Nat) (first : Bool) :
    List Nat → Option (List Nat)
  | [] => some out
  | c :: rest =>
    match h : punyReadNumber bias (c :: rest) 36 1 0 with
    | none => none
    | some (delta, more) =>
      have : more.length ≤ rest.length := by
        have := punyReadNumber_length bias _ _ _ _ _ h
        simp only [List.length_cons] at this
        omega
      let pos := i + delta
      let size := out.length + 1
      let code := n + pos / size
      if code > 0x10FFFF then none
      else
        let place := pos % size
        let out := out.insertIdx place code
        punyDecodeFrom out code (place + 1) (punyAdapt delta out.length first) false more
termination_by digits => digits.length

/-- The code points of a label written in Punycode (without the `xn--` prefix), or none when
the text is no Punycode. -/
def punyDecode (text : List Nat) : Option (List Nat) :=
  match text.reverse.findIdx? (· == 0x2D) with
  | none => punyDecodeFrom [] 128 0 72 true text
  | some k =>
    let cut := text.length - 1 - k
    punyDecodeFrom (text.take cut) 128 0 72 true (text.drop (cut + 1))

end CodingAgent.Web
