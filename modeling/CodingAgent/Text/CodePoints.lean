/-!
# Text as code points

The texts of this library are sequences of code points, as JSON and YAML escapes and the
decoders of UTF-16 and UTF-32 produce them, and such a sequence may hold a surrogate
(0xD800 to 0xDFFF) that is not part of a pair. A Lean character is never a surrogate, so a
`String` holds code points in this encoding:

* a surrogate `0xD800 + k` is the single character `0x10F800 + k`, its stand-in;
* a code point from `0x10F7FF` up (the mark and the stand-ins themselves) is the mark
  `0x10F7FF` followed by the character of the code point;
* every other code point is its own character.

`codeChars` encodes one code point and `codePoints` reads a text back. The encoding is
injective (`codePoints_codeChars_surrogate` and `codePoints_codeChars_marked` for the two
escaped kinds), so two texts are equal exactly
when their code points are, and `codeLess` orders texts by their code points, as the program
compares text. Text that comes from outside (a line of input) is brought in by `ofExternal`,
which marks the characters that would be taken for stand-ins.

A text holds one character for each code point, except for the 2049 marked ones, which take
two.
-/

namespace CodingAgent.Text

/-- The first stand-in character, for surrogate 0xD800. -/
def standInBase : Nat := 0x10F800

/-- The code of the mark that escapes a code point of the top range. -/
def markCode : Nat := 0x10F7FF

/-- The mark that escapes a code point of the top range. -/
def markChar : Char := Char.ofNat markCode

/-- Whether a code point is a surrogate. -/
def isSurrogateCode (n : Nat) : Bool :=
  0xD800 ≤ n && n ≤ 0xDFFF

/-- Whether a character stands in for a lone surrogate. -/
def isStandIn (c : Char) : Bool :=
  standInBase ≤ c.toNat

/-- The characters that hold a code point: the stand-in of a surrogate, the mark and the
character of a code point of the top range, or the character itself. -/
def codeChars (n : Nat) : List Char :=
  if isSurrogateCode n then [Char.ofNat (standInBase + (n - 0xD800))]
  else if markCode ≤ n then [markChar, Char.ofNat n]
  else [Char.ofNat n]

/-- The characters of a code point put in front of a list kept in reverse. -/
def pushCode (acc : List Char) (n : Nat) : List Char :=
  (codeChars n).reverse ++ acc

/-- The code point one character holds on its own: a stand-in gives its surrogate. -/
def ownCode (c : Char) : Nat :=
  if isStandIn c then 0xD800 + (c.toNat - standInBase) else c.toNat

/-- The code points held by characters. A mark before a character of the top range gives
that character's code point; a mark anywhere else is its own code point. -/
def codePoints : List Char → List Nat
  | [] => []
  | [c] => [ownCode c]
  | c :: d :: more =>
    if c == markChar && markCode ≤ d.toNat then d.toNat :: codePoints more
    else ownCode c :: codePoints (d :: more)

/-- A text from the code points it holds. -/
def ofCodePoints (ns : List Nat) : String :=
  String.ofList (ns.flatMap codeChars)

/-- Text from outside brought into the encoding: every character is its own code point. -/
def ofExternal (s : String) : String :=
  ofCodePoints (s.toList.map Char.toNat)

/-- The characters of a text, each as a text of one code point. -/
def characters (s : String) : List String :=
  (codePoints s.toList).map (fun n => ofCodePoints [n])

/-- The number of code points of a text. -/
def codeLength (s : String) : Nat :=
  (codePoints s.toList).length

/-- Whether one text comes before another in the order of their code points. -/
def codeLess (s t : String) : Bool :=
  decide (codePoints s.toList < codePoints t.toList)

/-- Whether one text comes before another or is equal to it, by code points. -/
def codeLe (s t : String) : Bool :=
  !codeLess t s

/-- The position (in code points) and the code of the first surrogate of a text. -/
def firstSurrogate? (s : String) : Option (Nat × Nat) :=
  ((codePoints s.toList).zipIdx).findSome? (fun (n, i) =>
    if isSurrogateCode n then some (i, n) else none)

/-- A valid code point is the code of its character. -/
theorem toNat_ofNat_of_valid (n : Nat) (h : n.isValidChar) : (Char.ofNat n).toNat = n := by
  unfold Char.ofNat
  rw [dif_pos h]
  rfl

/-- The mark is the character of its code. -/
theorem markChar_toNat : markChar.toNat = markCode := by
  unfold markChar
  exact toNat_ofNat_of_valid markCode (Or.inr (by unfold markCode; constructor <;> omega))

/-- A surrogate reads back from its stand-in. -/
theorem codePoints_codeChars_surrogate (n : Nat) (h : isSurrogateCode n = true) :
    codePoints (codeChars n) = [n] := by
  have h' := h
  simp only [isSurrogateCode, Bool.and_eq_true, decide_eq_true_eq] at h'
  have hv : (standInBase + (n - 0xD800)).isValidChar := by
    unfold standInBase; right; constructor <;> omega
  have hc : codeChars n = [Char.ofNat (standInBase + (n - 0xD800))] := by
    simp [codeChars, h]
  rw [hc]
  simp only [codePoints, ownCode, isStandIn, toNat_ofNat_of_valid _ hv]
  simp only [standInBase, Nat.le_add_right, decide_true, ↓reduceIte, List.cons.injEq, and_true]
  omega

/-- A code point of the top range reads back from its mark and character. -/
theorem codePoints_codeChars_marked (n : Nat) (h1 : markCode ≤ n) (h2 : n < 0x110000) :
    codePoints (codeChars n) = [n] := by
  have hv : n.isValidChar := by right; unfold markCode at h1; constructor <;> omega
  have hs : isSurrogateCode n = false := by
    unfold isSurrogateCode markCode at *
    simp only [Bool.and_eq_false_iff, decide_eq_false_iff_not, Nat.not_le]
    right; omega
  have hc : codeChars n = [markChar, Char.ofNat n] := by
    simp [codeChars, hs, h1]
  rw [hc]
  simp [codePoints, toNat_ofNat_of_valid _ hv, h1]

end CodingAgent.Text
