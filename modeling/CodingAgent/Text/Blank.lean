/-!
# Blank characters and trimming

The blank characters of Unicode text: the controls tab to carriage return and the
separators 0x1C to 0x1F, the space, next line, no-break space, and the space separators,
line and paragraph separators (Unicode 14.0). `trim` removes blanks at both ends, and
`trimChars` removes the characters of a given set from the end. Numbers read from text trim
less: `trimWhiteSpace` keeps the separators 0x1C to 0x1F, which are blanks but not white
space.
-/

namespace CodingAgent.Text

/-- Whether a character is blank. -/
def isSpace (c : Char) : Bool :=
  let n := c.toNat
  (0x09 ≤ n && n ≤ 0x0D) || (0x1C ≤ n && n ≤ 0x20) || n == 0x85 || n == 0xA0 ||
    n == 0x1680 || (0x2000 ≤ n && n ≤ 0x200A) || n == 0x2028 || n == 0x2029 ||
    n == 0x202F || n == 0x205F || n == 0x3000

/-- The text without blanks at its start. -/
def trimStart (s : String) : String :=
  String.ofList (s.toList.dropWhile isSpace)

/-- The text without blanks at its end. -/
def trimEnd (s : String) : String :=
  String.ofList (s.toList.reverse.dropWhile isSpace).reverse

/-- The text without blanks at either end. -/
def trim (s : String) : String :=
  trimEnd (trimStart s)

/-- Whether the text holds nothing but blanks. -/
def isBlankText (s : String) : Bool :=
  s.toList.all isSpace

/-- The text without the characters of `set` at its end. -/
def trimEndChars (set : List Char) (s : String) : String :=
  String.ofList (s.toList.reverse.dropWhile (fun c => set.contains c)).reverse

/-- Whether a character is white space in the Unicode sense (the property `White_Space`):
tab to carriage return, space, next line, no-break space and the space separators. Unlike
`isSpace`, the separators 0x1C to 0x1F are not white space here. -/
def isWhiteSpace (c : Char) : Bool :=
  let n := c.toNat
  (0x09 ≤ n && n ≤ 0x0D) || n == 0x20 || n == 0x85 || n == 0xA0 ||
    n == 0x1680 || (0x2000 ≤ n && n ≤ 0x200A) || n == 0x2028 || n == 0x2029 ||
    n == 0x202F || n == 0x205F || n == 0x3000

/-- The text without white space at either end. -/
def trimWhiteSpace (s : String) : String :=
  String.ofList ((s.toList.dropWhile isWhiteSpace).reverse.dropWhile isWhiteSpace).reverse

end CodingAgent.Text
