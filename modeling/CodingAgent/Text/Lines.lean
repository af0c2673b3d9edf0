/-!
# Lines of a text

A text is cut into lines at every line boundary of Unicode text: line feed, carriage return
(and the pair of the two, which counts once), line and form feed, the file, group and record
separators, next line, and the line and paragraph separators. The boundaries themselves are
dropped, and a boundary at the very end opens no further line.

A text that arrives in pieces only gives the lines whose boundary has arrived: a carriage
return at the end of what arrived is held back, since a line feed may follow it.
-/

namespace CodingAgent.Text

/-- Whether a character ends a line. -/
def isLineBreak (c : Char) : Bool :=
  let n := c.toNat
  (0x0A ≤ n && n ≤ 0x0D) || (0x1C ≤ n && n ≤ 0x1E) || n == 0x85 || n == 0x2028 || n == 0x2029

/-- The lines of the characters, the current line so far given reversed. -/
def linesFrom : List Char → List Char → List String
  | [], cur => if cur.isEmpty then [] else [String.ofList cur.reverse]
  | '\r' :: '\n' :: rest, cur => String.ofList cur.reverse :: linesFrom rest []
  | c :: rest, cur =>
    if isLineBreak c then String.ofList cur.reverse :: linesFrom rest []
    else linesFrom rest (c :: cur)

/-- The lines of a text. -/
def splitLines (s : String) : List String :=
  linesFrom s.toList []

/-- The lines of the part of a text that has arrived whose boundary has arrived too. -/
def completeLines (s : String) : List String :=
  let cs := s.toList
  let cs := if cs.getLast? == some '\r' then cs.dropLast else cs
  match cs.getLast? with
  | none => []
  | some c => if isLineBreak c then linesFrom cs [] else (linesFrom cs []).dropLast

end CodingAgent.Text
