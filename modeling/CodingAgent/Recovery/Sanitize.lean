import CodingAgent.Text.Blank

/-!
# Cleaning recovered values

A value scraped from tagged text may carry leftover markup, control characters and runs of
blanks. `sanitize` cleans it in five steps, in this order: every tag (`<`, at least one
character other than `>`, then `>`) becomes a space; every run of control characters (0x00 to
0x1F and 0x7F) becomes one space; every run of two or more blanks becomes one space; blanks at
both ends go; and one pair of matching single or double quotes around the whole goes, with the
blanks that it enclosed at either end.
-/

namespace CodingAgent.Recovery

open CodingAgent.Text

theorem length_dropWhile_le (p : α → Bool) : ∀ l : List α, (l.dropWhile p).length ≤ l.length
  | [] => Nat.le_refl _
  | c :: cs => by
    rw [List.dropWhile_cons]
    split
    · exact Nat.le_succ_of_le (length_dropWhile_le p cs)
    · exact Nat.le_refl _

/-- Replace every tag by a space: a `<` followed by at least one character other than `>`
and then the first `>`. -/
def stripTags : List Char → List Char
  | [] => []
  | c :: rest =>
    if c == '<' && rest.head? != some '>' && rest.contains '>' then
      ' ' :: stripTags ((rest.dropWhile (· != '>')).drop 1)
    else c :: stripTags rest
termination_by cs => cs.length
decreasing_by
  all_goals simp only [List.length_drop, List.length_cons]
  · have := length_dropWhile_le (· != '>') rest
    omega
  · omega

/-- Replace each maximal run of characters satisfying `p` by one space when the run has at
least `minRun` characters; shorter runs stay. -/
def replaceRuns (p : Char → Bool) (minRun : Nat) : List Char → List Char
  | [] => []
  | c :: rest =>
    if p c then
      let run := c :: rest.takeWhile p
      (if run.length ≥ minRun then [' '] else run) ++ replaceRuns p minRun (rest.dropWhile p)
    else c :: replaceRuns p minRun rest
termination_by cs => cs.length
decreasing_by
  all_goals simp only [List.length_cons]
  · have := length_dropWhile_le p rest
    omega
  · omega

/-- Control characters: 0x00 to 0x1F and 0x7F. -/
def isControl (c : Char) : Bool :=
  c.toNat ≤ 0x1F || c.toNat == 0x7F

/-- Drop one pair of matching single or double quotes around a text of two or more
characters, with the blanks they enclosed at either end. -/
def unquote (s : String) : String :=
  let cs := s.toList
  match cs.head?, cs.getLast? with
  | some a, some b =>
    if cs.length ≥ 2 && a == b && (a == '\'' || a == '"') then
      trim (String.ofList (cs.drop 1).dropLast)
    else s
  | _, _ => s

/-- Clean a value scraped from tagged text. -/
def sanitize (raw : String) : String :=
  let cs := stripTags raw.toList
  let cs := replaceRuns isControl 1 cs
  let cs := replaceRuns isSpace 2 cs
  unquote (trim (String.ofList cs))

end CodingAgent.Recovery
