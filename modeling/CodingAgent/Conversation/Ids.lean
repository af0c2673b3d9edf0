/-!
# Generated ids

Calls that arrive without an id get a generated one. Ids are drawn from one counting source,
so that a run is reproducible: the `n`-th id is `n` as eight hex digits followed by
twenty-four zeros, and a short id keeps the first eight hex digits.
-/

namespace CodingAgent

/-- A source of fresh ids: how many have been issued. -/
structure IdSource where
  issued : Nat := 0
deriving Inhabited

/-- `n` as eight lower-case hex digits. -/
def hex8 (n : Nat) : String :=
  let ds := Nat.toDigits 16 n
  String.ofList (List.replicate (8 - ds.length) '0' ++ ds)

/-- A fresh long id. -/
def IdSource.fresh (s : IdSource) : String × IdSource :=
  let n := s.issued + 1
  (hex8 n ++ String.ofList (List.replicate 24 '0'), ⟨n⟩)

/-- A fresh id for a call recovered from text. -/
def IdSource.freshText (s : IdSource) : String × IdSource :=
  let n := s.issued + 1
  ("text_" ++ hex8 n, ⟨n⟩)

end CodingAgent
