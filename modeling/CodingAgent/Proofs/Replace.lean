import CodingAgent.Text.Search

/-!
# Replacing a text, piece by piece

`replaceInfix needle new limit hay` keeps everything of `hay` but the occurrences of `needle`
it replaces. Those are found from the left, each after the one before, so they never overlap:
`hay` is the pieces between them joined by `needle`, and the result is the same pieces joined
by `new` (`replaceInfix_cut`). The pieces say which occurrences were taken.

* No occurrence of `needle` starts inside a piece before a cut (`LeftCut.first`): each cut is
  at the first occurrence after the one before. The cut grows as the search steps: an
  occurrence in front opens an empty piece (`LeftCut.cut_front`), any other item joins the
  first piece (`LeftCut.cons`).
* There are as many cuts as `countInfix` counts, or `limit` of them when that is fewer.
* Without a limit the last piece holds no occurrence: every occurrence was replaced.
-/

namespace CodingAgent.Text

variable {α : Type}

/-- A list joined in front of the first part joins in front of the whole. -/
theorem intercalate_cons_head (sep : List α) (c : α) (p : List α) (ps : List (List α)) :
    sep.intercalate ((c :: p) :: ps) = c :: sep.intercalate (p :: ps) := by
  cases ps with
  | nil => simp
  | cons q qs => simp [List.intercalate_cons_cons]

/-- An occurrence of a non-empty list does not fit in a shorter list. -/
theorem not_infix_dropLast {needle : List α} (hn : needle ≠ []) : ¬ needle <:+: needle.dropLast := by
  intro h
  have hlen := h.length_le
  have hpos : 0 < needle.length := List.length_pos_iff.2 hn
  simp only [List.length_dropLast] at hlen
  omega

/-- `parts` cut `hay` at occurrences of `needle` taken from the left: joined by `needle` they
give `hay` back, and no occurrence of `needle` starts inside a part before a cut. -/
structure LeftCut (needle hay : List α) (parts : List (List α)) : Prop where
  join : needle.intercalate parts = hay
  first : ∀ p ∈ parts.dropLast, ¬ needle <:+: p ++ needle.dropLast

namespace LeftCut

variable {needle hay : List α}

/-- A list uncut is one part. -/
theorem single (needle hay : List α) : LeftCut needle hay [hay] :=
  ⟨by simp, by simp⟩

/-- A cut at an occurrence of `needle` in front of a cut list opens an empty first part. -/
theorem cut_front (hn : needle ≠ []) {q : List α} {qs : List (List α)}
    (h : LeftCut needle hay (q :: qs)) : LeftCut needle (needle ++ hay) ([] :: q :: qs) := by
  refine ⟨?_, ?_⟩
  · rw [List.intercalate_cons_cons, h.join]
    simp
  · intro p hp
    rw [List.dropLast_cons_cons] at hp
    rcases List.mem_cons.1 hp with rfl | hp
    · simpa using not_infix_dropLast hn
    · exact h.first p hp

/-- An item in front of a cut list joins its first part, provided no occurrence of `needle`
that starts at it ends before the first cut is over. -/
theorem cons {c : α} {p : List α} {ps : List (List α)} (h : LeftCut needle hay (p :: ps))
    (hc : ps ≠ [] → ¬ needle <+: c :: (p ++ needle.dropLast)) :
    LeftCut needle (c :: hay) ((c :: p) :: ps) := by
  refine ⟨by rw [intercalate_cons_head, h.join], ?_⟩
  intro q hq
  cases ps with
  | nil => simp at hq
  | cons r rs =>
    rw [List.dropLast_cons_cons] at hq
    rcases List.mem_cons.1 hq with rfl | hq
    · -- an occurrence inside `c :: p` starts at `c` or inside `p`
      intro hin
      rcases List.infix_cons_iff.1 hin with hpre | hi
      · exact hc (by simp) hpre
      · exact h.first p (by simp) hi
    · exact h.first q (by simp [hq])

end LeftCut

/-- With an occurrence of `needle` in front, `countInfix` counts it and goes on after it. -/
theorem countInfix_cons_of_isPrefixOf [BEq α] {needle rest : List α} {c : α} (hn : needle ≠ [])
    (hpre : needle.isPrefixOf (c :: rest) = true) :
    countInfix needle (c :: rest) = 1 + countInfix needle ((c :: rest).drop needle.length) := by
  rw [countInfix, dif_pos ⟨hn, hpre⟩]

/-- Without an occurrence of `needle` in front, `countInfix` goes on after the first item. -/
theorem countInfix_cons_of_not_isPrefixOf [BEq α] {needle rest : List α} {c : α}
    (hpre : needle.isPrefixOf (c :: rest) = false) :
    countInfix needle (c :: rest) = countInfix needle rest := by
  rw [countInfix, dif_neg (by simp [hpre])]

variable [BEq α] [LawfulBEq α]

/-- The pieces of a replacement by `replaceInfix`: the cut of `hay` at the occurrences it
takes, and how many it takes. -/
theorem replaceInfix_cut (needle new : List α) (hn : needle ≠ []) (limit : Option Nat)
    (hay : List α) :
    ∃ parts, LeftCut needle hay parts ∧
      replaceInfix needle new limit hay = new.intercalate parts ∧
      parts.length = limit.elim (countInfix needle hay) (fun k => min k (countInfix needle hay)) + 1 ∧
      (limit = none → ∀ p ∈ parts.getLast?, ¬ needle <:+: p) := by
  fun_induction replaceInfix needle new limit hay with
  | case1 limit =>
    refine ⟨[[]], LeftCut.single needle [], by simp, ?_, ?_⟩
    · cases limit <;> simp [countInfix]
    · intro _ p hp
      simp only [List.getLast?_singleton, Option.mem_def, Option.some.injEq] at hp
      subst hp
      intro h
      exact hn (List.eq_nil_of_infix_nil h)
  | case2 limit c rest h _ ih =>
    -- `hay` starts with the needle: the first part is empty
    obtain ⟨hlim, -, hpre⟩ := h
    obtain ⟨parts, hcut, hrep, hlen, hlast⟩ := ih
    have hsplit : needle ++ (c :: rest).drop needle.length = c :: rest := by
      obtain ⟨t, ht⟩ := List.isPrefixOf_iff_prefix.1 hpre
      rw [← ht]
      simp
    obtain ⟨q, qs, rfl⟩ := List.exists_cons_of_length_eq_add_one hlen
    refine ⟨[] :: q :: qs, hsplit ▸ hcut.cut_front hn, ?_, ?_, ?_⟩
    · rw [hrep, List.intercalate_cons_cons]
      simp
    · rw [List.length_cons, hlen, countInfix_cons_of_isPrefixOf hn hpre]
      cases limit with
      | none => simp; omega
      | some k =>
        simp only [ne_eq, Option.some.injEq] at hlim
        simp only [Option.map_some, Option.elim_some]
        omega
    · intro hnone p hp
      subst hnone
      exact hlast rfl p (by simpa using hp)
  | case3 limit c rest h ih =>
    obtain ⟨parts, hcut, hrep, hlen, hlast⟩ := ih
    obtain ⟨p, ps, rfl⟩ := List.exists_cons_of_length_eq_add_one hlen
    -- an occurrence at `c` is taken unless no replacement is left
    have hfirst : needle.isPrefixOf (c :: rest) = true → limit = some 0 := by
      intro hpre
      by_cases hlim : limit = some 0
      · exact hlim
      · exact absurd ⟨hlim, hn, hpre⟩ h
    have hcount : limit.elim (countInfix needle (c :: rest))
          (fun k => min k (countInfix needle (c :: rest))) =
        limit.elim (countInfix needle rest) (fun k => min k (countInfix needle rest)) := by
      cases hpre : needle.isPrefixOf (c :: rest)
      · rw [countInfix_cons_of_not_isPrefixOf hpre]
      · rw [hfirst hpre]
        simp
    -- with a cut after the first part, no occurrence starts at `c`
    have hnot : ps ≠ [] → ¬ needle <+: c :: (p ++ needle.dropLast) := by
      intro hps hpre
      have hlim : limit ≠ some 0 := by
        rintro rfl
        simp at hlen
        exact hps hlen
      obtain ⟨r, rs, rfl⟩ := List.exists_cons_of_ne_nil hps
      have hrest : c :: (p ++ needle.dropLast) <+: c :: rest := by
        rw [← hcut.join, List.intercalate_cons_cons, List.append_assoc]
        exact (List.prefix_cons_inj c).2 ((List.prefix_append_right_inj p).2
          ((List.dropLast_prefix needle).trans (List.prefix_append _ _)))
      exact hlim (hfirst (List.isPrefixOf_iff_prefix.2 (hpre.trans hrest)))
    refine ⟨(c :: p) :: ps, hcut.cons hnot, ?_, ?_, ?_⟩
    · rw [hrep, intercalate_cons_head]
    · simp only [List.length_cons] at hlen ⊢
      rw [hcount]
      omega
    · intro hnone q hq
      cases ps with
      | nil =>
        -- the last part is the whole of `hay`, in which no occurrence starts at `c`
        simp only [List.getLast?_singleton, Option.mem_def, Option.some.injEq] at hq
        subst hq
        have hp : p = rest := by simpa using hcut.join
        subst hp
        intro hin
        rcases List.infix_cons_iff.1 hin with hpre | hi
        · exact absurd (hfirst (List.isPrefixOf_iff_prefix.2 hpre)) (by simp [hnone])
        · exact hlast hnone p (by simp) hi
      | cons r rs => exact hlast hnone q (by simpa using hq)

/-! ## Texts -/

/-- A non-empty list of characters holds at least one code point. -/
theorem codePoints_ne_nil {cs : List Char} (h : cs ≠ []) : codePoints cs ≠ [] := by
  match cs, h with
  | [c], _ => simp [codePoints]
  | c :: d :: more, _ =>
    unfold codePoints
    split <;> simp

/-- `replaceOccurrences` keeps the code points between the occurrences it replaces, which it
takes from the left, as many as `occurrenceCount` counts or `limit` of them. -/
theorem replaceOccurrences_cut (old new : String) (hold : old.isEmpty = false)
    (limit : Option Nat) (text : String) :
    ∃ parts, LeftCut (codePoints old.toList) (codePoints text.toList) parts ∧
      replaceOccurrences old new limit text =
        ofCodePoints ((codePoints new.toList).intercalate parts) ∧
      parts.length =
        limit.elim (occurrenceCount old text) (fun k => min k (occurrenceCount old text)) + 1 ∧
      (limit = none → ∀ p ∈ parts.getLast?, ¬ codePoints old.toList <:+: p) := by
  have hne : codePoints old.toList ≠ [] :=
    codePoints_ne_nil (by simpa [String.isEmpty_iff] using hold)
  obtain ⟨parts, hcut, hrep, hlen, hlast⟩ :=
    replaceInfix_cut _ (codePoints new.toList) hne limit (codePoints text.toList)
  exact ⟨parts, hcut, by rw [replaceOccurrences, hrep], hlen, hlast⟩

end CodingAgent.Text
