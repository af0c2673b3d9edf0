import CodingAgent.Proofs.DuplicateCalls

/-!
# How a task compares tool names

The registry finds a tool by the key of a name, the name trimmed and in lower case
(`toolKey`): names that differ only in case or in surrounding blanks reach the same tool of
every registry (`Registry.find?_eq_of_toolKey`). Four other places of a task look at the name
of a call, and each compares it in its own way.

* The completion and condense handling of the loop compares keys (`sameTool_eq_toolKey`), as
  the registry does.
* The duplicate guard exempts a call by its lower-cased name, untrimmed
  (`DuplicateGuard.isExempt_of_trimmed`): on names without surrounding blanks that is the key.
* A listing call is made recursive only under the listing tool's name as written
  (`markRecursive_eq`, `augmentListing_of_keyword`).
* A signature begins with the name as written (`signature_eq_iff_name`), so two calls with
  arguments of one signature repeat each other only under one spelling of the name
  (`DuplicateGuard.check_second`).

`tool_names_compared` gathers the four. `padded_repeat_passes_guard` is the guard of a task
with the default settings letting through a call of `read_file` and then the same call of
` read_file`: the registry sends both to one tool, and the second is no repeat.
-/

namespace CodingAgent.Text

/-- The empty text is a piece of every text. -/
theorem occurs_empty (hay : String) : occurs "" hay = true := by
  unfold occurs
  cases codePoints hay.toList <;> simp [infixOf, codePoints]

/-- Lower-casing a character gives one character, or two for capital I with dot above. -/
theorem lowerAt_length (before : List Char) (c : Char) (after : List Char) :
    (lowerAt before c after).length = if c.toNat = 0x130 then 2 else 1 := by
  unfold lowerAt
  by_cases h : c.toNat = 0x130
  · simp [h]
  · simp only [h, beq_iff_eq, if_false]
    split
    · split <;> rfl
    · split <;> rfl

theorem lowerFrom_length (before cs : List Char) (h : ∀ c ∈ cs, c.toNat ≠ 0x130) :
    (lowerFrom before cs).length = cs.length := by
  induction cs generalizing before with
  | nil => rfl
  | cons c rest ih =>
    have hc : c.toNat ≠ 0x130 := h c (by simp)
    simp only [lowerFrom, List.length_append, lowerAt_length, hc, if_false, List.length_cons]
    rw [ih _ (fun d hd => h d (by simp [hd]))]
    omega

/-- A text without capital I with dot above keeps its length in lower case. -/
theorem lower_length (s : String) (h : ∀ c ∈ s.toList, c.toNat ≠ 0x130) :
    (lower s).length = s.length := by
  rw [lower, String.length_ofList, lowerFrom_length _ _ h, String.length_toList]

/-- Texts of different lengths without capital I with dot above differ in lower case. -/
theorem lower_ne_of_length_ne {s t : String} (hs : ∀ c ∈ s.toList, c.toNat ≠ 0x130)
    (ht : ∀ c ∈ t.toList, c.toNat ≠ 0x130) (hlen : s.length ≠ t.length) : lower s ≠ lower t :=
  fun h => hlen (by rw [← lower_length s hs, ← lower_length t ht, h])

end CodingAgent.Text

namespace CodingAgent.Tool

/-- Names with one key reach the same tool of every registry. -/
theorem Registry.find?_eq_of_toolKey (reg : Registry) {x y : String} (h : toolKey x = toolKey y) :
    reg.find? x = reg.find? y := by
  simp only [Registry.find?, h]

end CodingAgent.Tool

namespace CodingAgent

open CodingAgent.Json

/-- A name that is text is the name looked at, empty text included. -/
@[simp] theorem ToolCall.nameOrEmpty_str (id args : Value) (x : String) :
    (⟨id, .str x, args⟩ : ToolCall).nameOrEmpty = .str x := by
  by_cases hx : x = "" <;> simp [ToolCall.nameOrEmpty, Value.orElse, Value.truthy, hx]

end CodingAgent

namespace CodingAgent.Recovery

open CodingAgent CodingAgent.Json CodingAgent.Text CodingAgent.Tool

/-- A call whose name is text signs as that name, as written, and the parts of its
arguments. -/
theorem signature_str (id : Value) (x : String) {args : Value} {ps : List String}
    (h : argumentParts args = .ok ps) :
    signature ⟨id, .str x, args⟩ = .ok ("|".intercalate (x :: ps)) := by
  simp [signature, h, bind, Except.bind, pure, Except.pure]

/-- Arguments of no members have no parts. -/
theorem argumentParts_empty : argumentParts (.obj []) = .ok [] := by
  simp [argumentParts]

/-- Signatures joined from the same argument parts are equal exactly when their names are. -/
theorem intercalate_cons_eq_iff {x₁ x₂ : String} (ps : List String) :
    "|".intercalate (x₁ :: ps) = "|".intercalate (x₂ :: ps) ↔ x₁ = x₂ := by
  cases ps with
  | nil => simp
  | cons p rest => simp [String.intercalate_cons_cons]

/-- Two calls whose arguments have the same parts sign alike exactly when their names are
written alike. -/
theorem signature_eq_iff_name {id₁ id₂ args₁ args₂ : Value} {x₁ x₂ : String} {ps : List String}
    (h₁ : argumentParts args₁ = .ok ps) (h₂ : argumentParts args₂ = .ok ps) :
    signature ⟨id₁, .str x₁, args₁⟩ = signature ⟨id₂, .str x₂, args₂⟩ ↔ x₁ = x₂ := by
  rw [signature_str _ _ h₁, signature_str _ _ h₂, Except.ok.injEq, intercalate_cons_eq_iff]

namespace DuplicateGuard

/-- On names without surrounding blanks the guard exempts a call exactly when its name has the
key of an exempt tool's name. -/
theorem isExempt_of_trimmed {ts seen : List String} (id args : Value) {x : String}
    (hx : trim x = x) (hts : ∀ t ∈ ts, trim t = t) :
    ({ exempt := ts.map lower, seen := seen } : DuplicateGuard).isExempt ⟨id, .str x, args⟩ =
      .ok (decide (∃ t ∈ ts, toolKey x = toolKey t)) := by
  have hkeys : (∃ t ∈ ts, lower t = lower x) ↔ ∃ t ∈ ts, toolKey x = toolKey t := by
    refine exists_congr fun t => and_congr_right fun ht => ?_
    rw [toolKey, toolKey, hx, hts t ht, eq_comm]
  simp [isExempt, ToolCall.nameText?, bind, Except.bind, pure, Except.pure, hkeys]

/-- The check of a call the guard does not exempt: a signature seen before is refused, and a
new one remembered. -/
theorem check_eq {g : DuplicateGuard} {c : ToolCall} {n sig : String}
    (hn : c.nameOrEmpty = .str n) (hex : lower n ∉ g.exempt) (hsig : signature c = .ok sig) :
    g.check c =
      .ok (if sig ∈ g.seen then (true, g) else (false, { g with seen := g.seen ++ [sig] })) := by
  simp only [check, isExempt, ToolCall.nameText?, hn, hsig, bind, Except.bind, pure,
    Except.pure]
  rw [if_neg (by simpa using hex)]
  by_cases hseen : sig ∈ g.seen <;> simp [hseen]

/-- After a fresh guard let one call through, a second call with arguments of the same
signature parts is refused exactly when its name is written as the first one's. -/
theorem check_second {ts : List String} {id₁ id₂ args₁ args₂ : Value} {x₁ x₂ : String}
    {ps : List String} {g₁ : DuplicateGuard}
    (h₁ : argumentParts args₁ = .ok ps) (h₂ : argumentParts args₂ = .ok ps)
    (hx₁ : lower x₁ ∉ ts.map lower) (hx₂ : lower x₂ ∉ ts.map lower)
    (hc : (exempting ts).check ⟨id₁, .str x₁, args₁⟩ = .ok (false, g₁)) :
    ∃ g₂, g₁.check ⟨id₂, .str x₂, args₂⟩ = .ok (decide (x₁ = x₂), g₂) := by
  rw [check_eq (ToolCall.nameOrEmpty_str _ _ _) hx₁ (signature_str _ _ h₁)] at hc
  simp only [exempting, List.not_mem_nil, if_false, Except.ok.injEq, Prod.mk.injEq,
    true_and] at hc
  subst hc
  rw [check_eq (ToolCall.nameOrEmpty_str _ _ _) hx₂ (signature_str _ _ h₂)]
  by_cases hx : x₁ = x₂
  · subst hx
    simp
  · have hsig : "|".intercalate (x₂ :: ps) ≠ "|".intercalate (x₁ :: ps) :=
      fun h => hx ((intercalate_cons_eq_iff ps).1 h).symm
    simp [hsig, hx]

end DuplicateGuard

/-- A listing call is made recursive exactly under the listing tool's name as written, when
its arguments do not say otherwise. -/
theorem markRecursive_eq (listing x : String) (id : Value) {ms : Members}
    (hms : Members.contains ms "recursive" = false) :
    markRecursive listing ⟨id, .str x, .obj ms⟩ =
      .ok (if x = listing then ⟨id, .str x, .obj (Members.set ms "recursive" (.bool true))⟩
        else ⟨id, .str x, .obj ms⟩) := by
  by_cases hx : x = listing
  · subst hx
    simp [markRecursive, ToolCall.nameString?, hms]
  · simp [markRecursive, ToolCall.nameString?, hx]

/-- A request that holds a keyword has every call looked at for the listing tool. -/
theorem augmentListing_of_keyword {r listing k : String} {kws : List Value}
    (calls : List ToolCall) (hr : r ≠ "") (hk : firstKeywordIn (lower r) kws = .ok (some k)) :
    augmentListing calls (.str r) listing kws = calls.mapM (markRecursive listing) := by
  simp [augmentListing, Value.truthy, hr, hk, bind, Except.bind]

end CodingAgent.Recovery

namespace CodingAgent.Agent

open CodingAgent CodingAgent.Json CodingAgent.Text CodingAgent.Tool CodingAgent.Recovery

/-- The loop's completion and condense handling compares the keys of the names, as the
registry does. -/
theorem sameTool_eq_toolKey (id args : Value) (x t : String) :
    sameTool ⟨id, .str x, args⟩ t = .ok (toolKey x == toolKey t) :=
  sameTool_of_nameText (ToolCall.nameOrEmpty_str id args x) t

/-- How a task compares the name `x` of a call with the names of its tools. The completion and
condense handling compares keys, as the registry does. The duplicate guard does too on names
without surrounding blanks. A listing call is made recursive only under the listing tool's
name as written. A call repeats one let through before it, with arguments of the same parts,
exactly when the two names are written alike, whatever tool the registry finds for them. -/
theorem tool_names_compared :
    (∀ (id args : Value) (x t : String),
      sameTool ⟨id, .str x, args⟩ t = .ok (toolKey x == toolKey t)) ∧
    (∀ (ts seen : List String) (id args : Value) (x : String), trim x = x →
      (∀ t ∈ ts, trim t = t) →
      ({ exempt := ts.map lower, seen := seen } : DuplicateGuard).isExempt ⟨id, .str x, args⟩ =
        .ok (decide (∃ t ∈ ts, toolKey x = toolKey t))) ∧
    (∀ (r listing k x : String) (kws : List Value) (id : Value) (ms : Members), r ≠ "" →
      firstKeywordIn (lower r) kws = .ok (some k) → Members.contains ms "recursive" = false →
      augmentListing [⟨id, .str x, .obj ms⟩] (.str r) listing kws =
        .ok [if x = listing then ⟨id, .str x, .obj (Members.set ms "recursive" (.bool true))⟩
          else ⟨id, .str x, .obj ms⟩]) ∧
    (∀ (ts ps : List String) (id₁ id₂ args₁ args₂ : Value) (x₁ x₂ : String)
      (g₁ : DuplicateGuard), argumentParts args₁ = .ok ps → argumentParts args₂ = .ok ps →
      lower x₁ ∉ ts.map lower → lower x₂ ∉ ts.map lower →
      (DuplicateGuard.exempting ts).check ⟨id₁, .str x₁, args₁⟩ = .ok (false, g₁) →
      ∃ g₂, g₁.check ⟨id₂, .str x₂, args₂⟩ = .ok (decide (x₁ = x₂), g₂)) := by
  refine ⟨sameTool_eq_toolKey, ?_, ?_, ?_⟩
  · intro ts seen id args x hx hts
    exact DuplicateGuard.isExempt_of_trimmed id args hx hts
  · intro r listing k x kws id ms hr hk hms
    rw [augmentListing_of_keyword _ hr hk, List.mapM_cons, markRecursive_eq listing x id hms]
    rfl
  · intro ts ps id₁ id₂ args₁ args₂ x₁ x₂ g₁ h₁ h₂ hx₁ hx₂ hc
    exact DuplicateGuard.check_second h₁ h₂ hx₁ hx₂ hc

/-- The tool names of the default settings. -/
def defaultToolNames : List String := ["attempt_completion", "condense"]

theorem read_file_not_exempt (x : String) (hx : x = "read_file" ∨ x = " read_file") :
    lower x ∉ defaultToolNames.map lower := by
  have hI : ∀ s : String, s ∈ ["read_file", " read_file", "attempt_completion", "condense"] →
      ∀ c ∈ s.toList, c.toNat ≠ 0x130 := by
    have hall : (["read_file", " read_file", "attempt_completion", "condense"].all fun s =>
        s.toList.all fun c => c.toNat != 0x130) = true := by decide
    intro s hs c hc
    exact bne_iff_ne.1 (List.all_eq_true.1 (List.all_eq_true.1 hall s hs) c hc)
  simp only [defaultToolNames, List.map_cons, List.map_nil, List.mem_cons, List.not_mem_nil,
    or_false, not_or]
  rcases hx with rfl | rfl <;>
    exact ⟨lower_ne_of_length_ne (hI _ (by simp)) (hI _ (by simp)) (by decide),
      lower_ne_of_length_ne (hI _ (by simp)) (hI _ (by simp)) (by decide)⟩

/-- A fresh guard of the default tool names lets a call of `read_file` through and remembers it. -/
theorem default_guard_lets_read_file :
    (DuplicateGuard.exempting defaultToolNames).check ⟨.str "call_1", .str "read_file", .obj []⟩ =
      .ok (false, { exempt := defaultToolNames.map lower, seen := ["read_file"] }) := by
  rw [DuplicateGuard.check_eq (ToolCall.nameOrEmpty_str _ _ _)
    (read_file_not_exempt _ (.inl rfl)) (signature_str _ _ argumentParts_empty)]
  simp [DuplicateGuard.exempting]

/-- The rules at the default tool names, where each needs something of its input: `condense` is
exempt from the guard, a `list_dir` call made for a request holding the empty keyword becomes
recursive, and a second call of `read_file` repeats the first. -/
theorem tool_names_compared_at_defaults :
    ((trim "condense" = "condense" ∧ ∀ t ∈ defaultToolNames, trim t = t) ∧
      ({ exempt := defaultToolNames.map lower, seen := [] } : DuplicateGuard).isExempt
          ⟨.str "call_1", .str "condense", .obj []⟩ =
        .ok (decide (∃ t ∈ defaultToolNames, toolKey "condense" = toolKey t))) ∧
    (("show all" ≠ "" ∧ firstKeywordIn (lower "show all") [.str ""] = .ok (some "") ∧
        Members.contains [] "recursive" = false) ∧
      augmentListing [⟨.str "call_1", .str "list_dir", .obj []⟩] (.str "show all") "list_dir"
          [.str ""] =
        .ok [if "list_dir" = "list_dir" then
              ⟨.str "call_1", .str "list_dir", .obj (Members.set [] "recursive" (.bool true))⟩
            else ⟨.str "call_1", .str "list_dir", .obj []⟩]) ∧
    ((argumentParts (.obj []) = .ok [] ∧ lower "read_file" ∉ defaultToolNames.map lower ∧
        (DuplicateGuard.exempting defaultToolNames).check
            ⟨.str "call_1", .str "read_file", .obj []⟩ =
          .ok (false, { exempt := defaultToolNames.map lower, seen := ["read_file"] })) ∧
      ∃ g₂, ({ exempt := defaultToolNames.map lower, seen := ["read_file"] } : DuplicateGuard).check
          ⟨.str "call_2", .str "read_file", .obj []⟩ =
        .ok (decide ("read_file" = "read_file"), g₂)) := by
  have hkw : firstKeywordIn (lower "show all") [.str ""] = .ok (some "") := by
    -- the keyword is the empty text, found in every text
    generalize lower "show all" = hay
    have h0 : lower "" = "" := by decide
    rw [firstKeywordIn, lowerKeyword, h0]
    simp only [bind]
    rw [Except.bind, occurs_empty, if_pos rfl]
    rfl
  have hx := read_file_not_exempt _ (.inl rfl)
  refine ⟨⟨⟨by decide, by decide⟩, ?_⟩, ⟨⟨by decide, hkw, rfl⟩, ?_⟩,
    ⟨argumentParts_empty, hx, default_guard_lets_read_file⟩, ?_⟩
  · exact tool_names_compared.2.1 defaultToolNames [] _ _ "condense" (by decide) (by decide)
  · exact tool_names_compared.2.2.1 "show all" "list_dir" "" "list_dir" [.str ""] _ [] (by decide)
      hkw rfl
  · exact tool_names_compared.2.2.2 defaultToolNames [] _ _ _ _ "read_file" "read_file" _
      argumentParts_empty argumentParts_empty hx hx default_guard_lets_read_file

/-- Two names the registry sends to one tool, and a task with the default settings that does
not count the second call as a repeat of the first: the guard signs a call by its name as
written. -/
theorem padded_repeat_passes_guard :
    toolKey " read_file" = toolKey "read_file" ∧
      ∃ g₁ g₂, (Loop.start {} "" (.str "")).guard.check
          ⟨.str "call_1", .str "read_file", .obj []⟩ = .ok (false, g₁) ∧
        g₁.check ⟨.str "call_2", .str " read_file", .obj []⟩ = .ok (false, g₂) := by
  obtain ⟨g₂, h₂⟩ := @DuplicateGuard.check_second _ _ (.str "call_2") _ (.obj []) _ " read_file"
    _ _ argumentParts_empty argumentParts_empty (read_file_not_exempt _ (.inl rfl))
    (read_file_not_exempt _ (.inr rfl)) default_guard_lets_read_file
  exact ⟨congrArg lower (by decide), _, g₂, default_guard_lets_read_file, by simpa using h₂⟩

end CodingAgent.Agent
