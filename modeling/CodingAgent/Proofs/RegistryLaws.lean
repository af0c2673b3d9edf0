import Mathlib.Data.List.Basic
import CodingAgent.Tool.Registry

/-!
# What a sequence of registrations leaves in a registry

A registry is changed by registering a tool and by removing the tool of a name
(`RegistryOp`). This module says, for every sequence of such changes applied to an empty
registry (`Registry.replay`), what the registry holds, in terms of the sequence alone:

* `lastUnder k` is the tool a history leaves under the key `k`: the latest registration
  under `k`, unless a removal of `k` came after it;
* `placedAt k` is when that tool's key was put in its place: the first registration under
  `k` since its most recent removal.

Both read the history newest first. `replayInv` is the invariant that ties them to the
registry: keys are distinct, each entry holds the latest tool of its key, every key with a
tool has an entry, and entries stand in the order they were placed. `replayInv_apply` is its
step lemma, one case per change; `replay_keeps_registry_laws` reads the laws off it.
-/

namespace CodingAgent.Tool

open CodingAgent CodingAgent.Json

/-- A change to a registry. -/
inductive RegistryOp where
  | register (t : Tool)
  | unregister (name : String)

/-- The key a tool is registered under. -/
def registryKey (t : Tool) : String :=
  toolKey (nameKey t.name)

namespace Registry

/-- A change applied to a registry; a registration refused for want of a name changes
nothing. -/
def apply (reg : Registry) : RegistryOp → Registry
  | .register t =>
    match reg.register t with
    | .ok r => r
    | .error _ => reg
  | .unregister n => reg.unregister n

/-- The registry that changes leave, applied in order to an empty one. -/
def replay (ops : List RegistryOp) : Registry :=
  ops.foldl apply {}

/-- The keys of a registry, in order. -/
def keys (reg : Registry) : List String :=
  reg.tools.map Prod.fst

end Registry

/-- Whether a tool can be registered and goes under the key `k`. -/
def registersUnder (k : String) (t : Tool) : Prop :=
  t.name.truthy = true ∧ registryKey t = k

instance (k : String) (t : Tool) : Decidable (registersUnder k t) :=
  inferInstanceAs (Decidable (_ ∧ _))

/-- The tool a history (newest change first) leaves under the key `k`: that of the latest
registration under `k`, unless a removal of `k` came after it. -/
def lastUnder (k : String) : List RegistryOp → Option Tool
  | [] => none
  | .register t :: older => if registersUnder k t then some t else lastUnder k older
  | .unregister n :: older => if toolKey n = k then none else lastUnder k older

/-- When the key `k` took its place, in a history listed newest first: the index, counted
from the oldest change, of the first registration under `k` since its most recent removal. -/
def placedAt (k : String) : List RegistryOp → Option Nat
  | [] => none
  | .register t :: older =>
    if registersUnder k t then some ((placedAt k older).getD older.length) else placedAt k older
  | .unregister n :: older => if toolKey n = k then none else placedAt k older

/-! ## The history side -/

/-- A key has a tool exactly when it has a place. -/
theorem placedAt_isSome_iff (k : String) :
    ∀ older : List RegistryOp, (placedAt k older).isSome = (lastUnder k older).isSome
  | [] => rfl
  | .register t :: older => by
    by_cases h : registersUnder k t
    · simp [placedAt, lastUnder, h]
    · simp [placedAt, lastUnder, h, placedAt_isSome_iff k older]
  | .unregister n :: older => by
    by_cases h : toolKey n = k
    · simp [placedAt, lastUnder, h]
    · simp [placedAt, lastUnder, h, placedAt_isSome_iff k older]

/-- A place is the index of a change of the history. -/
theorem placedAt_lt (k : String) (older : List RegistryOp) :
    ∀ i, placedAt k older = some i → i < older.length := by
  induction older with
  | nil => intro i h; simp [placedAt] at h
  | cons op older ih =>
    intro i h
    have hlt : ∀ j, placedAt k older = some j → j < older.length + 1 :=
      fun j hj => Nat.lt_succ_of_lt (ih j hj)
    cases op with
    | register t =>
      by_cases hk : registersUnder k t
      · rw [placedAt, if_pos hk, Option.some.injEq] at h
        subst h
        cases hp : placedAt k older with
        | none => simp
        | some j => simpa using hlt j hp
      · rw [placedAt, if_neg hk] at h
        exact hlt i h
    | unregister n =>
      by_cases hk : toolKey n = k
      · rw [placedAt, if_pos hk] at h
        cases h
      · rw [placedAt, if_neg hk] at h
        exact hlt i h

/-- Registering under a key that already has a tool keeps its place. -/
theorem placedAt_register_of_isSome {k : String} {t : Tool} {older : List RegistryOp}
    (h : (lastUnder k older).isSome) : placedAt k (.register t :: older) = placedAt k older := by
  rw [← placedAt_isSome_iff] at h
  obtain ⟨i, hi⟩ := Option.isSome_iff_exists.1 h
  by_cases hk : registersUnder k t
  · simp [placedAt, hk, hi]
  · simp [placedAt, hk]

/-- A change under another key leaves the tool of `j` as it was. -/
theorem lastUnder_register_of_ne {j : String} {t : Tool} (older : List RegistryOp)
    (h : registryKey t ≠ j) : lastUnder j (.register t :: older) = lastUnder j older := by
  rw [lastUnder, if_neg fun hu => h hu.2]

theorem placedAt_register_of_ne {j : String} {t : Tool} (older : List RegistryOp)
    (h : registryKey t ≠ j) : placedAt j (.register t :: older) = placedAt j older := by
  rw [placedAt, if_neg fun hu => h hu.2]

/-- A registration leaves its tool under its key. -/
theorem lastUnder_register_self {t : Tool} (older : List RegistryOp) (hname : t.name.truthy = true) :
    lastUnder (registryKey t) (.register t :: older) = some t := by
  rw [lastUnder, if_pos ⟨hname, rfl⟩]

/-! ## The registry side -/

namespace Registry

/-- The entry that replaces `e` when `t` is put under `k`. -/
def replaceAt (k : String) (t : Tool) (e : String × Tool) : String × Tool :=
  if e.1 == k then (k, t) else e

theorem replaceAt_of_eq {k : String} {t : Tool} {e : String × Tool} (h : e.1 = k) :
    replaceAt k t e = (k, t) := by
  simp [replaceAt, h]

theorem replaceAt_of_ne {k : String} {t : Tool} {e : String × Tool} (h : e.1 ≠ k) :
    replaceAt k t e = e := by
  simp [replaceAt, h]

/-- Replacing keeps the key of every entry. -/
theorem replaceAt_fst (k : String) (t : Tool) (e : String × Tool) : (replaceAt k t e).1 = e.1 := by
  by_cases h : e.1 = k
  · rw [replaceAt_of_eq h, h]
  · rw [replaceAt_of_ne h]

theorem keys_put_of_mem {reg : Registry} {t : Tool} (h : registryKey t ∈ reg.keys) :
    (reg.put t).tools = reg.tools.map (replaceAt (registryKey t) t) := by
  have hany : reg.tools.any (fun e => e.1 == registryKey t) = true := by
    obtain ⟨e, he, hk⟩ := List.mem_map.1 h
    exact List.any_eq_true.2 ⟨e, he, by simp [hk]⟩
  simp only [put, registryKey] at hany ⊢
  rw [if_pos hany]
  rfl

theorem keys_put_of_not_mem {reg : Registry} {t : Tool} (h : registryKey t ∉ reg.keys) :
    (reg.put t).tools = reg.tools ++ [(registryKey t, t)] := by
  have hany : ¬ reg.tools.any (fun e => e.1 == registryKey t) = true := by
    intro hany
    obtain ⟨e, he, hk⟩ := List.any_eq_true.1 hany
    exact h (List.mem_map.2 ⟨e, he, by simpa using hk⟩)
  simp only [put, registryKey] at hany ⊢
  rw [if_neg hany]

/-- Replacing the tool of a key keeps every key where it stands. -/
theorem keys_replace (tools : List (String × Tool)) (k : String) (t : Tool) :
    (tools.map (replaceAt k t)).map Prod.fst = tools.map Prod.fst := by
  rw [List.map_map]
  exact List.map_congr_left fun e _ => replaceAt_fst k t e

end Registry

/-- What a history (newest change first) says of the registry it leaves. -/
structure ReplayInv (older : List RegistryOp) (reg : Registry) : Prop where
  nodup : reg.keys.Nodup
  holds : ∀ e ∈ reg.tools, lastUnder e.1 older = some e.2
  present : ∀ k, (lastUnder k older).isSome → k ∈ reg.keys
  ordered : reg.tools.Pairwise fun a b => placedAt a.1 older < placedAt b.1 older

theorem replayInv_nil : ReplayInv [] {} :=
  ⟨List.nodup_nil, by simp, by simp [lastUnder], List.Pairwise.nil⟩

section Step

variable {older : List RegistryOp} {reg : Registry}

/-- A registration refused for want of a name changes neither side. -/
theorem replayInv_register_unnamed {t : Tool} (hinv : ReplayInv older reg)
    (hname : t.name.truthy = false) : ReplayInv (.register t :: older) reg := by
  have hnot : ∀ k, ¬ registersUnder k t := fun k h => by simp [h.1] at hname
  have hlast : ∀ k, lastUnder k (.register t :: older) = lastUnder k older := fun k => by
    simp [lastUnder, hnot k]
  have hplace : ∀ k, placedAt k (.register t :: older) = placedAt k older := fun k => by
    simp [placedAt, hnot k]
  exact ⟨hinv.nodup, fun e he => (hlast e.1).trans (hinv.holds e he),
    fun k hk => hinv.present k ((hlast k) ▸ hk), by simpa only [hplace] using hinv.ordered⟩

/-- Registering under a key that has an entry puts the tool in that entry's place. -/
theorem replayInv_register_present {t : Tool} (hinv : ReplayInv older reg)
    (hname : t.name.truthy = true) (hmem : registryKey t ∈ reg.keys) :
    ReplayInv (.register t :: older) (reg.put t) := by
  have hsome : (lastUnder (registryKey t) older).isSome := by
    obtain ⟨e, he, hk⟩ := List.mem_map.1 hmem
    rw [← hk, hinv.holds e he]
    rfl
  -- every key keeps its place: that of `t` by `placedAt_register_of_isSome`
  have hplace : ∀ j, placedAt j (.register t :: older) = placedAt j older := fun j => by
    by_cases hj : registryKey t = j
    · rw [← hj]
      exact placedAt_register_of_isSome hsome
    · exact placedAt_register_of_ne older hj
  have htools := Registry.keys_put_of_mem hmem
  refine ⟨?_, ?_, ?_, ?_⟩
  · rw [Registry.keys, htools, Registry.keys_replace]
    exact hinv.nodup
  · intro e he
    rw [htools] at he
    obtain ⟨e₀, he₀, rfl⟩ := List.mem_map.1 he
    by_cases h₀ : e₀.1 = registryKey t
    · rw [Registry.replaceAt_of_eq h₀]
      exact lastUnder_register_self older hname
    · rw [Registry.replaceAt_of_ne h₀, lastUnder_register_of_ne older (Ne.symm h₀)]
      exact hinv.holds e₀ he₀
  · intro j hj
    show j ∈ (reg.put t).tools.map Prod.fst
    rw [htools, Registry.keys_replace]
    by_cases hjk : registryKey t = j
    · exact hjk ▸ hmem
    · exact hinv.present j (by rwa [lastUnder_register_of_ne older hjk] at hj)
  · rw [htools, List.pairwise_map]
    refine hinv.ordered.imp fun {a b} hab => ?_
    rw [Registry.replaceAt_fst, Registry.replaceAt_fst, hplace, hplace]
    exact hab

/-- Registering under a key without an entry puts the tool last, placed now. -/
theorem replayInv_register_absent {t : Tool} (hinv : ReplayInv older reg)
    (hname : t.name.truthy = true) (hmem : registryKey t ∉ reg.keys) :
    ReplayInv (.register t :: older) (reg.put t) := by
  have hnone : lastUnder (registryKey t) older = none := by
    cases h : lastUnder (registryKey t) older with
    | none => rfl
    | some _ => exact absurd (hinv.present _ (by simp [h])) hmem
  have hnew : placedAt (registryKey t) (.register t :: older) = some older.length := by
    have : placedAt (registryKey t) older = none := by
      simpa [hnone] using placedAt_isSome_iff (registryKey t) older
    rw [placedAt, if_pos ⟨hname, rfl⟩, this]
    rfl
  have hne : ∀ e ∈ reg.tools, registryKey t ≠ e.1 := fun e he hk =>
    hmem (List.mem_map.2 ⟨e, he, hk.symm⟩)
  have htools := Registry.keys_put_of_not_mem hmem
  refine ⟨?_, ?_, ?_, ?_⟩
  · rw [Registry.keys, htools, List.map_append, List.nodup_append]
    refine ⟨hinv.nodup, by simp, fun a ha b hb hab => ?_⟩
    rw [List.map_cons, List.map_nil, List.mem_singleton] at hb
    rw [hab, hb] at ha
    exact hmem ha
  · intro e he
    rw [htools, List.mem_append, List.mem_singleton] at he
    rcases he with he | rfl
    · rw [lastUnder_register_of_ne older (hne e he)]
      exact hinv.holds e he
    · exact lastUnder_register_self older hname
  · intro j hj
    show j ∈ (reg.put t).tools.map Prod.fst
    rw [htools, List.map_append, List.mem_append]
    by_cases hjk : registryKey t = j
    · exact Or.inr (by rw [← hjk]; exact List.mem_singleton_self _)
    · exact Or.inl (hinv.present j (by rwa [lastUnder_register_of_ne older hjk] at hj))
  · rw [htools, List.pairwise_append]
    refine ⟨hinv.ordered.imp_of_mem fun {a b} ha hb hab => ?_, List.pairwise_singleton _ _, ?_⟩
    · rw [placedAt_register_of_ne older (hne a ha), placedAt_register_of_ne older (hne b hb)]
      exact hab
    · -- every earlier key was placed before this change
      intro a ha b hb
      rw [List.mem_singleton] at hb
      subst hb
      obtain ⟨i, hi⟩ : ∃ i, placedAt a.1 older = some i := Option.isSome_iff_exists.1
        (by rw [placedAt_isSome_iff, hinv.holds a ha]; rfl)
      rw [placedAt_register_of_ne older (hne a ha), hnew, hi]
      exact Option.some_lt_some.2 (placedAt_lt a.1 older i hi)

/-- Removing the tool of a name drops the entry of its key and keeps the rest in order. -/
theorem replayInv_unregister (n : String) (hinv : ReplayInv older reg) :
    ReplayInv (.unregister n :: older) (reg.unregister n) := by
  have hlast : ∀ j, toolKey n ≠ j → lastUnder j (.unregister n :: older) = lastUnder j older :=
    fun j hj => by rw [lastUnder, if_neg hj]
  have hplace : ∀ j, toolKey n ≠ j → placedAt j (.unregister n :: older) = placedAt j older :=
    fun j hj => by rw [placedAt, if_neg hj]
  have hsub : (reg.unregister n).tools.Sublist reg.tools := List.filter_sublist
  have hkept : ∀ e ∈ (reg.unregister n).tools, toolKey n ≠ e.1 := fun e he => by
    have h : e.1 ≠ toolKey n := by simpa using (List.mem_filter.1 he).2
    exact Ne.symm h
  refine ⟨hinv.nodup.sublist (hsub.map Prod.fst), fun e he => ?_, fun j hj => ?_, ?_⟩
  · rw [hlast e.1 (hkept e he)]
    exact hinv.holds e (hsub.subset he)
  · have hjk : toolKey n ≠ j := fun h => by
      rw [lastUnder, if_pos h] at hj
      cases hj
    obtain ⟨e, he, rfl⟩ := List.mem_map.1 (hinv.present j (hlast j hjk ▸ hj))
    exact List.mem_map.2 ⟨e, List.mem_filter.2 ⟨he, by simpa using Ne.symm hjk⟩, rfl⟩
  · refine (hinv.ordered.sublist hsub).imp_of_mem fun {a b} ha hb hab => ?_
    rw [hplace a.1 (hkept a ha), hplace b.1 (hkept b hb)]
    exact hab

/-- The step lemma: each change keeps the invariant. -/
theorem replayInv_apply (op : RegistryOp) (hinv : ReplayInv older reg) :
    ReplayInv (op :: older) (reg.apply op) := by
  cases op with
  | register t =>
    cases hname : t.name.truthy
    · have : reg.apply (.register t) = reg := by
        simp [Registry.apply, Registry.register, hname]
      rw [this]
      exact replayInv_register_unnamed hinv hname
    · have : reg.apply (.register t) = reg.put t := by
        simp [Registry.apply, Registry.register, hname]
      rw [this]
      by_cases hmem : registryKey t ∈ reg.keys
      · exact replayInv_register_present hinv hname hmem
      · exact replayInv_register_absent hinv hname hmem
  | unregister n => exact replayInv_unregister n hinv

end Step

/-- Changes applied in order keep the invariant, whatever history the registry had. -/
theorem replayInv_foldl (ops : List RegistryOp) :
    ∀ {older : List RegistryOp} {reg : Registry}, ReplayInv older reg →
      ReplayInv (ops.reverse ++ older) (ops.foldl Registry.apply reg) := by
  induction ops with
  | nil => exact fun h => h
  | cons op rest ih =>
    intro older reg hinv
    simpa using ih (replayInv_apply op hinv)

/-- The run lemma: a registry replayed from changes satisfies the invariant of their history. -/
theorem replayInv_replay (ops : List RegistryOp) : ReplayInv ops.reverse (Registry.replay ops) := by
  have h := replayInv_foldl ops replayInv_nil
  rw [List.append_nil] at h
  exact h

/-- Under the invariant, looking a name up finds the tool its key was left. -/
theorem find?_of_replayInv {older : List RegistryOp} {reg : Registry}
    (hinv : ReplayInv older reg) (n : String) :
    reg.find? n = lastUnder (toolKey n) older := by
  unfold Registry.find?
  cases hfind : reg.tools.find? (fun e => e.1 == toolKey n) with
  | some e =>
    have hk : e.1 = toolKey n := by simpa using List.find?_some hfind
    rw [← hk, hinv.holds e (List.mem_of_find?_eq_some hfind)]
    rfl
  | none =>
    cases hlast : lastUnder (toolKey n) older with
    | none => rfl
    | some t =>
      obtain ⟨e, he, hk⟩ := List.mem_map.1 (hinv.present (toolKey n) (by simp [hlast]))
      exact absurd hfind (List.find?_isSome.2 ⟨e, he, by simp [hk]⟩ |> Option.isSome_iff_ne_none.1)

/-- A registration of a named tool succeeds, and puts it under its key. -/
theorem register_of_named {reg : Registry} {t : Tool} (hname : t.name.truthy = true) :
    reg.register t = .ok (reg.put t) := by
  simp [Registry.register, hname]

/-- Each key of an invariant registry shows the latest tool registered under it. -/
theorem filterMap_lastUnder {older : List RegistryOp} {reg : Registry} (hinv : ReplayInv older reg)
    {β : Type} (f : Tool → β) :
    reg.keys.filterMap (fun k => (lastUnder k older).map f) = reg.tools.map (fun e => f e.2) := by
  rw [Registry.keys, List.filterMap_map]
  exact List.filterMap_eq_map_iff_forall_eq_some.2 fun e he => by simp [hinv.holds e he]

/-- For every sequence of registrations and removals applied to an empty registry: keys are
distinct; looking a name up finds the latest tool registered under its key unless a later
removal of that key took it away; the keys stand in the order they were placed since their
most recent removal, and the names and definitions are listed in that order; and registering
a named tool under a key that has one replaces it in place. -/
theorem replay_keeps_registry_laws (ops : List RegistryOp) :
    let reg := Registry.replay ops
    let last := fun k => lastUnder k ops.reverse
    reg.keys.Nodup ∧
    (∀ n shown, reg.find? n = last (toolKey n) ∧ reg.has n = (last (toolKey n)).isSome ∧
      reg.get n shown = (last (toolKey n)).elim (.error (.notFound shown)) .ok) ∧
    (∀ k, k ∈ reg.keys ↔ (last k).isSome) ∧
    reg.keys.Pairwise (fun a b => placedAt a ops.reverse < placedAt b ops.reverse) ∧
    reg.names = reg.keys.filterMap (fun k => (last k).map (·.name)) ∧
    reg.definitions = reg.keys.filterMap (fun k => (last k).map definition) ∧
    ∀ t : Tool, t.name.truthy = true → (last (registryKey t)).isSome →
      ∃ reg', reg.register t = .ok reg' ∧ reg'.keys = reg.keys ∧
        reg'.find? (nameKey t.name) = some t := by
  intro reg last
  have hinv : ReplayInv ops.reverse reg := replayInv_replay ops
  have hfind : ∀ n, reg.find? n = last (toolKey n) := find?_of_replayInv hinv
  refine ⟨hinv.nodup, fun n shown => ⟨hfind n, ?_, ?_⟩, fun k => ⟨fun hk => ?_, hinv.present k⟩,
    ?_, (filterMap_lastUnder hinv _).symm, (filterMap_lastUnder hinv _).symm, ?_⟩
  · rw [Registry.has, hfind]
  · rw [Registry.get, hfind]
    cases last (toolKey n) <;> rfl
  · obtain ⟨e, he, rfl⟩ := List.mem_map.1 hk
    simp [last, hinv.holds e he]
  · rw [Registry.keys, List.pairwise_map]
    exact hinv.ordered
  · -- the key has an entry, so the tool takes that entry's place
    intro t hname hsome
    have hmem : registryKey t ∈ reg.keys := hinv.present _ hsome
    refine ⟨reg.put t, register_of_named hname, ?_, ?_⟩
    · rw [Registry.keys, Registry.keys_put_of_mem hmem, Registry.keys_replace]
      rfl
    · have hstep := replayInv_register_present hinv hname hmem
      rw [find?_of_replayInv hstep]
      exact lastUnder_register_self _ hname

/-- Registering `read_file` again after `read_file` and `edit` keeps it in the first place. -/
theorem reregistered_reader_keeps_place :
    let ops := [RegistryOp.register (ofBuiltin .reading), .register (ofBuiltin .editing)]
    let t := ofBuiltin .reading
    (t.name.truthy = true ∧ (lastUnder (registryKey t) ops.reverse).isSome) ∧
    ∃ reg', (Registry.replay ops).register t = .ok reg' ∧
      reg'.keys = (Registry.replay ops).keys ∧ reg'.find? (nameKey t.name) = some t := by
  intro ops t
  have hname : t.name.truthy = true := rfl
  have hsome : (lastUnder (registryKey t) ops.reverse).isSome := by decide
  exact ⟨⟨hname, hsome⟩, (replay_keeps_registry_laws ops).2.2.2.2.2.2 t hname hsome⟩

end CodingAgent.Tool
