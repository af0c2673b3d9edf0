import CodingAgent.Workspace.Files

/-!
# Walks that meet no link

`Files.walk` follows a path the way the system opens it, with fuel for every link it may meet
and a limit of 40 links. Along a path where no component is `..` and no prefix is a link the
walk is simpler: it looks each prefix up in turn, goes on through directories, stops at a file
unless it is the last component, and stops at anything missing. `Files.plainWalk` is that walk
without fuel, and `Files.walk_plain` says that the walk of the table is that walk.

Such a walk reads the table only at the prefixes of its path (`Files.plainWalk_congr`) and
reaches only the path itself (`Files.plainWalk_reached`), so what `follow?` and `list` find
there is decided by the nodes along the path (`Files.follow?_congr`, `Files.list_congr`).
-/

namespace CodingAgent.Workspace

namespace Files

/-! ## Nodes of the table -/

/-- A node found below the file system root is an entry of the table. -/
theorem mem_of_get? {fs : Files} {p : Path} {n : Node} (hp : p ≠ []) (h : fs.get? p = some n) :
    (p, n) ∈ fs.nodes := by
  simp only [get?, List.isEmpty_iff, hp, if_false, Option.map_eq_some_iff] at h
  obtain ⟨e, he, rfl⟩ := h
  have hpath : e.1 = p := by simpa using List.find?_some he
  rw [← hpath]
  exact List.mem_of_find?_eq_some he

/-- A path of the table all of whose entries hold one node names that node. -/
theorem get?_of_nodes {fs : Files} {p : Path} {n : Node} (hp : p ≠ [])
    (hsome : ∃ e ∈ fs.nodes, e.1 = p) (hall : ∀ e ∈ fs.nodes, e.1 = p → e.2 = n) :
    fs.get? p = some n := by
  simp only [get?, List.isEmpty_iff, hp, if_false]
  cases hfind : fs.nodes.find? (fun e => e.1 == p) with
  | none =>
    obtain ⟨e, he, hpath⟩ := hsome
    have := List.find?_eq_none.1 hfind e he
    simp [hpath] at this
  | some e =>
    have hpath : e.1 = p := by simpa using List.find?_some hfind
    simp [hall e (List.mem_of_find?_eq_some hfind) hpath]

/-! ## The plain walk -/

/-- The walk of `rest` from the directory `dir` when no link and no `..` is met. -/
def plainWalk (fs : Files) (dir : Path) : List String → Nat → Walk
  | [], n => .reached dir n
  | name :: rest, n =>
    match fs.get? (dir ++ [name]) with
    | some .dir => fs.plainWalk (dir ++ [name]) rest n
    | some (.file _) => if rest.isEmpty then .reached (dir ++ [name]) n else .stopped
    | _ => .stopped

/-- No component of `rest` is `..`, and no path from `dir` along `rest` is a link. -/
def PlainAlong (fs : Files) (dir : Path) (rest : List String) : Prop :=
  ".." ∉ rest ∧ ∀ r, r <+: rest → ∀ t, fs.get? (dir ++ r) ≠ some (.link t)

theorem PlainAlong.tail {fs : Files} {dir : Path} {name : String} {rest : List String}
    (h : fs.PlainAlong dir (name :: rest)) : fs.PlainAlong (dir ++ [name]) rest := by
  refine ⟨fun hmem => h.1 (List.mem_cons_of_mem _ hmem), fun r hr t => ?_⟩
  have hpre : name :: r <+: name :: rest := List.cons_prefix_cons.2 ⟨rfl, hr⟩
  simpa using h.2 (name :: r) hpre t

/-- With fuel beyond the length of the path, the walk of the table is the plain walk: the
fuel only pays for links, and none is met. -/
theorem walkLinks_plain (fs : Files) :
    ∀ (rest : List String) (dir : Path) (fuel n : Nat), rest.length < fuel →
      fs.PlainAlong dir rest → fs.walkLinks fuel dir rest n = fs.plainWalk dir rest n
  | _, _, 0, _, hlt, _ => absurd hlt (Nat.not_lt_zero _)
  | [], dir, fuel + 1, n, _, _ => by simp [walkLinks, plainWalk]
  | name :: rest, dir, fuel + 1, n, hlt, h => by
    have hname : (name == "..") = false := by
      simpa using fun he : name = ".." => h.1 (he ▸ List.mem_cons_self)
    have hlink : ∀ t, fs.get? (dir ++ [name]) ≠ some (.link t) := fun t =>
      by simpa using h.2 [name] (by simp) t
    rw [walkLinks, hname, if_neg Bool.false_ne_true, plainWalk]
    dsimp only
    cases hget : fs.get? (dir ++ [name]) with
    | none => rfl
    | some node =>
      cases node with
      | dir => exact walkLinks_plain fs rest _ fuel n (by simpa using hlt) h.tail
      | file bytes => rfl
      | link t => exact absurd hget (hlink t)

theorem walk_plain {fs : Files} {p : Path} (h : fs.PlainAlong [] p) :
    fs.walk p = fs.plainWalk [] p 0 :=
  fs.walkLinks_plain p [] _ 0 (by omega) h

/-- A plain walk reads the table only at the prefixes of its path. -/
theorem plainWalk_congr {fs fs' : Files} :
    ∀ {dir : Path} {rest : List String} (n : Nat),
      (∀ r, r <+: rest → fs.get? (dir ++ r) = fs'.get? (dir ++ r)) →
      fs.plainWalk dir rest n = fs'.plainWalk dir rest n
  | _, [], _, _ => rfl
  | dir, name :: rest, n, h => by
    have hname : fs.get? (dir ++ [name]) = fs'.get? (dir ++ [name]) := h [name] (by simp)
    have htail : ∀ r, r <+: rest → fs.get? (dir ++ [name] ++ r) = fs'.get? (dir ++ [name] ++ r) :=
      fun r hr => by simpa using h (name :: r) (List.cons_prefix_cons.2 ⟨rfl, hr⟩)
    simp only [plainWalk, hname, plainWalk_congr n htail]

/-- A plain walk that reaches a path reaches the end of its own path. -/
theorem plainWalk_reached {fs : Files} :
    ∀ {dir : Path} {rest : List String} {n : Nat} {q : Path} {m : Nat},
      fs.plainWalk dir rest n = .reached q m → q = dir ++ rest
  | _, [], _, _, _, h => by
    simp only [plainWalk, Walk.reached.injEq] at h
    simp [h.1]
  | dir, name :: rest, n, q, m, h => by
    simp only [plainWalk] at h
    split at h
    · simpa using plainWalk_reached h
    · split at h
      · simp only [Walk.reached.injEq] at h
        simp_all
      · cases h
    · cases h

theorem PlainAlong.congr {fs fs' : Files} {dir : Path} {rest : List String}
    (h : fs.PlainAlong dir rest)
    (hagree : ∀ r, r <+: rest → fs.get? (dir ++ r) = fs'.get? (dir ++ r)) :
    fs'.PlainAlong dir rest :=
  ⟨h.1, fun r hr => hagree r hr ▸ h.2 r hr⟩

/-- In a table without links, every path without `..` is plain. -/
theorem plainAlong_of_linkless {fs : Files} {p : Path}
    (hnodes : ∀ e ∈ fs.nodes, ∀ t, e.2 ≠ .link t) (hp : ".." ∉ p) : fs.PlainAlong [] p := by
  refine ⟨hp, fun r _ t hlink => ?_⟩
  by_cases hr : [] ++ r = []
  · simp [hr, get?] at hlink
  · exact hnodes _ (mem_of_get? hr hlink) t rfl

section Agreement

variable {fs fs' : Files} {p : Path}

/-- Two tables that agree along a plain path walk it alike. -/
theorem walk_congr (hp : fs.PlainAlong [] p) (hagree : ∀ r, r <+: p → fs.get? r = fs'.get? r) :
    fs'.walk p = fs.walk p := by
  have hagree' : ∀ r, r <+: p → fs.get? ([] ++ r) = fs'.get? ([] ++ r) := by simpa using hagree
  rw [walk_plain hp, walk_plain (hp.congr hagree'), plainWalk_congr 0 hagree']

theorem follow?_congr (hp : fs.PlainAlong [] p) (hagree : ∀ r, r <+: p → fs.get? r = fs'.get? r) :
    fs'.follow? p = fs.follow? p := by
  rw [follow?, follow?, walk_congr hp hagree, walk_plain hp]
  split
  · next q m hq =>
    have hqp : q = p := by simpa using plainWalk_reached hq
    subst hqp
    exact (hagree q (List.prefix_refl q)).symm
  · rfl

theorem list_congr (hp : fs.PlainAlong [] p) (hagree : ∀ r, r <+: p → fs.get? r = fs'.get? r)
    (hentries : fs'.entries p = fs.entries p) : fs'.list p = fs.list p := by
  rw [list, list, walk_congr hp hagree, walk_plain hp]
  split
  · next q m hq =>
    have hqp : q = p := by simpa using plainWalk_reached hq
    subst hqp
    exact hentries
  · rfl

end Agreement

end Files

end CodingAgent.Workspace
