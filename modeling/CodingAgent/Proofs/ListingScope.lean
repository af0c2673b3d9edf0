import CodingAgent.Proofs.ListingCap

/-!
# What a directory listing reads

`list_dir` checks only the path it is asked for. Below that path the listing follows links as
the system does: a subdirectory that is a link to a directory outside the workspace is listed
with its item count, and the tree goes on inside it (`link_out_reveals_outside`).

Where no link stands below the listed directory, no name there is `..`, and no path along the
directory is a link (as for a resolved path), the listing reads nothing but the nodes on the
way to the directory and below it. `listingText_keepAlong` says that cutting the table down to
those nodes (`Files.keepAlong`) leaves the listing as it is, flat or recursive, at any depth:
whatever lies elsewhere, inside the workspace or outside it, can change without the listing
showing it.

The proof follows what the listing reads. Each name it lists is a child in the table
(`exists_node_of_mem_names`), so the child's path is plain as well (`PlainBelow.child`), and
the two tables agree along it (`keepAlong_get?`, `keepAlong_entries`). `follow?` and `list`
then agree by `Files.follow?_congr` and `Files.list_congr`. The tree listing holds the
entries of the traversal (`treeListing_capped`), so it is enough that the traversals agree
(`treeEntries_keepAlong`), by induction on the levels left.
-/

namespace CodingAgent.Workspace

namespace Files

/-- The table cut down to the paths along `dir` and below it. -/
def keepAlong (fs : Files) (dir : Path) : Files :=
  { nodes := fs.nodes.filter fun e => dir.isPrefixOf e.1 || e.1.isPrefixOf dir }

/-- No component of `dir` is `..` and no path along it is a link; below `dir` the table holds
no link and no `..` component. -/
structure PlainBelow (fs : Files) (dir : Path) : Prop where
  along : fs.PlainAlong [] dir
  below : ∀ e ∈ fs.nodes, dir <+: e.1 → ".." ∉ e.1 ∧ ∀ t, e.2 ≠ .link t

section Cut

variable {fs : Files} {dir : Path}

/-- The cut table holds what the table holds along `dir` and below it. -/
theorem keepAlong_get? {p : Path} (hp : dir <+: p ∨ p <+: dir) :
    (fs.keepAlong dir).get? p = fs.get? p := by
  simp only [get?, keepAlong, List.find?_filter]
  congr 3
  funext e
  by_cases he : e.1 = p
  · subst he
    simp [List.isPrefixOf_iff_prefix, hp]
  · simp [he]

/-- Below `dir` the cut table has the same entries. -/
theorem keepAlong_entries {q : Path} (hq : dir <+: q) :
    (fs.keepAlong dir).entries q = fs.entries q := by
  simp only [entries, keepAlong, List.filterMap_filter]
  congr 2
  funext e
  by_cases hchild : (e.1.length == q.length + 1 && q.isPrefixOf e.1) = true
  · have hbelow : dir.isPrefixOf e.1 = true := by
      simp only [Bool.and_eq_true, List.isPrefixOf_iff_prefix] at hchild ⊢
      exact hq.trans hchild.2
    simp [hbelow]
  · simp [hchild]

/-- A path below `dir` agrees in the two tables at every prefix. -/
theorem keepAlong_agree {q : Path} (hq : dir <+: q) :
    ∀ r, r <+: q → fs.get? r = (fs.keepAlong dir).get? r := fun _ hr =>
  (keepAlong_get? (List.prefix_or_prefix_of_prefix hq hr)).symm

end Cut

/-- A path of the table one longer than `q` and below it is a child of `q`. -/
theorem eq_append_getLastD {q l : Path} (hlen : l.length = q.length + 1) (hpre : q <+: l) :
    l = q ++ [l.getLastD ""] := by
  obtain ⟨t, rfl⟩ := hpre
  rw [List.length_append] at hlen
  cases t with
  | nil => simp at hlen
  | cons x rest =>
    cases rest with
    | nil => simp
    | cons y rest => simp at hlen

/-- A name listed in a directory reached by a plain walk is a child in the table. -/
theorem exists_node_of_mem_names {fs : Files} {q : Path} {n : String}
    (hq : fs.PlainAlong [] q) (hn : n ∈ (fs.list q).map (·.1)) :
    ∃ node, (q ++ [n], node) ∈ fs.nodes := by
  rw [list, walk_plain hq] at hn
  split at hn
  · next q' m hreach =>
    have hq' : q' = q := by simpa using plainWalk_reached hreach
    subst hq'
    obtain ⟨⟨name, node⟩, hmem, rfl⟩ := List.mem_map.1 hn
    obtain ⟨e, he, hchild⟩ := List.mem_filterMap.1 ((Tool.entries_perm fs q').mem_iff.1 hmem)
    simp only [Bool.and_eq_true, beq_iff_eq, List.isPrefixOf_iff_prefix] at hchild
    split at hchild
    · next hcond =>
      simp only [Option.some.injEq, Prod.mk.injEq] at hchild
      refine ⟨e.2, ?_⟩
      rw [← hchild.1, ← eq_append_getLastD hcond.1 hcond.2]
      exact he
    · cases hchild
  · simp at hn

/-- Below a plain directory, the path of every node is plain. -/
theorem PlainBelow.plainAlong {fs : Files} {dir p : Path} (h : fs.PlainBelow dir)
    {node : Node} (hmem : (p, node) ∈ fs.nodes) (hp : dir <+: p) : fs.PlainAlong [] p := by
  refine ⟨(h.below _ hmem hp).1, fun r hr t hlink => ?_⟩
  rw [List.nil_append] at hlink
  rcases List.prefix_or_prefix_of_prefix hr hp with hrd | hdr
  · exact h.along.2 r hrd t (by simpa using hlink)
  · by_cases hnil : r = []
    · subst hnil
      simp [get?] at hlink
    · exact (h.below _ (mem_of_get? hnil hlink) (by simpa using hdr)).2 t rfl

/-- A table without links and `..` components is plain below every path without `..`. -/
theorem PlainBelow.of_linkless {fs : Files} {dir : Path}
    (hnodes : ∀ e ∈ fs.nodes, ".." ∉ e.1 ∧ ∀ t, e.2 ≠ .link t) (hdir : ".." ∉ dir) :
    fs.PlainBelow dir :=
  ⟨plainAlong_of_linkless (fun e he => (hnodes e he).2) hdir, fun e he _ => hnodes e he⟩

/-- A name listed in a plain directory below `dir` names a plain path below `dir`. -/
theorem PlainBelow.child {fs : Files} {dir q : Path} {n : String} (h : fs.PlainBelow dir)
    (hq : dir <+: q) (hplain : fs.PlainAlong [] q) (hn : n ∈ (fs.list q).map (·.1)) :
    dir <+: q ++ [n] ∧ fs.PlainAlong [] (q ++ [n]) := by
  have hbelow : dir <+: q ++ [n] := hq.trans (List.prefix_append q [n])
  obtain ⟨node, hmem⟩ := exists_node_of_mem_names hplain hn
  exact ⟨hbelow, h.plainAlong hmem hbelow⟩

end Files

end CodingAgent.Workspace

namespace CodingAgent.Tool

open CodingAgent.Workspace

/-- Lists of lists joined from pieces that agree on each element agree. -/
theorem flatMap_congr {α β : Type} {f g : α → List β} :
    ∀ {l : List α}, (∀ a ∈ l, f a = g a) → l.flatMap f = l.flatMap g
  | [], _ => rfl
  | a :: l, h => by
    rw [List.flatMap_cons, List.flatMap_cons, h a List.mem_cons_self,
      flatMap_congr fun b hb => h b (List.mem_cons_of_mem a hb)]

section Scope

variable {fs : Files} {dir : Path}

/-- Along a plain path below `dir`, the cut table lists the same entries. -/
theorem keepAlong_list {q : Path} (hq : dir <+: q) (hplain : fs.PlainAlong [] q) :
    (fs.keepAlong dir).list q = fs.list q :=
  Files.list_congr hplain (Files.keepAlong_agree hq) (Files.keepAlong_entries hq)

/-- Along a plain path below `dir`, the cut table finds the same node. -/
theorem keepAlong_follow? {q : Path} (hq : dir <+: q) (hplain : fs.PlainAlong [] q) :
    (fs.keepAlong dir).follow? q = fs.follow? q :=
  Files.follow?_congr hplain (Files.keepAlong_agree hq)

variable (h : fs.PlainBelow dir) {q : Path} (hq : dir <+: q) (hplain : fs.PlainAlong [] q)
include h hq hplain

/-- What the listing shows of a child of a plain directory below `dir`: whether it is a
directory or a file, its line with its item count or size. -/
theorem keepAlong_child {n : String} (hn : n ∈ (fs.list q).map (·.1)) (indent : String) :
    (fs.keepAlong dir).isDir (q ++ [n]) = fs.isDir (q ++ [n]) ∧
      (fs.keepAlong dir).isFile (q ++ [n]) = fs.isFile (q ++ [n]) ∧
      dirLine (fs.keepAlong dir) indent q n = dirLine fs indent q n ∧
      fileLine (fs.keepAlong dir) indent q n = fileLine fs indent q n := by
  obtain ⟨hbelow, hchild⟩ := h.child hq hplain hn
  have hfollow := keepAlong_follow? hbelow hchild
  refine ⟨?_, ?_, ?_, ?_⟩
  · simp only [Files.isDir, hfollow]
  · simp only [Files.isFile, hfollow]
  · simp only [dirLine, keepAlong_list hbelow hchild]
  · simp only [fileLine, Files.size, hfollow]

theorem keepAlong_treeSubdirs : treeSubdirs (fs.keepAlong dir) q = treeSubdirs fs q := by
  unfold treeSubdirs
  rw [keepAlong_list hq hplain]
  refine List.filter_congr fun n hn => ?_
  rw [(keepAlong_child h hq hplain hn "").1]

theorem keepAlong_treeFiles : treeFiles (fs.keepAlong dir) q = treeFiles fs q := by
  unfold treeFiles
  rw [keepAlong_list hq hplain]
  refine List.filter_congr fun n hn => ?_
  rw [(keepAlong_child h hq hplain hn "").2.1]

/-- The lines of one level of the tree read the same in the two tables. -/
theorem keepAlong_levelLines (indent : String) :
    (treeSubdirs (fs.keepAlong dir) q).map (dirLine (fs.keepAlong dir) indent q) ++
        (treeFiles (fs.keepAlong dir) q).map (fileLine (fs.keepAlong dir) indent q) =
      (treeSubdirs fs q).map (dirLine fs indent q) ++
        (treeFiles fs q).map (fileLine fs indent q) := by
  rw [keepAlong_treeSubdirs h hq hplain, keepAlong_treeFiles h hq hplain]
  congr 1
  · exact List.map_congr_left fun n hn =>
      (keepAlong_child h hq hplain (List.mem_filter.1 hn).1 indent).2.2.1
  · exact List.map_congr_left fun n hn =>
      (keepAlong_child h hq hplain (List.mem_filter.1 hn).1 indent).2.2.2

omit hq hplain in
/-- The traversal below a plain directory reads the same in the cut table, by induction on the
levels left: each subdirectory entered is a plain child below `dir`. -/
theorem treeEntries_keepAlong (below : Nat) :
    ∀ {q : Path} (indent : String), dir <+: q → fs.PlainAlong [] q →
      treeEntries (fs.keepAlong dir) below q indent = treeEntries fs below q indent := by
  induction below with
  | zero =>
    intro q indent hq hplain
    rw [treeEntries_zero, treeEntries_zero, keepAlong_levelLines h hq hplain]
  | succ b ih =>
    intro q indent hq hplain
    rw [treeEntries_succ, treeEntries_succ, keepAlong_levelLines h hq hplain,
      keepAlong_treeSubdirs h hq hplain]
    congr 1
    refine flatMap_congr fun n hn => ?_
    obtain ⟨hbelow, hchild⟩ := h.child hq hplain (List.mem_filter.1 hn).1
    exact ih _ hbelow hchild

omit hq hplain in
theorem flatListing_keepAlong (label : String) :
    flatListing (fs.keepAlong dir) dir label = flatListing fs dir label := by
  have hdir : dir <+: dir := List.prefix_refl dir
  unfold flatListing
  dsimp only
  rw [keepAlong_list hdir h.along]
  congr 4
  · rw [List.filter_congr fun n hn => (keepAlong_child h hdir h.along hn "").1]
    exact List.map_congr_left fun n hn =>
      (keepAlong_child h hdir h.along (List.mem_filter.1 hn).1 "").2.2.1
  · rw [List.filter_congr fun n hn => (keepAlong_child h hdir h.along hn "").2.1]
    exact List.map_congr_left fun n hn =>
      (keepAlong_child h hdir h.along (List.mem_filter.1 hn).1 "").2.2.2

end Scope

/-- Below a directory with no link under it and none along its path, the listing, flat or
recursive and at every depth, reads only the nodes along the directory's path and below it: the
table cut down to those nodes gives the same text. -/
theorem listingText_keepAlong {fs : Files} {dir : Path} (h : fs.PlainBelow dir)
    (relative : String) (recursive : Bool) (maxDepth : Int) :
    listingText (fs.keepAlong dir) dir relative recursive maxDepth =
      listingText fs dir relative recursive maxDepth := by
  cases recursive with
  | false =>
    rw [listingText, listingText]
    simp only [Bool.not_false, if_true]
    exact flatListing_keepAlong h relative
  | true =>
    -- the tree listing holds the entries of the traversal, which agree in the two tables
    have hentries := treeEntries_keepAlong h (maxDepth - 1).toNat "" (List.prefix_refl dir) h.along
    rw [listingText_recursive, listingText_recursive,
      ((treeListing_capped (fs.keepAlong dir) _ dir "") _).1,
      ((treeListing_capped fs _ dir "") _).1, hentries]

/-- A workspace `ws` holding one text file `notes.txt`, beside a directory `x` outside it that
holds `secret.txt`. -/
def besideSecretFiles : Files :=
  { nodes := [(["ws"], .dir), (["ws", "notes.txt"], .file [104, 105]), (["x"], .dir),
      (["x", "secret.txt"], .file [115])] }

theorem besideSecret_reads_inside :
    besideSecretFiles.PlainBelow ["ws"] ∧
      listingText (besideSecretFiles.keepAlong ["ws"]) ["ws"] "." true 3 =
        listingText besideSecretFiles ["ws"] "." true 3 := by
  have hplain : besideSecretFiles.PlainBelow ["ws"] :=
    Files.PlainBelow.of_linkless (by simp [besideSecretFiles]) (by decide)
  exact ⟨hplain, listingText_keepAlong hplain "." true 3⟩

/-- The same workspace with a link `out` to the directory outside it: the listing counts what
the outside directory holds and lists `secret.txt`, while the table cut down to the workspace
lists nothing. -/
def linkOutFiles : Files :=
  { nodes := [(["ws"], .dir), (["ws", "out"], .link "../x"), (["x"], .dir),
      (["x", "secret.txt"], .file [115])] }

theorem link_out_reveals_outside :
    listingText linkOutFiles ["ws"] "." true 3 = "./\n  out/ (1 items)\n    secret.txt (1 B)\n" ∧
      listingText linkOutFiles ["ws"] "." false 3 = "./\n  out/ (1 items)\n" ∧
      listingText (linkOutFiles.keepAlong ["ws"]) ["ws"] "." true 3 = "./\n" := by
  refine ⟨by decide +kernel, by decide +kernel, by decide +kernel⟩

end CodingAgent.Tool
