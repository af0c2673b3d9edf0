import CodingAgent.Tool.Listing
import CodingAgent.Proofs.PlainWalks

/-!
# The item cap of the tree listing

Asked for a tree, `list_dir` adds entry lines one at a time and stops once `maxItems` of them
are there. The checks that stop it are spread over the three loops of a directory (its
subdirectories, its files, the trees below) and over every level of the recursion.

This module writes the traversal down without a cap (`treeEntries`): for each directory, its
subdirectories that are not left out, then its files, then the tree of each of those
subdirectories while levels are left. Main statements:

* `Listing.addCapped`: entry lines added under the cap are the first of them that fit.
  `treeListing_capped` says that the listing adds exactly the entries of the traversal that
  way, and reports stopping early only when it is full (`AddsCapped`). The proof follows the
  code: the check a directory starts with (`unlessFull_capped`), its two loops of `addAll`
  (`addAll_then_capped`), the trees of its subdirectories (`visit_capped`), by induction on the
  levels left.
* `listingText_tree`: the recursive listing is its label, then the first `min 500 T` lines of
  the traversal, where `T` counts its entries, then the truncation note exactly when
  `500 ≤ T`. The note is printed from the fullness of the listing, not from an entry left out.
* `full_listing_notes_truncation`: a directory `d` of 499 files makes `T = 500`; every entry is
  listed, and the note that the output was truncated is printed all the same.
-/

namespace CodingAgent.Tool

open CodingAgent CodingAgent.Workspace CodingAgent.Text

/-! ## Adding under the cap -/

/-- The listing with entry lines added while it has room: the first `maxItems - count` of
them. -/
def Listing.addCapped (l : Listing) (xs : List String) : Listing :=
  { lines := l.lines ++ xs.take (maxItems - l.count),
    count := l.count + min (maxItems - l.count) xs.length }

theorem Listing.full_iff (l : Listing) : l.full = true ↔ maxItems ≤ l.count := by
  simp [Listing.full]

/-- A full listing takes no more lines. -/
theorem Listing.addCapped_of_full {l : Listing} (h : l.full = true) (xs : List String) :
    l.addCapped xs = l := by
  have hroom : maxItems - l.count = 0 := by
    rw [Listing.full_iff] at h
    omega
  simp [Listing.addCapped, hroom]

theorem Listing.addCapped_nil (l : Listing) : l.addCapped [] = l := by
  simp [Listing.addCapped]

/-- A listing with room takes the first line and goes on with the rest. -/
theorem Listing.addCapped_cons {l : Listing} (h : l.full = false) (x : String)
    (xs : List String) : l.addCapped (x :: xs) = (l.add x).addCapped xs := by
  have hroom : maxItems - l.count = maxItems - (l.count + 1) + 1 := by
    have hlt : ¬ maxItems ≤ l.count := by
      rw [← Listing.full_iff, h]
      decide
    omega
  simp only [Listing.addCapped, Listing.add, hroom, List.take_succ_cons, List.length_cons,
    List.append_assoc, List.singleton_append, Listing.mk.injEq, true_and]
  omega

/-- Adding two runs of lines under the cap adds the two together. -/
theorem Listing.addCapped_append (l : Listing) (xs ys : List String) :
    (l.addCapped xs).addCapped ys = l.addCapped (xs ++ ys) := by
  simp only [Listing.addCapped, List.take_append, List.append_assoc, List.length_append,
    Listing.mk.injEq]
  constructor
  · congr 3
    omega
  · omega

/-- `addAll` adds the lines under the cap, and stops early only when the listing is full. -/
theorem addAll_capped (l : Listing) (xs : List String) :
    (addAll l xs).1 = l.addCapped xs ∧
      ((addAll l xs).2 = false → (addAll l xs).1.full = true) := by
  induction xs generalizing l with
  | nil => simp [addAll, Listing.addCapped_nil]
  | cons x xs ih =>
    rw [addAll]
    cases hfull : l.full
    · simp only [Bool.false_eq_true, if_false]
      rw [Listing.addCapped_cons hfull]
      exact ih (l.add x)
    · simp [Listing.addCapped_of_full hfull, hfull]

/-! ## The traversal without a cap -/

/-- The subdirectories of `dir` that a tree listing enters: those whose names, in lower case,
are not left out. -/
def treeSubdirs (fs : Files) (dir : Path) : List String :=
  ((fs.list dir).map (·.1)).filter (fun n =>
    fs.isDir (dir ++ [n]) && !excludedDirs.contains (lower n))

/-- The files directly inside `dir`. -/
def treeFiles (fs : Files) (dir : Path) : List String :=
  ((fs.list dir).map (·.1)).filter (fun n => fs.isFile (dir ++ [n]))

/-- The entry lines of the tree below `dir` without a cap: the subdirectories of `dir` that
are not left out, then its files, then, while `below` more levels are entered, the tree of each
of those subdirectories, two more spaces in. -/
def treeEntries (fs : Files) : Nat → Path → String → List String
  | below, dir, indent =>
    (treeSubdirs fs dir).map (dirLine fs indent dir) ++
      (treeFiles fs dir).map (fileLine fs indent dir) ++
      match below with
      | 0 => []
      | b + 1 => (treeSubdirs fs dir).flatMap fun n =>
        treeEntries fs b (dir ++ [n]) (indent ++ "  ")

theorem treeEntries_zero (fs : Files) (dir : Path) (indent : String) :
    treeEntries fs 0 dir indent =
      (treeSubdirs fs dir).map (dirLine fs indent dir) ++
        (treeFiles fs dir).map (fileLine fs indent dir) := by
  rw [treeEntries, List.append_nil]

theorem treeEntries_succ (fs : Files) (b : Nat) (dir : Path) (indent : String) :
    treeEntries fs (b + 1) dir indent =
      (treeSubdirs fs dir).map (dirLine fs indent dir) ++
        (treeFiles fs dir).map (fileLine fs indent dir) ++
        (treeSubdirs fs dir).flatMap fun n => treeEntries fs b (dir ++ [n]) (indent ++ "  ") := by
  rw [treeEntries]

/-- A directory without subdirectories to enter lists its files and nothing below. -/
theorem length_treeEntries_of_no_subdirs {fs : Files} {dir : Path}
    (h : treeSubdirs fs dir = []) (below : Nat) (indent : String) :
    (treeEntries fs below dir indent).length = (treeFiles fs dir).length := by
  cases below with
  | zero => simp [treeEntries_zero, h]
  | succ b => simp [treeEntries_succ, h]

/-- A directory with one subdirectory to enter lists it, its files, and the tree below it. -/
theorem length_treeEntries_of_one_subdir {fs : Files} {dir : Path} {n : String}
    (h : treeSubdirs fs dir = [n]) (b : Nat) (indent : String) :
    (treeEntries fs (b + 1) dir indent).length =
      1 + (treeFiles fs dir).length + (treeEntries fs b (dir ++ [n]) (indent ++ "  ")).length := by
  simp [treeEntries_succ, h]
  omega

/-- A run that adds `entries` under the cap to the listing it starts from, and reports stopping
early only when the listing is full. -/
def AddsCapped (run : Listing → Listing × Bool) (entries : List String) : Prop :=
  ∀ l, (run l).1 = l.addCapped entries ∧ ((run l).2 = false → (run l).1.full = true)

/-- The trees of the subdirectories, visited while the listing has room, add their entries one
tree after the other. -/
theorem visit_capped (fs : Files) (b : Nat) (dir : Path) (indent : String)
    (ih : ∀ n : String, AddsCapped (treeListing fs b (dir ++ [n]) (indent ++ "  "))
      (treeEntries fs b (dir ++ [n]) (indent ++ "  "))) :
    ∀ (subdirs : List String) (acc : Listing × Bool), (acc.2 = false → acc.1.full = true) →
      let r := subdirs.foldl (fun (acc : Listing × Bool) n =>
        if !acc.2 || acc.1.full then (acc.1, false)
        else treeListing fs b (dir ++ [n]) (indent ++ "  ") acc.1) acc
      r.1 = acc.1.addCapped
          (subdirs.flatMap fun n => treeEntries fs b (dir ++ [n]) (indent ++ "  ")) ∧
        (r.2 = false → r.1.full = true)
  | [], acc, hacc => by simpa [Listing.addCapped_nil] using hacc
  | n :: rest, acc, hacc => by
    rw [List.foldl_cons, List.flatMap_cons]
    by_cases hstop : (!acc.2 || acc.1.full) = true
    · -- the listing is full: nothing more is added
      have hfull : acc.1.full = true := by
        cases h2 : acc.2
        · exact hacc h2
        · simpa [h2] using hstop
      rw [if_pos hstop]
      have hr := visit_capped fs b dir indent ih rest (acc.1, false) fun _ => hfull
      simp only at hr
      rwa [Listing.addCapped_of_full hfull] at hr ⊢
    · rw [if_neg hstop]
      obtain ⟨h1, h2⟩ := ih n acc.1
      have hr := visit_capped fs b dir indent ih rest _ h2
      simp only at hr
      rwa [h1, Listing.addCapped_append] at hr

/-- The check a directory starts with: a full listing is left as it is. -/
theorem unlessFull_capped {run : Listing → Listing × Bool} {entries : List String}
    (h : AddsCapped run entries) :
    AddsCapped (fun l => if l.full then (l, false) else run l) entries := by
  intro l
  cases hfull : l.full
  · simpa [hfull] using h l
  · simp [Listing.addCapped_of_full hfull, hfull]

/-- One stage of a directory: its lines are added, and what follows runs only when all of them
fit. -/
theorem addAll_then_capped {xs ys : List String} {rest : Listing → Listing × Bool}
    (h : AddsCapped rest ys) :
    AddsCapped (fun l => if !(addAll l xs).2 then ((addAll l xs).1, false)
      else rest (addAll l xs).1) (xs ++ ys) := by
  intro l
  obtain ⟨hlines, hstop⟩ := addAll_capped l xs
  rw [← Listing.addCapped_append, ← hlines]
  cases hmore : (addAll l xs).2
  · -- stopped inside this stage: the listing is full and takes nothing more
    have hfull := hstop hmore
    simp [hmore, Listing.addCapped_of_full hfull, hfull]
  · simpa [hmore] using h (addAll l xs).1

theorem stop_capped : AddsCapped (fun l => (l, true)) [] := by
  intro l
  simp [Listing.addCapped_nil]

/-- `treeListing` adds the entries of the traversal without a cap, under the cap, by induction
on the levels left below the directory. -/
theorem treeListing_capped (fs : Files) (below : Nat) :
    ∀ (dir : Path) (indent : String),
      AddsCapped (treeListing fs below dir indent) (treeEntries fs below dir indent) := by
  induction below with
  | zero =>
    intro dir indent l
    rw [treeListing]
    unfold treeEntries
    rw [List.append_assoc]
    exact unlessFull_capped (addAll_then_capped (addAll_then_capped stop_capped)) l
  | succ b ih =>
    intro dir indent l
    rw [treeListing]
    unfold treeEntries
    rw [List.append_assoc]
    have hvisit : AddsCapped _ _ := fun l =>
      visit_capped fs b dir indent (fun n => ih (dir ++ [n]) (indent ++ "  ")) (treeSubdirs fs dir)
        (l, true) (by simp)
    exact unlessFull_capped (addAll_then_capped (addAll_then_capped hvisit)) l

/-- A tree listing started from its label alone holds the label and the first `maxItems`
entries of the traversal, and is full exactly when the traversal has that many. -/
theorem treeListing_label (fs : Files) (below : Nat) (dir : Path) (label : String) :
    (treeListing fs below dir "" { lines := [label] }).1.lines =
        label :: (treeEntries fs below dir "").take maxItems ∧
      ((treeListing fs below dir "" { lines := [label] }).1.full = true ↔
        maxItems ≤ (treeEntries fs below dir "").length) := by
  rw [(treeListing_capped fs below dir "" { lines := [label] }).1, Listing.full_iff]
  simp only [Listing.addCapped, Nat.sub_zero, List.singleton_append, Nat.zero_add, true_and]
  omega

/-! ## The listing text -/

/-- The recursive listing text: the lines of the listing, then the truncation note when the
listing is full. -/
theorem listingText_recursive (fs : Files) (dir : Path) (relative : String) (maxDepth : Int) :
    listingText fs dir relative true maxDepth =
      "\n".intercalate
          (treeListing fs (maxDepth - 1).toNat dir "" { lines := [relative ++ "/"] }).1.lines ++
        "\n" ++
        (if (treeListing fs (maxDepth - 1).toNat dir "" { lines := [relative ++ "/"] }).1.full then
          "\n... (output truncated at " ++ toString maxItems ++ " items)\n"
        else "") := by
  rw [listingText]
  simp only [Bool.not_true, Bool.false_eq_true, if_false]
  split
  · simp only [String.append_assoc]
  · rw [String.append_empty]

/-- The recursive listing: its label, the first `maxItems` entries of the traversal without a
cap, and the truncation note exactly when the traversal has `maxItems` entries or more. -/
theorem listingText_tree (fs : Files) (dir : Path) (relative : String) (maxDepth : Int) :
    listingText fs dir relative true maxDepth =
      "\n".intercalate ((relative ++ "/") ::
          (treeEntries fs (maxDepth - 1).toNat dir "").take maxItems) ++ "\n" ++
        (if maxItems ≤ (treeEntries fs (maxDepth - 1).toNat dir "").length then
          "\n... (output truncated at " ++ toString maxItems ++ " items)\n"
        else "") := by
  obtain ⟨hlines, hfull⟩ := treeListing_label fs (maxDepth - 1).toNat dir (relative ++ "/")
  rw [listingText_recursive, hlines]
  by_cases hcap : maxItems ≤ (treeEntries fs (maxDepth - 1).toNat dir "").length
  · rw [if_pos (hfull.2 hcap), if_pos hcap]
  · rw [if_neg (mt hfull.1 hcap), if_neg hcap]

/-! ## A directory of 499 files -/

/-- Inserting by name only reorders. -/
theorem insertByName_perm (e : String × Node) :
    ∀ xs : List (String × Node), (Files.insertByName e xs).Perm (e :: xs)
  | [] => List.Perm.refl _
  | x :: rest => by
    rw [Files.insertByName]
    split
    · exact List.Perm.refl _
    · exact ((insertByName_perm e rest).cons x).trans (List.Perm.swap e x rest)

/-- The entries of a directory are the children of its path in the table, reordered. -/
theorem entries_perm (fs : Files) (dir : Path) :
    (fs.entries dir).Perm (fs.nodes.filterMap fun e =>
      if e.1.length == dir.length + 1 && dir.isPrefixOf e.1 then some (e.1.getLastD "", e.2)
      else none) := by
  rw [Files.entries]
  generalize fs.nodes.filterMap _ = inside
  induction inside with
  | nil => exact List.Perm.refl _
  | cons e rest ih => exact (insertByName_perm e _).trans (ih.cons e)

/-- The name of the `i`-th file, four digits wide: `f0000.txt`, `f0001.txt` and so on. -/
def crowdedName (i : Nat) : String :=
  "f" ++ String.ofList (List.replicate (4 - (toString i).length) '0') ++ toString i ++ ".txt"

/-- A workspace `ws` holding one directory `d` of 499 empty files. -/
def crowdedFiles : Files :=
  { nodes := (["ws"], .dir) :: (["ws", "d"], .dir) ::
      (List.range 499).map fun i => (["ws", "d", crowdedName i], .file []) }

theorem crowdedName_ne_up (i : Nat) : crowdedName i ≠ ".." := by
  intro h
  have hhead := congrArg (fun s : String => s.toList.head?) h
  simp [crowdedName, String.toList_append] at hhead

theorem crowdedFiles_plain {p : Path} (hp : ".." ∉ p) : crowdedFiles.PlainAlong [] p := by
  refine ⟨hp, fun r _ t hlink => ?_⟩
  by_cases hr : [] ++ r = []
  · simp [hr, Files.get?] at hlink
  · have hmem := Files.mem_of_get? hr hlink
    simp [crowdedFiles] at hmem

theorem crowdedFiles_ws : crowdedFiles.get? ["ws"] = some .dir :=
  Files.get?_of_nodes (by simp) ⟨_, List.mem_cons_self, rfl⟩ (by simp [crowdedFiles])

theorem crowdedFiles_d : crowdedFiles.get? ["ws", "d"] = some .dir :=
  Files.get?_of_nodes (by simp) ⟨_, List.mem_cons_of_mem _ List.mem_cons_self, rfl⟩
    (by simp [crowdedFiles])

theorem crowdedFiles_file {i : Nat} (hi : i < 499) :
    crowdedFiles.get? ["ws", "d", crowdedName i] = some (.file []) := by
  refine Files.get?_of_nodes (by simp) ⟨(["ws", "d", crowdedName i], .file []), ?_, rfl⟩ ?_
  · simp only [crowdedFiles, List.mem_cons, List.mem_map, List.mem_range]
    exact Or.inr (Or.inr ⟨i, hi, rfl⟩)
  · simp [crowdedFiles]

theorem crowdedFiles_follow_d :
    crowdedFiles.follow? ["ws", "d"] = some .dir := by
  rw [Files.follow?, Files.walk_plain (crowdedFiles_plain (by decide))]
  simp [Files.plainWalk, crowdedFiles_ws, crowdedFiles_d]

theorem crowdedFiles_follow_file {i : Nat} (hi : i < 499) :
    crowdedFiles.follow? ["ws", "d", crowdedName i] = some (.file []) := by
  have hup : ".." ∉ ["ws", "d", crowdedName i] := by
    simp [(crowdedName_ne_up i).symm]
  rw [Files.follow?, Files.walk_plain (crowdedFiles_plain hup)]
  simp [Files.plainWalk, crowdedFiles_ws, crowdedFiles_d, crowdedFiles_file hi]

theorem crowdedFiles_walk_ws : crowdedFiles.walk ["ws"] = .reached ["ws"] 0 := by
  rw [Files.walk_plain (crowdedFiles_plain (by decide))]
  simp [Files.plainWalk, crowdedFiles_ws]

theorem crowdedFiles_walk_d : crowdedFiles.walk ["ws", "d"] = .reached ["ws", "d"] 0 := by
  rw [Files.walk_plain (crowdedFiles_plain (by decide))]
  simp [Files.plainWalk, crowdedFiles_ws, crowdedFiles_d]

theorem crowdedFiles_children_ws :
    crowdedFiles.nodes.filterMap (fun e =>
      if e.1.length == ["ws"].length + 1 && ["ws"].isPrefixOf e.1 then
        some (e.1.getLastD "", e.2)
      else none) = [("d", Node.dir)] := by
  simp [crowdedFiles, List.filterMap_map]

theorem crowdedFiles_children_d :
    crowdedFiles.nodes.filterMap (fun e =>
      if e.1.length == ["ws", "d"].length + 1 && ["ws", "d"].isPrefixOf e.1 then
        some (e.1.getLastD "", e.2)
      else none) = (List.range 499).map fun i => (crowdedName i, Node.file []) := by
  -- the composed function is unfolded whole, never applied point by point
  simp [crowdedFiles, List.filterMap_map, Function.comp_def, -Function.comp_apply]

theorem crowdedFiles_names_ws : (crowdedFiles.list ["ws"]).map (·.1) = ["d"] := by
  have hperm := (entries_perm crowdedFiles ["ws"]).map (·.1)
  rw [crowdedFiles_children_ws] at hperm
  simpa [Files.list, crowdedFiles_walk_ws] using hperm

theorem crowdedFiles_names_d :
    ((crowdedFiles.list ["ws", "d"]).map (·.1)).Perm ((List.range 499).map crowdedName) := by
  have hperm := (entries_perm crowdedFiles ["ws", "d"]).map (·.1)
  rw [crowdedFiles_children_d, List.map_map] at hperm
  simpa [Files.list, crowdedFiles_walk_d, Function.comp_def] using hperm

theorem crowded_treeSubdirs_ws : treeSubdirs crowdedFiles ["ws"] = ["d"] := by
  have hkept : lower "d" ∉ excludedDirs := by decide +kernel
  simp [treeSubdirs, crowdedFiles_names_ws, Files.isDir, crowdedFiles_follow_d, hkept]

theorem crowded_treeFiles_ws : treeFiles crowdedFiles ["ws"] = [] := by
  simp [treeFiles, crowdedFiles_names_ws, Files.isFile, crowdedFiles_follow_d]

/-- Each name listed in `d` is one of the 499 files. -/
theorem crowdedFiles_follow_of_mem {n : String}
    (hn : n ∈ (crowdedFiles.list ["ws", "d"]).map (·.1)) :
    crowdedFiles.follow? ["ws", "d", n] = some (.file []) := by
  obtain ⟨i, hi, rfl⟩ := List.mem_map.1 (crowdedFiles_names_d.mem_iff.1 hn)
  exact crowdedFiles_follow_file (List.mem_range.1 hi)

theorem crowded_treeSubdirs_d : treeSubdirs crowdedFiles ["ws", "d"] = [] := by
  refine List.filter_eq_nil_iff.2 fun n hn => ?_
  simp [Files.isDir, crowdedFiles_follow_of_mem hn]

theorem crowded_treeFiles_d : (treeFiles crowdedFiles ["ws", "d"]).length = 499 := by
  have hall : treeFiles crowdedFiles ["ws", "d"] = (crowdedFiles.list ["ws", "d"]).map (·.1) :=
    List.filter_eq_self.2 fun n hn => by simp [Files.isFile, crowdedFiles_follow_of_mem hn]
  rw [hall, crowdedFiles_names_d.length_eq]
  simp

theorem crowded_entries_length : (treeEntries crowdedFiles 2 ["ws"] "").length = maxItems := by
  have hpath : (["ws"] ++ ["d"] : Path) = ["ws", "d"] := rfl
  rw [length_treeEntries_of_one_subdir crowded_treeSubdirs_ws 1 "", crowded_treeFiles_ws, hpath,
    length_treeEntries_of_no_subdirs crowded_treeSubdirs_d, crowded_treeFiles_d]
  rfl

/-- A directory of 499 files below the listed one makes a traversal of exactly `maxItems`
entries: the directory and its files. The listing holds every one of them and says all the same
that it was truncated. -/
theorem full_listing_notes_truncation :
    (treeEntries crowdedFiles 2 ["ws"] "").length = maxItems ∧
      listingText crowdedFiles ["ws"] "." true 3 =
        "\n".intercalate ("./" :: treeEntries crowdedFiles 2 ["ws"] "") ++ "\n" ++
          "\n... (output truncated at 500 items)\n" := by
  refine ⟨crowded_entries_length, ?_⟩
  obtain ⟨hlines, hfull⟩ := treeListing_label crowdedFiles ((3 : Int) - 1).toNat ["ws"] ("." ++ "/")
  have hlength : (treeEntries crowdedFiles ((3 : Int) - 1).toNat ["ws"] "").length = maxItems :=
    crowded_entries_length
  have hbelow : ((3 : Int) - 1).toNat = 2 := by decide
  have hlabel : "." ++ "/" = "./" := by decide
  rw [listingText_recursive, hlines, if_pos (hfull.2 (Nat.le_of_eq hlength.symm)),
    List.take_of_length_le (Nat.le_of_eq hlength), hbelow, hlabel]
  congr 1

end CodingAgent.Tool
