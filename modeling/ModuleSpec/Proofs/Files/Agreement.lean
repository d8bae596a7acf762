import ModuleSpec.Proofs.Files.Found

/-!
# Trees that agree

What is collected from a file depends on the file and on the root that leads to
it, and on no other source file.  To say so, collected files carry their places.

**Idea.**  Two trees are compared at the places that count.  Elsewhere there may be
source files, with nothing beneath them: such a file is no ignore file, so both
trees have the same rules for every root.

**Results.**  `Agree.placed_filter`: of two trees that agree, the same is collected
at the places that count, in the same order, or nothing because of the same error.
-/

namespace ModuleSpec

/-- A source file that has been read, and where it lies. -/
structure Placed where
  place : List String
  source : SourceFile

namespace FileTree

/-- The source file that is read for a root at a path. -/
def placed?
    (tree : FileTree)
    (root : Path)
    (path : List String) :
    Option Placed :=
  (tree.source? (relativeTo (tree.resolve root) path) path).map (Placed.mk path)

/-- What is collected from a root, with the places. -/
def placedRoot
    (tree : FileTree)
    (selection : Selection)
    (root : Path) :
    Except CollectError (List Placed) :=
  (tree.candidates selection root).map fun found => found.filterMap (tree.placed? root)

/-- What is collected from all roots, with the places. -/
def placed
    (tree : FileTree)
    (roots : List Path)
    (selection : Selection) :
    Except CollectError (List Placed) :=
  (roots.mapM (tree.placedRoot selection)).map fun groups =>
    groups.flatten.mergeSort fun a b => decide (a.source.path ≤ b.source.path)

theorem collectRoot_eq_map
    (tree : FileTree)
    (selection : Selection)
    (root : Path) :
    tree.collectRoot selection root =
      (tree.placedRoot selection root).map (List.map Placed.source) := by
  rw [collectRoot, placedRoot]
  cases tree.candidates selection root with
  | error e =>
      rfl
  | ok found =>
      refine congrArg Except.ok ?_
      rw [List.map_filterMap]
      refine congrArg (List.filterMap · found) (funext fun path => ?_)
      rw [placed?, Option.map_map]
      exact Option.map_id'.symm

/-- What is collected comes from the roots, and is in the order of the paths. -/
theorem collect_eq_ok_iff
    {tree : FileTree}
    {roots : List Path}
    {selection : Selection}
    {files : List SourceFile} :
    tree.collect roots selection = .ok files ↔
      ∃ groups, roots.mapM (tree.collectRoot selection) = .ok groups ∧
        files = groups.flatten.mergeSort fun a b => decide (a.path ≤ b.path) := by
  rw [collect, bind_eq_ok_iff]
  exact exists_congr fun groups => and_congr_right fun _ =>
    ⟨fun h => (Except.ok.inj h).symm, fun h => congrArg Except.ok h.symm⟩

/-- What is collected from one root stays as it is, where it is in order. -/
theorem collect_singleton
    {tree : FileTree}
    {root : Path}
    {selection : Selection}
    {files : List SourceFile}
    (h : tree.collectRoot selection root = .ok files)
    (hordered : files.Pairwise fun a b => a.path ≤ b.path) :
    tree.collect [root] selection = .ok files := by
  refine collect_eq_ok_iff.2 ⟨[files], mapM_cons_eq_ok_iff.2 ⟨files, [], h, rfl, rfl⟩, ?_⟩
  rw [List.flatten_singleton, List.mergeSort_of_pairwise (hordered.imp decide_eq_true)]

theorem pairwise_collect
    {tree : FileTree}
    {roots : List Path}
    {selection : Selection}
    {files : List SourceFile}
    (h : tree.collect roots selection = .ok files) :
    files.Pairwise fun a b => a.path ≤ b.path := by
  obtain ⟨groups, -, rfl⟩ := collect_eq_ok_iff.1 h
  have horder := Compares.text SourceFile.path
  exact (List.pairwise_mergeSort horder.trans horder.total groups.flatten).imp of_decide_eq_true

/-- What comes of all roots is put in the same order before and after something is left off. -/
theorem gathered_map
    {α β γ ε : Type}
    (f : α → Except ε (List β))
    (g : β → γ)
    (path : γ → String)
    (roots : List α) :
    (roots.mapM fun root => (f root).map (List.map g)).map
        (fun groups => groups.flatten.mergeSort fun a b => decide (path a ≤ path b)) =
      ((roots.mapM f).map fun groups =>
        groups.flatten.mergeSort fun a b => decide (path (g a) ≤ path (g b))).map (List.map g) := by
  rw [mapM_map]
  cases roots.mapM f with
  | error e =>
      rfl
  | ok groups =>
      refine congrArg Except.ok ?_
      simp only [← List.map_flatten]
      exact (List.map_mergeSort (s := fun a b => decide (path a ≤ path b)) fun a _ b _ => rfl).symm

/-- The places are written beside what is collected, and change nothing. -/
theorem collect_eq_map_placed
    (tree : FileTree)
    (roots : List Path)
    (selection : Selection) :
    tree.collect roots selection =
      (tree.placed roots selection).map (List.map Placed.source) := by
  have hroots : roots.mapM (tree.collectRoot selection) =
      roots.mapM fun root => (tree.placedRoot selection root).map (List.map Placed.source) :=
    congrArg roots.mapM (funext fun root => tree.collectRoot_eq_map selection root)
  rw [collect, placed, ← gathered_map, ← hroots]
  cases roots.mapM (tree.collectRoot selection) <;> rfl

/-! ## What a search cannot fail to see -/

section Candidates

variable {tree : FileTree} {selection : Selection} {root : Path}

theorem candidates_of_file
    (hfile : tree.isFile (tree.resolve root) = true) :
    tree.candidates selection root =
      .ok (if (Path.absolute (tree.resolve root)).dialect?.isSome then
        [tree.resolve root]
      else
        []) := by
  simp only [candidates, discover, hfile, if_true]
  rfl

theorem mem_paths_iff
    {path : List String} :
    path ∈ tree.files.map File.path ↔ tree.isFile path = true := by
  rw [isFile, file?, List.find?_isSome]
  simp only [List.mem_map, beq_iff_eq]

/-- Where nothing lies beneath a root, nothing but the root itself is collected. -/
theorem candidates_of_bare
    (tree : FileTree)
    (selection : Selection)
    (root : Path)
    (hbare : ∀ f, f ∈ tree.files → tree.resolve root <+: f.path → f.path = tree.resolve root) :
    ∃ found, tree.candidates selection root = .ok found ∧
      ∀ path, path ∈ found → path = tree.resolve root := by
  cases hfile : tree.isFile (tree.resolve root) with
  | true =>
      refine ⟨_, candidates_of_file hfile, fun path hpath => ?_⟩
      split at hpath
      · exact List.mem_singleton.1 hpath
      · cases hpath
  | false =>
      have hnone : tree.file? (tree.resolve root ++ [".gitignore"]) = none := by
        rw [← Option.not_isSome_iff_eq_none]
        intro hsome
        obtain ⟨f, hf, hpath⟩ := List.mem_map.1 (mem_paths_iff.2 hsome)
        have heq := hbare f hf (by rw [hpath]; exact List.prefix_append _ _)
        simp [hpath] at heq
      have hlines : tree.ignoreLines (tree.resolve root) = .ok [] := by
        rw [ignoreLines, hnone]
      rw [candidates_of_directory hfile, hlines]
      refine ⟨_, rfl, fun path hpath => ?_⟩
      obtain ⟨hmem, hwanted⟩ := List.mem_filter.1 (List.mem_mergeSort.1 hpath)
      obtain ⟨f, hf, rfl⟩ := List.mem_map.1 hmem
      simp only [isWanted, isSource, Bool.and_eq_true] at hwanted
      exact hbare f hf (List.isPrefixOf_iff_prefix.1 hwanted.1.1.1)

end Candidates

/-! ## Agreement -/

/--
Two trees have the same files at the places that count, and the same working directory.
A place that does not count is one of a source file, and nothing lies beneath it.
-/
structure Agree
    (counts : List String → Bool)
    (tree tree' : FileTree) : Prop where
  sound : tree.Sound
  sound' : tree'.Sound
  here : tree'.here = tree.here
  file? : ∀ path, counts path = true → tree'.file? path = tree.file? path
  source : ∀ path, counts path = false → (Path.absolute path).dialect?.isSome = true
  bare : ∀ path, counts path = false → ∀ f, f ∈ tree.files ∨ f ∈ tree'.files →
    path <+: f.path → f.path = path

namespace Agree

variable {counts : List String → Bool} {tree tree' : FileTree}

/-- The files at the places that count are the same. -/
theorem perm
    (h : Agree counts tree tree') :
    ((tree'.files.map File.path).filter counts).Perm
      ((tree.files.map File.path).filter counts) := by
  rw [List.perm_ext_iff_of_nodup (h.sound'.distinct.filter counts)
    (h.sound.distinct.filter counts)]
  intro path
  rw [List.mem_filter, List.mem_filter, mem_paths_iff, mem_paths_iff]
  refine and_congr_left fun hpath => ?_
  rw [isFile, isFile, h.file? path hpath]

theorem resolve
    (h : Agree counts tree tree')
    (root : Path) :
    tree'.resolve root = tree.resolve root := by
  rw [FileTree.resolve, FileTree.resolve, h.here]

/-- An ignore file lies at a place that counts. -/
theorem ignoreLines
    (h : Agree counts tree tree')
    (place : List String) :
    tree'.ignoreLines place = tree.ignoreLines place := by
  have hcounts : counts (place ++ [".gitignore"]) = true := by
    rw [← Bool.not_eq_false]
    intro hno
    have hname : (Path.absolute (place ++ [".gitignore"])).dialect? =
        (Path.absolute [".gitignore"]).dialect? :=
      Path.dialect?_eq_of_name (by simp [Path.name, Path.absolute])
    have hsome := h.source _ hno
    rw [hname] at hsome
    exact absurd hsome (by decide +kernel)
  rw [FileTree.ignoreLines, FileTree.ignoreLines, h.file? _ hcounts]

/-- The same places that count are found under a root. -/
theorem candidates_filter
    (h : Agree counts tree tree')
    (selection : Selection)
    (root : Path) :
    (tree'.candidates selection root).map (List.filter counts) =
      (tree.candidates selection root).map (List.filter counts) := by
  have hplace := h.resolve root
  cases hcounts : counts (tree.resolve root) with
  | false =>
      have hnone : ∀ found : List (List String),
          (∀ path, path ∈ found → path = tree.resolve root) → found.filter counts = [] := by
        intro found hfound
        rw [List.filter_eq_nil_iff]
        intro path hpath
        rw [hfound path hpath, hcounts]
        exact Bool.false_ne_true
      obtain ⟨found, hfound, honly⟩ := candidates_of_bare tree selection root
        fun f hf => h.bare _ hcounts f (.inl hf)
      obtain ⟨found', hfound', honly'⟩ := candidates_of_bare tree' selection root
        fun f hf => by
          rw [hplace]
          exact h.bare _ hcounts f (.inr hf)
      rw [hplace] at honly'
      rw [hfound, hfound']
      exact congrArg Except.ok ((hnone found' honly').trans (hnone found honly).symm)
  | true =>
      have hisFile : tree'.isFile (tree'.resolve root) = tree.isFile (tree.resolve root) := by
        rw [isFile, isFile, hplace, h.file? _ hcounts]
      cases hfile : tree.isFile (tree.resolve root) with
      | true =>
          rw [candidates_of_file hfile, candidates_of_file (hisFile.trans hfile), hplace]
      | false =>
          rw [candidates_of_directory hfile, candidates_of_directory (hisFile.trans hfile), hplace,
            h.ignoreLines]
          rw [map_bind_eq, map_bind_eq]
          refine bind_congr_of_ok fun lines _ => ?_
          rw [map_bind_eq, map_bind_eq]
          refine bind_congr_of_ok fun rules _ => congrArg Except.ok ?_
          rw [Compares.parts.filter_mergeSort, Compares.parts.filter_mergeSort]
          refine Compares.parts.mergeSort_eq_of_perm ?_ fun _ _ _ _ => Compares.partsLe_antisymm
          rw [List.filter_comm counts, List.filter_comm counts]
          exact h.perm.filter (isWanted rules selection (tree.resolve root))

/-- The same files that count are read under a root. -/
theorem placedRoot_filter
    (h : Agree counts tree tree')
    (selection : Selection)
    (root : Path) :
    (tree'.placedRoot selection root).map (List.filter (counts ∘ Placed.place)) =
      (tree.placedRoot selection root).map (List.filter (counts ∘ Placed.place)) := by
  have hmap : ∀ t : FileTree,
      (t.placedRoot selection root).map (List.filter (counts ∘ Placed.place)) =
        ((t.candidates selection root).map (List.filter counts)).map
          (List.filterMap (t.placed? root)) := by
    intro t
    rw [placedRoot]
    cases t.candidates selection root with
    | error e =>
        rfl
    | ok found =>
        refine congrArg Except.ok ?_
        rw [List.filter_filterMap, List.filterMap_filter]
        refine congrArg (List.filterMap · found) (funext fun path => ?_)
        rw [placed?]
        cases t.source? (relativeTo (t.resolve root) path) path with
        | none => simp
        | some source => cases hcounts : counts path <;> simp [hcounts]
  rw [hmap, hmap, h.candidates_filter selection root]
  cases hfound : tree.candidates selection root with
  | error e =>
      rfl
  | ok found =>
      refine congrArg Except.ok (List.filterMap_congr fun path hpath => ?_)
      have hcounts := (List.mem_filter.1 hpath).2
      rw [placed?, placed?, source?, source?, h.resolve, h.file? _ hcounts]

/-- Of two trees that agree the same is collected at the places that count. -/
theorem placed_filter
    (h : Agree counts tree tree')
    (roots : List Path)
    (selection : Selection) :
    (tree'.placed roots selection).map (List.filter (counts ∘ Placed.place)) =
      (tree.placed roots selection).map (List.filter (counts ∘ Placed.place)) := by
  have hmap : ∀ t : FileTree,
      (t.placed roots selection).map (List.filter (counts ∘ Placed.place)) =
        (roots.mapM fun root =>
          (t.placedRoot selection root).map (List.filter (counts ∘ Placed.place))).map fun groups =>
            groups.flatten.mergeSort fun a b => decide (a.source.path ≤ b.source.path) := by
    intro t
    rw [mapM_map, placed]
    cases roots.mapM (t.placedRoot selection) with
    | error e =>
        rfl
    | ok groups =>
        refine congrArg Except.ok ?_
        rw [(Compares.text fun p : Placed => p.source.path).filter_mergeSort, List.filter_flatten]
  rw [hmap, hmap]
  simp only [h.placedRoot_filter selection]

end Agree

end FileTree
end ModuleSpec
