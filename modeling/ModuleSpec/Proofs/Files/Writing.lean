import ModuleSpec.Proofs.Files.Found

/-!
# Written files

A file is written at the end of a path, and the directories on the way are made
where they are missing.  After two dots the way goes on further up, so that a
directory can be made that the file does not lie in.

**Idea.**  A place is a directory when something lies beneath it, so all that
matters about a step is that the places above the next one are directories
already (`isDirectory_of_above_step`).  Then a step adds at most one directory.

**Results.**  `writes_of_write`: after a file has been written, its path leads to its content,
every other file is as it was, and the new directories are on the way to it.
-/

namespace ModuleSpec

namespace Path

/-- The places that a list of components leads through, from the first to the last. -/
def placesFrom (place : List String) : List String → List (List String)
  | [] => [place]
  | part :: parts => place :: placesFrom (step place part) parts

/-- The directories that a path leads through before its last component, seen from one. -/
def way (directory : List String) (path : Path) : List (List String) :=
  placesFrom (path.startIn directory) path.parts.dropLast

end Path

namespace FileTree

/-- One tree is the other after a file has been written, and nothing else. -/
structure Writes
    (tree : FileTree)
    (path : Path)
    (content : ByteArray)
    (written : FileTree) : Prop where
  /-- The path leads to the content, and all other files are as before. -/
  file : ∃ place, written.fileAt? path = some ⟨place, content⟩ ∧
    ∀ other, other ≠ place → written.file? other = tree.file? other
  /-- The directories are those of before and those on the way. -/
  directories : ∀ place,
    written.isDirectory place = true ↔ tree.isDirectory place = true ∨ place ∈ path.way tree.here
  /-- The working directory is the same. -/
  here : written.here = tree.here

/-- A file can be written at the path, whatever it holds. -/
def Writable
    (tree : FileTree)
    (path : Path) : Prop :=
  ∀ content, ∃ written, tree.write path content = .ok written

/-! ## Directories -/

section Directories

variable {tree : FileTree} {place above : List String}

theorem isDirectory_iff :
    tree.isDirectory place = true ↔
      place <+: tree.here ∨ (∃ d, d ∈ tree.directories ∧ place <+: d) ∨
        ∃ f, f ∈ tree.files ∧ place <+: f.path ∧ place ≠ f.path := by
  simp only [isDirectory, Bool.or_eq_true, List.any_eq_true, Bool.and_eq_true,
    List.isPrefixOf_iff_prefix, bne_iff_ne, or_assoc]

/-- What lies above a directory is a directory. -/
theorem isDirectory_of_prefix
    (h : tree.isDirectory place = true)
    (habove : above <+: place) :
    tree.isDirectory above = true := by
  rw [isDirectory_iff] at h ⊢
  rcases h with hhere | ⟨d, hd, hplace⟩ | ⟨f, hf, hplace, hne⟩
  · exact .inl (habove.trans hhere)
  · exact .inr (.inl ⟨d, hd, habove.trans hplace⟩)
  · refine .inr (.inr ⟨f, hf, habove.trans hplace, ?_⟩)
    rintro rfl
    exact hne (hplace.eq_of_length (le_antisymm hplace.length_le habove.length_le))

/-- A path starts from a directory. -/
theorem isDirectory_startIn
    (tree : FileTree)
    (path : Path) :
    tree.isDirectory (path.startIn tree.here) = true := by
  rw [isDirectory_iff, Path.startIn]
  split
  · exact .inl (List.prefix_refl tree.here)
  · exact .inl (List.nil_prefix)

/-- From a directory a step leads to a place below directories. -/
theorem isDirectory_of_above_step
    (h : tree.isDirectory place = true)
    (part : String)
    (habove : above <+: Path.step place part)
    (hne : above ≠ Path.step place part) :
    tree.isDirectory above = true := by
  rw [Path.step] at habove hne
  split at habove
  case isTrue => exact isDirectory_of_prefix h (habove.trans (List.dropLast_prefix place))
  case isFalse hpart =>
      rw [if_neg hpart] at hne
      exact isDirectory_of_prefix h ((List.prefix_concat_iff.1 habove).resolve_left hne)

/-- A directory is all that is made. -/
theorem unchanged_makeDirectory
    (tree : FileTree)
    (place : List String) :
    (tree.makeDirectory place).files = tree.files ∧
      (tree.makeDirectory place).here = tree.here := by
  rw [makeDirectory]
  split <;> exact ⟨rfl, rfl⟩

/-- Below directories at most one directory is made. -/
theorem isDirectory_makeDirectory_iff
    (h : ∀ above, above <+: place → above ≠ place → tree.isDirectory above = true)
    {other : List String} :
    (tree.makeDirectory place).isDirectory other = true ↔
      tree.isDirectory other = true ∨ other = place := by
  rw [makeDirectory]
  split
  case isTrue hplace =>
      refine ⟨.inl, ?_⟩
      rintro (hother | rfl)
      · exact hother
      · exact hplace
  case isFalse =>
      constructor
      · intro hother
        by_cases heq : other = place
        · exact .inr heq
        rw [isDirectory_iff] at hother
        rcases hother with hhere | ⟨d, hd, hbelow⟩ | hfile
        · exact .inl (isDirectory_iff.2 (.inl hhere))
        · rcases List.mem_append.1 hd with hd | hd
          · exact .inl (isDirectory_iff.2 (.inr (.inl ⟨d, hd, hbelow⟩)))
          · rw [List.mem_singleton.1 hd] at hbelow
            exact .inl (h other hbelow heq)
        · exact .inl (isDirectory_iff.2 (.inr (.inr hfile)))
      · intro hother
        rw [isDirectory_iff]
        rcases hother with hother | rfl
        · rcases isDirectory_iff.1 hother with hhere | ⟨d, hd, hbelow⟩ | hfile
          · exact .inl hhere
          · exact .inr (.inl ⟨d, List.mem_append_left _ hd, hbelow⟩)
          · exact .inr (.inr hfile)
        · exact .inr (.inl ⟨other, by simp, List.prefix_refl other⟩)

end Directories

/-! ## The way to a file -/

/-- What is left when the way along some components has been made. -/
theorem makeWay_eq_ok
    {tree made : FileTree}
    {place parent parts : List String}
    (h : tree.makeWay place parts = .ok (made, parent))
    (hplace : tree.isDirectory place = true) :
    parent = parts.foldl Path.step place ∧ (made.files = tree.files ∧ made.here = tree.here) ∧
      ∀ other, made.isDirectory other = true ↔
        tree.isDirectory other = true ∨ other ∈ Path.placesFrom place parts := by
  induction parts generalizing tree place with
  | nil =>
      rw [makeWay] at h
      split at h
      case isTrue => cases h
      case isFalse =>
          cases h
          refine ⟨rfl, ⟨rfl, rfl⟩, fun other => ⟨.inl, ?_⟩⟩
          rintro (hother | hother)
          · exact hother
          · rw [List.mem_singleton.1 hother]
            exact hplace
  | cons part parts ih =>
      rw [makeWay] at h
      split at h
      case isTrue => cases h
      case isFalse =>
          have hnext {other : List String} :
              (tree.makeDirectory (Path.step place part)).isDirectory other = true ↔
                tree.isDirectory other = true ∨ other = Path.step place part :=
            isDirectory_makeDirectory_iff fun _ => isDirectory_of_above_step hplace part
          obtain ⟨hparent, ⟨hfiles, hhere⟩, hdirectories⟩ := ih h (hnext.2 (.inr rfl))
          obtain ⟨hfiles', hhere'⟩ := unchanged_makeDirectory tree (Path.step place part)
          refine ⟨hparent, ⟨hfiles.trans hfiles', hhere.trans hhere'⟩, fun other => ?_⟩
          rw [hdirectories, hnext, Path.placesFrom, List.mem_cons]
          constructor
          · rintro ((hother | rfl) | hother)
            · exact .inl hother
            · refine .inr (.inr ?_)
              cases parts <;> exact List.mem_cons_self
            · exact .inr (.inr hother)
          · rintro (hother | rfl | hother)
            · exact .inl (.inl hother)
            · exact .inl (.inl hplace)
            · exact .inr hother

theorem foldl_mem_placesFrom
    (place parts : List String) :
    parts.foldl Path.step place ∈ Path.placesFrom place parts := by
  induction parts generalizing place with
  | nil => exact List.mem_cons_self
  | cons part parts ih => exact List.mem_cons_of_mem place (ih (Path.step place part))

/-- A way along directories can be followed. -/
theorem follow_of_placesFrom
    {tree : FileTree}
    {place parts : List String}
    (h : ∀ other, other ∈ Path.placesFrom place parts → tree.isDirectory other = true)
    (last : String) :
    tree.follow place (parts ++ [last]) = some (Path.step (parts.foldl Path.step place) last) := by
  induction parts generalizing place with
  | nil =>
      rw [List.nil_append, follow, if_pos (h place List.mem_cons_self)]
      rfl
  | cons part parts ih =>
      rw [List.cons_append, follow, if_pos (h place List.mem_cons_self)]
      exact ih fun other hother => h other (List.mem_cons_of_mem place hother)

/-! ## Writing -/

section Put

variable {content : ByteArray} {place : List String} {files : List File}

theorem mem_paths_put_iff
    {path : List String} :
    path ∈ (put content place files).map File.path ↔ path = place ∨ path ∈ files.map File.path := by
  induction files with
  | nil => simp [put]
  | cons f fs ih =>
      rw [put]
      split
      case isTrue hf => simp [hf]
      case isFalse =>
          rw [List.map_cons, List.mem_cons, ih, List.map_cons, List.mem_cons]
          exact or_left_comm

/-- A file in a directory makes no directory. -/
theorem isDirectory_put_iff
    {tree : FileTree}
    (content : ByteArray)
    (h : ∀ above, above <+: place → above ≠ place → tree.isDirectory above = true)
    (other : List String) :
    ({ tree with files := put content place tree.files } : FileTree).isDirectory other = true ↔
      tree.isDirectory other = true := by
  have hfiles (files : List File) :
      (∃ f, f ∈ files ∧ other <+: f.path ∧ other ≠ f.path) ↔
        ∃ path, path ∈ files.map File.path ∧ other <+: path ∧ other ≠ path := by
    simp
  constructor
  · intro hother
    rcases isDirectory_iff.1 hother with hhere | hlisted | hfile
    · exact isDirectory_iff.2 (.inl hhere)
    · exact isDirectory_iff.2 (.inr (.inl hlisted))
    · obtain ⟨path, hpath, hbelow, hne⟩ := (hfiles _).1 hfile
      rcases mem_paths_put_iff.1 hpath with rfl | hpath
      · exact h other hbelow hne
      · exact isDirectory_iff.2 (.inr (.inr ((hfiles _).2 ⟨path, hpath, hbelow, hne⟩)))
  · intro hother
    rcases isDirectory_iff.1 hother with hhere | hlisted | hfile
    · exact isDirectory_iff.2 (.inl hhere)
    · exact isDirectory_iff.2 (.inr (.inl hlisted))
    · obtain ⟨path, hpath, hbelow, hne⟩ := (hfiles _).1 hfile
      exact isDirectory_iff.2 (.inr (.inr ((hfiles _).2
        ⟨path, mem_paths_put_iff.2 (.inr hpath), hbelow, hne⟩)))

end Put

/-- What is left when a file has been written. -/
theorem writes_of_write
    {tree written : FileTree}
    {path : Path}
    {content : ByteArray}
    (h : tree.write path content = .ok written) :
    tree.Writes path content written := by
  obtain ⟨⟨made, parent⟩, hway, h⟩ := bind_eq_ok_iff.1 h
  obtain ⟨hparent, ⟨hfiles, hhere⟩, hdirectories⟩ :=
    makeWay_eq_ok hway (isDirectory_startIn tree path)
  dsimp only at h
  split at h
  case isTrue => cases h
  case isFalse hallowed =>
      cases h
      simp only [Bool.or_eq_true, List.isEmpty_iff, beq_iff_eq, not_or] at hallowed
      obtain ⟨⟨hparts, hname⟩, -⟩ := hallowed
      have hway (place : List String) (hmem : place ∈ path.way tree.here) :
          made.isDirectory place = true :=
        (hdirectories place).2 (.inr hmem)
      have habove (above : List String) (hbelow : above <+: parent ++ [path.name])
          (hne : above ≠ parent ++ [path.name]) : made.isDirectory above = true := by
        refine isDirectory_of_prefix (hway parent ?_)
          ((List.prefix_concat_iff.1 hbelow).resolve_left hne)
        rw [hparent]
        exact foldl_mem_placesFrom (path.startIn tree.here) path.parts.dropLast
      have hdirectory := isDirectory_put_iff content habove
      constructor
      case here => exact hhere
      case directories =>
          exact fun place => (hdirectory place).trans (hdirectories place)
      case file =>
          refine ⟨parent ++ [path.name], ?_, ?_⟩
          · have hlast : path.parts = path.parts.dropLast ++ [path.name] := by
              rw [Path.name, List.getLast?_eq_some_getLast hparts, Option.getD_some,
                List.dropLast_append_getLast]
            have hfollow := follow_of_placesFrom
              (fun place hmem => (hdirectory place).2 (hway place hmem)) path.name
            rw [← hlast, ← hparent, Path.step, if_neg hname, ← hhere] at hfollow
            rw [fileAt?, locate?, hfollow]
            exact (find?_put content (parent ++ [path.name]) _ made.files).trans (if_pos rfl)
          · intro other hother
            rw [file?, find?_put, if_neg (Ne.symm hother), hfiles]
            rfl

end FileTree
end ModuleSpec
