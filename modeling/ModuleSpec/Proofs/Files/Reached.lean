import ModuleSpec.Proofs.Files.Agreement

/-!
# Roots that are reached

A path that can be followed ends at the place that it stands for, so that a file that is
given by itself is found where a search looks for it.  A search fails because of an ignore
file only: one that is no text, or one with a line that is no rule.

**Results.**  `exists_collect_iff`: when roots can be searched.
`collect_of_fileAt?`: a search of one source file collects that file.
-/

namespace ModuleSpec
namespace FileTree

/-- The ignore file of a root, if there is one, is a text and its lines are rules. -/
def HasRules
    (tree : FileTree)
    (root : Path) : Prop :=
  ∀ f, tree.file? (tree.resolve root ++ [".gitignore"]) = some f →
    ∃ text, Text.decode? f.content = some text ∧
      ∃ rules, Pattern.rules ((Pattern.linesOf text.toList).map String.toList) = .ok rules

section Roots

variable {tree : FileTree} {selection : Selection} {root path : Path}

theorem foldl_step_of_follow
    {place parts target : List String}
    (h : tree.follow place parts = some target) :
    target = parts.foldl Path.step place := by
  induction parts generalizing place with
  | nil => exact (Option.some.inj h).symm
  | cons part parts ih =>
      rw [follow] at h
      split at h
      · exact ih h
      · cases h

/-- A path that can be followed leads to its place. -/
theorem resolve_of_locate?
    {place : List String}
    (h : tree.locate? path = some place) :
    tree.resolve path = place :=
  (foldl_step_of_follow h).symm

/-- A directory can be searched when the lines of its ignore file are rules. -/
theorem exists_candidates_of_directory_iff
    (hfile : tree.isFile (tree.resolve root) = false) :
    (∃ found, tree.candidates selection root = .ok found) ↔ tree.HasRules root := by
  rw [candidates_of_directory hfile, HasRules, ignoreLines]
  cases tree.file? (tree.resolve root ++ [".gitignore"]) with
  | none =>
      refine iff_of_true ⟨_, rfl⟩ ?_
      intro f hf
      cases hf
  | some f =>
      constructor
      · rintro ⟨found, hfound⟩ g hg
        cases hg
        obtain ⟨lines, hlines, hfound⟩ := bind_eq_ok_iff.1 hfound
        obtain ⟨rules, hrules, -⟩ := bind_eq_ok_iff.1 hfound
        dsimp only at hlines
        split at hlines
        case h_1 => cases hlines
        case h_2 text htext =>
            cases hlines
            exact ⟨text, htext, rules, mapError_eq_ok_iff.1 hrules⟩
      · intro h
        obtain ⟨text, htext, rules, hrules⟩ := h f rfl
        exact ⟨_, bind_eq_ok_iff.2 ⟨_, by simp only [htext],
          bind_eq_ok_iff.2 ⟨rules, mapError_eq_ok_iff.2 hrules, rfl⟩⟩⟩

/-- Roots can be searched when the ignore files of the directories among them have rules. -/
theorem exists_collect_iff
    {roots : List Path} :
    (∃ files, tree.collect roots selection = .ok files) ↔
      ∀ root, root ∈ roots → tree.isFile (tree.resolve root) = false → tree.HasRules root := by
  have hgroups : (∃ files, tree.collect roots selection = .ok files) ↔
      ∃ groups, roots.mapM (tree.collectRoot selection) = .ok groups := by
    simp only [collect_eq_ok_iff]
    constructor
    · rintro ⟨-, groups, hgroups, -⟩
      exact ⟨groups, hgroups⟩
    · rintro ⟨groups, hgroups⟩
      exact ⟨_, groups, hgroups, rfl⟩
  rw [hgroups, exists_mapM_eq_ok_iff]
  refine forall₂_congr fun root _ => ?_
  have hfound : (∃ files, tree.collectRoot selection root = .ok files) ↔
      ∃ found, tree.candidates selection root = .ok found := by
    simp only [collectRoot, bind_eq_ok_iff]
    constructor
    · rintro ⟨-, found, hfound, -⟩
      exact ⟨found, hfound⟩
    · rintro ⟨found, hfound⟩
      exact ⟨_, found, hfound, rfl⟩
  rw [hfound]
  cases hfile : tree.isFile (tree.resolve root) with
  | true =>
      refine iff_of_true ⟨_, candidates_of_file hfile⟩ ?_
      intro hdirectory
      cases hdirectory
  | false => exact (exists_candidates_of_directory_iff hfile).trans (by simp)

/-- A path that names a source file ends with that name. -/
theorem parts_eq_of_dialect?
    (h : path.dialect?.isSome = true) :
    path.parts = path.parts.dropLast ++ [path.name] ∧ path.name ≠ ".." := by
  have hname : path.name ≠ ".." := by
    intro heq
    have hparent : path.dialect? = (Path.relative [".."]).dialect? := Path.dialect?_eq_of_name heq
    rw [hparent] at h
    exact absurd h (by decide)
  refine ⟨?_, hname⟩
  cases hlast : path.parts.getLast? with
  | none =>
      have heq : path.name = "" := by rw [Path.name, hlast, Option.getD_none]
      have hunnamed : path.dialect? = (Path.relative [""]).dialect? := Path.dialect?_eq_of_name heq
      rw [hunnamed] at h
      exact absurd h (by decide)
  | some last =>
      rw [Path.name, hlast, Option.getD_some]
      exact (List.dropLast_append_getLast? last hlast).symm

/-- A source file has the same name at its place. -/
theorem name_of_locate?
    {place : List String}
    (h : tree.locate? path = some place)
    (hdialect : path.dialect?.isSome = true) :
    (Path.absolute place).name = path.name := by
  obtain ⟨hparts, hname⟩ := parts_eq_of_dialect? hdialect
  have hplace : place =
      path.parts.dropLast.foldl Path.step (path.startIn tree.here) ++ [path.name] := by
    rw [foldl_step_of_follow h]
    conv => lhs; rw [hparts]
    rw [List.foldl_append, List.foldl_cons, List.foldl_nil, Path.step, if_neg hname]
  rw [hplace]
  simp [Path.name, Path.absolute]

/-- A source file that is given by itself is collected, if it is a text and not empty. -/
theorem collect_of_fileAt?
    {f : File}
    {d : Dialect}
    {content : String}
    (hfile : tree.fileAt? path = some f)
    (hdialect : path.dialect? = some d)
    (hcontent : Text.decode? f.content = some content)
    (hne : content.isEmpty = false) :
    tree.collect [path] selection = .ok [⟨path.name, content, path.moduleName, d.name⟩] := by
  obtain ⟨place, hplace, hfile⟩ := Option.bind_eq_some_iff.1 hfile
  have hname := name_of_locate? hplace (by rw [hdialect]; rfl)
  have hroot := resolve_of_locate? hplace
  have hdialect' : (Path.absolute place).dialect? = some d :=
    (Path.dialect?_eq_of_name hname).trans hdialect
  have hcandidates : tree.candidates selection path = .ok [place] := by
    rw [candidates_of_file (by rw [hroot, isFile, hfile]; rfl), hroot, hdialect']
    rfl
  have hsource : tree.source? (relativeTo place place) place =
      some ⟨path.name, content, path.moduleName, d.name⟩ := by
    have hmodule : (Path.absolute place).moduleName = path.moduleName := by
      rw [Path.moduleName, Path.moduleName, Path.nameParts, Path.nameParts, hname]
    have hrelative : (relativeTo place place).toString = path.name := by
      rw [relativeTo, if_pos rfl, hname]
      exact String.ofList_toList
    rw [source?_of_file? hfile hcontent hdialect' hne, hmodule, hrelative]
  refine collect_singleton (collectRoot_of_candidates hcandidates (.cons ?_ .nil))
    (List.pairwise_singleton _ _)
  rw [hroot]
  exact hsource

end Roots

end FileTree
end ModuleSpec
