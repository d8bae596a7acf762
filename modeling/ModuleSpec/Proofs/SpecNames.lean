import ModuleSpec.Proofs.Exclusion
import ModuleSpec.Proofs.GeneratedPlaces

/-!
# Names of spec files

Of the source files under a directory those are selected that are named like spec files.
Such a name begins with Native and has an ending, and between the two can stand the name
of a platform; then the file is selected for that platform.

**Idea.**  A name is cut at its dots.  Two pieces are a stem and an ending.  Of more than
two pieces only the second one is looked at, so that after the platform there can be any
ending, also one with dots.

**Results.**  `isSpecFile_eq_ok_true_iff`: which names are taken.  `selects_names`: what is
selected under a directory.  `not_forall_selected_named`: an ending can have dots.
-/

namespace ModuleSpec

namespace Path

/-- Native, a stem and an ending. -/
def NamedForAll (path : Path) : Prop :=
  ∃ stem ending, '.' ∉ stem ∧ '.' ∉ ending ∧
    path.name.toList = specFileStart.toList ++ stem ++ '.' :: ending

/-- Native, a stem, the platform and an ending. -/
def NamedFor
    (path : Path)
    (platform : String)
    (ending : List Char) : Prop :=
  ∃ stem, '.' ∉ stem ∧ '.' ∉ platform.toList ∧
    path.name.toList =
      specFileStart.toList ++ stem ++ '.' :: (platform.toList ++ '.' :: ending)

/-! ## Pieces of a name -/

theorem dot_not_mem_start_append_iff
    {stem : List Char} :
    '.' ∉ specFileStart.toList ++ stem ↔ '.' ∉ stem := by
  rw [List.mem_append, not_or, and_iff_right (by decide)]

/-- The first piece of a name has what the name begins with, since that has no dot. -/
theorem start_prefix_iff
    {piece rest : List Char} :
    specFileStart.toList <+: piece ++ '.' :: rest ↔
      ∃ stem, piece = specFileStart.toList ++ stem := by
  constructor
  · intro hstart
    rcases List.prefix_or_prefix_of_prefix hstart (List.prefix_append piece _) with h | ⟨more, h⟩
    · obtain ⟨stem, hstem⟩ := h
      exact ⟨stem, hstem.symm⟩
    · have hmore : more <+: '.' :: rest := (List.prefix_append_right_inj piece).1 (h ▸ hstart)
      cases more with
      | nil => exact ⟨[], by rw [← h, List.append_nil, List.append_nil]⟩
      | cons c cs =>
          obtain rfl := (List.cons_prefix_cons.1 hmore).1
          have hdot : '.' ∈ specFileStart.toList := h ▸ List.mem_append_right _ List.mem_cons_self
          exact absurd hdot (by decide)
  · rintro ⟨stem, rfl⟩
    rw [List.append_assoc]
    exact List.prefix_append _ _

theorem namedForAll_iff
    {path : Path} :
    path.NamedForAll ↔
      specFileStart.toList <+: path.name.toList ∧
        ∃ piece ending, Text.split '.' path.name.toList = [piece, ending] := by
  constructor
  · rintro ⟨stem, ending, hstem, hending, hname⟩
    refine ⟨hname ▸ start_prefix_iff.2 ⟨stem, rfl⟩, specFileStart.toList ++ stem, ending, ?_⟩
    rw [hname, Text.split_append, Text.split_of_not_mem (dot_not_mem_start_append_iff.2 hstem),
      Text.split_of_not_mem hending]
    rfl
  · rintro ⟨hstart, piece, ending, hsplit⟩
    obtain ⟨hpiece, rest, hname, hrest⟩ := Text.split_eq_cons_cons_iff.1 hsplit
    obtain ⟨stem, rfl⟩ := start_prefix_iff.1 (hname ▸ hstart)
    have hending : rest = ending := by
      rw [← Text.joinWith_split '.' rest, hrest, Text.joinWith]
    refine ⟨stem, ending, dot_not_mem_start_append_iff.1 hpiece, ?_, hending ▸ hname⟩
    exact Text.not_mem_of_mem_split (hsplit ▸ List.mem_cons_of_mem _ List.mem_cons_self)

theorem namedFor_iff
    {path : Path}
    {platform : String}
    {ending : List Char} :
    path.NamedFor platform ending ↔
      specFileStart.toList <+: path.name.toList ∧
        ∃ piece, Text.split '.' path.name.toList =
          piece :: platform.toList :: Text.split '.' ending := by
  obtain ⟨first, others, hothers⟩ := List.exists_cons_of_ne_nil (Text.split_ne_nil '.' ending)
  constructor
  · rintro ⟨stem, hstem, hplatform, hname⟩
    refine ⟨hname ▸ start_prefix_iff.2 ⟨stem, rfl⟩, specFileStart.toList ++ stem, ?_⟩
    rw [hname, Text.split_append, Text.split_append,
      Text.split_of_not_mem (dot_not_mem_start_append_iff.2 hstem),
      Text.split_of_not_mem hplatform]
    rfl
  · rintro ⟨hstart, piece, hsplit⟩
    obtain ⟨hpiece, rest, hname, hrest⟩ := Text.split_eq_cons_cons_iff.1 hsplit
    obtain ⟨stem, rfl⟩ := start_prefix_iff.1 (hname ▸ hstart)
    rw [hothers] at hrest
    obtain ⟨hplatform, rest', rfl, hrest'⟩ := Text.split_eq_cons_cons_iff.1 hrest
    have hending : rest' = ending := by
      rw [← Text.joinWith_split '.' rest', hrest', ← hothers, Text.joinWith_split]
    exact ⟨stem, dot_not_mem_start_append_iff.1 hpiece, hplatform, hending ▸ hname⟩

/-- Of three pieces or more, the second one has to be the platform. -/
theorem isSpecFile_of_pieces
    {path : Path}
    {selection : Selection}
    (hstart : specFileStart.toList.isPrefixOf path.name.toList = true)
    (hopen : selection.leavesOut path = false)
    {piece next third : List Char}
    {rest : List (List Char)}
    (hsplit : Text.split '.' path.name.toList = piece :: next :: third :: rest) :
    path.isSpecFile selection = .ok true ↔ selection.platform = some (String.ofList next) := by
  rw [isSpecFile, hstart, hopen, nameParts, hsplit]
  cases selection.platform with
  | none => simp
  | some platform =>
      have hcompares : (Except.ok (String.ofList next == platform) : Except NameError Bool) =
          .ok true ↔ some platform = some (String.ofList next) := by
        rw [Except.ok.injEq, beq_iff_eq, Option.some.injEq, eq_comm]
      exact hcompares

/--
A name is taken when no pattern leaves out the path, and it is one for every platform or
one for the platform that is asked for.
-/
theorem isSpecFile_eq_ok_true_iff
    {path : Path}
    {selection : Selection} :
    path.isSpecFile selection = .ok true ↔
      selection.leavesOut path = false ∧
        (path.NamedForAll ∨
          ∃ platform ending, selection.platform = some platform ∧
            path.NamedFor platform ending) := by
  simp only [namedForAll_iff, namedFor_iff]
  cases hstart : specFileStart.toList.isPrefixOf path.name.toList with
  | false =>
      have hno : ¬ specFileStart.toList <+: path.name.toList := by
        rw [← List.isPrefixOf_iff_prefix, hstart]
        exact Bool.false_ne_true
      simp [isSpecFile, hstart, hno]
  | true =>
      have hyes : specFileStart.toList <+: path.name.toList := List.isPrefixOf_iff_prefix.1 hstart
      cases hopen : selection.leavesOut path with
      | true => simp [isSpecFile, hstart, hopen]
      | false =>
          simp only [hyes, true_and]
          rcases hsplit : Text.split '.' path.name.toList with
            _ | ⟨piece, _ | ⟨next, _ | ⟨third, rest⟩⟩⟩
          case nil => exact absurd hsplit (Text.split_ne_nil '.' _)
          case cons.nil =>
              simp only [isSpecFile, hstart, hopen, nameParts, hsplit]
              cases selection.platform <;> simp
          case cons.cons.nil => simp [isSpecFile, hstart, hopen, nameParts, hsplit]
          case cons.cons.cons =>
              rw [isSpecFile_of_pieces hstart hopen hsplit]
              constructor
              · intro hplatform
                have hfree : ∀ p, p ∈ third :: rest → '.' ∉ p := fun p hp =>
                  Text.not_mem_of_mem_split (hsplit ▸ List.mem_cons_of_mem _
                    (List.mem_cons_of_mem _ hp))
                refine .inr ⟨_, Text.joinWith '.' (third :: rest), hplatform, piece, ?_⟩
                rw [Text.split_joinWith (List.cons_ne_nil third rest) hfree, String.toList_ofList]
              · rintro (⟨_, _, hpair⟩ | ⟨platform, _, hplatform, _, hpieces⟩)
                · cases hpair
                · have hnext := (List.cons.inj (List.cons.inj hpieces).2).1
                  rw [hplatform, hnext, String.ofList_toList]

end Path

namespace FileTree

/-- What a search of a root makes of the names of the files under it. -/
structure SelectsNames
    (tree : FileTree)
    (selection : Selection)
    (root : Path) : Prop where
  /-- No name is a reason for the search to end. -/
  settled : ∀ e, tree.candidates selection root ≠ .error (.name e)
  /-- A source file that is not ignored is selected by its path and its name. -/
  selected : ∀ lines rules, tree.ignoreLines (tree.resolve root) = .ok lines →
    Pattern.rules (lines.map String.toList) = .ok rules →
    ∃ found, tree.candidates selection root = .ok found ∧
      ∀ path, path ∈ found ↔ path ∈ (tree.beneath (tree.resolve root)).map File.path ∧
        (relativeTo (tree.resolve root) path).isIgnored lines = .ok false ∧
        (relativeTo (tree.resolve root) path).dialect?.isSome = true ∧
        selection.leavesOut (relativeTo (tree.resolve root) path) = false ∧
        ((relativeTo (tree.resolve root) path).NamedForAll ∨
          ∃ platform ending, selection.platform = some platform ∧
            (relativeTo (tree.resolve root) path).NamedFor platform ending)

section Names

variable {tree : FileTree} {selection : Selection} {root : Path}

theorem accepts_iff
    {ε : Type}
    {outcome : Except ε Bool} :
    accepts outcome = true ↔ outcome = .ok true := by
  cases outcome with
  | error e => exact ⟨nofun, nofun⟩
  | ok kept => rw [accepts, Except.ok.injEq]

/-- With rules, a path is ignored or it is not. -/
theorem isIgnored_eq_ok_false_iff
    {lines : List String}
    {rules : List Pattern.IgnoreRule}
    (hrules : Pattern.rules (lines.map String.toList) = .ok rules)
    (path : Path) :
    path.isIgnored lines = .ok false ↔
      (path.isNeverScanned || Pattern.decides rules (Pattern.ruleText path)) = false := by
  rw [Path.isIgnored, hrules]
  cases path.isNeverScanned with
  | true => rw [if_pos rfl, Bool.true_or, Except.ok.injEq]
  | false => rw [if_neg Bool.false_ne_true, Bool.false_or, Except.map, Except.ok.injEq]

theorem mem_paths_beneath_iff
    {place path : List String} :
    path ∈ (tree.beneath place).map File.path ↔
      path ∈ tree.files.map File.path ∧ (place.isPrefixOf path && place != path) = true := by
  simp only [beneath, List.mem_map, List.mem_filter]
  constructor
  · rintro ⟨f, ⟨hf, hbeneath⟩, rfl⟩
    exact ⟨⟨f, hf, rfl⟩, hbeneath⟩
  · rintro ⟨⟨f, hf, rfl⟩, hbeneath⟩
    exact ⟨f, ⟨hf, hbeneath⟩, rfl⟩

/-- What is wanted beneath a directory, one condition after the other. -/
theorem wanted_iff
    {lines : List String}
    {rules : List Pattern.IgnoreRule}
    (hrules : Pattern.rules (lines.map String.toList) = .ok rules)
    {place path : List String} :
    path ∈ tree.files.map File.path ∧ isWanted rules selection place path = true ↔
      path ∈ (tree.beneath place).map File.path ∧
        (relativeTo place path).isIgnored lines = .ok false ∧
        (relativeTo place path).dialect?.isSome = true ∧
        (relativeTo place path).isSpecFile selection = .ok true := by
  rw [mem_paths_beneath_iff, and_assoc]
  refine and_congr_right fun _ => ?_
  simp only [isWanted, isSource, Bool.and_eq_true, accepts_iff, and_assoc]
  refine and_congr_right fun _ => and_congr_right fun hne => ?_
  have hrelative : relativeTo place path = .relative (path.drop place.length) :=
    if_neg fun heq => bne_iff_ne.1 hne heq.symm
  rw [hrelative, isIgnored_eq_ok_false_iff hrules, Bool.not_eq_true']

/-- A search ends because of an ignore file, and never because of a name. -/
theorem candidates_ne_name
    (hgiven : tree.isGiven root = false)
    (e : NameError) :
    tree.candidates selection root ≠ .error (.name e) := by
  rw [candidates_of_directory hgiven]
  cases hlines : tree.ignoreLines (tree.resolve root) with
  | error e' =>
      rintro ⟨⟩
      rw [ignoreLines] at hlines
      split at hlines
      case h_1 => cases hlines
      case h_2 => split at hlines <;> cases hlines
  | ok lines =>
      intro h
      simp only [bind, Except.bind] at h
      cases hrules : Pattern.rules (lines.map String.toList) with
      | error e' => rw [hrules] at h; cases h
      | ok rules => rw [hrules] at h; cases h

end Names

end FileTree

/-- What lies under a directory is selected by its path and its name, and no name is an error. -/
theorem selects_names
    {tree : FileTree}
    {root : Path}
    (hgiven : tree.isGiven root = false)
    (selection : Selection) :
    tree.SelectsNames selection root where
  settled := FileTree.candidates_ne_name hgiven
  selected := by
    intro lines rules hlines hrules
    rw [FileTree.candidates_of_directory hgiven, hlines]
    refine ⟨_, bind_eq_ok_iff.2 ⟨lines, rfl, bind_eq_ok_iff.2 ⟨rules, ?_, rfl⟩⟩, fun path => ?_⟩
    · rw [hrules]
      rfl
    · rw [List.mem_mergeSort, List.mem_filter, FileTree.wanted_iff hrules,
        Path.isSpecFile_eq_ok_true_iff]

namespace SpecNames

/-- The names of a directory: a module for every platform, one for each platform, and a test. -/
def tree : FileTree :=
  ⟨[⟨["specs", "NativeFoo.ts"], "x".toUTF8⟩, ⟨["specs", "NativeFoo.ios.tsx"], "x".toUTF8⟩,
    ⟨["specs", "NativeFoo.android.ts"], "x".toUTF8⟩,
    ⟨["specs", "NativeFoo.ios.test.ts"], "x".toUTF8⟩], [], []⟩

def ios : Selection := ⟨some "ios", none⟩

theorem found_eq :
    ∃ found, tree.candidates ios (.relative ["specs"]) = .ok found ∧
      ["specs", "NativeFoo.ios.test.ts"] ∈ found := by
  rw [FileTree.candidates_of_directory rfl]
  refine ⟨_, bind_eq_ok_iff.2 ⟨[], rfl, bind_eq_ok_iff.2 ⟨[], rfl, rfl⟩⟩, ?_⟩
  rw [List.mem_mergeSort, List.mem_filter]
  refine ⟨by decide, ?_⟩
  rw [FileTree.isWanted, FileTree.isSource, Path.isNeverScanned, Pattern.isGenerated_eq]
  decide +kernel

end SpecNames

theorem specs_selects_names :
    SpecNames.tree.isGiven (.relative ["specs"]) = false ∧
      SpecNames.tree.SelectsNames SpecNames.ios (.relative ["specs"]) ∧
      SpecNames.tree.ignoreLines (SpecNames.tree.resolve (.relative ["specs"])) = .ok [] ∧
      Pattern.rules [] = .ok [] :=
  ⟨by decide, selects_names (by decide) SpecNames.ios, rfl, rfl⟩

/-- After the platform there can be any ending, also one with dots. -/
theorem not_forall_selected_named :
    ¬ ∀ (tree : FileTree) (root : Path) (selection : Selection) (found : List (List String)),
      tree.isGiven root = false → tree.candidates selection root = .ok found →
      ∀ path, path ∈ found → (Path.relative path).NamedForAll ∨
        ∃ platform ending, selection.platform = some platform ∧ '.' ∉ ending ∧
          (Path.relative path).NamedFor platform ending := by
  intro hall
  obtain ⟨found, hfound, hmem⟩ := SpecNames.found_eq
  have hsplit : Text.split '.' (Path.relative ["specs", "NativeFoo.ios.test.ts"]).name.toList =
      ["NativeFoo".toList, "ios".toList, "test".toList, "ts".toList] := by
    decide +kernel
  rcases hall _ _ _ _ (by decide) hfound _ hmem with hnamed | ⟨platform, ending, -, hending, hnamed⟩
  · obtain ⟨-, _, _, hpieces⟩ := Path.namedForAll_iff.1 hnamed
    exact absurd (congrArg List.length (hsplit.symm.trans hpieces)) (by simp)
  · obtain ⟨-, _, hpieces⟩ := Path.namedFor_iff.1 hnamed
    rw [Text.split_of_not_mem hending] at hpieces
    exact absurd (congrArg List.length (hsplit.symm.trans hpieces)) (by simp)

end ModuleSpec
