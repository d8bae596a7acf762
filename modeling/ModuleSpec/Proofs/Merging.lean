import Mathlib.Data.List.Induction
import ModuleSpec.Combine
import ModuleSpec.Pattern.Written
import ModuleSpec.Proofs.Files.Agreement
import ModuleSpec.Proofs.GeneratedPlaces

/-!
# Merging the modules of files

Each candidate among the collected files is built by itself.  A name stands for the
schema of the first file of that module whose schema counts on the platform.

Another content of one source file, or its absence, is nothing to the other files:
their results are the same, and so are the modules of other names.

**Idea.**  Merging looks at one name at a time: what a name stands for follows from
the results of that name alone.  The results of a file are those of its module.

**Results.**  `combine_merges`.
-/

namespace ModuleSpec

/-- Whether the result gives its module a schema on the platform. -/
def FileResult.counts
    (platform : Option Platform)
    (r : FileResult) :
    Bool :=
  r.schema?.any fun schema => !platform.any schema.excludes

theorem FileResult.exists_schema
    {platform : Option Platform}
    {r : FileResult}
    (h : r.counts platform = true) :
    ∃ schema, r.schema? = some schema := by
  rw [← Option.isSome_iff_exists]
  cases hschema : r.schema? with
  | none =>
      rw [counts, hschema] at h
      cases h
  | some schema =>
      rfl

/-- What a name stands for among the modules. -/
def Combined.schemaOf?
    (c : Combined)
    (name : String) :
    Option Schema :=
  (c.modules.find? fun n => n.name == name).map NamedSchema.schema

/-! ## One more result -/

namespace Merged

variable {platform : Option Platform}

/-- What a result adds to the modules: its schema, if its module has none yet. -/
theorem modules_add
    (m : Merged)
    (r : FileResult) :
    (m.add platform r).modules =
      m.modules ++
        if r.counts platform && !m.contains r.moduleName then
          r.schema?.toList.map (NamedSchema.mk r.moduleName)
        else
          [] := by
  rw [add, FileResult.counts]
  cases r.schema? with
  | none =>
      simp
  | some schema =>
      cases hexcluded : platform.any schema.excludes with
      | true => simp [hexcluded]
      | false => cases m.contains r.moduleName <;> simp [hexcluded]

/-- What a result adds has the name of its module, and the result counts. -/
theorem of_mem_added
    {r : FileResult}
    {new : Bool}
    {n : NamedSchema}
    (h : n ∈ if r.counts platform && new then
      r.schema?.toList.map (NamedSchema.mk r.moduleName) else []) :
    n.name = r.moduleName ∧ r.counts platform = true := by
  split at h
  case isFalse => cases h
  case isTrue hnew =>
      obtain ⟨schema, -, rfl⟩ := List.mem_map.1 h
      exact ⟨rfl, (Bool.and_eq_true_iff.1 hnew).1⟩

theorem ofResults_concat
    (results : List FileResult)
    (r : FileResult) :
    ofResults platform (results ++ [r]) = (ofResults platform results).add platform r := by
  rw [ofResults, List.foldl_append]
  rfl

theorem nodup_ofResults
    (platform : Option Platform)
    (results : List FileResult) :
    ((ofResults platform results).modules.map NamedSchema.name).Nodup := by
  induction results using List.reverseRecOn with
  | nil =>
      exact List.nodup_nil
  | append_singleton results r ih =>
      rw [ofResults_concat, modules_add]
      split
      case isFalse => rwa [List.append_nil]
      case isTrue hnew =>
          obtain ⟨hcounts, hcontains⟩ := Bool.and_eq_true_iff.1 hnew
          obtain ⟨schema, hschema⟩ := FileResult.exists_schema hcounts
          rw [hschema, List.map_append, List.nodup_append]
          refine ⟨ih, List.nodup_singleton _, ?_⟩
          intro name hname name' hname' heq
          obtain ⟨n, hn, rfl⟩ := List.mem_map.1 hname
          have hself : n.name = r.moduleName := heq.trans (List.mem_singleton.1 hname')
          have hmem : (ofResults platform results).contains r.moduleName = true :=
            List.any_eq_true.2 ⟨n, hn, by simpa using hself⟩
          rw [hmem] at hcontains
          cases hcontains

theorem contains_iff
    {m : Merged}
    {name : String} :
    m.contains name = (m.modules.find? fun n => n.name == name).isSome := by
  rw [contains, Bool.eq_iff_iff, List.find?_isSome, List.any_eq_true]

/-- A name stands for the first result of the module that counts. -/
theorem find?_ofResults
    (platform : Option Platform)
    (results : List FileResult)
    (name : String) :
    ((ofResults platform results).modules.find? fun n => n.name == name).map NamedSchema.schema =
      (results.find? fun r => r.moduleName == name && r.counts platform).bind
        FileResult.schema? := by
  induction results using List.reverseRecOn with
  | nil =>
      rfl
  | append_singleton results r ih =>
      rw [ofResults_concat, modules_add, List.find?_append, List.find?_append, contains_iff]
      by_cases hr : r.moduleName = name ∧ r.counts platform = true
      case neg =>
          have hr' : (r.moduleName == name && r.counts platform) = false := by
            simpa using hr
          have hextra : ∀ new : Bool,
              ((if r.counts platform && new then
                  r.schema?.toList.map (NamedSchema.mk r.moduleName)
                else []).find? fun n => n.name == name) = none := by
            intro new
            rw [List.find?_eq_none]
            intro n hn hname
            obtain ⟨hmodule, hcounts⟩ := of_mem_added hn
            exact hr ⟨hmodule.symm.trans (eq_of_beq hname), hcounts⟩
          rw [hextra, Option.or_none, ih, List.find?_singleton, hr']
          simp
      case pos =>
          obtain ⟨rfl, hcounts⟩ := hr
          obtain ⟨schema, hschema⟩ := FileResult.exists_schema hcounts
          have hself : (List.find? (fun s => s.moduleName == r.moduleName && s.counts platform)
              [r]) = some r := by
            simp [hcounts]
          rw [hself]
          cases hfound : results.find? fun s => s.moduleName == r.moduleName && s.counts platform with
          | none =>
              rw [hfound] at ih
              have hnone := Option.map_eq_none_iff.1 ih
              simp [hnone, hcounts, hschema]
          | some s =>
              have hs := List.find?_some hfound
              obtain ⟨schema', hschema'⟩ := FileResult.exists_schema (Bool.and_eq_true_iff.1 hs).2
              rw [hfound, Option.bind_some, hschema', Option.map_eq_some_iff] at ih
              obtain ⟨n, hn, rfl⟩ := ih
              simp [hn, hschema']

/-- The modules of other names come from the results of other modules. -/
theorem filter_ofResults
    (platform : Option Platform)
    (results : List FileResult)
    (name : String) :
    (ofResults platform results).modules.filter (fun n => n.name != name) =
      (ofResults platform (results.filter fun r => r.moduleName != name)).modules := by
  induction results using List.reverseRecOn with
  | nil =>
      rfl
  | append_singleton results r ih =>
      rw [ofResults_concat, modules_add, List.filter_append, ih, List.filter_append]
      by_cases hname : r.moduleName = name
      case pos =>
          have hextra : (if r.counts platform && !(ofResults platform results).contains r.moduleName
                then r.schema?.toList.map (NamedSchema.mk r.moduleName) else []).filter
                  (fun n => n.name != name) = [] := by
            rw [List.filter_eq_nil_iff]
            intro n hn hother
            exact bne_iff_ne.1 hother ((of_mem_added hn).1.trans hname)
          rw [hextra, List.append_nil]
          simp [hname]
      case neg =>
          have hcontains : (ofResults platform results).contains r.moduleName =
              (ofResults platform (results.filter fun r => r.moduleName != name)).contains
                r.moduleName := by
            rw [contains, contains, ← ih, List.any_filter]
            refine congrArg (List.any _) (funext fun n => ?_)
            by_cases hn : n.name = r.moduleName
            · simp [hn, hname]
            · simp [hn]
          have hself : [r].filter (fun s => s.moduleName != name) = [r] := by
            simp [hname]
          rw [hself, ofResults_concat, modules_add, ← hcontains]
          refine congrArg (_ ++ ·) (List.filter_eq_self.2 fun n hn => ?_)
          rw [(of_mem_added hn).1]
          exact bne_iff_ne.2 hname

end Merged

/-! ## Two trees that differ in one file -/

/-- What came of one file, and where it lies. -/
structure PlacedResult where
  place : List String
  result : FileResult

namespace FileTree

/-- The results of the candidates under the given roots, with the places of the files. -/
def placedResults
    (tree : FileTree)
    (grammar : Grammar)
    (roots : List Path)
    (selection : Selection) :
    Except CollectError (List PlacedResult) :=
  (tree.placed roots selection).map fun files =>
    (files.filter fun x => isCandidate x.source.content).map fun x =>
      ⟨x.place, buildFile grammar x.source⟩

/--
Two trees differ at most in the source file at one place, which can be missing.  They are
seen from the same working directory.
-/
structure DifferAt
    (place : List String)
    (tree tree' : FileTree) : Prop where
  sound : tree.Sound
  sound' : tree'.Sound
  here : tree'.here = tree.here
  source : (Path.absolute place).dialect?.isSome = true
  others : ∀ path, path ≠ place → tree'.file? path = tree.file? path

/-- Such trees agree at all other places; where neither has the file, at its place too. -/
theorem DifferAt.exists_agree
    {place : List String}
    {tree tree' : FileTree}
    (h : DifferAt place tree tree') :
    ∃ counts, Agree counts tree tree' ∧ ∀ path, path ≠ place → counts path = true := by
  by_cases hplace : tree.file? place = none ∧ tree'.file? place = none
  case pos =>
      refine ⟨fun _ => true, ⟨h.sound, h.sound', h.here, ?_, nofun, nofun⟩, fun _ _ => rfl⟩
      intro path _
      by_cases hpath : path = place
      · rw [hpath, hplace.1, hplace.2]
      · exact h.others path hpath
  case neg =>
      refine ⟨fun path => path != place, ⟨h.sound, h.sound', h.here, ?_, ?_, ?_⟩,
        fun _ => bne_iff_ne.2⟩
      · exact fun path hpath => h.others path (bne_iff_ne.1 hpath)
      · intro path hpath
        rw [bne_eq_false_iff_eq.1 hpath]
        exact h.source
      · intro path hpath f hf hbeneath
        rw [bne_eq_false_iff_eq.1 hpath] at hbeneath ⊢
        by_contra hne
        -- What lies beneath the place lies in both trees, and one of them has a file at the place.
        have hfile : tree.file? f.path = some f := by
          rcases hf with hf | hf
          · exact h.sound.file?_path hf
          · exact (h.others f.path hne).symm.trans (h.sound'.file?_path hf)
        have hboth : f ∈ tree.files ∧ f ∈ tree'.files :=
          ⟨(of_file? hfile).1, (of_file? ((h.others f.path hne).trans hfile)).1⟩
        refine hplace ⟨?_, ?_⟩
        · rw [Option.eq_none_iff_forall_not_mem]
          intro g hg
          obtain ⟨hmem, rfl⟩ := of_file? hg
          exact hne (h.sound.apart g hmem f hboth.1 hbeneath).symm
        · rw [Option.eq_none_iff_forall_not_mem]
          intro g hg
          obtain ⟨hmem, rfl⟩ := of_file? hg
          exact hne (h.sound'.apart g hmem f hboth.2 hbeneath).symm

section Placed

variable {tree tree' : FileTree}

/-- A file stands for the module that its place names. -/
theorem moduleName_of_mem_placed
    {roots : List Path}
    {selection : Selection}
    {files : List Placed}
    (h : tree.placed roots selection = .ok files)
    {x : Placed}
    (hx : x ∈ files) :
    x.source.moduleName = (Path.absolute x.place).moduleName := by
  obtain ⟨groups, hgroups, rfl⟩ := map_eq_ok_iff.1 h
  obtain ⟨group, hgroup, hx⟩ := List.mem_flatten.1 (List.mem_mergeSort.1 hx)
  obtain ⟨root, -, hroot⟩ := exists_of_mem_mapM hgroups hgroup
  obtain ⟨found, -, rfl⟩ := map_eq_ok_iff.1 hroot
  obtain ⟨path, -, hpath⟩ := List.mem_filterMap.1 hx
  obtain ⟨source, hsource, rfl⟩ := Option.map_eq_some_iff.1 hpath
  simp only [source?, read?, bind, Option.bind_eq_some_iff] at hsource
  obtain ⟨f, -, content, -, dialect, -, hsome⟩ := hsource
  split at hsome
  · cases hsome
  · cases hsome
    rfl

/-- The files at all other places have the same results, in the same order. -/
theorem DifferAt.placedResults_filter
    {place : List String}
    (h : DifferAt place tree tree')
    (grammar : Grammar)
    (roots : List Path)
    (selection : Selection) :
    (tree'.placedResults grammar roots selection).map
        (List.filter fun r => r.place != place) =
      (tree.placedResults grammar roots selection).map
        (List.filter fun r => r.place != place) := by
  obtain ⟨counts, hagree, hcounts⟩ := h.exists_agree
  have hmap : ∀ t : FileTree,
      (t.placedResults grammar roots selection).map (List.filter fun r => r.place != place) =
        ((t.placed roots selection).map (List.filter (counts ∘ Placed.place))).map fun files =>
          (files.filter fun x => x.place != place && isCandidate x.source.content).map fun x =>
            ⟨x.place, buildFile grammar x.source⟩ := by
    intro t
    rw [placedResults]
    cases t.placed roots selection with
    | error e =>
        rfl
    | ok files =>
        refine congrArg Except.ok ?_
        simp only [List.filter_map, List.filter_filter]
        refine congrArg (List.map _) (List.filter_congr fun x _ => ?_)
        by_cases hx : x.place = place
        · simp [hx]
        · simp [hcounts x.place hx]
  rw [hmap, hmap, hagree.placed_filter]

end Placed

end FileTree

/-! ## Merging -/

section Combine

variable {tree tree' : FileTree} {grammar : Grammar} {roots : List Path} {limits : Limits}

/-- The places are written beside the results, and change nothing. -/
theorem results_eq_map_placedResults
    (grammar : Grammar)
    (tree : FileTree)
    (roots : List Path)
    (limits : Limits) :
    (combine grammar tree roots limits).map Combined.results =
      (tree.placedResults grammar roots limits.selection).map (List.map PlacedResult.result) := by
  rw [combine, FileTree.placedResults, FileTree.collect_eq_map_placed]
  cases tree.placed roots limits.selection with
  | error e =>
      rfl
  | ok files =>
      refine congrArg Except.ok ?_
      simp only [combineFiles, List.filter_map, List.map_map]
      rfl

/-- The modules of other names are those of the files at other places. -/
theorem filter_modules
    {c : Combined}
    (h : combine grammar tree roots limits = .ok c)
    {files : List PlacedResult}
    (hfiles : tree.placedResults grammar roots limits.selection = .ok files)
    (place : List String) :
    c.modules.filter (fun n => n.name != (Path.absolute place).moduleName) =
      (Merged.ofResults limits.platform (((files.filter fun r => r.place != place).map
        PlacedResult.result).filter fun r =>
          r.moduleName != (Path.absolute place).moduleName)).modules := by
  have hresults := results_eq_map_placedResults grammar tree roots limits
  rw [h, hfiles] at hresults
  have hc : c.modules = (Merged.ofResults limits.platform c.results).modules := by
    obtain ⟨sources, -, rfl⟩ := map_eq_ok_iff.1 h
    rfl
  have hname : ∀ r, r ∈ files → r.place = place →
      r.result.moduleName = (Path.absolute place).moduleName := by
    rintro r hr rfl
    obtain ⟨sources, hsources, rfl⟩ := map_eq_ok_iff.1 hfiles
    obtain ⟨x, hx, rfl⟩ := List.mem_map.1 hr
    exact FileTree.moduleName_of_mem_placed hsources (List.mem_filter.1 hx).1
  rw [hc, Merged.filter_ofResults, Except.ok.inj hresults]
  refine congrArg (fun results => (Merged.ofResults limits.platform results).modules) ?_
  rw [List.filter_map, List.filter_map, List.filter_filter]
  refine congrArg (List.map _) (List.filter_congr fun r hr => ?_)
  by_cases hplace : r.place = place
  · simp [hplace, hname r hr hplace]
  · simp [hplace]

/-- What the modules of files that have been read are merged to. -/
structure Combined.Merges
    (grammar : Grammar)
    (platform : Option Platform)
    (files : List SourceFile)
    (c : Combined) : Prop where
  results : c.results = (files.filter fun f => isCandidate f.content).map (buildFile grammar)
  ordered : c.results.Pairwise fun r s => r.path ≤ s.path
  distinct : (c.modules.map NamedSchema.name).Nodup
  modules : ∀ name, c.schemaOf? name =
    (c.results.find? fun r => r.moduleName == name && r.counts platform).bind FileResult.schema?

theorem merges_combineFiles
    {selection : Selection}
    {files : List SourceFile}
    (h : tree.collect roots selection = .ok files)
    (platform : Option Platform) :
    (combineFiles grammar platform files).Merges grammar platform files where
  results := rfl
  ordered := by
    have hcandidates := (FileTree.pairwise_collect h).filter fun f => isCandidate f.content
    exact List.pairwise_map.2 hcandidates
  distinct := Merged.nodup_ofResults _ _
  modules := Merged.find?_ofResults _ _

/-- Files that are collected within limits that make sense are combined. -/
theorem exists_merges_of_collect
    {patterns : PatternSyntax}
    {platform exclude : Option String}
    {files : List SourceFile}
    (hlimits : Limits.read patterns platform exclude = .ok limits)
    (hfiles : tree.collect roots limits.selection = .ok files)
    (grammar : Grammar) :
    ∃ c, combine grammar tree roots limits = .ok c ∧
      combineWith grammar patterns tree roots platform exclude = .ok c ∧
      c.Merges grammar limits.platform files := by
  have hcombine : combine grammar tree roots limits =
      .ok (combineFiles grammar limits.platform files) :=
    map_eq_ok_iff.2 ⟨_, hfiles, rfl⟩
  refine ⟨_, hcombine, ?_, merges_combineFiles hfiles _⟩
  rw [combineWith, hlimits]
  exact mapError_eq_ok_iff.2 hcombine

/-- Where all files are candidates each of them has a result. -/
theorem Combined.Merges.results_of_candidates
    {platform : Option Platform}
    {files : List SourceFile}
    {c : Combined}
    (h : c.Merges grammar platform files)
    (hcandidates : ∀ f, f ∈ files → isCandidate f.content = true) :
    c.results = files.map (buildFile grammar) := by
  rw [h.results, List.filter_eq_self.2 hcandidates]

/-- A module that no file is named for is not there. -/
theorem Combined.Merges.schemaOf?_eq_none
    {platform : Option Platform}
    {files : List SourceFile}
    {c : Combined}
    (h : c.Merges grammar platform files)
    {name : String}
    (hname : ∀ f, f ∈ files → f.moduleName ≠ name) :
    c.schemaOf? name = none := by
  have hnone : (c.results.find? fun r => r.moduleName == name && r.counts platform) = none := by
    rw [h.results, List.find?_eq_none]
    intro r hr
    obtain ⟨f, hf, rfl⟩ := List.mem_map.1 hr
    have hne : (buildFile grammar f).moduleName ≠ name := hname f (List.mem_filter.1 hf).1
    simp [hne]
  rw [h.modules, hnone, Option.bind_none]

/-- Which file lies at a place is nothing to the other files. -/
structure Isolated
    (grammar : Grammar)
    (roots : List Path)
    (limits : Limits)
    (place : List String)
    (tree tree' : FileTree) : Prop where
  results : (tree'.placedResults grammar roots limits.selection).map
      (List.filter fun r => r.place != place) =
    (tree.placedResults grammar roots limits.selection).map
      (List.filter fun r => r.place != place)
  modules : ∀ c c', combine grammar tree roots limits = .ok c →
    combine grammar tree' roots limits = .ok c' →
    c'.modules.filter (fun n => n.name != (Path.absolute place).moduleName) =
      c.modules.filter fun n => n.name != (Path.absolute place).moduleName

theorem isolated_of_differAt
    {place : List String}
    (h : FileTree.DifferAt place tree tree') :
    Isolated grammar roots limits place tree tree' where
  results := h.placedResults_filter grammar roots limits.selection
  modules := by
    intro c c' hc hc'
    have hplaced := h.placedResults_filter grammar roots limits.selection
    have hfiles := results_eq_map_placedResults grammar tree roots limits
    have hfiles' := results_eq_map_placedResults grammar tree' roots limits
    rw [hc] at hfiles
    rw [hc'] at hfiles'
    obtain ⟨files, hfiles, -⟩ := map_eq_ok_iff.1 hfiles.symm
    obtain ⟨files', hfiles', -⟩ := map_eq_ok_iff.1 hfiles'.symm
    rw [hfiles, hfiles'] at hplaced
    rw [filter_modules hc hfiles, filter_modules hc' hfiles', Except.ok.inj hplaced]

/-- Combining merges what each collected file comes to, and keeps the files apart. -/
structure Combines
    (grammar : Grammar)
    (tree : FileTree)
    (roots : List Path)
    (limits : Limits)
    (outcome : Except CombineError Combined) : Prop where
  failed : ∀ e, tree.collect roots limits.selection = .error e → outcome = .error (.collect e)
  merged : ∀ files, tree.collect roots limits.selection = .ok files →
    ∃ c, outcome = .ok c ∧ c.Merges grammar limits.platform files
  placed : outcome.map Combined.results =
    ((tree.placedResults grammar roots limits.selection).map
      (List.map PlacedResult.result)).mapError .collect
  isolated : ∀ place tree', FileTree.DifferAt place tree tree' →
    Isolated grammar roots limits place tree tree'

/--
With limits that make sense, there is one result for each candidate that is collected,
in the order of the paths, and each name stands for the first result of the module that
counts.  Another file at one place changes nothing but its results and its module.
-/
theorem combine_merges
    {patterns : PatternSyntax}
    {platform exclude : Option String}
    (hlimits : Limits.read patterns platform exclude = .ok limits)
    (grammar : Grammar)
    (tree : FileTree)
    (roots : List Path) :
    Combines grammar tree roots limits
      (combineWith grammar patterns tree roots platform exclude) := by
  have houtcome : combineWith grammar patterns tree roots platform exclude =
      (combine grammar tree roots limits).mapError .collect := by
    rw [combineWith, hlimits]
    rfl
  rw [houtcome]
  refine ⟨?failed, ?merged, ?placed, fun place tree' h => isolated_of_differAt h⟩
  case failed =>
      intro e he
      rw [combine, he]
      rfl
  case merged =>
      intro files hfiles
      obtain ⟨c, hcombine, -, hmerges⟩ := exists_merges_of_collect hlimits hfiles grammar
      exact ⟨c, mapError_eq_ok_iff.2 hcombine, hmerges⟩
  case placed =>
      rw [← results_eq_map_placedResults]
      cases combine grammar tree roots limits <;> rfl

end Combine

namespace FooFiles

def text : String :=
  "interface Spec extends TurboModule {}\nexport default TurboModuleRegistry.get<Spec>('Foo');"

def token (kind : String) (start stop : Nat) : Concrete.Node :=
  .mk kind false none start stop []

def leaf (kind : String) (field : Option String) (start stop : Nat) : Concrete.Node :=
  .mk kind true field start stop []

def interface : Concrete.Node :=
  .mk "interface_declaration" true none 0 37
    [token "interface" 0 9, leaf "type_identifier" (some "name") 10 14,
      .mk "extends_type_clause" true none 15 34
        [token "extends" 15 22, leaf "type_identifier" (some "type") 23 34],
      .mk "interface_body" true (some "body") 35 37 [token "\x7b" 35 36, token "\x7d" 36 37]]

def load : Concrete.Node :=
  .mk "call_expression" true (some "value") 53 89
    [.mk "member_expression" true (some "function") 53 76
        [leaf "identifier" (some "object") 53 72, token "." 72 73,
          leaf "property_identifier" (some "property") 73 76],
      .mk "type_arguments" true (some "type_arguments") 76 82
        [token "<" 76 77, leaf "type_identifier" none 77 81, token ">" 81 82],
      .mk "arguments" true (some "arguments") 82 89
        [token "(" 82 83,
          .mk "string" true none 83 88
            [token "'" 83 84, leaf "string_fragment" none 84 87, token "'" 87 88],
          token ")" 88 89]]

/-- The concrete tree of the text. -/
def root : Concrete.Node :=
  .mk "program" true none 0 90
    [interface,
      .mk "export_statement" true none 38 90
        [token "export" 38 44, token "default" 45 52, load, token ";" 89 90]]

/-- A text of the same form, in which the module is registered under another name. -/
def otherText : String :=
  "interface Spec extends TurboModule {}\nexport default TurboModuleRegistry.get<Spec>('Bar');"

def grammar : Grammar := fun _ _ => root

/-- The working directory. -/
def here : List String := ["work"]

def place : List String := here ++ ["specs", "NativeFoo.ts"]

def otherPlace : List String := here ++ ["specs", "old", "NativeFoo.ts"]

/-- Two files of one name that define the same module. -/
def tree : FileTree :=
  ⟨[⟨place, text.toUTF8⟩, ⟨otherPlace, otherText.toUTF8⟩], [], here⟩

/-- The first file is empty. -/
def emptied : FileTree :=
  { tree with files := FileTree.put ByteArray.empty place tree.files }

def specs : Path := .relative ["specs"]

/-- The modules that are asked for: those for one platform, without the tests. -/
def limits : Limits :=
  ⟨some .ios, (Pattern.written "test").toOption⟩

/-- The first file, as it is collected. -/
def source : SourceFile :=
  ⟨"NativeFoo.ts", text, "NativeFoo", Dialect.typescript.name⟩

/-- The second file, as it is collected. -/
def otherSource : SourceFile :=
  ⟨"old/NativeFoo.ts", otherText, "NativeFoo", Dialect.typescript.name⟩

theorem differAt :
    FileTree.DifferAt place tree emptied where
  sound := ⟨by decide, by decide⟩
  sound' := ⟨by decide, by decide⟩
  here := rfl
  source := by decide +kernel
  others := by
    intro path hpath
    exact (FileTree.find?_put ByteArray.empty place path tree.files).trans
      (if_neg (Ne.symm hpath))

theorem decode_text :
    Text.decode? text.toUTF8 = some text := by
  decide +kernel

theorem decode_otherText :
    Text.decode? otherText.toUTF8 = some otherText := by
  decide +kernel

theorem isCandidate_text :
    isCandidate text = true := by
  decide +kernel

theorem isCandidate_otherText :
    isCandidate otherText = true := by
  decide +kernel

/-- Each file with one of the texts has a result. -/
theorem results_of_merges
    {platform : Option Platform}
    {files : List SourceFile}
    {c : Combined}
    (h : c.Merges grammar platform files)
    (hcontents : ∀ f, f ∈ files → f.content = text ∨ f.content = otherText) :
    c.results = files.map (buildFile grammar) := by
  refine h.results_of_candidates fun f hf => ?_
  rcases hcontents f hf with hcontent | hcontent
  · exact hcontent ▸ isCandidate_text
  · exact hcontent ▸ isCandidate_otherText

theorem filter_wanted :
    [place, otherPlace].filter (FileTree.isWanted [] limits.selection (specs.resolveIn here)) =
      [place, otherPlace] := by
  unfold FileTree.isWanted FileTree.isSource Path.isNeverScanned
  simp only [Pattern.isGenerated_eq]
  decide +kernel

theorem collect_tree :
    tree.collect [specs] limits.selection = .ok [source, otherSource] := by
  have hfound : tree.candidates limits.selection specs = .ok [place, otherPlace] :=
    FileTree.candidates_of_unruled rfl rfl filter_wanted (by decide +kernel)
  have hread : tree.collectRoot limits.selection specs = .ok [source, otherSource] := by
    refine FileTree.collectRoot_of_candidates hfound (.cons ?_ (.cons ?_ .nil))
    · rw [FileTree.source?_of_file? rfl decode_text (d := .typescript) (by decide) (by decide)]
      rfl
    · rw [FileTree.source?_of_file? rfl decode_otherText (d := .typescript) (by decide) (by decide)]
      rfl
  exact FileTree.collect_singleton hread (by decide)

theorem collect_emptied :
    emptied.collect [specs] limits.selection = .ok [otherSource] := by
  have hfound : emptied.candidates limits.selection specs = .ok [place, otherPlace] :=
    FileTree.candidates_of_unruled rfl rfl filter_wanted (by decide +kernel)
  have hnone : emptied.source? (FileTree.relativeTo (emptied.resolve specs) place) place =
      none := by
    decide +kernel
  have hsome : emptied.source? (FileTree.relativeTo (emptied.resolve specs) otherPlace) otherPlace =
      some otherSource := by
    rw [FileTree.source?_of_file? rfl decode_otherText (d := .typescript) (by decide) (by decide)]
    rfl
  have hread : emptied.collectRoot limits.selection specs = .ok [otherSource] := by
    refine bind_eq_ok_iff.2 ⟨_, hfound, congrArg Except.ok ?_⟩
    simp only [List.filterMap_cons, List.filterMap_nil, hnone, hsome]
  exact FileTree.collect_singleton hread (List.pairwise_singleton _ _)

end FooFiles

/--
The first of two files gives the module.  Where it is empty the second one does, with the
name that it is registered under there, and no other module comes or goes.
-/
theorem fooFiles_merge :
    ∃ c c', combineWith FooFiles.grammar Pattern.written FooFiles.tree [FooFiles.specs]
        (some "ios") (some "test") = .ok c ∧
      combineWith FooFiles.grammar Pattern.written FooFiles.emptied [FooFiles.specs]
        (some "ios") (some "test") = .ok c' ∧
      c.results.map FileResult.path = ["NativeFoo.ts", "old/NativeFoo.ts"] ∧
      c'.results.map FileResult.path = ["old/NativeFoo.ts"] ∧
      (c.schemaOf? "NativeFoo").map Schema.moduleNames = some ["Foo"] ∧
      (c'.schemaOf? "NativeFoo").map Schema.moduleNames = some ["Bar"] ∧
      (∀ name, name ≠ "NativeFoo" → c.schemaOf? name = none ∧ c'.schemaOf? name = none) ∧
      Isolated FooFiles.grammar [FooFiles.specs] FooFiles.limits FooFiles.place FooFiles.tree
        FooFiles.emptied := by
  have hlimits : Limits.read Pattern.written (some "ios") (some "test") = .ok FooFiles.limits := rfl
  have hcombines := combine_merges hlimits FooFiles.grammar FooFiles.tree [FooFiles.specs]
  have hcombines' := combine_merges hlimits FooFiles.grammar FooFiles.emptied [FooFiles.specs]
  obtain ⟨c, hc, hmerges⟩ := hcombines.merged _ FooFiles.collect_tree
  obtain ⟨c', hc', hmerges'⟩ := hcombines'.merged _ FooFiles.collect_emptied
  have hresults := FooFiles.results_of_merges hmerges (by
    simp [FooFiles.source, FooFiles.otherSource])
  have hresults' := FooFiles.results_of_merges hmerges' (by simp [FooFiles.otherSource])
  refine ⟨c, c', hc, hc', by rw [hresults]; rfl, by rw [hresults']; rfl, ?_, ?_,
    fun name hname => ⟨?_, ?_⟩, hcombines.isolated _ _ FooFiles.differAt⟩
  · rw [hmerges.modules, hresults]
    decide +kernel
  · rw [hmerges'.modules, hresults']
    decide +kernel
  · exact hmerges.schemaOf?_eq_none (by
      simpa [FooFiles.source, FooFiles.otherSource] using hname.symm)
  · exact hmerges'.schemaOf?_eq_none (by simpa [FooFiles.otherSource] using hname.symm)

end ModuleSpec
