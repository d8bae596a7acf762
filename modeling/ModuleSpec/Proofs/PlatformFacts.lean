import Mathlib.Data.List.Induction
import ModuleSpec.Proofs.CommandLine.AllOrNothing
import ModuleSpec.Proofs.Entries
import ModuleSpec.Proofs.Exclusion

/-!
# Where modules run

The end of a name leaves out platforms, and the names of a module leave out those that one
of them leaves out.  A name that ends in Cxx leaves out every platform, so a module that is
built for C++ alone, with the types that only such a module may use, has no part in what is
combined for a platform.

**Idea.**  One more name adds to the platforms that are left out those that it leaves out
itself and that are not yet among them (`excluded_concat`).  All else about lists of names
follows from this by induction from the end of the list.

**Results.**  `platform_facts_lawful`.
-/

namespace ModuleSpec

/-! ## One name -/

namespace Platform

/-- How the names end that leave out the platform. -/
def endings : Platform → List String
  | ios => ["Android", "Cxx"]
  | android => ["IOS", "Cxx"]

/-- Whether the name leaves out the platform. -/
def isLeftOutBy (p : Platform) (name : String) : Bool :=
  p.endings.any fun ending => ending.toList.isSuffixOf name.toList

theorem isLeftOutBy_iff
    {p : Platform}
    {name : String} :
    p.isLeftOutBy name = true ↔ ∃ ending, ending ∈ p.endings ∧ ending.toList <:+ name.toList := by
  simp only [isLeftOutBy, List.any_eq_true, List.isSuffixOf_iff_suffix]

end Platform

namespace NameSuffix

/-- A name ends in at most one of the suffixes. -/
theorem text_eq_of_ends
    {s s' : NameSuffix}
    {name : String}
    (hs : s ∈ all)
    (hs' : s' ∈ all)
    (h : s.ends name = true)
    (h' : s'.ends name = true) :
    s.text = s'.text := by
  have hone : ∀ s ∈ all, ∀ s' ∈ all, s.text.toList <:+ s'.text.toList → s.text = s'.text := by
    decide
  rw [ends, List.isSuffixOf_iff_suffix] at h h'
  rcases List.suffix_or_suffix_of_suffix h h' with hsuffix | hsuffix
  · exact hone s hs s' hs' hsuffix
  · exact (hone s' hs' s hs hsuffix).symm

/-- A name ends in the text of a suffix when that is the suffix that is found. -/
theorem isSuffixOf_eq_any_of?
    {text : String}
    (htext : text ∈ all.map NameSuffix.text)
    (name : String) :
    text.toList.isSuffixOf name.toList = (of? name).any fun found => found.text == text := by
  obtain ⟨s, hs, rfl⟩ := List.mem_map.1 htext
  cases hfound : of? name with
  | none => exact Bool.eq_false_iff.2 (List.find?_eq_none.1 hfound s hs)
  | some found =>
      have hmem : found ∈ all := List.mem_of_find?_eq_some hfound
      have hends : found.ends name = true :=
        List.find?_some (p := fun suffix : NameSuffix => suffix.ends name) hfound
      rw [Option.any_some, Bool.eq_iff_iff, beq_iff_eq]
      refine ⟨text_eq_of_ends hmem hs hends, fun htext => ?_⟩
      rwa [← htext]

theorem isLeftOutBy_eq
    (p : Platform)
    (name : String) :
    p.isLeftOutBy name = p.endings.any fun ending =>
      (of? name).any fun found => found.text == ending := by
  have hendings : ∀ ending, ending ∈ p.endings → ending ∈ all.map NameSuffix.text := by
    cases p <;> decide
  rw [Platform.isLeftOutBy, Bool.eq_iff_iff, List.any_eq_true, List.any_eq_true]
  refine exists_congr fun ending => and_congr_right fun hending => ?_
  rw [isSuffixOf_eq_any_of? (hendings ending hending)]

/-- The suffix that is found leaves out the platforms that the name leaves out. -/
theorem flatMap_excluded_of?
    (name : String) :
    (of? name).toList.flatMap excluded =
      [Platform.ios, .android].filter fun p => p.isLeftOutBy name := by
  simp only [isLeftOutBy_eq]
  cases hfound : of? name with
  | none => rfl
  | some found =>
      have hall : ∀ s ∈ all, s.excluded = [Platform.ios, .android].filter fun p =>
          p.endings.any fun ending => s.text == ending := by
        decide
      rw [Option.toList_some, List.flatMap_singleton]
      exact hall found (List.mem_of_find?_eq_some hfound)

theorem any_nativeOnly_of?
    (name : String) :
    (of? name).any nativeOnly = "Cxx".toList.isSuffixOf name.toList := by
  rw [isSuffixOf_eq_any_of? (by decide)]
  cases hfound : of? name with
  | none => rfl
  | some found =>
      have hall : ∀ s ∈ all, s.nativeOnly = (s.text == "Cxx") := by decide
      exact hall found (List.mem_of_find?_eq_some hfound)

end NameSuffix

/-! ## Lists of names -/

namespace PlatformFacts

@[simp]
theorem ofNames_nil :
    ofNames [] = ⟨false, []⟩ :=
  rfl

theorem eraseDups_filter_platforms
    (test : Platform → Bool) :
    ([Platform.ios, .android].filter test).eraseDups = [Platform.ios, .android].filter test := by
  simp only [List.filter_cons, List.filter_nil]
  cases test .ios <;> cases test .android <;> rfl

/-- One more name adds what it leaves out and what is not left out yet. -/
theorem excluded_concat
    (names : List String)
    (name : String) :
    (ofNames (names ++ [name])).excluded =
      (ofNames names).excluded ++ [Platform.ios, .android].filter fun p =>
        p.isLeftOutBy name && !(ofNames names).excluded.contains p := by
  have hname : ([name].filterMap NameSuffix.of?).flatMap NameSuffix.excluded =
      [Platform.ios, .android].filter fun p => p.isLeftOutBy name := by
    rw [← NameSuffix.flatMap_excluded_of?]
    cases hfound : NameSuffix.of? name <;> simp [hfound]
  simp only [ofNames, List.filterMap_append, List.flatMap_append, List.eraseDups_append, hname,
    List.removeAll, List.filter_filter, eraseDups_filter_platforms]
  refine congrArg (_ ++ ·) (List.filter_congr fun p _ => ?_)
  rw [Bool.and_comm, List.elem_eq_contains, Bool.eq_iff_iff]
  simp only [Bool.and_eq_true, Bool.not_eq_true', List.contains_eq_mem, List.mem_eraseDups]

theorem nativeOnly_iff
    {names : List String} :
    (ofNames names).nativeOnly = true ↔ ∃ name, name ∈ names ∧ "Cxx".toList <:+ name.toList := by
  rw [ofNames, List.any_filterMap, List.any_eq_true]
  refine exists_congr fun name => and_congr_right fun _ => ?_
  rw [← List.isSuffixOf_iff_suffix, ← NameSuffix.any_nativeOnly_of?]
  cases NameSuffix.of? name <;> rfl

theorem nodup_excluded
    (names : List String) :
    (ofNames names).excluded.Nodup := by
  induction names using List.reverseRecOn with
  | nil => exact .nil
  | append_singleton names name ih =>
      rw [excluded_concat, List.nodup_append]
      refine ⟨ih, (by decide : [Platform.ios, .android].Nodup).filter _, ?_⟩
      rintro p hp _ hnew rfl
      have hfresh := (Bool.and_eq_true_iff.1 (List.mem_filter.1 hnew).2).2
      simp [hp] at hfresh

theorem mem_excluded_iff
    {names : List String}
    {p : Platform} :
    p ∈ (ofNames names).excluded ↔ ∃ name, name ∈ names ∧ p.isLeftOutBy name = true := by
  induction names using List.reverseRecOn with
  | nil => simp
  | append_singleton names name ih =>
      have hp : p ∈ [Platform.ios, .android] := by cases p <;> decide
      have hall : (∃ name', name' ∈ names ++ [name] ∧ p.isLeftOutBy name' = true) ↔
          p ∈ (ofNames names).excluded ∨ p.isLeftOutBy name = true := by
        rw [ih]
        simp [or_and_right, exists_or]
      rw [excluded_concat, hall, List.mem_append, List.mem_filter]
      by_cases hbefore : p ∈ (ofNames names).excluded <;> simp [hbefore, hp]

/-- Only which names there are counts for what the facts say. -/
theorem ofNames_of_mem_iff
    {names names' : List String}
    (h : ∀ name, name ∈ names' ↔ name ∈ names) :
    (ofNames names').nativeOnly = (ofNames names).nativeOnly ∧
      (ofNames names').excluded.Perm (ofNames names).excluded := by
  constructor
  · rw [Bool.eq_iff_iff, nativeOnly_iff, nativeOnly_iff]
    simp only [h]
  · refine (List.perm_ext_iff_of_nodup (nodup_excluded _) (nodup_excluded _)).2 fun p => ?_
    rw [mem_excluded_iff, mem_excluded_iff]
    simp only [h]

/-- A name that was there before adds nothing. -/
theorem excluded_repeated
    {before : List String}
    {name : String}
    (hname : name ∈ before)
    (after : List String) :
    (ofNames (before ++ name :: after)).excluded = (ofNames (before ++ after)).excluded := by
  induction after using List.reverseRecOn with
  | nil =>
      rw [excluded_concat, List.append_nil, List.append_right_eq_self, List.filter_eq_nil_iff]
      intro p _ hnew
      obtain ⟨hp, hfresh⟩ := Bool.and_eq_true_iff.1 hnew
      have hbefore := mem_excluded_iff.2 ⟨name, hname, hp⟩
      simp [hbefore] at hfresh
  | append_singleton after last ih =>
      rw [← List.cons_append, ← List.append_assoc, excluded_concat, ih, ← excluded_concat,
        List.append_assoc]

theorem ofNames_repeated
    {before : List String}
    {name : String}
    (hname : name ∈ before)
    (after : List String) :
    ofNames (before ++ name :: after) = ofNames (before ++ after) := by
  have hnames : ∀ x, x ∈ before ++ name :: after ↔ x ∈ before ++ after := by
    intro x
    simp only [List.mem_append, List.mem_cons]
    constructor
    · rintro (h | rfl | h)
      · exact .inl h
      · exact .inl hname
      · exact .inr h
    · exact Or.imp_right .inr
  have hnative := (ofNames_of_mem_iff hnames).1
  have hexcluded := excluded_repeated hname after
  revert hnative hexcluded
  cases ofNames (before ++ name :: after)
  cases ofNames (before ++ after)
  rintro rfl rfl
  rfl

end PlatformFacts

/-! ## Modules -/

namespace Schema

/-- Whether the names of a module say that it is implemented in C++ alone. -/
def isNativeOnly (schema : Schema) (moduleName : String) : Bool :=
  (PlatformFacts.ofNames (schema.moduleNames ++ [moduleName])).nativeOnly

end Schema

section Build

variable {moduleName : String} {program : Program} {built : Built}

/-- The members of a module are built for C++ alone when its names say so. -/
theorem exists_members_of_buildSchema
    (h : buildSchema moduleName program = .ok built) :
    ∃ i, findInterface moduleName program (Environment.ofProgram program) = .ok i ∧
      buildMembers (memberScope moduleName (Environment.ofProgram program)
          (built.schema.isNativeOnly moduleName)) i.members =
        .ok ⟨built.schema.aliases, built.schema.properties, built.faults⟩ := by
  obtain ⟨i, registered, entries, hi, -, hentries, rfl⟩ := buildSchema_eq_ok h
  exact ⟨i, hi, bind_eq_ok_iff.2 ⟨entries, hentries, rfl⟩⟩

/-- A module that is built for C++ alone is left out on every platform. -/
theorem excludes_of_isNativeOnly
    (h : buildSchema moduleName program = .ok built)
    (hnative : built.schema.isNativeOnly moduleName = true)
    (p : Platform) :
    built.schema.excludes p = true := by
  obtain ⟨i, registered, entries, -, -, -, rfl⟩ := buildSchema_eq_ok h
  obtain ⟨name, hname, hends⟩ := PlatformFacts.nativeOnly_iff.1 hnative
  have hcxx : "Cxx" ∈ p.endings := by cases p <;> decide
  have hp : p ∈ (PlatformFacts.ofNames [registered, moduleName]).excluded :=
    PlatformFacts.mem_excluded_iff.2 ⟨name, hname, Platform.isLeftOutBy_iff.2 ⟨_, hcxx, hends⟩⟩
  have hsome : (PlatformFacts.ofNames [registered, moduleName]).excluded.isEmpty = false :=
    List.isEmpty_eq_false_iff.2 (List.ne_nil_of_mem hp)
  have hleft : p.name ∈
      (PlatformFacts.ofNames [registered, moduleName]).excluded.map Platform.name :=
    List.mem_map_of_mem hp
  simpa [Schema.excludes, Built.ofEntries, hsome] using hleft

end Build

/-! ## What is combined for a platform -/

namespace FileResult

/-- Whether the file gives a module that is implemented in C++ alone. -/
def isNativeOnly (r : FileResult) : Bool :=
  r.schema?.any fun schema => schema.isNativeOnly r.moduleName

section File

variable {grammar : Grammar} {f : SourceFile}

/-- The schema of a file is built from what it is read as. -/
theorem exists_built_of_schema?
    {schema : Schema}
    (h : (buildFile grammar f).schema? = some schema) :
    ∃ program built, buildSchema f.moduleName program = .ok built ∧ built.schema = schema := by
  have houtcome : ∃ built, buildText grammar f.moduleName f.dialect f.content = .ok built ∧
      built.schema = schema := by
    unfold schema? at h
    split at h
    case h_1 built hbuilt => exact ⟨built, hbuilt, Option.some.inj h⟩
    case h_2 => cases h
  obtain ⟨built, hbuilt, hschema⟩ := houtcome
  unfold buildText at hbuilt
  split at hbuilt
  case h_1 => cases hbuilt
  case h_2 d _ =>
      split at hbuilt
      case h_1 => cases hbuilt
      case h_2 program _ => exact ⟨program, built, mapError_eq_ok_iff.1 hbuilt, hschema⟩

/-- A file with such a module gives it no schema on a platform. -/
theorem not_counts_of_isNativeOnly
    (h : (buildFile grammar f).isNativeOnly = true)
    (p : Platform) :
    (buildFile grammar f).counts (some p) = false := by
  obtain ⟨schema, hschema, hnative⟩ := (Option.any_eq_true _ _).1 h
  obtain ⟨program, built, hbuilt, rfl⟩ := exists_built_of_schema? hschema
  rw [counts, hschema, Option.any_some, Option.any_some,
    excludes_of_isNativeOnly hbuilt hnative p]
  rfl

end File

end FileResult

namespace Merged

/-- What does not count on the platform can as well not be there. -/
theorem modules_ofResults_filter
    {platform : Option Platform}
    {test : FileResult → Bool}
    {results : List FileResult}
    (h : ∀ r, r ∈ results → test r = false → r.counts platform = false) :
    (ofResults platform (results.filter test)).modules = (ofResults platform results).modules := by
  induction results using List.reverseRecOn with
  | nil => rfl
  | append_singleton results r ih =>
      have ih := ih fun r' hr' => h r' (List.mem_append_left _ hr')
      rw [List.filter_append, ofResults_concat, modules_add]
      cases htest : test r with
      | true =>
          rw [List.filter_singleton, htest, cond_true, ofResults_concat, modules_add, contains,
            contains, ih]
      | false =>
          rw [List.filter_singleton, htest, cond_false, List.append_nil,
            h r (List.mem_append_right _ List.mem_cons_self) htest, ih]
          exact (List.append_nil _).symm

end Merged

/-- Limits with a platform are read when there is one of that name. -/
theorem Limits.platform_of_read
    {patterns : PatternSyntax}
    {platform : String}
    {exclude : Option String}
    {limits : Limits}
    (h : Limits.read patterns (some platform) exclude = .ok limits) :
    ∃ p, Platform.ofOption? platform = some p ∧ limits.platform = some p := by
  obtain ⟨found, hfound, hlimits⟩ := bind_eq_ok_iff.1 h
  obtain ⟨occurs, -, hlimits⟩ := bind_eq_ok_iff.1 hlimits
  cases hlimits
  cases hp : Platform.ofOption? platform with
  | none =>
      simp only [readPlatform, hp] at hfound
      cases hfound
  | some p =>
      simp only [readPlatform, hp] at hfound
      cases hfound
      exact ⟨p, rfl, rfl⟩

/-- Nothing that is combined for a platform is implemented in C++ alone. -/
theorem combineFiles_of_platform
    (grammar : Grammar)
    (p : Platform)
    (files : List SourceFile) :
    let c := combineFiles grammar (some p) files
    (∀ n, n ∈ c.modules → n.schema.isNativeOnly n.name = false) ∧
      c.modules =
        (Merged.ofResults (some p) (c.results.filter fun r => !r.isNativeOnly)).modules := by
  intro c
  have hmodules : c.modules =
      (Merged.ofResults (some p) (c.results.filter fun r => !r.isNativeOnly)).modules := by
    refine (Merged.modules_ofResults_filter fun r hr hnative => ?_).symm
    obtain ⟨f, -, rfl⟩ := List.mem_map.1 hr
    exact FileResult.not_counts_of_isNativeOnly (by simpa using hnative) p
  refine ⟨fun n hn => ?_, hmodules⟩
  rw [hmodules] at hn
  obtain ⟨r, hr, hname, hschema⟩ := Merged.exists_result_of_mem hn
  have hkept := (List.mem_filter.1 hr).2
  rwa [FileResult.isNativeOnly, hschema, Option.any_some, hname, Bool.not_eq_true'] at hkept

/-! ## The facts -/

/--
A module is implemented in C++ alone when one of its names ends in Cxx.  Each platform is
left out once at most, and when one of the names says so.  Platforms stand in the order in
which names first leave them out: one more name adds at the end what it leaves out and what
is not there yet.  A name that was there before changes nothing, and for names in another
order, or as often as one likes, at most the order is another.
-/
structure PlatformFacts.Lawful (names : List String) : Prop where
  nativeOnly : (ofNames names).nativeOnly = true ↔
    ∃ name, name ∈ names ∧ "Cxx".toList <:+ name.toList
  distinct : (ofNames names).excluded.Nodup
  ios : .ios ∈ (ofNames names).excluded ↔
    ∃ name, name ∈ names ∧ ("Android".toList <:+ name.toList ∨ "Cxx".toList <:+ name.toList)
  android : .android ∈ (ofNames names).excluded ↔
    ∃ name, name ∈ names ∧ ("IOS".toList <:+ name.toList ∨ "Cxx".toList <:+ name.toList)
  others : ∀ p, p ∈ (ofNames names).excluded → p = .ios ∨ p = .android
  ordered : ∀ name, (ofNames (names ++ [name])).excluded =
    (ofNames names).excluded ++ [Platform.ios, .android].filter fun p =>
      p.isLeftOutBy name && !(ofNames names).excluded.contains p
  repeated : ∀ before name after, names = before ++ name :: after → name ∈ before →
    ofNames names = ofNames (before ++ after)
  unordered : ∀ names', (∀ name, name ∈ names' ↔ name ∈ names) →
    (ofNames names').nativeOnly = (ofNames names).nativeOnly ∧
      (ofNames names').excluded.Perm (ofNames names).excluded

theorem PlatformFacts.lawful
    (names : List String) :
    Lawful names where
  nativeOnly := nativeOnly_iff
  distinct := nodup_excluded names
  ios := by
    simp only [mem_excluded_iff, Platform.isLeftOutBy_iff, Platform.endings, List.mem_cons,
      List.not_mem_nil, or_false, exists_eq_or_imp, exists_eq_left]
  android := by
    simp only [mem_excluded_iff, Platform.isLeftOutBy_iff, Platform.endings, List.mem_cons,
      List.not_mem_nil, or_false, exists_eq_or_imp, exists_eq_left]
  others := by
    rintro (_ | _) -
    · exact .inl rfl
    · exact .inr rfl
  ordered := excluded_concat names
  repeated := by
    rintro before name after rfl hname
    exact ofNames_repeated hname after
  unordered := fun _ => ofNames_of_mem_iff

/--
The facts are lawful for every list of names.  A module whose members are built for C++
alone is left out on both platforms.  Whatever the platform is that modules are combined
for, there is no such module among them, and they are the same as without its file.
-/
theorem platform_facts_lawful :
    (∀ names, PlatformFacts.Lawful names) ∧
      (∀ moduleName program built, buildSchema moduleName program = .ok built →
        (∃ i, findInterface moduleName program (Environment.ofProgram program) = .ok i ∧
          buildMembers (memberScope moduleName (Environment.ofProgram program)
              (built.schema.isNativeOnly moduleName)) i.members =
            .ok ⟨built.schema.aliases, built.schema.properties, built.faults⟩) ∧
          (built.schema.isNativeOnly moduleName = true → ∀ p, built.schema.excludes p = true)) ∧
      ∀ grammar patterns tree roots platform exclude c,
        combineWith grammar patterns tree roots (some platform) exclude = .ok c →
          (∀ n, n ∈ c.modules → n.schema.isNativeOnly n.name = false) ∧
            ∃ p, Platform.ofOption? platform = some p ∧ c.modules =
              (Merged.ofResults (some p) (c.results.filter fun r => !r.isNativeOnly)).modules := by
  refine ⟨PlatformFacts.lawful, fun moduleName program built h => ?_, ?_⟩
  · exact ⟨exists_members_of_buildSchema h, excludes_of_isNativeOnly h⟩
  · intro grammar patterns tree roots platform exclude c h
    obtain ⟨limits, hlimits, hcombine⟩ := bind_eq_ok_iff.1 h
    obtain ⟨p, hp, hplatform⟩ := Limits.platform_of_read (mapError_eq_ok_iff.1 hlimits)
    obtain ⟨files, -, rfl⟩ := map_eq_ok_iff.1 (mapError_eq_ok_iff.1 hcombine)
    rw [hplatform]
    obtain ⟨hnone, hmodules⟩ := combineFiles_of_platform grammar p files
    exact ⟨hnone, p, hp, hmodules⟩

namespace CxxFile

open FooFiles (grammar here)

/-- The path of a file whose name ends in Cxx. -/
def path : Path := .relative ["specs", "NativeFooCxx.ts"]

def tree : FileTree :=
  ⟨[⟨here ++ ["specs", "NativeFooCxx.ts"], FooFiles.text.toUTF8⟩], [], here⟩

theorem hasCandidate :
    tree.HasCandidate path .typescript FooFiles.text where
  file := ⟨_, rfl, FooFiles.decode_text⟩
  dialect := by decide
  candidate := FooFiles.isCandidate_text

theorem exists_combined :
    ∃ c, combineWith grammar Pattern.written tree [path] (some "ios") none = .ok c ∧
      c.results.map FileResult.isNativeOnly = [true] := by
  have hlimits : Limits.read Pattern.written (some "ios") none = .ok ⟨some .ios, none⟩ := rfl
  obtain ⟨c, -, hc, hmerges⟩ := exists_merges_of_collect hlimits (hasCandidate.collect _) grammar
  refine ⟨c, hc, ?_⟩
  rw [FooFiles.results_of_merges hmerges (by simp [single])]
  decide +kernel

end CxxFile

/-- The file gives a module for C++ alone, so nothing is left of it on a platform. -/
theorem cxxFile_left_out :
    PlatformFacts.ofNames ["FooIOS", "FooAndroid", "FooIOS"] = ⟨false, [.android, .ios]⟩ ∧
      (∃ built, buildSchema "NativeMapCxx" MapSpec.program = .ok built ∧
        built.schema.isNativeOnly "NativeMapCxx" = true ∧ ∀ p, built.schema.excludes p = true) ∧
      ∃ c, combineWith FooFiles.grammar Pattern.written CxxFile.tree [CxxFile.path]
          (some "ios") none = .ok c ∧
        c.results.map FileResult.isNativeOnly = [true] ∧ c.modules = [] := by
  obtain ⟨hnames, hbuilds, hcombines⟩ := platform_facts_lawful
  refine ⟨?_, ?_, ?_⟩
  · exact (hnames _).repeated ["FooIOS", "FooAndroid"] "FooIOS" [] rfl (by decide)
  · have hbuild : (buildSchema "NativeMapCxx" MapSpec.program).toOption.map
        (fun built => built.schema.isNativeOnly "NativeMapCxx") = some true := by
      decide +kernel
    obtain ⟨built, hbuilt, hnative⟩ := exists_eq_ok_of_toOption hbuild
    exact ⟨built, hbuilt, hnative, (hbuilds _ _ _ hbuilt).2 hnative⟩
  · obtain ⟨c, hc, hresults⟩ := CxxFile.exists_combined
    obtain ⟨-, p, -, hmodules⟩ := hcombines _ _ _ _ _ _ _ hc
    refine ⟨c, hc, hresults, ?_⟩
    obtain ⟨r, hr, hnative⟩ := List.map_eq_singleton_iff.1 hresults
    rw [hmodules, hr, List.filter_singleton, hnative]
    rfl

end ModuleSpec
