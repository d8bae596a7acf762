import ModuleSpec.Proofs.CommandLine.Terminal
import ModuleSpec.Proofs.Files.Reached
import ModuleSpec.Proofs.Files.Writing
import ModuleSpec.Proofs.Merging
import ModuleSpec.Proofs.Text.Marker

/-!
# All modules or none

When modules are combined the document is written after everything that can go
wrong has gone well: the limits make sense, the roots are there, their ignore
files have rules, and every candidate has been built.  What is printed after that is
words of the program and one path that is escaped.

The lines that warn of faults come before the document.  A path and a message are
escaped there one by one, and together they can still make a tag.

**Results.**  `combine_all_or_nothing`: when modules are combined with success, what is then
written, and that nothing is written otherwise.
-/

namespace ModuleSpec

/-- What is asked for can be done: the limits make sense, and all that is read is well formed. -/
structure CombineRequest.Accepted
    (setting : Setting)
    (tree : FileTree)
    (r : CombineRequest) : Prop where
  platform : ∀ name, r.platform = some name → (Platform.ofOption? name).isSome = true
  exclude : ∀ text, r.exclude = some text → ∃ occurs, setting.patterns text = .ok occurs
  reached : ∀ root, root ∈ r.roots → tree.reaches root = true
  rules : ∀ root, root ∈ r.roots →
    tree.isFile (tree.resolve root) = false → tree.HasRules root
  built : ∀ limits, Limits.read setting.patterns r.platform r.exclude = .ok limits →
    ∀ files, tree.collect r.roots limits.selection = .ok files →
      ∀ f, f ∈ files → isCandidate f.content = true →
        ∃ built, buildText setting.grammar f.moduleName f.dialect f.content = .ok built

/-- What is combined for a request. -/
def CombineRequest.outcome
    (setting : Setting)
    (tree : FileTree)
    (r : CombineRequest) :
    Except CombineError Combined :=
  combineWith setting.grammar setting.patterns tree r.roots r.platform r.exclude

namespace Combined

/-- The lines that warn of what was recorded. -/
def warnings (console : Console) (c : Combined) : List String :=
  c.results.flatMap fun r => r.faults.map (CommandLine.faultLine console "Warning" r.path)

/-- The lines that report a document that has been written. -/
def summary (console : Console) (output : Path) (c : Combined) : List String :=
  [
    "Schema written.",
    s!"  Output:         {CommandLine.shownPath console output}",
    s!"  Modules:        {c.modules.length}"
  ] ++ if c.faults.length = 0 then [] else [s!"  Warnings:       {c.faults.length}"]

end Combined

/-- All warnings of a build can be shown under a path. -/
def Built.WarningsShown (console : Console) (built : Built) (path : String) : Prop :=
  ∀ f, f ∈ built.faults → console.Shows (CommandLine.faultLine console "Warning" path f)

/-- All lines that warn of faults can be shown. -/
def CombineRequest.WarningsShown
    (setting : Setting)
    (tree : FileTree)
    (r : CombineRequest) : Prop :=
  ∀ combined, r.outcome setting tree = .ok combined →
    ∀ line, line ∈ combined.warnings setting.console → setting.console.Shows line

/-! ## When a request is accepted -/

section Accepted

variable {setting : Setting} {grammar : Grammar} {tree : FileTree} {r : CombineRequest}

theorem exists_limits_iff
    {patterns : PatternSyntax}
    {platform exclude : Option String} :
    (∃ limits, Limits.read patterns platform exclude = .ok limits) ↔
      (∀ name, platform = some name → (Platform.ofOption? name).isSome = true) ∧
        ∀ text, exclude = some text → ∃ occurs, patterns text = .ok occurs := by
  have hplatform : (∃ p, Limits.readPlatform platform = .ok p) ↔
      ∀ name, platform = some name → (Platform.ofOption? name).isSome = true := by
    cases platform with
    | none => exact iff_of_true ⟨none, rfl⟩ nofun
    | some name => cases hname : Platform.ofOption? name <;> simp [Limits.readPlatform, hname]
  have hexclude : (∃ occurs, Limits.readExclude patterns exclude = .ok occurs) ↔
      ∀ text, exclude = some text → ∃ occurs, patterns text = .ok occurs := by
    cases exclude with
    | none => exact iff_of_true ⟨none, rfl⟩ nofun
    | some text => cases htext : patterns text <;> simp [Limits.readExclude, htext]
  rw [← hplatform, ← hexclude]
  constructor
  · rintro ⟨limits, hlimits⟩
    obtain ⟨p, hp, hlimits⟩ := bind_eq_ok_iff.1 hlimits
    obtain ⟨occurs, hoccurs, -⟩ := bind_eq_ok_iff.1 hlimits
    exact ⟨⟨p, hp⟩, ⟨occurs, hoccurs⟩⟩
  · rintro ⟨⟨p, hp⟩, ⟨occurs, hoccurs⟩⟩
    exact ⟨_, bind_eq_ok_iff.2 ⟨p, hp, bind_eq_ok_iff.2 ⟨occurs, hoccurs, rfl⟩⟩⟩

theorem combineWith_eq_ok_iff
    {patterns : PatternSyntax}
    {roots : List Path}
    {platform exclude : Option String}
    {limits : Limits}
    (hlimits : Limits.read patterns platform exclude = .ok limits)
    {combined : Combined} :
    combineWith grammar patterns tree roots platform exclude = .ok combined ↔
      combine grammar tree roots limits = .ok combined := by
  rw [combineWith, hlimits]
  exact mapError_eq_ok_iff

/-- No file fails when all candidates are built. -/
theorem failed_eq_nil_iff
    {platform : Option Platform}
    {files : List SourceFile} :
    (combineFiles grammar platform files).failed = [] ↔
      ∀ f, f ∈ files → isCandidate f.content = true →
        ∃ built, buildText grammar f.moduleName f.dialect f.content = .ok built := by
  have hok (f : SourceFile) : (buildFile grammar f).ok = true ↔
      ∃ built, buildText grammar f.moduleName f.dialect f.content = .ok built := by
    rw [FileResult.ok, buildFile]
    cases buildText grammar f.moduleName f.dialect f.content <;> simp
  rw [Combined.failed, List.filter_eq_nil_iff]
  constructor
  · intro h f hf hcandidate
    have hfile := h (buildFile grammar f)
      (List.mem_map_of_mem (List.mem_filter.2 ⟨hf, hcandidate⟩))
    exact (hok f).1 (by simpa using hfile)
  · intro h result hresult
    obtain ⟨f, hf, rfl⟩ := List.mem_map.1 hresult
    obtain ⟨hf, hcandidate⟩ := List.mem_filter.1 hf
    simpa using (hok f).2 (h f hf hcandidate)

/-- A candidate that has a schema gives the one module that is combined. -/
theorem combineFiles_of_built
    {f : SourceFile}
    {built : Built}
    (hcandidate : isCandidate f.content = true)
    (h : buildText grammar f.moduleName f.dialect f.content = .ok built) :
    combineFiles grammar none [f] =
      ⟨[⟨f.moduleName, built.schema⟩], [⟨f.path, f.moduleName, .ok built⟩], []⟩ := by
  have hfilter : [f].filter (fun f => isCandidate f.content) = [f] :=
    List.filter_cons_of_pos hcandidate
  have hbuild : buildFile grammar f = ⟨f.path, f.moduleName, .ok built⟩ :=
    congrArg (FileResult.mk f.path f.moduleName) h
  rw [combineFiles]
  simp only [hfilter, List.map_cons, List.map_nil, hbuild]
  rfl

/-- What is combined when a request is accepted. -/
theorem CombineRequest.Accepted.exists_combined
    (h : r.Accepted setting tree) :
    ∃ limits combined, Limits.read setting.patterns r.platform r.exclude = .ok limits ∧
      combine setting.grammar tree r.roots limits = .ok combined ∧ combined.failed = [] := by
  obtain ⟨limits, hlimits⟩ := exists_limits_iff.2 ⟨h.platform, h.exclude⟩
  obtain ⟨files, hfiles⟩ := FileTree.exists_collect_iff.2 h.rules
  refine ⟨limits, combineFiles setting.grammar limits.platform files, hlimits, ?_,
    failed_eq_nil_iff.2 (h.built limits hlimits files hfiles)⟩
  rw [combine, hfiles]
  rfl

/-- A request is accepted when modules are combined and no file fails. -/
theorem CombineRequest.accepted_of_combine
    {limits : Limits}
    {combined : Combined}
    (hlimits : Limits.read setting.patterns r.platform r.exclude = .ok limits)
    (hreached : ∀ root, root ∈ r.roots → tree.reaches root = true)
    (hcombine : combine setting.grammar tree r.roots limits = .ok combined)
    (hfailed : combined.failed = []) :
    r.Accepted setting tree := by
  obtain ⟨files, hfiles, rfl⟩ := map_eq_ok_iff.1 hcombine
  obtain ⟨hplatform, hexclude⟩ := exists_limits_iff.1 ⟨limits, hlimits⟩
  have hrules := FileTree.exists_collect_iff.1 ⟨files, hfiles⟩
  refine ⟨hplatform, hexclude, hreached, hrules, ?_⟩
  intro limits' hlimits' files' hfiles'
  cases hlimits.symm.trans hlimits'
  cases hfiles.symm.trans hfiles'
  exact failed_eq_nil_iff.1 hfailed

end Accepted

/-! ## A file by itself -/

section Single

variable {tree : FileTree} {path : Path} {d : Dialect} {content : String}

/-- The file at a path is a source file whose text is that of a candidate. -/
structure FileTree.HasCandidate
    (tree : FileTree)
    (path : Path)
    (d : Dialect)
    (content : String) : Prop where
  file : ∃ f, tree.fileAt? path = some f ∧ Text.decode? f.content = some content
  dialect : path.dialect? = some d
  candidate : isCandidate content = true

/-- The request to combine the modules of one file with no limits. -/
def CombineRequest.single (output path : Path) : CombineRequest :=
  ⟨output, [path], none, none⟩

/-- A file by itself, as it is collected. -/
def single (path : Path) (d : Dialect) (content : String) : SourceFile :=
  ⟨path.name, content, path.moduleName, d.name⟩

namespace FileTree.HasCandidate

theorem reaches
    (h : tree.HasCandidate path d content) :
    tree.reaches path = true := by
  obtain ⟨f, hfile, -⟩ := h.file
  obtain ⟨place, hplace, hfile⟩ := Option.bind_eq_some_iff.1 hfile
  rw [FileTree.reaches, hplace, Option.any_some, FileTree.isFile, hfile]
  rfl

theorem collect
    (h : tree.HasCandidate path d content)
    (selection : Selection) :
    tree.collect [path] selection = .ok [single path d content] := by
  obtain ⟨f, hfile, hcontent⟩ := h.file
  exact FileTree.collect_of_fileAt? hfile h.dialect hcontent (isEmpty_of_isCandidate h.candidate)

theorem outcome_single
    (h : tree.HasCandidate path d content)
    (setting : Setting)
    (output : Path) :
    (CombineRequest.single output path).outcome setting tree =
      .ok (combineFiles setting.grammar none [single path d content]) := by
  have hlimits : Limits.read setting.patterns none none = .ok ⟨none, none⟩ := rfl
  refine (combineWith_eq_ok_iff hlimits).2 ?_
  rw [combine, CombineRequest.single, h.collect]
  rfl

theorem accepted_iff
    (h : tree.HasCandidate path d content)
    (setting : Setting)
    (output : Path) :
    (CombineRequest.single output path).Accepted setting tree ↔
      ∃ built, buildText setting.grammar path.moduleName d.name content = .ok built := by
  have hlimits : Limits.read setting.patterns none none = .ok ⟨none, none⟩ := rfl
  constructor
  · intro haccepted
    exact haccepted.built _ hlimits _ (h.collect _) _ List.mem_cons_self h.candidate
  · rintro ⟨built, hbuilt⟩
    refine CombineRequest.accepted_of_combine hlimits ?_
      ((combineWith_eq_ok_iff hlimits).1 (h.outcome_single setting output)) ?_
    · intro root hroot
      rw [List.mem_singleton.1 hroot]
      exact h.reaches
    · rw [combineFiles_of_built (f := single path d content) h.candidate hbuilt]
      rfl

end FileTree.HasCandidate

end Single

/-! ## The steps of a request -/

section Steps

variable {setting : Setting} {tree : FileTree} {r : CombineRequest}

theorem warnings_eq
    (console : Console)
    (combined : Combined) :
    combined.results.flatMap (fun result => CommandLine.warn console result.path result.faults) =
      (combined.warnings console).map .print := by
  rw [Combined.warnings, List.map_flatMap]
  exact congrArg (List.flatMap · combined.results)
    (funext fun result => warn_eq console result.path result.faults)

theorem deliver_eq
    (console : Console)
    (output : Path)
    (combined : Combined) :
    CommandLine.deliver console output combined =
      .write output combined.document :: (combined.summary console output).map .print := by
  rw [CommandLine.deliver, Combined.summary]
  split <;> rfl

/-- The report of a document can be shown. -/
theorem shows_of_mem_summary
    {console : Console}
    (hconsole : console.Lawful)
    {output : Path}
    {combined : Combined}
    {line : String}
    (h : line ∈ combined.summary console output) :
    console.Shows line := by
  have hcount (before : String) (n : Nat) (hbefore : '[' ∉ before.toList) :
      console.Shows (before ++ toString n) := by
    refine hconsole.shows_of_no_bracket _ ?_
    rw [String.toList_append, List.mem_append, not_or]
    exact ⟨hbefore, no_bracket_toString n⟩
  rw [Combined.summary, List.mem_append] at h
  rcases h with h | h
  · simp only [List.mem_cons, List.not_mem_nil, or_false] at h
    rcases h with rfl | rfl | rfl
    · exact hconsole.shows_of_no_bracket _ (by decide)
    · exact hconsole.shows_append_escape _ output.toString (by decide) (by decide)
    · exact hcount _ _ (by decide)
  · split at h
    · cases h
    · rw [List.mem_singleton.1 h]
      exact hcount _ _ (by decide)

/-- An accepted request warns, writes the document and reports it. -/
theorem combineSteps_of_accepted
    (h : r.Accepted setting tree) :
    ∃ combined, r.outcome setting tree = .ok combined ∧
      CommandLine.combineSteps setting tree r =
        .plain "" :: ((combined.warnings setting.console).map .print ++
          .write r.output combined.document ::
            (combined.summary setting.console r.output).map .print) := by
  obtain ⟨limits, combined, hlimits, hcombine, hfailed⟩ := h.exists_combined
  refine ⟨combined, (combineWith_eq_ok_iff hlimits).2 hcombine, ?_⟩
  have hfind : (r.roots.find? fun root => !tree.reaches root) = none :=
    List.find?_eq_none.2 fun root hroot => by simp [h.reached root hroot]
  rw [CommandLine.combineSteps]
  simp only [hlimits, hfind, hcombine]
  rw [CommandLine.finishCombine, warnings_eq, hfailed, List.isEmpty_nil, if_pos rfl, deliver_eq]

theorem rejectFailed_eq
    (console : Console)
    (failed : List FileResult) :
    CommandLine.rejectFailed console failed =
      (failed.flatMap fun result =>
        result.failure?.toList.map (CommandLine.failureLine console result.path)).map .print ++
        [.print (s!"Failed: {failed.length} file(s) could not be translated. "
          ++ "Nothing was written."), .exit 1] := by
  rw [CommandLine.rejectFailed, List.map_flatMap]
  simp only [List.map_map]
  rfl

/-- A request that is not accepted ends with a failure, and nothing is written before. -/
theorem combineSteps_of_not_accepted
    (h : ¬ r.Accepted setting tree) :
    Refuses (CommandLine.combineSteps setting tree r) := by
  rw [CommandLine.combineSteps]
  split
  case h_1 e hlimits => cases e <;> exact .fail _
  case h_2 limits hlimits =>
      split
      case h_1 root hroot => exact .fail _
      case h_2 hfind =>
          refine .plain "" ?_
          split
          case h_1 e hcombine => exact .crash _ []
          case h_2 combined hcombine =>
              rw [CommandLine.finishCombine, warnings_eq]
              refine Refuses.prints ?_ _
              split
              case isTrue hfailed =>
                  have hreached (root : Path) (hroot : root ∈ r.roots) :
                      tree.reaches root = true := by
                    simpa using List.find?_eq_none.1 hfind root hroot
                  exact absurd (CombineRequest.accepted_of_combine hlimits hreached hcombine
                    (List.isEmpty_iff.1 hfailed)) h
              case isFalse =>
                  rw [rejectFailed_eq]
                  exact Refuses.prints (.print _ (.exit Nat.one_ne_zero [])) _

/-- The run of a request that is accepted: the document is written unless a line cannot be shown. -/
theorem run_combineSteps_of_accepted
    (hconsole : setting.console.Lawful)
    (h : r.Accepted setting tree)
    (hwritable : tree.Writable r.output) :
    ∃ combined, r.outcome setting tree = .ok combined ∧
      let run := Run.ofSteps setting.console tree (CommandLine.combineSteps setting tree r)
      ((∀ line, line ∈ combined.warnings setting.console → setting.console.Shows line) ∧
          run.exitCode = 0 ∧ tree.Writes r.output combined.document.toUTF8 run.tree) ∨
        ((∃ line, line ∈ combined.warnings setting.console ∧ ¬ setting.console.Shows line) ∧
          run.exitCode ≠ 0 ∧ run.tree = tree) := by
  obtain ⟨combined, hcombine, hsteps⟩ := combineSteps_of_accepted h
  refine ⟨combined, hcombine, ?_⟩
  obtain ⟨written, hwritten⟩ := hwritable combined.document.toUTF8
  rw [hsteps]
  by_cases hshown : ∀ line, line ∈ combined.warnings setting.console → setting.console.Shows line
  · refine .inl ⟨hshown, ?_⟩
    obtain ⟨text, htext⟩ := Run.ofSteps_print_of_shown hshown tree
      (.write r.output combined.document ::
        (combined.summary setting.console r.output).map .print)
    obtain ⟨report, hreport⟩ := Run.ofSteps_print_of_shown
      (fun line (h : line ∈ combined.summary setting.console r.output) =>
        shows_of_mem_summary hconsole h) written []
    rw [List.append_nil] at hreport
    rw [Run.ofSteps, htext, Run.ofSteps, hwritten]
    simp only [hreport, Run.after]
    exact ⟨rfl, FileTree.writes_of_write hwritten⟩
  · simp only [not_forall] at hshown
    obtain ⟨line, hline, hnot⟩ := hshown
    refine .inr ⟨⟨line, hline, hnot⟩, ?_⟩
    obtain ⟨hcode, htree⟩ := Run.ofSteps_print_of_not_shown ⟨line, hline, hnot⟩ tree
      (.write r.output combined.document ::
        (combined.summary setting.console r.output).map .print)
    rw [Run.ofSteps]
    exact ⟨fun hzero => Nat.one_ne_zero (hcode.symm.trans hzero), htree⟩

/-- What the run of a request to combine modules leaves. -/
theorem run_combineSteps
    (hconsole : setting.console.Lawful)
    (hwritable : tree.Writable r.output) :
    let run := Run.ofSteps setting.console tree (CommandLine.combineSteps setting tree r)
    (r.WarningsShown setting tree → (run.exitCode = 0 ↔ r.Accepted setting tree)) ∧
    (run.exitCode = 0 →
      ∃ combined, r.outcome setting tree = .ok combined ∧
        tree.Writes r.output combined.document.toUTF8 run.tree) ∧
    (run.exitCode ≠ 0 → run.tree = tree) := by
  by_cases haccepted : r.Accepted setting tree
  · obtain ⟨combined, hcombined, hrun⟩ := run_combineSteps_of_accepted hconsole haccepted hwritable
    rcases hrun with ⟨-, hcode, hwrites⟩ | ⟨⟨line, hline, hnot⟩, hcode, htree⟩
    · exact ⟨fun _ => iff_of_true hcode haccepted, fun _ => ⟨combined, hcombined, hwrites⟩,
        fun hne => absurd hcode hne⟩
    · exact ⟨fun hshown => absurd (hshown combined hcombined line hline) hnot,
        fun hzero => absurd hzero hcode, fun _ => htree⟩
  · obtain ⟨hcode, htree⟩ := (combineSteps_of_not_accepted haccepted).run setting.console tree
    exact ⟨fun _ => iff_of_false hcode haccepted, fun hzero => absurd hzero hcode, fun _ => htree⟩

end Steps

/-! ## The command -/

namespace FooFiles

/-- What comes with the program, with the grammar of the two files. -/
def setting : Setting :=
  ⟨grammar, Pattern.written, Text.Markup.console⟩

def path : Path := .relative ["specs", "NativeFoo.ts"]

/-- The first of the two files is to be combined. -/
def request : CombineRequest :=
  .single (.relative ["out", "schema.json"]) path

def arguments : List String :=
  ["combine", "out/schema.json", "specs/NativeFoo.ts"]

theorem read_arguments :
    Request.read? arguments = some (.combine request) := by
  decide

theorem writable :
    tree.Writable request.output :=
  fun _ => ⟨_, rfl⟩

theorem hasCandidate :
    tree.HasCandidate path .typescript text where
  file := ⟨_, rfl, decode_text⟩
  dialect := by decide
  candidate := isCandidate_text

theorem exists_built :
    ∃ built, buildText grammar path.moduleName Dialect.typescript.name text = .ok built := by
  have hbuild : (buildText grammar path.moduleName
      Dialect.typescript.name text).toOption.map (fun built => built.faults.length) = some 0 := by
    decide
  obtain ⟨built, hbuilt, -⟩ := exists_eq_ok_of_toOption hbuild
  exact ⟨built, hbuilt⟩

theorem no_bracket_path :
    ∀ part, part ∈ path.parts → '[' ∉ part.toList := by
  decide

end FooFiles

namespace BracketSpec

open FooFiles (token leaf)

/-- A property that is no function, with a closing bracket in its name. -/
def text : String :=
  "interface Spec extends TurboModule \x7b'x]': string\x7d\n" ++
    "export default TurboModuleRegistry.get<Spec>('Foo');"

def property : Concrete.Node :=
  .mk "property_signature" true none 36 48
    [.mk "string" true (some "name") 36 40
        [token "'" 36 37, leaf "string_fragment" none 37 39, token "'" 39 40],
      .mk "type_annotation" true (some "type") 40 48
        [token ":" 40 41, .mk "predefined_type" true none 42 48 [token "string" 42 48]]]

def interface : Concrete.Node :=
  .mk "interface_declaration" true none 0 49
    [token "interface" 0 9, leaf "type_identifier" (some "name") 10 14,
      .mk "extends_type_clause" true none 15 34
        [token "extends" 15 22, leaf "type_identifier" (some "type") 23 34],
      .mk "interface_body" true (some "body") 35 49
        [token "\x7b" 35 36, property, token "\x7d" 48 49]]

def load : Concrete.Node :=
  .mk "call_expression" true (some "value") 65 101
    [.mk "member_expression" true (some "function") 65 88
        [leaf "identifier" (some "object") 65 84, token "." 84 85,
          leaf "property_identifier" (some "property") 85 88],
      .mk "type_arguments" true (some "type_arguments") 88 94
        [token "<" 88 89, leaf "type_identifier" none 89 93, token ">" 93 94],
      .mk "arguments" true (some "arguments") 94 101
        [token "(" 94 95,
          .mk "string" true none 95 100
            [token "'" 95 96, leaf "string_fragment" none 96 99, token "'" 99 100],
          token ")" 100 101]]

/-- The concrete tree of the text. -/
def root : Concrete.Node :=
  .mk "program" true none 0 102
    [interface,
      .mk "export_statement" true none 50 102
        [token "export" 50 56, token "default" 57 64, load, token ";" 101 102]]

/-- The file lies in a directory that is named by an opening bracket. -/
def place : List String := ["[", "NativeFoo.ts"]

def tree : FileTree :=
  ⟨[⟨place, text.toUTF8⟩], [], []⟩

def grammar : Grammar := fun _ _ => root

/-- What comes with the program, with the grammar of the file. -/
def setting : Setting :=
  ⟨grammar, Pattern.written, Text.Markup.console⟩

theorem hasCandidate :
    tree.HasCandidate (.relative place) .typescript text where
  file := ⟨_, rfl, by decide +kernel⟩
  dialect := by decide
  candidate := by decide +kernel

/-- The path and the name of the property make a closing tag, and no tag is open. -/
theorem not_shown :
    ∃ built, buildText grammar (Path.relative place).moduleName
        Dialect.typescript.name text = .ok built ∧
      ¬ built.WarningsShown Text.Markup.console (Path.relative place).toString := by
  have hbuild : (buildText grammar (Path.relative place).moduleName
      Dialect.typescript.name text).toOption.map (fun built => built.faults.map fun fault =>
        decide ('[' ∉ fault.message.toList ∧ ']' ∈ fault.message.toList)) = some [true] := by
    decide +kernel
  have hpath : (Path.relative place).toString.toList = '[' :: '/' :: "NativeFoo.ts".toList := by
    decide
  obtain ⟨built, hbuilt, hmessages⟩ := exists_eq_ok_of_toOption hbuild
  obtain ⟨fault, hfaults, hmessage⟩ := List.map_eq_singleton_iff.1 hmessages
  refine ⟨built, hbuilt, fun hshown => ?_⟩
  have hnot : ¬ Text.Markup.console.Shows (CommandLine.faultLine Text.Markup.console "Warning"
      (Path.relative place).toString fault) :=
    Text.Markup.not_shows_faultLine (by decide) hpath (by decide) (of_decide_eq_true hmessage)
  exact hnot (hshown fault (by rw [hfaults]; exact List.mem_cons_self))

/-- The file as it is collected from the working directory. -/
def file : SourceFile :=
  ⟨(Path.relative place).toString, text, (Path.relative place).moduleName,
    Dialect.typescript.name⟩

theorem collect_eq :
    tree.collect [.relative []] (Limits.selection ⟨none, none⟩) = .ok [file] := by
  have hwanted : (tree.files.map File.path).filter
      (FileTree.isWanted [] (Limits.selection ⟨none, none⟩) (tree.resolve (.relative []))) =
        [place] := by
    decide
  have hfound : tree.candidates (Limits.selection ⟨none, none⟩) (.relative []) = .ok [place] :=
    FileTree.candidates_of_unruled rfl rfl hwanted (List.pairwise_singleton _ _)
  have hread : tree.collectRoot (Limits.selection ⟨none, none⟩) (.relative []) = .ok [file] := by
    refine FileTree.collectRoot_of_candidates hfound (.cons ?_ .nil)
    obtain ⟨⟨f, hfile, hcontent⟩, -, hcandidate⟩ := hasCandidate
    exact FileTree.source?_of_file? hfile hcontent (d := .typescript) (by decide)
      (isEmpty_of_isCandidate hcandidate) _
  exact FileTree.collect_singleton hread (List.pairwise_singleton _ _)

/-- The working directory is to be combined. -/
def request : CombineRequest :=
  ⟨.relative ["out.json"], [.relative []], none, none⟩

theorem accepted :
    request.Accepted setting tree where
  platform := nofun
  exclude := nofun
  reached := fun path hpath => by
    rw [List.mem_singleton.1 hpath]
    decide
  rules := fun path hpath _ => by
    rw [List.mem_singleton.1 hpath]
    have hnone : tree.file? (tree.resolve (.relative []) ++ [".gitignore"]) = none := by rfl
    intro f hf
    cases hnone.symm.trans hf
  built := fun limits hlimits files hfiles f hf _ => by
    cases hlimits
    have hcollect := Eq.trans (Eq.symm collect_eq) hfiles
    cases hcollect
    obtain ⟨built, hbuilt, -⟩ := not_shown
    rw [List.mem_singleton.1 hf]
    exact ⟨built, hbuilt⟩

theorem read_arguments :
    Request.read? ["combine", "out.json", "."] = some (.combine request) := by
  decide

end BracketSpec

namespace UnruledSpecs

def content : String := "!\n"

/-- There is an ignore file whose one line is no rule. -/
def tree : FileTree :=
  ⟨[⟨["specs", ".gitignore"], content.toUTF8⟩], [], []⟩

def request : CombineRequest :=
  ⟨.relative ["out.json"], [.relative ["specs"]], none, none⟩

theorem read_arguments :
    Request.read? ["combine", "out.json", "specs"] = some (.combine request) := by
  decide

end UnruledSpecs

end ModuleSpec
