import ModuleSpec.Proofs.CommandLine.AllOrNothing

/-!
# A file by itself

The schema of one file can be asked for in two ways: it is inspected, or it is
combined with no other.  Both build the same text in the same way, and what they
report differs only in how the file is called: by its path, or by its name.

So both end alike, unless the path makes a tag with the message of a warning.  Then
the line cannot be shown, and the command ends there.

**Results.**  `inspect_agrees_with_combine`: when each command ends with success, and
that they agree on the schema and on the warnings.  `not_forall_inspect_iff_combine`: a file on
which they do not end alike.
-/

namespace ModuleSpec

section Single

variable {setting : Setting} {tree : FileTree} {output path : Path} {d : Dialect}
  {content : String} {built : Built}

/-! ## Inspecting -/

theorem inspectSteps_of_candidate
    (h : tree.HasCandidate path d content) :
    CommandLine.inspectSteps setting tree path =
      CommandLine.inspectText setting path d content := by
  obtain ⟨f, hfile, hcontent⟩ := h.file
  rw [CommandLine.inspectSteps]
  simp only [hfile, h.dialect, hcontent]

theorem inspectText_of_built
    (h : buildText setting.grammar path.moduleName d.name content = .ok built) :
    CommandLine.inspectText setting path d content =
      .plain built.schema.toJson.render ::
        CommandLine.warn setting.console path.toString built.faults := by
  rw [CommandLine.inspectText]
  simp only [h]

theorem inspectText_of_failure
    {e : BuildFailure}
    (h : buildText setting.grammar path.moduleName d.name content = .error e) :
    Refuses (CommandLine.inspectText setting path d content) := by
  rw [CommandLine.inspectText]
  simp only [h]
  split
  case h_1 => exact .print _ (.exit Nat.one_ne_zero [])
  case h_2 => exact .crash _ []

/-- A text is inspected with success when it has a schema whose warnings can be shown. -/
theorem exitCode_inspectText_iff :
    (Run.ofSteps setting.console tree
        (CommandLine.inspectText setting path d content)).exitCode = 0 ↔
      ∃ built, buildText setting.grammar path.moduleName d.name content = .ok built ∧
        built.WarningsShown setting.console path.toString := by
  cases hbuilt : buildText setting.grammar path.moduleName d.name content with
  | error e =>
      exact iff_of_false ((inspectText_of_failure hbuilt).run setting.console tree).1 (by simp)
  | ok built =>
      rw [inspectText_of_built hbuilt, warn_eq, Run.ofSteps, Run.exitCode_after,
        Run.exitCode_print_eq_zero_iff]
      simp only [List.forall_mem_map, Built.WarningsShown, Except.ok.injEq, exists_eq_left']

/-! ## Combining -/

/-- One file is combined with success when it has a schema whose warnings can be shown. -/
theorem exitCode_combineSteps_iff
    (hconsole : setting.console.Lawful)
    (h : tree.HasCandidate path d content)
    (hwritable : tree.Writable output) :
    (Run.ofSteps setting.console tree
        (CommandLine.combineSteps setting tree (.single output path))).exitCode = 0 ↔
      ∃ built, buildText setting.grammar path.moduleName d.name content = .ok built ∧
        built.WarningsShown setting.console path.name := by
  have haccepted := h.accepted_iff setting output
  cases hbuilt : buildText setting.grammar path.moduleName d.name content with
  | error e =>
      have hno : ¬ (CombineRequest.single output path).Accepted setting tree := by
        rw [haccepted, hbuilt]
        simp
      exact iff_of_false ((combineSteps_of_not_accepted hno).run setting.console tree).1 (by simp)
  | ok built =>
      obtain ⟨combined, hcombined, hrun⟩ :=
        run_combineSteps_of_accepted hconsole (haccepted.2 ⟨built, hbuilt⟩) hwritable
      have hsingle := h.outcome_single setting output
      have heq := hsingle.symm.trans hcombined
      rw [combineFiles_of_built (f := single path d content) h.candidate hbuilt] at heq
      cases heq
      have hwarnings : (∀ line, line ∈ Combined.warnings setting.console
          ⟨[⟨path.moduleName, built.schema⟩], [⟨path.name, path.moduleName, .ok built⟩], []⟩ →
            setting.console.Shows line) ↔ built.WarningsShown setting.console path.name := by
        simp [Combined.warnings, FileResult.faults, Built.WarningsShown]
      simp only [Except.ok.injEq, exists_eq_left']
      rw [← hwarnings]
      rcases hrun with ⟨hshown, hcode, -⟩ | ⟨⟨line, hline, hnot⟩, hcode, -⟩
      · exact iff_of_true hcode hshown
      · exact iff_of_false hcode fun hall => hnot (hall line hline)

end Single

/-! ## The two commands -/

section Commands

variable {setting : Setting} {tree : FileTree} {output path : Path} {d : Dialect}
  {content : String}

/-- The steps in which a file that has a schema is combined by itself. -/
theorem combineSteps_single
    (h : tree.HasCandidate path d content)
    {built : Built}
    (hbuilt : buildText setting.grammar path.moduleName d.name content = .ok built) :
    CommandLine.combineSteps setting tree (.single output path) =
      .plain "" :: (CommandLine.warn setting.console path.name built.faults ++
        CommandLine.deliver setting.console output
          (combineFiles setting.grammar none [single path d content])) := by
  obtain ⟨combined, hcombined, hsteps⟩ := combineSteps_of_accepted (r := .single output path)
    ((h.accepted_iff setting output).2 ⟨built, hbuilt⟩)
  cases (h.outcome_single setting output).symm.trans hcombined
  have hwarnings :
      (combineFiles setting.grammar none [single path d content]).warnings setting.console =
        built.faults.map (CommandLine.faultLine setting.console "Warning" path.name) := by
    rw [combineFiles_of_built (f := single path d content) h.candidate hbuilt]
    exact List.append_nil _
  rw [hsteps, deliver_eq, hwarnings, warn_eq]
  rfl

/--
The schema of a candidate is inspected with success exactly when it can be combined by
itself with success, as far as the warnings can be shown.  Then the document holds what is
shown under the one name of the module, and the warnings are the same.
-/
theorem inspect_agrees_with_combine
    (hconsole : setting.console.Lawful)
    (h : tree.HasCandidate path d content)
    (hwritable : tree.Writable output)
    {inspection combination : List String}
    (hinspection : Request.read? inspection = some (.inspect path))
    (hcombination : Request.read? combination = some (.combine (.single output path))) :
    let inspected := CommandLine.run setting tree inspection
    let combined := CommandLine.run setting tree combination
    (inspected.exitCode = 0 ↔
      ∃ built, buildText setting.grammar path.moduleName d.name content = .ok built ∧
        built.WarningsShown setting.console path.toString) ∧
    (combined.exitCode = 0 ↔
      ∃ built, buildText setting.grammar path.moduleName d.name content = .ok built ∧
        built.WarningsShown setting.console path.name) ∧
    ((∀ part, part ∈ path.parts → '[' ∉ part.toList) →
      (inspected.exitCode = 0 ↔ combined.exitCode = 0)) ∧
    ∀ built, buildText setting.grammar path.moduleName d.name content = .ok built →
      ∃ c, combineWith setting.grammar setting.patterns tree [path] none none = .ok c ∧
        c.toJson = .object [("modules", .object [(path.moduleName, built.schema.toJson)])] ∧
        CommandLine.steps setting tree (.inspect path) =
          .plain built.schema.toJson.render ::
            CommandLine.warn setting.console path.toString built.faults ∧
        CommandLine.steps setting tree (.combine (.single output path)) =
          .plain "" ::
            (CommandLine.warn setting.console path.name built.faults ++
              CommandLine.deliver setting.console output c) ∧
        (combined.exitCode = 0 → tree.Writes output c.document.toUTF8 combined.tree) := by
  have hinspected : (CommandLine.run setting tree inspection).exitCode = 0 ↔
      ∃ built, buildText setting.grammar path.moduleName d.name content = .ok built ∧
        built.WarningsShown setting.console path.toString := by
    rw [CommandLine.run, hinspection]
    change (Run.ofSteps setting.console tree
      (CommandLine.inspectSteps setting tree path)).exitCode = 0 ↔ _
    rw [inspectSteps_of_candidate h]
    exact exitCode_inspectText_iff
  have hcombined : (CommandLine.run setting tree combination).exitCode = 0 ↔
      ∃ built, buildText setting.grammar path.moduleName d.name content = .ok built ∧
        built.WarningsShown setting.console path.name := by
    rw [CommandLine.run, hcombination]
    exact exitCode_combineSteps_iff hconsole h hwritable
  refine ⟨hinspected, hcombined, fun hparts => ?_, fun built hbuilt => ?_⟩
  · rw [hinspected, hcombined]
    refine exists_congr fun built => and_congr_right fun _ => iff_of_true ?_ ?_
    · exact fun fault _ =>
        hconsole.shows_faultLine (by decide) (no_bracket_toString_path hparts) fault
    · exact fun fault _ => hconsole.shows_faultLine (by decide) (no_bracket_name hparts) fault
  · refine ⟨combineFiles setting.grammar none [single path d content],
      h.outcome_single setting output, ?_, ?_, ?_, fun hzero => ?_⟩
    · rw [combineFiles_of_built (f := single path d content) h.candidate hbuilt]
      rfl
    · exact (inspectSteps_of_candidate h).trans (inspectText_of_built hbuilt)
    · exact combineSteps_single h hbuilt
    · rw [CommandLine.run, hcombination] at hzero ⊢
      obtain ⟨c, hc, hwrites⟩ :=
        (run_combineSteps (r := .single output path) hconsole hwritable).2.1 hzero
      cases (h.outcome_single setting output).symm.trans hc
      exact hwrites

end Commands

theorem fooFiles_inspected :
    (CommandLine.run FooFiles.setting FooFiles.tree
        ["inspect", "specs/NativeFoo.ts"]).exitCode = 0 ∧
      (CommandLine.run FooFiles.setting FooFiles.tree FooFiles.arguments).exitCode = 0 := by
  have hread : Request.read? ["inspect", "specs/NativeFoo.ts"] = some (.inspect FooFiles.path) := by
    decide
  have hconsole : FooFiles.setting.console.Lawful := Text.Markup.console_lawful
  obtain ⟨hinspected, hcombined, -⟩ :=
    inspect_agrees_with_combine hconsole FooFiles.hasCandidate FooFiles.writable hread
      FooFiles.read_arguments
  obtain ⟨built, hbuilt⟩ := FooFiles.exists_built
  have hpath := no_bracket_toString_path FooFiles.no_bracket_path
  have hname := no_bracket_name FooFiles.no_bracket_path
  have hshown {path : String} (h : '[' ∉ path.toList) :
      built.WarningsShown FooFiles.setting.console path :=
    fun fault _ => hconsole.shows_faultLine (by decide) h fault
  exact ⟨hinspected.2 ⟨built, hbuilt, hshown hpath⟩, hcombined.2 ⟨built, hbuilt, hshown hname⟩⟩

/-! ## A file on which the commands differ -/

/-- One command can end with success and the other not. -/
theorem not_forall_inspect_iff_combine :
    ¬ ∀ (setting : Setting) (tree : FileTree) (output path : Path) (d : Dialect)
        (content : String) (inspection combination : List String),
      setting.console.Lawful →
      tree.HasCandidate path d content → tree.Writable output →
      Request.read? inspection = some (.inspect path) →
      Request.read? combination = some (.combine (.single output path)) →
      ((CommandLine.run setting tree inspection).exitCode = 0 ↔
        (CommandLine.run setting tree combination).exitCode = 0) := by
  intro hall
  have hread : Request.read? ["combine", "out.json", "[/NativeFoo.ts"] =
      some (.combine (.single (.relative ["out.json"]) (.relative BracketSpec.place))) := by
    decide
  have hinspect : Request.read? ["inspect", "[/NativeFoo.ts"] =
      some (.inspect (.relative BracketSpec.place)) := by
    decide
  have hwritable : BracketSpec.tree.Writable (.relative ["out.json"]) :=
    fun _ => ⟨_, rfl⟩
  have hconsole : BracketSpec.setting.console.Lawful := Text.Markup.console_lawful
  obtain ⟨built, hbuilt, hnot⟩ := BracketSpec.not_shown
  have hcombined : (CommandLine.run BracketSpec.setting BracketSpec.tree
      ["combine", "out.json", "[/NativeFoo.ts"]).exitCode = 0 := by
    rw [CommandLine.run, hread]
    refine (exitCode_combineSteps_iff hconsole BracketSpec.hasCandidate hwritable).2
      ⟨built, hbuilt, fun fault _ => ?_⟩
    exact hconsole.shows_faultLine (by decide) (by decide) fault
  have hinspected := (hall BracketSpec.setting BracketSpec.tree _ _ _ _ _ _ hconsole
    BracketSpec.hasCandidate hwritable hinspect hread).2 hcombined
  rw [CommandLine.run, hinspect] at hinspected
  change (Run.ofSteps BracketSpec.setting.console BracketSpec.tree (CommandLine.inspectSteps
    BracketSpec.setting BracketSpec.tree (.relative BracketSpec.place))).exitCode = 0 at hinspected
  rw [inspectSteps_of_candidate BracketSpec.hasCandidate, exitCode_inspectText_iff] at hinspected
  obtain ⟨built', hbuilt', hshown⟩ := hinspected
  cases hbuilt.symm.trans hbuilt'
  exact hnot hshown

end ModuleSpec
