import ModuleSpec.CommandLine
import ModuleSpec.Proofs.Text.Pieces

/-!
# Runs of steps

A run goes through steps until one ends it.  A line of markup ends it when a tag
in the line makes no sense, so what comes after a line is reached only when the line
can be shown.  A line can be shown when what is not the program's own in it is
escaped as a whole.

**Results.**  `Refuses.run`: steps that only report something and then fail leave the
files alone.  `ofSteps_print_of_shown`: lines that can be shown change nothing but the output.
`Console.Lawful.shows_faultLine`: the line for a fault can be shown when no bracket is in the
path.
-/

namespace ModuleSpec

namespace Run

@[simp] theorem exitCode_after
    (line : String)
    (r : Run) :
    (r.after line).exitCode = r.exitCode :=
  rfl

@[simp] theorem tree_after
    (line : String)
    (r : Run) :
    (r.after line).tree = r.tree :=
  rfl

end Run

/-- Steps that report something and then end the run with a failure. -/
inductive Refuses : List Step → Prop
  | exit
      {code : Nat}
      (hcode : code ≠ 0)
      (steps : List Step) :
      Refuses (.exit code :: steps)
  | crash
      (c : Crash)
      (steps : List Step) :
      Refuses (.crash c :: steps)
  | print
      {steps : List Step}
      (line : String)
      (h : Refuses steps) :
      Refuses (.print line :: steps)
  | plain
      {steps : List Step}
      (line : String)
      (h : Refuses steps) :
      Refuses (.plain line :: steps)

namespace Refuses

variable {steps : List Step}

/-- Steps that refuse something change no file, whatever of them can be shown. -/
theorem run
    (h : Refuses steps)
    (console : Console)
    (tree : FileTree) :
    (Run.ofSteps console tree steps).exitCode ≠ 0 ∧
      (Run.ofSteps console tree steps).tree = tree := by
  induction h with
  | exit hcode steps => exact ⟨hcode, rfl⟩
  | crash c steps => exact ⟨Nat.one_ne_zero, rfl⟩
  | print line h ih =>
      rw [Run.ofSteps]
      split
      case h_1 => rwa [Run.exitCode_after, Run.tree_after]
      case h_2 => exact ⟨Nat.one_ne_zero, rfl⟩
  | plain line h ih => rwa [Run.ofSteps, Run.exitCode_after, Run.tree_after]

theorem prints
    (h : Refuses steps)
    (lines : List String) :
    Refuses (lines.map .print ++ steps) := by
  induction lines with
  | nil => exact h
  | cons line lines ih => exact .print line ih

theorem fail
    (message : String) :
    Refuses (CommandLine.fail message) :=
  .print _ (.exit Nat.one_ne_zero [])

end Refuses

namespace Run

variable {console : Console} {lines : List String}

/-- Lines that can be shown are printed, and the steps after them are run. -/
theorem ofSteps_print_of_shown
    (h : ∀ line, line ∈ lines → console.Shows line)
    (tree : FileTree)
    (steps : List Step) :
    ∃ text, ofSteps console tree (lines.map .print ++ steps) =
      { ofSteps console tree steps with
        output := text ++ (ofSteps console tree steps).output } := by
  induction lines with
  | nil => exact ⟨"", by simp⟩
  | cons line lines ih =>
      obtain ⟨shown, hshown⟩ := h line List.mem_cons_self
      obtain ⟨text, htext⟩ := ih fun other hother => h other (List.mem_cons_of_mem line hother)
      refine ⟨shown ++ "\n" ++ text, ?_⟩
      rw [List.map_cons, List.cons_append, ofSteps, hshown]
      simp only [htext, after, String.append_assoc]

/-- A line that cannot be shown ends the run. -/
theorem ofSteps_print_of_not_shown
    (h : ∃ line, line ∈ lines ∧ ¬ console.Shows line)
    (tree : FileTree)
    (steps : List Step) :
    (ofSteps console tree (lines.map .print ++ steps)).exitCode = crashCode ∧
      (ofSteps console tree (lines.map .print ++ steps)).tree = tree := by
  induction lines with
  | nil =>
      obtain ⟨line, hline, -⟩ := h
      cases hline
  | cons line lines ih =>
      rw [List.map_cons, List.cons_append, ofSteps]
      split
      case h_1 shown hshown =>
          obtain ⟨other, hother, hnot⟩ := h
          rcases List.mem_cons.1 hother with rfl | hother
          · exact absurd ⟨shown, hshown⟩ hnot
          · exact ih ⟨other, hother, hnot⟩
      case h_2 => exact ⟨rfl, rfl⟩

/-- Lines are printed to the end exactly when all of them can be shown. -/
theorem exitCode_print_eq_zero_iff
    {tree : FileTree} :
    (ofSteps console tree (lines.map .print)).exitCode = 0 ↔
      ∀ line, line ∈ lines → console.Shows line := by
  by_cases h : ∀ line, line ∈ lines → console.Shows line
  · obtain ⟨text, htext⟩ := ofSteps_print_of_shown h tree []
    rw [List.append_nil] at htext
    exact iff_of_true (by rw [htext]; rfl) h
  · simp only [Classical.not_forall] at h
    obtain ⟨line, hline, hnot⟩ := h
    have hcode := (ofSteps_print_of_not_shown ⟨line, hline, hnot⟩ tree []).1
    rw [List.append_nil] at hcode
    exact iff_of_false (by rw [hcode]; exact Nat.one_ne_zero) fun hall => hnot (hall line hline)

end Run

/-! ## Lines that can be shown -/

section Lines

theorem no_bracket_toString
    (n : Nat) :
    '[' ∉ (toString n).toList := by
  intro hmem
  rw [Nat.toString_eq_repr, Nat.toList_repr] at hmem
  have hdigit := Nat.isDigit_of_mem_toDigits (by decide) (by decide) hmem
  exact absurd hdigit (by decide)

/-- A path has the brackets of its components. -/
theorem no_bracket_toString_path
    {path : Path}
    (h : ∀ part, part ∈ path.parts → '[' ∉ part.toList) :
    '[' ∉ path.toString.toList := by
  rw [Path.toString, String.toList_ofList, Path.chars]
  split
  · decide
  · rw [List.mem_append, not_or]
    refine ⟨fun hmem => absurd (List.eq_of_mem_replicate hmem) (by decide), fun hmem => ?_⟩
    obtain ⟨piece, hpiece, hbracket⟩ := Text.exists_of_mem_joinWith hmem (by decide)
    obtain ⟨part, hpart, rfl⟩ := List.mem_map.1 hpiece
    exact h part hpart hbracket

theorem no_bracket_name
    {path : Path}
    (h : ∀ part, part ∈ path.parts → '[' ∉ part.toList) :
    '[' ∉ path.name.toList := by
  rw [Path.name]
  cases hlast : path.parts.getLast? with
  | none => decide
  | some last => exact h last (List.mem_of_getLast? hlast)

/-- What is before the message in the line for a fault has no bracket of its own. -/
theorem exists_faultLine_eq
    (console : Console)
    (label path : String)
    (f : Fault) :
    ∃ details : String, '[' ∉ details.toList ∧ details.toList.getLast? = some ' ' ∧
      CommandLine.faultLine console label path f =
        label ++ ": " ++ console.escape path ++ details ++ console.escape f.message := by
  have hplace : '[' ∉ (if f.line = 0 then "" else s!":{f.line}").toList := by
    split
    · decide
    · rw [String.toList_append, List.mem_append, not_or]
      exact ⟨by decide, no_bracket_toString f.line⟩
  have hkind : '[' ∉ f.kind.name.toList := by
    cases f.kind <;> decide +kernel
  refine ⟨(if f.line = 0 then "" else s!":{f.line}") ++ (" (" ++ (f.kind.name ++ ") ")), ?_, ?_, ?_⟩
  · simp only [String.toList_append, List.mem_append, not_or]
    exact ⟨hplace, by decide, hkind, by decide⟩
  · have hlast : ") ".toList.getLast? = some ' ' := by decide
    simp only [String.toList_append, List.getLast?_append, hlast, Option.some_or]
  · have hline : CommandLine.faultLine console label path f =
        label ++ ": " ++ console.escape path ++ (if f.line = 0 then "" else s!":{f.line}")
          ++ " (" ++ f.kind.name ++ ") " ++ console.escape f.message := rfl
    simp only [hline, String.append_assoc]

/-- A fault of a file can be reported when no bracket is in its path. -/
theorem Console.Lawful.shows_faultLine
    {console : Console}
    (hconsole : console.Lawful)
    {label path : String}
    (hlabel : '[' ∉ label.toList)
    (hpath : '[' ∉ path.toList)
    (f : Fault) :
    console.Shows (CommandLine.faultLine console label path f) := by
  obtain ⟨details, hdetails, hlast, hline⟩ := exists_faultLine_eq console label path f
  rw [hline]
  refine hconsole.shows_append_escape _ _ ?_ ?_
  · simp only [String.toList_append, List.mem_append, not_or]
    exact ⟨⟨⟨hlabel, by decide⟩, hconsole.no_bracket_escape path hpath⟩, hdetails⟩
  · rw [String.toList_append, List.getLast?_append, hlast]
    exact fun h => absurd (Option.some.inj h) (by decide)

/-- Warnings are lines that are printed. -/
theorem warn_eq
    (console : Console)
    (path : String)
    (faults : List Fault) :
    CommandLine.warn console path faults =
      (faults.map (CommandLine.faultLine console "Warning" path)).map .print := by
  rw [List.map_map]
  rfl

end Lines

end ModuleSpec
