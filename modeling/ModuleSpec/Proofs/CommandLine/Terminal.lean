import ModuleSpec.Proofs.CommandLine.Steps
import ModuleSpec.Proofs.Result
import ModuleSpec.Proofs.Text.Escaping

/-!
# The laws of the console

The console that shows texts without what their tags ask for is one that the program can
rely on.  It escapes each text by itself, so that the ends of two escaped texts can still
make a tag with each other.

**Results.**  `Text.Markup.console_lawful`.  `Text.Markup.not_shows_faultLine`: the line for a
fault cannot be shown when the path and the message make a closing tag together.
-/

namespace ModuleSpec
namespace Text
namespace Markup

theorem shows_iff
    {line : String} :
    console.Shows line ↔ ∃ cs, render line.toList = .ok cs := by
  constructor
  · rintro ⟨shown, hshown⟩
    obtain ⟨cs, hcs, -⟩ := map_eq_ok_iff.1 hshown
    exact ⟨cs, mapError_eq_ok_iff.1 hcs⟩
  · rintro ⟨cs, hcs⟩
    exact ⟨_, map_eq_ok_iff.2 ⟨cs, mapError_eq_ok_iff.2 hcs, rfl⟩⟩

/-- What the program relies on holds of the console that reads tags. -/
theorem console_lawful :
    console.Lawful where
  shows_of_no_bracket line h := shows_iff.2 (tagsEscaped_of_no_bracket h).exists_render
  shows_append_escape before text hbracket hend := by
    rw [shows_iff, String.toList_append, console, String.toList_ofList]
    exact ((tagsEscaped_escape text.toList).append hbracket hend).exists_render
  no_bracket_escape text h := by
    rw [console, String.toList_ofList]
    exact no_bracket_escape h

/--
A fault cannot be reported when the path makes a closing tag with the message, though
both are escaped.
-/
theorem not_shows_faultLine
    {label path : String}
    {rest : List Char}
    (hlabel : '[' ∉ label.toList)
    (hpath : path.toList = '[' :: '/' :: rest)
    (hrest : '[' ∉ rest ∧ ']' ∉ rest)
    {f : Fault}
    (hmessage : '[' ∉ f.message.toList ∧ ']' ∈ f.message.toList) :
    ¬ console.Shows (CommandLine.faultLine console label path f) := by
  obtain ⟨details, hdetails, -, hline⟩ := exists_faultLine_eq console label path f
  obtain ⟨tail, hescape, htail⟩ := exists_escape_eq path.toList
  obtain ⟨tail', hescape', -⟩ := exists_escape_eq f.message.toList
  rw [escapedPieces_of_no_bracket hmessage.1] at hescape'
  rw [hpath, escapedPieces_of_no_close (by simp [hrest.2]), ← hpath] at hescape
  have hnone : '[' ∉ rest ++ tail ++ details.toList ++ escape f.message.toList := by
    simp only [List.mem_append, not_or]
    exact ⟨⟨⟨hrest.1, no_bracket_of_backslashes htail⟩, hdetails⟩, no_bracket_escape hmessage.1⟩
  have hsome : ']' ∈ rest ++ tail ++ details.toList ++ escape f.message.toList := by
    rw [hescape']
    exact List.mem_append_right _ (List.mem_append_left _ hmessage.2)
  obtain ⟨body, hbody⟩ := exists_beforeBracket? hnone hsome
  have htag : tagAt? ('[' :: '/' :: (rest ++ tail ++ details.toList
      ++ escape f.message.toList)) = some ⟨0, '/' :: body⟩ := by
    rw [tagAt?, if_pos (by decide), hbody]
    rfl
  have hlabelled : (CommandLine.faultLine console label path f).toList =
      (label.toList ++ ": ".toList)
        ++ '[' :: '/' :: (rest ++ tail ++ details.toList ++ escape f.message.toList) := by
    have hpathEscaped : (console.escape path).toList = escape path.toList := String.toList_ofList
    have hmessageEscaped : (console.escape f.message).toList = escape f.message.toList :=
      String.toList_ofList
    rw [hline]
    simp only [String.toList_append, hpathEscaped, hmessageEscaped, hescape]
    simp [hpath]
  rw [shows_iff, hlabelled]
  refine not_exists_render_of_closing ?_ ?_ htag
  · rw [List.mem_append, not_or]
    exact ⟨hlabel, by decide⟩
  · have hlast : ": ".toList.getLast? = some ' ' := by decide
    rw [List.getLast?_append, hlast]
    exact fun h => absurd (Option.some.inj h) (by decide)

end Markup
end Text
end ModuleSpec
