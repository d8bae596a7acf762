import ModuleSpec.Path

/-!
# Pieces between separators

Cutting a text and joining pieces undo each other, as long as no piece holds the
separator.  A text that is put together around a separator is cut there: the pieces of
its two parts are its own.

**Results.**  `not_mem_of_mem_split`, `split_append`, `split_joinWith`.
`split_eq_cons_cons_iff`: what the first two pieces say about a text.
-/

namespace ModuleSpec
namespace Text

variable {sep : Char}

theorem split_of_not_mem
    {text : List Char}
    (h : sep ∉ text) :
    split sep text = [text] := by
  induction text with
  | nil => rfl
  | cons c cs ih =>
      have hc : c ≠ sep := fun heq => h (heq ▸ List.mem_cons_self)
      rw [split, if_neg hc, ih fun hmem => h (List.mem_cons_of_mem c hmem)]

/-- A text is cut at a separator into the pieces before it and those after it. -/
theorem split_append
    (sep : Char)
    (before after : List Char) :
    split sep (before ++ sep :: after) = split sep before ++ split sep after := by
  induction before with
  | nil => simp [split]
  | cons c cs ih =>
      rw [List.cons_append, split, split, ih]
      split
      case isTrue => rfl
      case isFalse =>
          cases hs : split sep cs with
          | nil => exact absurd hs (split_ne_nil sep cs)
          | cons piece pieces => rfl

/-- No piece holds the separator. -/
theorem not_mem_of_mem_split
    {text piece : List Char}
    (h : piece ∈ split sep text) :
    sep ∉ piece := by
  induction text generalizing piece with
  | nil =>
      rw [List.mem_singleton.1 h]
      exact List.not_mem_nil
  | cons c cs ih =>
      rw [split] at h
      split at h
      case isTrue =>
          rcases List.mem_cons.1 h with rfl | h
          · exact List.not_mem_nil
          · exact ih h
      case isFalse hc =>
          cases hs : split sep cs with
          | nil => exact absurd hs (split_ne_nil sep cs)
          | cons first pieces =>
              rw [hs] at h ih
              rcases List.mem_cons.1 h with rfl | h
              · rw [List.mem_cons, not_or]
                exact ⟨Ne.symm hc, ih List.mem_cons_self⟩
              · exact ih (List.mem_cons_of_mem first h)

theorem joinWith_cons_of_ne_nil
    {piece : List Char}
    {pieces : List (List Char)}
    (h : pieces ≠ []) :
    joinWith sep (piece :: pieces) = piece ++ sep :: joinWith sep pieces := by
  cases pieces with
  | nil => exact absurd rfl h
  | cons next rest => rfl

theorem joinWith_append
    {before after : List (List Char)}
    (hbefore : before ≠ [])
    (hafter : after ≠ []) :
    joinWith sep (before ++ after) = joinWith sep before ++ sep :: joinWith sep after := by
  induction before with
  | nil => exact absurd rfl hbefore
  | cons piece pieces ih =>
      cases pieces with
      | nil => exact joinWith_cons_of_ne_nil hafter
      | cons next rest =>
          rw [List.cons_append, joinWith_cons_of_ne_nil (List.append_ne_nil_of_right_ne_nil _ hafter),
            ih (List.cons_ne_nil next rest), joinWith_cons_of_ne_nil (List.cons_ne_nil next rest),
            List.append_assoc, List.cons_append]

/-- Pieces that do not hold the separator can be told apart again. -/
theorem split_joinWith
    {pieces : List (List Char)}
    (hne : pieces ≠ [])
    (hfree : ∀ piece, piece ∈ pieces → sep ∉ piece) :
    split sep (joinWith sep pieces) = pieces := by
  induction pieces with
  | nil => exact absurd rfl hne
  | cons piece pieces ih =>
      have hpiece := split_of_not_mem (hfree piece List.mem_cons_self)
      cases pieces with
      | nil => exact hpiece
      | cons next rest =>
          have hrest := ih (List.cons_ne_nil next rest) fun p hp =>
            hfree p (List.mem_cons_of_mem piece hp)
          rw [joinWith_cons_of_ne_nil (List.cons_ne_nil next rest), split_append, hpiece, hrest]
          rfl

/-- A text with more than one piece goes on after the first one with the separator. -/
theorem split_eq_cons_cons_iff
    {text piece next : List Char}
    {pieces : List (List Char)} :
    split sep text = piece :: next :: pieces ↔
      sep ∉ piece ∧ ∃ rest, text = piece ++ sep :: rest ∧ split sep rest = next :: pieces := by
  constructor
  · intro h
    have hfree : ∀ p, p ∈ piece :: next :: pieces → sep ∉ p := fun p hp =>
      not_mem_of_mem_split (h ▸ hp)
    refine ⟨hfree piece List.mem_cons_self, joinWith sep (next :: pieces), ?_, ?_⟩
    · rw [← joinWith_cons_of_ne_nil (List.cons_ne_nil next pieces), ← h, joinWith_split]
    · exact split_joinWith (List.cons_ne_nil next pieces) fun p hp =>
        hfree p (List.mem_cons_of_mem piece hp)
  · rintro ⟨hfree, rest, rfl, hrest⟩
    rw [split_append, split_of_not_mem hfree, hrest]
    rfl

theorem exists_of_mem_joinWith
    {c : Char}
    {pieces : List (List Char)}
    (h : c ∈ joinWith sep pieces)
    (hsep : c ≠ sep) :
    ∃ piece, piece ∈ pieces ∧ c ∈ piece := by
  induction pieces with
  | nil => cases h
  | cons piece pieces ih =>
      cases pieces with
      | nil => exact ⟨piece, List.mem_cons_self, h⟩
      | cons next rest =>
          rw [joinWith_cons_of_ne_nil (List.cons_ne_nil next rest), List.mem_append,
            List.mem_cons] at h
          rcases h with h | h | h
          · exact ⟨piece, List.mem_cons_self, h⟩
          · exact absurd h hsep
          · obtain ⟨found, hfound, hc⟩ := ih h
            exact ⟨found, List.mem_cons_of_mem piece hfound, hc⟩

end Text

/-! ## The text of a path -/

namespace Path

/-- The components of a place, with a slash after each. -/
def placeText (place : List String) : List Char :=
  place.flatMap fun part => part.toList ++ ['/']

theorem chars_relative
    {parts : List String}
    (h : parts ≠ []) :
    (relative parts).chars = Text.joinWith '/' (parts.map String.toList) := by
  cases parts with
  | nil => exact absurd rfl h
  | cons part parts => rfl

theorem joinWith_place
    {place below : List String}
    (hbelow : below ≠ []) :
    Text.joinWith '/' ((place ++ below).map String.toList) =
      placeText place ++ Text.joinWith '/' (below.map String.toList) := by
  induction place with
  | nil => rfl
  | cons part place ih =>
      have hne : (place ++ below).map String.toList ≠ [] := by simp [hbelow]
      rw [List.cons_append, List.map_cons, Text.joinWith_cons_of_ne_nil hne, ih, placeText,
        placeText, List.flatMap_cons, List.append_assoc, List.append_assoc, List.singleton_append]

end Path

end ModuleSpec
