/-!
# Splitting text

A text is cut at every occurrence of a character; the pieces are one more than
the occurrences, and some of them may be empty.

**Results.**  The pieces, joined by the character, are the text, and no piece
holds the character.
-/

namespace ModuleSpec
namespace Text

/-- The pieces of a text between the occurrences of a character. -/
def split (sep : Char) : List Char → List (List Char)
  | [] => [[]]
  | c :: cs =>
      if c = sep then
        [] :: split sep cs
      else
        match split sep cs with
        | [] => [[c]]
        | piece :: pieces => (c :: piece) :: pieces

/-- Pieces of text with a character between them. -/
def joinWith (sep : Char) : List (List Char) → List Char
  | [] => []
  | [piece] => piece
  | piece :: pieces => piece ++ sep :: joinWith sep pieces

theorem split_ne_nil
    (sep : Char)
    (text : List Char) :
    split sep text ≠ [] := by
  induction text with
  | nil =>
      simp [split]
  | cons c cs ih =>
      by_cases h : c = sep
      · simp [split, h]
      · cases hs : split sep cs with
        | nil =>
            exact absurd hs ih
        | cons piece pieces =>
            simp [split, h, hs]

theorem joinWith_split
    (sep : Char)
    (text : List Char) :
    joinWith sep (split sep text) = text := by
  induction text with
  | nil =>
      rfl
  | cons c cs ih =>
      cases hs : split sep cs with
      | nil =>
          exact absurd hs (split_ne_nil sep cs)
      | cons piece pieces =>
          rw [hs] at ih
          by_cases h : c = sep
          · subst h
            rw [split, if_pos rfl, hs, joinWith, ih]
            · simp
            · simp
          · rw [split, if_neg h, hs]
            cases pieces with
            | nil =>
                simpa [joinWith] using ih
            | cons p ps =>
                simpa [joinWith] using ih

end Text
end ModuleSpec
