import Mathlib.Data.List.DropRight
import Mathlib.Data.List.Induction
import ModuleSpec.Pattern.Excluded
import ModuleSpec.Proofs.Result

/-!
# What an ignore file means

The lines of an ignore file are read as patterns after the white space around them is
gone, and blank lines and comments with it.  A pattern drops the white space at its end
by itself, and a line that is blank or a comment says nothing; so most lines lose nothing.
What is lost is white space that belongs to a pattern: at its beginning, where it makes a
hash or an exclamation mark an ordinary character, and at its end after a backslash.

**Results.**  `isMatched_linesOf`: the patterns of a file mean what its trimmed lines mean,
and where every line is plain, what the lines mean as they are.
`not_forall_isMatched_rawLines`: they need not where one is not.
-/

namespace ModuleSpec

namespace Text

theorem trimEnd_eq_rdropWhile
    (text : List Char) :
    trimEnd text = text.rdropWhile isBlank :=
  rfl

theorem trimEnd_trimEnd
    (text : List Char) :
    trimEnd (trimEnd text) = trimEnd text :=
  List.rdropWhile_idempotent isBlank text

theorem trimEnd_eq_nil_iff
    {text : List Char} :
    trimEnd text = [] ↔ ∀ c, c ∈ text → isBlank c = true :=
  List.rdropWhile_eq_nil_iff

theorem trimEnd_cons_of_not_blank
    {c : Char}
    {cs : List Char}
    (h : isBlank c = false) :
    trimEnd (c :: cs) = c :: trimEnd cs := by
  simp only [trimEnd_eq_rdropWhile]
  induction cs using List.reverseRecOn with
  | nil => simp [List.rdropWhile_singleton, h]
  | append_singleton cs d ih =>
      rw [← List.cons_append, List.rdropWhile_concat, List.rdropWhile_concat, ih]
      split <;> rfl

theorem trim_of_blank
    {text : List Char}
    (h : ∀ c, c ∈ text → isBlank c = true) :
    trim text = [] :=
  trimEnd_eq_nil_iff.2 fun c hc => h c ((List.dropWhile_suffix isBlank).subset hc)

theorem head_of_not_blank
    {c : Char}
    (h : isBlank c = false)
    (cs : List Char) :
    ∀ d, (c :: cs).head? = some d → isBlank d = false := by
  rintro d ⟨⟩
  exact h

theorem trim_eq_trimEnd
    {text : List Char}
    (h : ∀ c, text.head? = some c → isBlank c = false) :
    trim text = trimEnd text := by
  cases text with
  | nil => rfl
  | cons c cs =>
      rw [trim, trimBy, List.dropWhile_cons, h c rfl]
      rfl

end Text

namespace Pattern

/-- The lines of a text as they are. -/
def rawLines (text : List Char) : List String :=
  (Text.lines text).map String.ofList

/-- The lines of a text without the white space around them. -/
def trimmedLines (text : List Char) : List String :=
  ((Text.lines text).map Text.trim).map String.ofList

/-- Lines to which the white space around them means nothing. -/
inductive IsPlain : List Char → Prop
  | blank
      {line : List Char}
      (h : ∀ c, c ∈ line → Text.isBlank c = true) :
      IsPlain line
  | comment
      (text : List Char) :
      IsPlain ('#' :: text)
  | pattern
      {line : List Char}
      (hbegin : ∀ c, line.head? = some c → Text.isBlank c = false)
      (hend : ¬ ['\\', ' '] <:+ line) :
      IsPlain line

end Pattern

namespace Path

/-- What the rules of some lines say about a path. -/
def isMatched
    (path : Path)
    (lines : List String) :
    Except Pattern.IgnoreError Bool :=
  (Pattern.rules (lines.map String.toList)).map fun found =>
    Pattern.decides found (Pattern.ruleText path)

end Path

namespace Pattern

/-! ## One line -/

/-- What is left of a line ends in no white space, so in none after a backslash either. -/
theorem not_suffix_trimEnd
    (line : List Char) :
    ¬ ['\\', ' '] <:+ Text.trimEnd line := by
  rintro ⟨front, hfront⟩
  have hconcat : Text.trimEnd line = front ++ ['\\'] ++ [' '] := by simpa using hfront.symm
  have htrimmed := Text.trimEnd_trimEnd line
  rw [hconcat, Text.trimEnd_eq_rdropWhile, List.rdropWhile_concat_pos _ _ _ (by decide)] at htrimmed
  have hlength := (List.rdropWhile_prefix Text.isBlank (front ++ ['\\'])).length_le
  rw [htrimmed] at hlength
  simp at hlength

theorem trimLine_of_not_suffix
    {line : List Char}
    (h : ¬ ['\\', ' '] <:+ line) :
    trimLine line = Text.trimEnd line := by
  rw [trimLine, if_neg (by simpa using h)]

/-- White space at the end of a pattern is gone before the pattern is read. -/
theorem rule?_trimEnd
    {line : List Char}
    (h : ¬ ['\\', ' '] <:+ line) :
    rule? (Text.trimEnd line) = rule? line := by
  rw [rule?, rule?, trimLine_of_not_suffix h, trimLine_of_not_suffix (not_suffix_trimEnd line),
    Text.trimEnd_trimEnd]

theorem rule?_nil : rule? [] = .ok none := rfl

theorem rule?_comment
    (text : List Char) :
    rule? ('#' :: text) = .ok none := by
  have hline : ∃ rest, trimLine ('#' :: text) = '#' :: rest := by
    rw [trimLine]
    split
    · exact ⟨text, rfl⟩
    · exact ⟨Text.trimEnd text, Text.trimEnd_cons_of_not_blank (by decide)⟩
  obtain ⟨rest, hrest⟩ := hline
  rw [rule?, hrest]
  rfl

theorem rule?_of_blank
    {line : List Char}
    (h : ∀ c, c ∈ line → Text.isBlank c = true) :
    rule? line = .ok none := by
  have hend : ¬ ['\\', ' '] <:+ line := fun hsuffix =>
    absurd (h '\\' (hsuffix.subset List.mem_cons_self)) (by decide)
  rw [← rule?_trimEnd hend, Text.trimEnd_eq_nil_iff.2 h, rule?_nil]

/-- A plain line says the same without the white space around it. -/
theorem rule?_trim
    {line : List Char}
    (h : IsPlain line) :
    rule? (Text.trim line) = rule? line := by
  cases h with
  | blank h => rw [Text.trim_of_blank h, rule?_nil, rule?_of_blank h]
  | comment text =>
      have htrim : Text.trim ('#' :: text) = '#' :: Text.trimEnd text := by
        rw [Text.trim_eq_trimEnd (Text.head_of_not_blank rfl text),
          Text.trimEnd_cons_of_not_blank (by decide)]
      rw [htrim, rule?_comment, rule?_comment]
  | pattern hbegin hend => rw [Text.trim_eq_trimEnd hbegin, rule?_trimEnd hend]

/-! ## All lines -/

theorem rules_cons
    (line : List Char)
    (lines : List (List Char)) :
    rules (line :: lines) =
      (rule? line).bind fun found => (rules lines).map fun rest => found.toList ++ rest := by
  rw [rules, rules, List.mapM_cons]
  cases rule? line with
  | error e => rfl
  | ok found =>
      cases lines.mapM rule? with
      | error e => rfl
      | ok rest => cases found <;> rfl

/-- Lines that say nothing can be left out. -/
theorem rules_filter
    {keeps : List Char → Bool}
    {lines : List (List Char)}
    (h : ∀ line, line ∈ lines → keeps line = false → rule? line = .ok none) :
    rules (lines.filter keeps) = rules lines := by
  induction lines with
  | nil => rfl
  | cons line lines ih =>
      obtain ⟨hline, hlines⟩ := List.forall_mem_cons.1 h
      cases hkeeps : keeps line with
      | true => rw [List.filter_cons_of_pos hkeeps, rules_cons, rules_cons, ih hlines]
      | false =>
          rw [List.filter_cons_of_neg (by simp [hkeeps]), ih hlines, rules_cons, hline hkeeps]
          cases rules lines <;> rfl

theorem toList_ofList_map
    (lines : List (List Char)) :
    (lines.map String.ofList).map String.toList = lines := by
  rw [List.map_map]
  exact (List.map_congr_left fun line _ => String.toList_ofList).trans (List.map_id lines)

/-- Only lines that say nothing are left out of an ignore file. -/
theorem rules_linesOf
    (text : List Char) :
    rules ((linesOf text).map String.toList) = rules ((Text.lines text).map Text.trim) := by
  rw [linesOf, toList_ofList_map]
  refine rules_filter fun line _ hno => ?_
  cases line with
  | nil => exact rule?_nil
  | cons c cs =>
      have hc : c = '#' := by simpa using hno
      rw [hc, rule?_comment]

theorem rules_trim
    {lines : List (List Char)}
    (h : ∀ line, line ∈ lines → IsPlain line) :
    rules (lines.map Text.trim) = rules lines := by
  induction lines with
  | nil => rfl
  | cons line lines ih =>
      obtain ⟨hline, hlines⟩ := List.forall_mem_cons.1 h
      rw [List.map_cons, rules_cons, rules_cons, rule?_trim hline, ih hlines]

end Pattern

/-- The patterns of an ignore file say about a path what its lines say. -/
theorem isMatched_linesOf
    (text : List Char)
    (path : Path) :
    path.isMatched (Pattern.linesOf text) = path.isMatched (Pattern.trimmedLines text) ∧
      ((∀ line, line ∈ Text.lines text → Pattern.IsPlain line) →
        path.isMatched (Pattern.linesOf text) = path.isMatched (Pattern.rawLines text)) := by
  have htrimmed : path.isMatched (Pattern.linesOf text) =
      path.isMatched (Pattern.trimmedLines text) := by
    rw [Path.isMatched, Path.isMatched, Pattern.rules_linesOf, Pattern.trimmedLines,
      Pattern.toList_ofList_map]
  refine ⟨htrimmed, fun hplain => ?_⟩
  rw [htrimmed, Path.isMatched, Path.isMatched, Pattern.trimmedLines, Pattern.rawLines,
    Pattern.toList_ofList_map, Pattern.toList_ofList_map, Pattern.rules_trim hplain]

theorem plainLines_isMatched :
    ∃ (text : List Char) (path : Path),
      (∀ line, line ∈ Text.lines text → Pattern.IsPlain line) ∧
        path.isMatched (Pattern.linesOf text) = .ok true ∧
        path.isMatched (Pattern.rawLines text) = .ok true := by
  let text : List Char := "# tools\n\nlib/ \t\n!lib/keep\n".toList
  let path : Path := .relative ["lib", "NativeFoo.ts"]
  have hlines : Text.lines text =
      ["# tools".toList, [], "lib/ \t".toList, "!lib/keep".toList] := by
    decide
  have hplain : ∀ line, line ∈ Text.lines text → Pattern.IsPlain line := by
    rw [hlines]
    refine List.forall_mem_cons.2 ⟨.comment _, List.forall_mem_cons.2 ⟨.blank nofun, ?_⟩⟩
    refine List.forall_mem_cons.2 ⟨.pattern (Text.head_of_not_blank rfl _) (by decide), ?_⟩
    exact List.forall_mem_cons.2 ⟨.pattern (Text.head_of_not_blank rfl _) (by decide), nofun⟩
  have hmatched : path.isMatched (Pattern.linesOf text) = .ok true := by
    decide +kernel
  exact ⟨text, path, hplain, hmatched, ((isMatched_linesOf text path).2 hplain).symm.trans hmatched⟩

/--
White space after a backslash is a part of the pattern, and without it the line is no rule.
White space at the beginning of a line is a part of it, and without it other paths match.
-/
theorem not_forall_isMatched_rawLines :
    (¬ ∀ (text : List Char) (path : Path),
      path.isMatched (Pattern.linesOf text) = path.isMatched (Pattern.rawLines text)) ∧
    ¬ ∀ (text : List Char) (path : Path) (said saidRaw : Bool),
      path.isMatched (Pattern.linesOf text) = .ok said →
      path.isMatched (Pattern.rawLines text) = .ok saidRaw → said = saidRaw := by
  constructor
  · intro hall
    have hsame := hall "lib\\ \n".toList (.relative ["NativeFoo.ts"])
    have hmalformed : (Path.relative ["NativeFoo.ts"]).isMatched
        (Pattern.linesOf "lib\\ \n".toList) = .error .malformed := by
      decide +kernel
    have hraw : (Path.relative ["NativeFoo.ts"]).isMatched
        (Pattern.rawLines "lib\\ \n".toList) = .ok false := by
      decide +kernel
    rw [hmalformed, hraw] at hsame
    cases hsame
  · intro hall
    have hmatched : (Path.relative ["lib", "NativeFoo.ts"]).isMatched
        (Pattern.linesOf " lib/\n".toList) = .ok true := by
      decide +kernel
    have hraw : (Path.relative ["lib", "NativeFoo.ts"]).isMatched
        (Pattern.rawLines " lib/\n".toList) = .ok false := by
      decide +kernel
    cases hall _ _ _ _ hmatched hraw

end ModuleSpec
