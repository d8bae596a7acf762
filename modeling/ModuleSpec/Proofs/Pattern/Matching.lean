import Mathlib.Logic.Relation
import ModuleSpec.Pattern.Regex

/-!
# What expressions read

An expression leads from a cursor to others, and on the way it reads what lies between
them.  Of two expressions in a row the second reads on where the first stopped; a
repetition reads in rounds.  The rounds that are computed are as many as there are
characters left, and that is enough, because every round that counts reads something.

**Results.**  `mem_ends_star`: a repetition leads wherever its rounds lead.
`mem_ends_repeat`: a repeated set of characters reads every text of them.
`occursIn_atStart`: an anchored expression is tried at the beginning alone.
-/

namespace ModuleSpec

namespace Cursor

/-- What is read between two cursors.  Only what reads nothing stays at the beginning. -/
def Reads
    (c : Cursor)
    (text : List Char)
    (d : Cursor) : Prop :=
  c.rest = text ++ d.rest ∧ d.start = (c.start && text.isEmpty)

theorem reads_nil_iff
    {c d : Cursor} :
    c.Reads [] d ↔ d = c := by
  obtain ⟨start, rest⟩ := c
  obtain ⟨start', rest'⟩ := d
  simp only [Reads, List.nil_append, List.isEmpty_nil, Bool.and_true, mk.injEq]
  exact ⟨fun h => ⟨h.2, h.1.symm⟩, fun h => ⟨h.2.symm, h.1⟩⟩

/-- A text is read part by part. -/
theorem reads_append_iff
    {c e : Cursor}
    {before after : List Char} :
    c.Reads (before ++ after) e ↔ ∃ d, c.Reads before d ∧ d.Reads after e := by
  constructor
  · rintro ⟨hrest, hstart⟩
    refine ⟨⟨c.start && before.isEmpty, after ++ e.rest⟩, ⟨?_, rfl⟩, rfl, ?_⟩
    · rw [hrest, List.append_assoc]
    · cases before <;> simp [hstart]
  · rintro ⟨d, ⟨hrest, hstart⟩, hrest', hstart'⟩
    refine ⟨?_, ?_⟩
    · rw [hrest, hrest', List.append_assoc]
    · cases before <;> simp [hstart', hstart]

theorem reads_cons_iff
    {c e : Cursor}
    {x : Char}
    {after : List Char} :
    c.Reads (x :: after) e ↔ ∃ d, c.Reads [x] d ∧ d.Reads after e := by
  rw [← List.singleton_append]
  exact reads_append_iff

theorem exists_reads_iff
    {c : Cursor}
    {text : List Char} :
    (∃ d, c.Reads text d) ↔ text <+: c.rest := by
  constructor
  · rintro ⟨d, hrest, -⟩
    exact ⟨d.rest, hrest.symm⟩
  · rintro ⟨rest, hrest⟩
    exact ⟨⟨c.start && text.isEmpty, rest⟩, hrest.symm, rfl⟩

end Cursor

namespace CharSet

variable {x y : Char}

theorem contains_only_iff :
    (only x).contains y = true ↔ y = x := by
  have hrange : (only x).contains y = true ↔ x ≤ y ∧ y ≤ x := by
    simp [contains, only]
  rw [hrange]
  refine ⟨fun h => Char.le_antisymm h.2 h.1, ?_⟩
  rintro rfl
  exact ⟨Char.le_refl y, Char.le_refl y⟩

theorem contains_not_iff :
    (not x).contains y = true ↔ y ≠ x := by
  have hopposite : (not x).contains y = !(only x).contains y := by
    simp [contains, only, not]
  rw [hopposite, Bool.not_eq_true', Bool.eq_false_iff, ne_eq, ne_eq, contains_only_iff]

end CharSet

namespace Regex

section Ends

variable {c d : Cursor} {r s : Regex}

theorem mem_ends_empty :
    d ∈ empty.ends c ↔ d = c :=
  List.mem_singleton

theorem mem_ends_one
    {set : CharSet} :
    d ∈ (one set).ends c ↔ ∃ x, set.contains x = true ∧ c.Reads [x] d := by
  obtain ⟨start, rest⟩ := c
  obtain ⟨start', rest'⟩ := d
  cases rest with
  | nil => simp [ends, Cursor.Reads]
  | cons y ys =>
      rw [ends, List.mem_ite_nil_right, List.mem_singleton]
      constructor
      · rintro ⟨hy, ⟨⟩⟩
        exact ⟨y, hy, rfl, (Bool.and_false start).symm⟩
      · rintro ⟨x, hx, hrest, hstart⟩
        obtain ⟨rfl, rfl⟩ := List.cons.inj hrest
        have hfalse : start' = false := hstart.trans (Bool.and_false start)
        exact ⟨hx, by rw [hfalse]⟩

theorem mem_ends_char
    {x : Char} :
    d ∈ (char x).ends c ↔ c.Reads [x] d := by
  simp only [char, mem_ends_one, CharSet.contains_only_iff, exists_eq_left]

theorem mem_ends_seq :
    d ∈ (seq r s).ends c ↔ ∃ e, e ∈ r.ends c ∧ d ∈ s.ends e := by
  simp only [ends, List.mem_eraseDups, List.mem_flatMap]

theorem mem_ends_alt :
    d ∈ (alt r s).ends c ↔ d ∈ r.ends c ∨ d ∈ s.ends c :=
  List.mem_append

theorem mem_ends_option :
    d ∈ r.option.ends c ↔ d ∈ r.ends c ∨ d = c := by
  rw [option, mem_ends_alt, mem_ends_empty]

theorem mem_ends_sequence_cons
    {rs : List Regex} :
    d ∈ (sequence (r :: rs)).ends c ↔ ∃ e, e ∈ r.ends c ∧ d ∈ (sequence rs).ends e := by
  cases rs with
  | nil => simp [sequence, mem_ends_empty]
  | cons s rest => exact mem_ends_seq

/-- A word is read character by character. -/
theorem mem_ends_word
    {word : List Char} :
    d ∈ (sequence (word.map char)).ends c ↔ c.Reads word d := by
  induction word generalizing c with
  | nil => rw [List.map_nil, sequence, mem_ends_empty, Cursor.reads_nil_iff]
  | cons x xs ih =>
      rw [List.map_cons, mem_ends_sequence_cons, Cursor.reads_cons_iff]
      simp only [mem_ends_char, ih]

end Ends

/-! ## Repetition -/

/-- One round of a repetition, which reads at least one character. -/
def Advances
    (step : Cursor → List Cursor)
    (c d : Cursor) : Prop :=
  d ∈ step c ∧ d.rest.length < c.rest.length

/-- The rounds are enough when no cursor has more characters left than there are rounds. -/
theorem mem_repeated_iff
    {step : Cursor → List Cursor}
    {rounds : Nat}
    {front : List Cursor}
    {d : Cursor}
    (h : ∀ c, c ∈ front → c.rest.length ≤ rounds) :
    d ∈ repeated step rounds front ↔
      ∃ c, c ∈ front ∧ Relation.ReflTransGen (Advances step) c d := by
  induction rounds generalizing front with
  | zero =>
      rw [repeated]
      refine ⟨fun hd => ⟨d, hd, .refl⟩, ?_⟩
      rintro ⟨c, hc, hways⟩
      rcases hways.cases_head with rfl | ⟨e, ⟨-, hless⟩, -⟩
      · exact hc
      · exact absurd (h c hc) (by omega)
  | succ n ih =>
      have hnext : ∀ e, e ∈ (front.flatMap fun c =>
            (step c).filter fun d => d.rest.length < c.rest.length).eraseDups ↔
          ∃ c, c ∈ front ∧ Advances step c e := by
        intro e
        simp [Advances]
      have hrounds : ∀ e, e ∈ (front.flatMap fun c =>
          (step c).filter fun d => d.rest.length < c.rest.length).eraseDups →
            e.rest.length ≤ n := by
        intro e he
        obtain ⟨c, hc, -, hless⟩ := (hnext e).1 he
        exact Nat.le_of_lt_succ (Nat.lt_of_lt_of_le hless (h c hc))
      rw [repeated, List.mem_append, ih hrounds]
      constructor
      · rintro (hd | ⟨e, he, hways⟩)
        · exact ⟨d, hd, .refl⟩
        · obtain ⟨c, hc, hadvances⟩ := (hnext e).1 he
          exact ⟨c, hc, .head hadvances hways⟩
      · rintro ⟨c, hc, hways⟩
        rcases hways.cases_head with rfl | ⟨e, hadvances, hways⟩
        · exact .inl hc
        · exact .inr ⟨e, (hnext e).2 ⟨c, hc, hadvances⟩, hways⟩

/-- A repetition leads wherever its rounds lead. -/
theorem mem_ends_star
    {r : Regex}
    {c d : Cursor} :
    d ∈ (star r).ends c ↔ Relation.ReflTransGen (Advances r.ends) c d := by
  rw [ends, mem_repeated_iff]
  · simp only [List.mem_singleton, exists_eq_left]
  · intro e he
    exact Nat.le_of_eq (congrArg (List.length ∘ Cursor.rest) (List.mem_singleton.1 he))

theorem advances_one_iff
    {set : CharSet}
    {c d : Cursor} :
    Advances (one set).ends c d ↔ ∃ x, set.contains x = true ∧ c.Reads [x] d := by
  rw [Advances, mem_ends_one, and_iff_left_iff_imp]
  rintro ⟨x, -, hrest, -⟩
  rw [hrest]
  simp

/-- A repeated set of characters reads every text of such characters. -/
theorem mem_ends_repeat
    {set : CharSet}
    {c d : Cursor} :
    d ∈ (star (one set)).ends c ↔
      ∃ text, (∀ x, x ∈ text → set.contains x = true) ∧ c.Reads text d := by
  rw [mem_ends_star]
  constructor
  · intro hways
    induction hways using Relation.ReflTransGen.head_induction_on with
    | refl => exact ⟨[], nofun, Cursor.reads_nil_iff.2 rfl⟩
    | head hadvances _ ih =>
        obtain ⟨x, hx, hreads⟩ := advances_one_iff.1 hadvances
        obtain ⟨text, htext, hrest⟩ := ih
        exact ⟨x :: text, List.forall_mem_cons.2 ⟨hx, htext⟩,
          Cursor.reads_cons_iff.2 ⟨_, hreads, hrest⟩⟩
  · rintro ⟨text, htext, hreads⟩
    induction text generalizing c with
    | nil => rw [Cursor.reads_nil_iff.1 hreads]
    | cons x text ih =>
        obtain ⟨e, hfirst, hrest⟩ := Cursor.reads_cons_iff.1 hreads
        refine .head (advances_one_iff.2 ⟨x, htext x List.mem_cons_self, hfirst⟩) ?_
        exact ih (fun y hy => htext y (List.mem_cons_of_mem x hy)) hrest

/-- Some characters of a set, and at least one. -/
theorem mem_ends_plus
    {set : CharSet}
    {c d : Cursor} :
    d ∈ (plus (one set)).ends c ↔
      ∃ text, text ≠ [] ∧ (∀ x, x ∈ text → set.contains x = true) ∧ c.Reads text d := by
  simp only [plus, mem_ends_seq, mem_ends_one, mem_ends_repeat]
  constructor
  · rintro ⟨e, ⟨x, hx, hfirst⟩, text, htext, hrest⟩
    exact ⟨x :: text, List.cons_ne_nil x text, List.forall_mem_cons.2 ⟨hx, htext⟩,
      Cursor.reads_cons_iff.2 ⟨e, hfirst, hrest⟩⟩
  · rintro ⟨text, hne, htext, hreads⟩
    cases text with
    | nil => exact absurd rfl hne
    | cons x text =>
        obtain ⟨e, hfirst, hrest⟩ := Cursor.reads_cons_iff.1 hreads
        obtain ⟨hx, htext⟩ := List.forall_mem_cons.1 htext
        exact ⟨e, ⟨x, hx, hfirst⟩, text, htext, hrest⟩

/-! ## Occurrence -/

theorem matchesAt_iff
    {r : Regex}
    {c : Cursor} :
    r.matchesAt c = true ↔ ∃ d, d ∈ r.ends c := by
  rw [matchesAt, Bool.not_eq_true', List.isEmpty_eq_false_iff_exists_mem]

/-- An expression that begins with the anchor is tried at the beginning of the text alone. -/
theorem occursIn_atStart
    {rs : List Regex}
    {text : List Char} :
    (sequence (.atStart :: rs)).occursIn text = true ↔
      ∃ d, d ∈ (sequence rs).ends ⟨true, text⟩ := by
  have hmatches : ∀ start rest, (sequence (.atStart :: rs)).matchesAt ⟨start, rest⟩ = true ↔
      start = true ∧ ∃ d, d ∈ (sequence rs).ends ⟨start, rest⟩ := by
    intro start rest
    rw [matchesAt_iff]
    simp only [mem_ends_sequence_cons]
    cases start <;> simp [ends]
  have hlater : ∀ rest, (sequence (.atStart :: rs)).occursFrom false rest = false := by
    intro rest
    have hno : ∀ rest, (sequence (.atStart :: rs)).matchesAt ⟨false, rest⟩ = false := fun rest =>
      Bool.eq_false_iff.2 fun h => Bool.false_ne_true ((hmatches false rest).1 h).1
    induction rest with
    | nil => exact hno []
    | cons x xs ih => rw [occursFrom, hno, ih, Bool.false_or]
  have hfirst : (sequence (.atStart :: rs)).occursIn text =
      (sequence (.atStart :: rs)).matchesAt ⟨true, text⟩ := by
    cases text with
    | nil => rfl
    | cons x xs => rw [occursIn, occursFrom, hlater, Bool.or_false]
  rw [hfirst, hmatches, and_iff_right rfl]

end Regex

end ModuleSpec
