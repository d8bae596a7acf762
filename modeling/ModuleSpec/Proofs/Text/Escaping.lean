import ModuleSpec.Text.Markup

/-!
# Escaped markup

A text that is escaped is shown without tags.  Escaping puts an odd number of
backslashes before every tag of the text, and no other tags come up: what was no tag
is followed by what it was followed by, or by the backslashes of a tag, and these
belong to no tag that has begun.

**Idea.**  The pieces of a text are found from the front.  A text begins with a tag, and
goes on behind it, or it goes on behind its first character; escaping follows the same
two rules, so that they carry every induction.

**Results.**  `TagsEscaped.exists_render`: a text is shown when all its tags are escaped.
`tagsEscaped_escape`: those of an escaped text are.  `not_exists_render_of_closing`: a text is not
shown when its first tag closes something.
-/

namespace ModuleSpec
namespace Text
namespace Markup

/-! ## The pieces of a text, from the front -/

section Pieces

variable {run text cs : List Char} {c : Char} {tag : Tag}

theorem piecesFrom_eq_drop
    (n : Nat)
    (run text : List Char) :
    piecesFrom n run text = piecesFrom 0 run (text.drop n) := by
  induction text generalizing n with
  | nil =>
      rw [List.drop_nil]
      cases n <;> rfl
  | cons c cs ih =>
      cases n with
      | zero => rfl
      | succ n => rw [piecesFrom, ih, List.drop_succ_cons]

theorem piecesFrom_of_tag
    (h : tagAt? (c :: cs) = some tag) :
    piecesFrom 0 run (c :: cs) =
      plainPiece run ++ .tag tag :: pieces ((c :: cs).drop tag.length) := by
  have hlength : tag.length = tag.length - 1 + 1 := by
    simp only [Tag.length]
    omega
  rw [hlength, List.drop_succ_cons, piecesFrom, h]
  exact congrArg (fun ps => plainPiece run ++ .tag tag :: ps) (piecesFrom_eq_drop _ [] cs)

theorem piecesFrom_of_none
    (h : tagAt? (c :: cs) = none) :
    piecesFrom 0 run (c :: cs) = piecesFrom 0 (c :: run) cs := by
  rw [piecesFrom, h]

theorem tag_not_mem_plainPiece :
    .tag tag ∉ plainPiece run := by
  rw [plainPiece]
  split <;> simp

/-- The tags of a text do not depend on the plain text before it. -/
theorem tag_mem_piecesFrom_iff :
    .tag tag ∈ piecesFrom 0 run text ↔ .tag tag ∈ pieces text := by
  induction text generalizing run with
  | nil => exact iff_of_false tag_not_mem_plainPiece List.not_mem_nil
  | cons c cs ih =>
      rw [pieces]
      cases h : tagAt? (c :: cs) with
      | some found =>
          rw [piecesFrom_of_tag h, piecesFrom_of_tag h, List.mem_append, List.mem_append]
          exact or_congr_left (iff_of_false tag_not_mem_plainPiece tag_not_mem_plainPiece)
      | none => rw [piecesFrom_of_none h, piecesFrom_of_none h, ih, @ih [c]]

end Pieces

/-! ## The text with its tags escaped -/

/-- What the pieces of a text are escaped to. -/
def escapedPieces (text : List Char) : List Char :=
  (pieces text).flatMap escapePiece

section Escaped

variable {run text cs : List Char} {c : Char} {tag : Tag}

theorem flatMap_plainPiece
    (run : List Char) :
    (plainPiece run).flatMap escapePiece = run.reverse := by
  rw [plainPiece]
  split
  case isTrue hempty => rw [List.isEmpty_iff.1 hempty]; rfl
  case isFalse => rw [List.flatMap_singleton, escapePiece]

/-- The plain text before a text stays as it is. -/
theorem flatMap_piecesFrom
    (run text : List Char) :
    (piecesFrom 0 run text).flatMap escapePiece = run.reverse ++ escapedPieces text := by
  induction text generalizing run with
  | nil => exact (flatMap_plainPiece run).trans (List.append_nil _).symm
  | cons c cs ih =>
      rw [escapedPieces, pieces]
      cases h : tagAt? (c :: cs) with
      | some tag =>
          rw [piecesFrom_of_tag h, piecesFrom_of_tag h, List.flatMap_append, List.flatMap_append,
            flatMap_plainPiece, flatMap_plainPiece]
          rfl
      | none =>
          rw [piecesFrom_of_none h, piecesFrom_of_none h, ih, ih, List.reverse_cons,
            List.append_assoc]
          rfl

theorem escapedPieces_of_tag
    (h : tagAt? (c :: cs) = some tag) :
    escapedPieces (c :: cs) =
      List.replicate (2 * tag.escapes + 1) '\\' ++ tag.bracketed
        ++ escapedPieces ((c :: cs).drop tag.length) := by
  rw [escapedPieces, pieces, piecesFrom_of_tag h]
  rfl

theorem escapedPieces_of_none
    (h : tagAt? (c :: cs) = none) :
    escapedPieces (c :: cs) = c :: escapedPieces cs := by
  rw [escapedPieces, pieces, piecesFrom_of_none h, flatMap_piecesFrom]
  rfl

/-- A text and what it is escaped to begin with the same character, or a tag comes first. -/
theorem escapedPieces_cons
    (c : Char)
    (cs : List Char) :
    escapedPieces (c :: cs) = c :: escapedPieces cs ∨
      ∃ before after, escapedPieces (c :: cs) = '\\' :: (before ++ '[' :: after) ∧
        ∀ d, d ∈ before → d = '\\' := by
  cases h : tagAt? (c :: cs) with
  | none => exact .inl (escapedPieces_of_none h)
  | some tag =>
      refine .inr ⟨List.replicate (2 * tag.escapes) '\\',
        tag.body ++ [']'] ++ escapedPieces ((c :: cs).drop tag.length), ?_,
        fun d hd => List.eq_of_mem_replicate hd⟩
      rw [escapedPieces_of_tag h, List.replicate_succ, Tag.bracketed]
      simp only [List.cons_append, List.append_assoc]

end Escaped

/-! ## Tags of the escaped text -/

/-- All tags of a text are escaped. -/
def TagsEscaped (text : List Char) : Prop :=
  ∀ tag, .tag tag ∈ pieces text → tag.escapes % 2 = 1

section Tags

variable {text cs rest : List Char} {c : Char} {tag : Tag}

theorem tagsEscaped_nil :
    TagsEscaped [] :=
  fun _ htag => absurd htag List.not_mem_nil

theorem TagsEscaped.of_tag
    (h : tagAt? text = some tag)
    (hodd : tag.escapes % 2 = 1)
    (hrest : TagsEscaped (text.drop tag.length)) :
    TagsEscaped text := by
  cases text with
  | nil => cases h
  | cons c cs =>
      intro other hother
      rw [pieces, piecesFrom_of_tag h] at hother
      rcases List.mem_cons.1 hother with heq | hother
      · cases heq
        exact hodd
      · exact hrest other hother

theorem TagsEscaped.cons
    (hrest : TagsEscaped cs)
    (h : tagAt? (c :: cs) = none) :
    TagsEscaped (c :: cs) := by
  intro other hother
  rw [pieces, piecesFrom_of_none h, tag_mem_piecesFrom_iff] at hother
  exact hrest other hother

/-- A tag begins with a backslash or a bracket. -/
theorem tagAt?_cons_of_plain
    (hbackslash : c ≠ '\\')
    (hbracket : c ≠ '[') :
    tagAt? (c :: cs) = none := by
  unfold tagAt?
  split <;> simp_all

theorem beforeBracket?_cons_eq_none_iff :
    beforeBracket? (c :: cs) = none ↔ c = '[' ∨ (c ≠ ']' ∧ beforeBracket? cs = none) := by
  by_cases hclose : c = ']'
  · simp [hclose, beforeBracket?]
  · by_cases hopen : c = '['
    · simp [hopen, beforeBracket?]
    · simp [hclose, hopen, beforeBracket?]

theorem beforeBracket?_append
    {before : List Char}
    (h : beforeBracket? cs = some before)
    (rest : List Char) :
    beforeBracket? (before ++ ']' :: rest) = some before := by
  induction cs generalizing before with
  | nil => cases h
  | cons c cs ih =>
      unfold beforeBracket? at h
      split at h
      case h_1 => cases h
      case h_2 =>
          cases h
          rfl
      case h_3 => cases h
      case h_4 hclose hopen heq =>
          cases heq
          obtain ⟨inner, hinner, rfl⟩ := Option.map_eq_some_iff.1 h
          rw [List.cons_append, beforeBracket?, ih hinner]
          · rfl
          · exact hclose
          · exact hopen

/-- A bracket begins no tag when what follows is not the inside of one. -/
theorem tagAt?_bracket_eq_none_iff :
    tagAt? ('[' :: text) = none ↔
      ∀ c cs, text = c :: cs → isTagStart c = true → beforeBracket? cs = none := by
  cases text with
  | nil => simp [tagAt?]
  | cons c cs =>
      rw [tagAt?]
      by_cases hstart : isTagStart c = true
      · simp [hstart]
      · simp [hstart]

/-- A tag that is written with other backslashes before it is the same tag. -/
theorem tagAt?_replicate
    (h : tagAt? text = some tag)
    (escapes : Nat)
    (rest : List Char) :
    tagAt? (List.replicate escapes '\\' ++ tag.bracketed ++ rest) =
      some ⟨escapes, tag.body⟩ := by
  have hbare : tagAt? (tag.bracketed ++ rest) = some ⟨0, tag.body⟩ := by
    induction text generalizing tag with
    | nil => cases h
    | cons c cs ih =>
        unfold tagAt? at h
        split at h
        case h_1 heq =>
            cases heq
            obtain ⟨inner, hinner, rfl⟩ := Option.map_eq_some_iff.1 h
            have htag := ih hinner
            exact htag
        case h_2 heq =>
            cases heq
            split at h
            case isTrue hstart =>
                obtain ⟨inner, hinner, rfl⟩ := Option.map_eq_some_iff.1 h
                simp only [Tag.bracketed, List.cons_append, List.append_assoc, List.nil_append,
                  tagAt?, if_pos hstart, beforeBracket?_append hinner, Option.map_some]
            case isFalse => cases h
        case h_3 => cases h
  induction escapes with
  | zero => exact hbare
  | succ escapes ih =>
      rw [List.replicate_succ, List.cons_append, List.cons_append, tagAt?, ih]
      rfl

theorem tagAt?_of_no_bracket
    (h : '[' ∉ text) :
    tagAt? text = none := by
  induction text with
  | nil => rfl
  | cons c cs ih =>
      have hc : c ≠ '[' := fun heq => h (heq ▸ List.mem_cons_self)
      by_cases hbackslash : c = '\\'
      · rw [hbackslash, tagAt?, ih fun hmem => h (List.mem_cons_of_mem c hmem)]
        rfl
      · exact tagAt?_cons_of_plain hbackslash hc

/-- A text without brackets has no tags. -/
theorem tagsEscaped_of_no_bracket
    (h : '[' ∉ text) :
    TagsEscaped text := by
  induction text with
  | nil => exact tagsEscaped_nil
  | cons c cs ih =>
      exact (ih fun hmem => h (List.mem_cons_of_mem c hmem)).cons (tagAt?_of_no_bracket h)

theorem beforeBracket?_of_no_close
    (h : ']' ∉ text) :
    beforeBracket? text = none := by
  induction text with
  | nil => rfl
  | cons c cs ih =>
      obtain ⟨hc, hcs⟩ := not_or.1 (mt List.mem_cons.2 h)
      exact beforeBracket?_cons_eq_none_iff.2 (.inr ⟨Ne.symm hc, ih hcs⟩)

/-- A text with a closing bracket and no opening one has something before it. -/
theorem exists_beforeBracket?
    (hopen : '[' ∉ text)
    (hclose : ']' ∈ text) :
    ∃ before, beforeBracket? text = some before := by
  refine Option.isSome_iff_exists.1 (Option.isSome_iff_ne_none.2 ?_)
  induction text with
  | nil => cases hclose
  | cons c cs ih =>
      obtain ⟨hc, hcs⟩ := not_or.1 (mt List.mem_cons.2 hopen)
      intro hnone
      rcases beforeBracket?_cons_eq_none_iff.1 hnone with heq | ⟨hne, hgo⟩
      · exact hc heq.symm
      · rcases List.mem_cons.1 hclose with heq | hmem
        · exact hne heq.symm
        · exact ih hcs hmem hgo

theorem tagAt?_of_no_close
    (h : ']' ∉ text) :
    tagAt? text = none := by
  induction text with
  | nil => rfl
  | cons c cs ih =>
      have hcs : ']' ∉ cs := fun hmem => h (List.mem_cons_of_mem c hmem)
      by_cases hbackslash : c = '\\'
      · rw [hbackslash, tagAt?, ih hcs, Option.map_none]
      · by_cases hbracket : c = '['
        · rw [hbracket, tagAt?_bracket_eq_none_iff]
          rintro d ds rfl -
          exact beforeBracket?_of_no_close fun hmem => hcs (List.mem_cons_of_mem d hmem)
        · exact tagAt?_cons_of_plain hbackslash hbracket

theorem beforeBracket?_of_backslashes
    (h : ∀ d, d ∈ cs → d = '\\')
    (hrest : beforeBracket? rest = none) :
    beforeBracket? (cs ++ rest) = none := by
  induction cs with
  | nil => exact hrest
  | cons c cs ih =>
      rw [h c List.mem_cons_self, List.cons_append, beforeBracket?_cons_eq_none_iff]
      exact .inr ⟨by decide, ih fun d hd => h d (List.mem_cons_of_mem c hd)⟩

end Tags

/-! ## Escaping -/

section Escape

variable {text tail cs : List Char} {c : Char}

theorem no_bracket_of_backslashes
    (h : ∀ d, d ∈ tail → d = '\\') :
    '[' ∉ tail :=
  fun hmem => absurd (h '[' hmem) (by decide)

/-- A bracket that is not closed stays so. -/
theorem beforeBracket?_escapedPieces
    (htail : ∀ d, d ∈ tail → d = '\\')
    (h : beforeBracket? text = none) :
    beforeBracket? (escapedPieces text ++ tail) = none := by
  induction text with
  | nil =>
      have hnil : beforeBracket? [] = none := rfl
      have hend := beforeBracket?_of_backslashes htail hnil
      rwa [List.append_nil] at hend
  | cons c cs ih =>
      rcases escapedPieces_cons c cs with heq | ⟨before, after, heq, hbefore⟩
      · rw [heq, List.cons_append, beforeBracket?_cons_eq_none_iff]
        exact (beforeBracket?_cons_eq_none_iff.1 h).imp_right fun hgo => ⟨hgo.1, ih hgo.2⟩
      · rw [heq]
        have hopen : beforeBracket? ('[' :: (after ++ tail)) = none := rfl
        have hall : ∀ d, d ∈ '\\' :: before → d = '\\' := List.forall_mem_cons.2 ⟨rfl, hbefore⟩
        have hnone := beforeBracket?_of_backslashes hall hopen
        simpa using hnone

/-- Escaping makes no tag where none was. -/
theorem tagAt?_escapedPieces
    (htail : ∀ d, d ∈ tail → d = '\\')
    (h : tagAt? text = none) :
    tagAt? (escapedPieces text ++ tail) = none := by
  induction text with
  | nil => exact tagAt?_of_no_bracket (no_bracket_of_backslashes htail)
  | cons c cs ih =>
      rw [escapedPieces_of_none h, List.cons_append]
      by_cases hbackslash : c = '\\'
      · subst hbackslash
        rw [tagAt?, Option.map_eq_none_iff] at h ⊢
        exact ih h
      · by_cases hbracket : c = '['
        · subst hbracket
          rw [tagAt?_bracket_eq_none_iff] at h ⊢
          intro d ds heq hstart
          cases cs with
          | nil =>
              have htail' : tail = d :: ds := heq
              rw [htail d (htail' ▸ List.mem_cons_self)] at hstart
              cases hstart
          | cons e es =>
              rcases escapedPieces_cons e es with hsame | ⟨before, after, htag, -⟩
              · rw [hsame, List.cons_append, List.cons.injEq] at heq
                obtain ⟨rfl, rfl⟩ := heq
                exact beforeBracket?_escapedPieces htail (h _ _ rfl hstart)
              · rw [htag, List.cons_append, List.cons.injEq] at heq
                rw [← heq.1] at hstart
                cases hstart
        · exact tagAt?_cons_of_plain hbackslash hbracket

/-- All tags of what a text is escaped to are escaped, whatever backslashes follow. -/
theorem tagsEscaped_escapedPieces
    (htail : ∀ d, d ∈ tail → d = '\\')
    (text : List Char) :
    TagsEscaped (escapedPieces text ++ tail) := by
  cases text with
  | nil => exact tagsEscaped_of_no_bracket (no_bracket_of_backslashes htail)
  | cons c cs =>
      cases h : tagAt? (c :: cs) with
      | none =>
          have hnone := tagAt?_escapedPieces htail h
          rw [escapedPieces_of_none h, List.cons_append] at hnone ⊢
          exact (tagsEscaped_escapedPieces htail cs).cons hnone
      | some tag =>
          rw [escapedPieces_of_tag h, List.append_assoc]
          refine .of_tag (tagAt?_replicate h _ _) ?_ ?_
          · show (2 * tag.escapes + 1) % 2 = 1
            omega
          · rw [List.drop_left']
            · exact tagsEscaped_escapedPieces htail ((c :: cs).drop tag.length)
            · simp only [Tag.length, Tag.bracketed, List.length_append, List.length_replicate,
                List.length_cons, List.length_nil]
              omega
termination_by text.length
decreasing_by
  · simp
  · simp only [List.length_drop, List.length_cons, Tag.length]
    omega

/-- Escaping ends with a backslash more, or it does not. -/
theorem exists_escape_eq
    (text : List Char) :
    ∃ tail, escape text = escapedPieces text ++ tail ∧ ∀ d, d ∈ tail → d = '\\' := by
  have hend (cs : List Char) : closeEnd cs = cs ∨ closeEnd cs = cs ++ ['\\'] := by
    unfold closeEnd
    split
    case h_1 => exact .inr rfl
    case h_2 => split <;> simp
    case h_3 => exact .inl rfl
  rcases hend (escapedPieces text) with h | h
  · exact ⟨[], h.trans (List.append_nil _).symm, nofun⟩
  · exact ⟨['\\'], h, fun d hd => List.mem_singleton.1 hd⟩

/-- A text without tags is not changed. -/
theorem escapedPieces_eq_self
    (h : ∀ rest, rest <:+ text → tagAt? rest = none) :
    escapedPieces text = text := by
  induction text with
  | nil => rfl
  | cons c cs ih =>
      rw [escapedPieces_of_none (h _ List.suffix_rfl),
        ih fun rest hrest => h rest (hrest.trans (List.suffix_cons c cs))]

theorem escapedPieces_of_no_bracket
    (h : '[' ∉ text) :
    escapedPieces text = text :=
  escapedPieces_eq_self fun _ hrest => tagAt?_of_no_bracket fun hmem => h (hrest.subset hmem)

theorem escapedPieces_of_no_close
    (h : ']' ∉ text) :
    escapedPieces text = text :=
  escapedPieces_eq_self fun _ hrest => tagAt?_of_no_close fun hmem => h (hrest.subset hmem)

/-- Escaping adds no brackets. -/
theorem no_bracket_escape
    (h : '[' ∉ text) :
    '[' ∉ escape text := by
  obtain ⟨tail, heq, htail⟩ := exists_escape_eq text
  rw [heq, escapedPieces_of_no_bracket h, List.mem_append, not_or]
  exact ⟨h, no_bracket_of_backslashes htail⟩

theorem tagsEscaped_escape
    (text : List Char) :
    TagsEscaped (escape text) := by
  obtain ⟨tail, heq, htail⟩ := exists_escape_eq text
  rw [heq]
  exact tagsEscaped_escapedPieces htail text

theorem getLast?_ne_of_cons
    {c d : Char}
    {cs : List Char}
    (h : (c :: cs).getLast? ≠ some d) :
    cs.getLast? ≠ some d := by
  cases cs with
  | nil => nofun
  | cons e es => rwa [List.getLast?_cons_cons] at h

theorem tagAt?_append
    {before : List Char}
    (rest : List Char)
    (hbracket : '[' ∉ before)
    (hend : before.getLast? ≠ some '\\')
    (hbefore : before ≠ []) :
    tagAt? (before ++ rest) = none := by
  induction before with
  | nil => exact absurd rfl hbefore
  | cons c cs ih =>
      have hc : c ≠ '[' := fun h => hbracket (h ▸ List.mem_cons_self)
      rw [List.cons_append]
      by_cases hbackslash : c = '\\'
      · subst hbackslash
        cases cs with
        | nil => exact absurd rfl hend
        | cons d ds =>
            rw [List.getLast?_cons_cons] at hend
            rw [tagAt?, ih (fun hmem => hbracket (List.mem_cons_of_mem _ hmem)) hend
              (List.cons_ne_nil d ds)]
            rfl
      · exact tagAt?_cons_of_plain hbackslash hc

/-- Words without brackets before a text make no tags, when no backslash ends them. -/
theorem TagsEscaped.append
    {before rest : List Char}
    (h : TagsEscaped rest)
    (hbracket : '[' ∉ before)
    (hend : before.getLast? ≠ some '\\') :
    TagsEscaped (before ++ rest) := by
  induction before with
  | nil => exact h
  | cons c cs ih =>
      have hnone := tagAt?_append rest hbracket hend (List.cons_ne_nil c cs)
      exact .cons (ih (fun hmem => hbracket (List.mem_cons_of_mem c hmem))
        (getLast?_ne_of_cons hend)) hnone

/-- The first tag of a text comes after the words before it. -/
theorem piecesFrom_append
    {before : List Char}
    {tag : Tag}
    (hbracket : '[' ∉ before)
    (hend : before.getLast? ≠ some '\\')
    (h : tagAt? text = some tag)
    (run : List Char) :
    ∃ run', piecesFrom 0 run (before ++ text) =
      plainPiece run' ++ .tag tag :: pieces (text.drop tag.length) := by
  induction before generalizing run with
  | nil =>
      cases text with
      | nil => cases h
      | cons c cs => exact ⟨run, piecesFrom_of_tag h⟩
  | cons c cs ih =>
      have hnone := tagAt?_append text hbracket hend (List.cons_ne_nil c cs)
      rw [List.cons_append] at hnone ⊢
      rw [piecesFrom_of_none hnone]
      exact ih (fun hmem => hbracket (List.mem_cons_of_mem c hmem)) (getLast?_ne_of_cons hend)
        (c :: run)

end Escape

/-! ## Showing -/

/-- Escaped tags are shown as they are written. -/
theorem exists_shown
    {ps : List Piece}
    (h : ∀ tag, .tag tag ∈ ps → tag.escapes % 2 = 1)
    (opened : List Opened) :
    ∃ cs, shown opened ps = .ok cs := by
  induction ps with
  | nil => exact ⟨[], rfl⟩
  | cons p ps ih =>
      obtain ⟨cs, hcs⟩ := ih fun tag htag => h tag (List.mem_cons_of_mem p htag)
      cases p with
      | plain text => exact ⟨_, congrArg (Except.map _) hcs⟩
      | tag t =>
          rw [shown, if_pos (h t List.mem_cons_self), hcs]
          exact ⟨_, rfl⟩

theorem styleTexts_eq_nil
    {ps : List Piece}
    (h : ∀ tag, .tag tag ∈ ps → tag.escapes % 2 = 1) :
    styleTexts ps = [] := by
  refine List.filterMap_eq_nil_iff.2 fun p hp => ?_
  cases p with
  | plain text => rfl
  | tag t => simp [h t hp]

/-- A text whose tags are all escaped is shown. -/
theorem TagsEscaped.exists_render
    {text : List Char}
    (h : TagsEscaped text) :
    ∃ cs, render text = .ok cs := by
  obtain ⟨cs, hcs⟩ := exists_shown h []
  rw [render]
  simp only [hcs, styleTexts_eq_nil h]
  exact ⟨_, rfl⟩

theorem openAfter_nil_of_closing
    (body : List Char) :
    ∃ e, openAfter [] ('/' :: body) = .error e := by
  rw [openAfter]
  split
  · exact ⟨_, rfl⟩
  · split <;> exact ⟨_, rfl⟩

/-- A closing tag that is the first of a text finds nothing to close. -/
theorem not_exists_render_of_closing
    {before text body : List Char}
    (hbracket : '[' ∉ before)
    (hend : before.getLast? ≠ some '\\')
    (h : tagAt? text = some ⟨0, '/' :: body⟩) :
    ¬ ∃ cs, render (before ++ text) = .ok cs := by
  obtain ⟨run, hpieces⟩ := piecesFrom_append hbracket hend h []
  obtain ⟨e, he⟩ := openAfter_nil_of_closing body
  have hshown : shown [] (pieces (before ++ text)) = .error e := by
    rw [pieces, hpieces, plainPiece]
    split <;> simp [shown, he, Except.map, Except.bind]
  rintro ⟨cs, hcs⟩
  simp only [render, hshown] at hcs
  cases hcs

end Markup
end Text
end ModuleSpec
