import ModuleSpec.Proofs.Numeral.Decimal

/-!
# Digits as they are written

A row of digits is written in one of four bases, with letters of either case among them
and with underscores between them.

**Idea.**  What is read of a numeral is what it is without its underscores, and without
one n at its end.  Its characters are then plain: none is dropped or trimmed away, and the
first one begins neither a sign nor a word.  So only the rule for the numeral itself is
left.

**Results.**  `digitsOf_append`: a row of digits is found in full.  `read_of_plain`: what
is written plainly is read as a decimal numeral, or else as one with a mark.
-/

namespace ModuleSpec

namespace Text

/-- A text without anything to trim stays as it is. -/
theorem trimBy_eq_self
    {test : Char → Bool}
    {text : List Char}
    (h : ∀ c ∈ text, test c = false) :
    trimBy test text = text := by
  have hdrop {cs : List Char} (hcs : ∀ c ∈ cs, test c = false) : cs.dropWhile test = cs := by
    cases cs with
    | nil => rfl
    | cons c cs => rw [List.dropWhile_cons, hcs c List.mem_cons_self, if_neg Bool.false_ne_true]
  rw [trimBy, trimEndBy, hdrop h, hdrop fun c hc => h c (List.mem_reverse.1 hc),
    List.reverse_reverse]

end Text

namespace Numeral

/-! ## Digits -/

inductive Base
  | binary
  | octal
  | decimal
  | hexadecimal
  deriving DecidableEq, Repr

def Base.size : Base → Nat
  | .binary => 2
  | .octal => 8
  | .decimal => 10
  | .hexadecimal => 16

theorem Base.one_lt_size (base : Base) : 1 < base.size := by
  cases base <;> decide

/-- The mark in front of the digits, with a small or a capital letter. -/
def Base.mark (capital : Bool) : Base → List Char
  | .binary => ['0', if capital then 'B' else 'b']
  | .octal => ['0', if capital then 'O' else 'o']
  | .decimal => []
  | .hexadecimal => ['0', if capital then 'X' else 'x']

/-- A digit as it is written; a letter can be a capital. -/
structure Digit (base : Base) where
  value : Fin base.size
  capital : Bool

/-- A row of digits, each later one with the number of underscores in front of it. -/
structure Digits (base : Base) where
  first : Digit base
  later : List (Nat × Digit base)

/-- A character that stands in a literal without having been dropped or trimmed. -/
def IsPlain (c : Char) : Prop :=
  c ≠ '_' ∧ c ≠ 'n' ∧ isPadding c = false

/-- A character that begins neither a sign nor a word. -/
def IsLeading (c : Char) : Prop :=
  c ≠ '+' ∧ c ≠ '-' ∧ c.toLower ≠ 'i' ∧ c.toLower ≠ 'n'

instance (c : Char) : Decidable (IsPlain c) :=
  inferInstanceAs (Decidable (_ ∧ _ ∧ _))

instance (c : Char) : Decidable (IsLeading c) :=
  inferInstanceAs (Decidable (_ ∧ _ ∧ _ ∧ _))

/-- Without its underscores a text is the given one, and that is plain. -/
structure WrittenAs (text body : List Char) : Prop where
  filter : text.filter (· != '_') = body
  plain : ∀ c ∈ body, IsPlain c

namespace WrittenAs

variable {text text' body body' : List Char}

theorem append
    (h : WrittenAs text body)
    (h' : WrittenAs text' body') :
    WrittenAs (text ++ text') (body ++ body') where
  filter := by rw [List.filter_append, h.filter, h'.filter]
  plain c hc := (List.mem_append.1 hc).elim (h.plain c) (h'.plain c)

/-- What is plain itself has no underscores. -/
theorem of_plain
    (h : ∀ c ∈ text, IsPlain c) :
    WrittenAs text text where
  filter := List.filter_eq_self.2 fun c hc => bne_iff_ne.2 (h c hc).1
  plain := h

/-- The characters of a given text can be tested one by one. -/
theorem of_all
    (h : (text.all fun c => decide (IsPlain c)) = true) :
    WrittenAs text text :=
  of_plain fun c hc => of_decide_eq_true (List.all_eq_true.1 h c hc)

end WrittenAs

section Digits

variable {base : Base}

namespace Digit

def char (d : Digit base) : Char :=
  if d.capital then d.value.val.digitChar.toUpper else d.value.val.digitChar

theorem digitIn?_char (d : Digit base) : Text.digitIn? base.size d.char = some d.value.val := by
  obtain ⟨value, capital⟩ := d
  cases base <;> revert value capital <;> decide

theorem isPlain_char (d : Digit base) : IsPlain d.char := by
  obtain ⟨value, capital⟩ := d
  cases base <;> revert value capital <;> decide

theorem isLeading_char (d : Digit .decimal) : IsLeading d.char := by
  obtain ⟨value, capital⟩ := d
  revert value capital
  decide

end Digit

/-- The values of some digits. -/
def valuesOf (ds : List (Digit base)) : List Nat :=
  ds.map fun d => d.value.val

/-- Digits at the front of a text are found, up to what is no digit. -/
theorem digitsOf_append
    (ds : List (Digit base))
    {rest : List Char}
    (h : ∀ c ∈ rest.head?, Text.digitIn? base.size c = none) :
    digitsOf base.size (ds.map Digit.char ++ rest) = (valuesOf ds, rest) := by
  induction ds with
  | nil =>
      cases rest with
      | nil => rfl
      | cons c cs => simp [digitsOf, valuesOf, h c rfl]
  | cons d ds ih =>
      rw [List.map_cons, List.cons_append, digitsOf, d.digitIn?_char]
      simp only [ih]
      rfl

theorem digitsOf_map (ds : List (Digit base)) :
    digitsOf base.size (ds.map Digit.char) = (valuesOf ds, []) := by
  have h := digitsOf_append ds (show ∀ c ∈ [].head?, Text.digitIn? base.size c = none from nofun)
  rwa [List.append_nil] at h

namespace Digits

/-- The digits in order. -/
def all (ds : Digits base) : List (Digit base) :=
  ds.first :: ds.later.map Prod.snd

def value (ds : Digits base) : Nat :=
  Text.ofDigits base.size (valuesOf ds.all)

/-- The digits as they are written, with the underscores between them. -/
def text (ds : Digits base) : List Char :=
  ds.first.char :: ds.later.flatMap fun (n, d) => List.replicate n '_' ++ [d.char]

/-- Later digits are written with underscores in front of them. -/
theorem writtenAs_later (later : List (Nat × Digit base)) :
    WrittenAs (later.flatMap fun (n, d) => List.replicate n '_' ++ [d.char])
      ((later.map Prod.snd).map Digit.char) := by
  induction later with
  | nil => exact ⟨rfl, nofun⟩
  | cons p later ih =>
      have hchar : WrittenAs [p.2.char] [p.2.char] :=
        .of_plain fun c hc => List.mem_singleton.1 hc ▸ p.2.isPlain_char
      have hunderscores : WrittenAs (List.replicate p.1 '_') [] :=
        ⟨List.filter_replicate_of_neg (by decide), nofun⟩
      rw [List.flatMap_cons, List.map_cons, List.map_cons]
      exact (hunderscores.append hchar).append ih

theorem writtenAs (ds : Digits base) : WrittenAs ds.text (ds.all.map Digit.char) := by
  have hfirst : WrittenAs [ds.first.char] [ds.first.char] :=
    .of_plain fun c hc => List.mem_singleton.1 hc ▸ ds.first.isPlain_char
  exact hfirst.append (writtenAs_later ds.later)

end Digits

end Digits

/-! ## Reading what is written plainly -/

theorem withSign_false (x : Double) : withSign false x = x := by
  rw [withSign, if_neg Bool.false_ne_true]

theorem ofNat_zero : Double.ofNat 0 = Double.zero :=
  (Double.isNearest_ofNat 0).unique (Double.isNearest_zero (by norm_num) (by norm_num))

section Plain

variable {text : List Char}

/-- One n at the end is dropped, and the underscores are. -/
theorem dropSuffix_filter
    {body : List Char}
    (h : WrittenAs text body)
    (suffix : Bool) :
    dropSuffix ((text ++ if suffix then ['n'] else []).filter (· != '_')) = body := by
  rw [List.filter_append, h.filter]
  cases suffix with
  | true => simp [dropSuffix]
  | false =>
      have hlast : body.getLast? ≠ some 'n' := fun hn =>
        (h.plain 'n' (List.mem_of_getLast? hn)).2.1 rfl
      rw [if_neg Bool.false_ne_true, List.filter_nil, List.append_nil, dropSuffix]
      split
      case h_1 hn => exact absurd hn hlast
      case h_2 => rfl

theorem special?_cons
    {c : Char} {cs : List Char}
    (h : IsLeading c) :
    special? (c :: cs) = none := by
  have hword (word : String) (hfirst : word.toList.head? ≠ some c.toLower) :
      lowered (c :: cs) ≠ word := by
    rintro rfl
    exact hfirst (by rw [lowered, String.toList_ofList]; rfl)
  have hinf : lowered (c :: cs) ≠ "inf" := hword _ (by simpa using Ne.symm h.2.2.1)
  have hinfinity : lowered (c :: cs) ≠ "infinity" := hword _ (by simpa using Ne.symm h.2.2.1)
  have hnan : lowered (c :: cs) ≠ "nan" := hword _ (by simpa using Ne.symm h.2.2.2)
  simp [special?, hinf, hinfinity, hnan]

theorem signOf_cons
    {c : Char} {cs : List Char}
    (h : IsLeading c) :
    signOf (c :: cs) = (false, c :: cs) := by
  unfold signOf
  split
  case h_1 heq => exact absurd (List.head_eq_of_cons_eq heq) h.2.1
  case h_2 heq => exact absurd (List.head_eq_of_cons_eq heq) h.1
  case h_3 => rfl

/-- What begins plainly is read as a decimal numeral without a sign. -/
theorem readDecimal?_of_plain
    (hplain : ∀ c ∈ text, IsPlain c)
    (hlead : ∃ c ∈ text.head?, IsLeading c) :
    readDecimal? text = (decimal? text).map Decimal.toDouble := by
  obtain ⟨c, hc, hlead⟩ := hlead
  obtain ⟨cs, rfl⟩ := List.head?_eq_some_iff.1 hc
  rw [readDecimal?, Text.trimBy_eq_self fun x hx => (hplain x hx).2.2, signOf_cons hlead]
  simp only [special?_cons hlead, withSign_false]

/-- What begins plainly is read as a marked numeral without a sign. -/
theorem readMarked_of_plain
    (hplain : ∀ c ∈ text, IsPlain c)
    (hlead : ∃ c ∈ text.head?, IsLeading c)
    {n : Nat}
    (h : marked? text = some n) :
    readMarked text
      = if (Double.ofNat n).isFinite then .ok (Double.ofNat n) else .error .tooLarge := by
  obtain ⟨c, hc, hlead⟩ := hlead
  obtain ⟨cs, rfl⟩ := List.head?_eq_some_iff.1 hc
  rw [readMarked, Text.trimBy_eq_self fun x hx => (hplain x hx).2.2, signOf_cons hlead]
  have hvalue : (if n = 0 then Except.ok Double.zero else .ok (Double.ofNat n))
      = (.ok (Double.ofNat n) : Except Error Double) := by
    split
    case isTrue hzero => rw [hzero, ofNat_zero]
    case isFalse => rfl
  simp only [h, withSign_false, hvalue, Double.isInfinite_eq (Double.isNearest_ofNat n).number]
  cases (Double.ofNat n).isFinite <;> rfl

end Plain

/-- What a literal is read as once its underscores and its n are dropped. -/
theorem read_of_plain
    (suffix : Bool)
    {text body : List Char}
    (h : WrittenAs text body)
    (hlead : ∃ c ∈ body.head?, IsLeading c) :
    read (text ++ if suffix then ['n'] else [])
      = match decimal? body with
        | some d => .ok d.toDouble
        | none => readMarked body := by
  simp only [read, dropSuffix_filter h, readDecimal?_of_plain h.plain hlead]
  cases decimal? body <;> rfl

end Numeral
end ModuleSpec
