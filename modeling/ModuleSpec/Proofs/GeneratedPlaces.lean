import ModuleSpec.Pattern.Excluded
import ModuleSpec.Proofs.Pattern.Matching
import ModuleSpec.Proofs.Text.Pieces

/-!
# Where a build puts what it generates

The patterns for generated files are held against the text of a path, and what they are
about are its components: a few directories, one beneath the other, and something below
them.  They can stand at any depth.

**Idea.**  Each pattern becomes an expression that reads directories of any number, then
the components of a place with a slash after each.  The slashes that it reads are those
between components, since no component holds one.

**Results.**  `isGenerated_iff_liesIn`.
-/

namespace ModuleSpec

/-- The directories in which a build puts what it generates, from the outermost on. -/
def generatedPlaces : List (List String) :=
  [
    ["generated", "source", "codegen"],
    ["build", "generated", "assets", "react"],
    ["build", "generated", "res", "react"],
    ["build", "generated", "sourcemaps", "react"],
    ["build", "intermediates", "sourcemaps", "react"]
  ]

namespace Path

/-- The components are such as a path has when it is read. -/
def IsNormal (path : Path) : Prop :=
  ∀ part, part ∈ path.parts → part ≠ "" ∧ part ≠ "." ∧ '/' ∉ part.toList

/-- The directories stand in the path, one beneath the other, and something below them. -/
def LiesIn (path : Path) (place : List String) : Prop :=
  ∃ above below, path.parts = above ++ place ++ below ∧ below ≠ []

/-- What lies below a path. -/
def down (path : Path) (below : List String) : Path :=
  { path with parts := path.parts ++ below }

theorem isNormal_ofString
    (text : String) :
    (ofString text).IsNormal := by
  intro part hpart
  obtain ⟨piece, hpiece, rfl⟩ := List.mem_map.1 hpart
  obtain ⟨hmem, hkept⟩ := List.mem_filter.1 hpiece
  rw [isPart, Bool.and_eq_true, Bool.not_eq_true', List.isEmpty_eq_false_iff, bne_iff_ne] at hkept
  refine ⟨?_, ?_, ?_⟩
  · exact fun h => hkept.1 (String.ofList_inj.1 h)
  · exact fun h => hkept.2 (String.ofList_inj.1 h)
  · rw [String.toList_ofList]
    exact Text.not_mem_of_mem_split hmem

end Path

namespace Pattern

/-! ## The expressions -/

/-- The expression of what lies in a place at any depth. -/
def insideOf (place : List String) : Regex :=
  .sequence (.atStart :: directoriesAbove ::
    place.flatMap fun part => [.sequence (part.toList.map .char), .char '/'])

theorem generatedRules_eq :
    generatedRules = generatedPlaces.map fun place => ⟨false, insideOf place⟩ := by
  decide +kernel

theorem isGenerated_eq
    (path : Path) :
    path.isGenerated =
      decides (generatedPlaces.map fun place => ⟨false, insideOf place⟩) (ruleText path) := by
  rw [Path.isGenerated, generatedRules_eq]

/-- Where no rule takes paths back, one that matches is enough. -/
theorem decides_iff_of_not_negated
    {rules : List IgnoreRule}
    (h : ∀ rule, rule ∈ rules → rule.negated = false)
    (text : List Char) :
    decides rules text = true ↔ ∃ rule, rule ∈ rules ∧ rule.regex.occursIn text = true := by
  rw [decides]
  cases hfound : rules.reverse.find? fun rule => rule.regex.occursIn text with
  | none =>
      refine ⟨nofun, ?_⟩
      rintro ⟨rule, hrule, hoccurs⟩
      exact absurd hoccurs (List.find?_eq_none.1 hfound rule (List.mem_reverse.2 hrule))
  | some rule =>
      have hrule := List.mem_reverse.1 (List.mem_of_find?_eq_some hfound)
      have hoccurs := List.find?_some hfound
      simp only [h rule hrule, Bool.not_false, true_iff]
      exact ⟨rule, hrule, hoccurs⟩

theorem isGenerated_iff_occursIn
    (path : Path) :
    path.isGenerated = true ↔
      ∃ place, place ∈ generatedPlaces ∧ (insideOf place).occursIn (ruleText path) = true := by
  rw [isGenerated_eq, decides_iff_of_not_negated]
  · constructor
    · rintro ⟨_, hrule, hoccurs⟩
      obtain ⟨place, hplace, rfl⟩ := List.mem_map.1 hrule
      exact ⟨place, hplace, hoccurs⟩
    · rintro ⟨place, hplace, hoccurs⟩
      exact ⟨_, List.mem_map_of_mem hplace, hoccurs⟩
  · rw [List.forall_mem_map]
    exact fun _ _ => rfl

theorem mem_ends_place
    {place : List String}
    {c d : Cursor} :
    d ∈ (Regex.sequence (place.flatMap fun part =>
        [.sequence (part.toList.map .char), .char '/'])).ends c ↔ c.Reads (Path.placeText place) d := by
  induction place generalizing c with
  | nil => exact Regex.mem_ends_empty.trans Cursor.reads_nil_iff.symm
  | cons part place ih =>
      have hreads : c.Reads (Path.placeText (part :: place)) d ↔
          ∃ e, c.Reads part.toList e ∧ ∃ e', e.Reads ['/'] e' ∧ e'.Reads (Path.placeText place) d := by
        rw [Path.placeText, List.flatMap_cons, List.append_assoc, Cursor.reads_append_iff]
        exact exists_congr fun e => and_congr_right fun _ => Cursor.reads_append_iff
      rw [hreads, List.flatMap_cons]
      simp only [List.cons_append, List.nil_append, Regex.mem_ends_sequence_cons,
        Regex.mem_ends_word, Regex.mem_ends_char, ih]

/-- Directories of any number are read with the slash after the last one. -/
theorem mem_ends_directoriesAbove
    {c d : Cursor} :
    d ∈ directoriesAbove.ends c ↔
      d = c ∨ ∃ way, way ≠ [] ∧ '\n' ∉ way ∧ c.Reads (way ++ ['/']) d := by
  have hline : ∀ way : List Char,
      (∀ x, x ∈ way → (CharSet.not '\n').contains x = true) ↔ '\n' ∉ way := by
    intro way
    simp only [CharSet.contains_not_iff]
    exact ⟨fun h hmem => h '\n' hmem rfl, fun h x hx heq => h (heq ▸ hx)⟩
  rw [directoriesAbove, Regex.mem_ends_option, or_comm]
  refine or_congr_right ?_
  simp only [Regex.mem_ends_seq, Regex.any, Regex.mem_ends_plus, Regex.mem_ends_char, hline,
    Cursor.reads_append_iff]
  constructor
  · rintro ⟨e, ⟨way, hne, hway, hreads⟩, hslash⟩
    exact ⟨way, hne, hway, e, hreads, hslash⟩
  · rintro ⟨way, hne, hway, e, hreads, hslash⟩
    exact ⟨e, ⟨way, hne, hway, hreads⟩, hslash⟩

/-- A place is found at the beginning of a text, or after directories without a line break. -/
theorem occursIn_insideOf_iff
    {place : List String}
    {text : List Char} :
    (insideOf place).occursIn text = true ↔
      ∃ rest, text = Path.placeText place ++ rest ∨
        ∃ way, way ≠ [] ∧ '\n' ∉ way ∧ text = way ++ '/' :: (Path.placeText place ++ rest) := by
  rw [insideOf, Regex.occursIn_atStart]
  simp only [Regex.mem_ends_sequence_cons, mem_ends_directoriesAbove, mem_ends_place]
  constructor
  · rintro ⟨d, e, rfl | ⟨way, hne, hway, hreads⟩, hplace⟩
    · exact ⟨d.rest, .inl hplace.1⟩
    · refine ⟨d.rest, .inr ⟨way, hne, hway, ?_⟩⟩
      have htext : text = way ++ ['/'] ++ e.rest := hreads.1
      rw [htext, hplace.1, List.append_assoc, List.singleton_append]
  · rintro ⟨rest, rfl | ⟨way, hne, hway, rfl⟩⟩
    · obtain ⟨d, hd⟩ := Cursor.exists_reads_iff (c := ⟨true, Path.placeText place ++ rest⟩).2
        (List.prefix_append _ rest)
      exact ⟨d, _, .inl rfl, hd⟩
    · obtain ⟨d, hd⟩ := Cursor.exists_reads_iff
        (c := ⟨true, way ++ '/' :: (Path.placeText place ++ rest)⟩).2
        (show way ++ ['/'] ++ Path.placeText place <+: _ by simp)
      obtain ⟨e, he, hplace⟩ := Cursor.reads_append_iff.1 hd
      exact ⟨d, e, .inr ⟨way, hne, hway, he⟩, hplace⟩

/-! ## The components -/

section Components

variable {place : List String}

/-- The places have components, and these are such as a path has. -/
theorem place_components :
    ∀ place, place ∈ generatedPlaces →
      place ≠ [] ∧ ∀ part, part ∈ place → part ≠ "" ∧ '/' ∉ part.toList := by
  decide

theorem split_placeText
    (h : ∀ part, part ∈ place → '/' ∉ part.toList)
    (rest : List Char) :
    Text.split '/' (Path.placeText place ++ rest) =
      place.map String.toList ++ Text.split '/' rest := by
  induction place with
  | nil => rfl
  | cons part place ih =>
      obtain ⟨hpart, hplace⟩ := List.forall_mem_cons.1 h
      rw [Path.placeText, List.flatMap_cons, List.append_assoc, List.append_assoc, List.singleton_append,
        Text.split_append, Text.split_of_not_mem hpart, ← Path.placeText, ih hplace]
      rfl

/-- The pieces of a text are the components that it is joined from. -/
theorem liesIn_of_split
    {path : Path}
    {before after : List (List Char)}
    (hsplit : path.parts.map String.toList = before ++ place.map String.toList ++ after)
    (hafter : after ≠ []) :
    path.LiesIn place := by
  have hback : ∀ parts : List String, (parts.map String.toList).map String.ofList = parts := by
    intro parts
    rw [List.map_map]
    exact (List.map_congr_left fun part _ => String.ofList_toList).trans (List.map_id parts)
  refine ⟨before.map String.ofList, after.map String.ofList, ?_, by simpa using hafter⟩
  have hparts := congrArg (List.map String.ofList) hsplit
  rwa [hback, List.map_append, List.map_append, hback] at hparts

end Components

end Pattern

namespace Path

/-- The text that rules are held against is that of the path: it begins with no slash. -/
theorem ruleText_relative
    {part : String}
    {parts : List String}
    (hne : part ≠ "")
    (hslash : '/' ∉ part.toList) :
    Pattern.ruleText (relative (part :: parts)) =
      Text.joinWith '/' ((part :: parts).map String.toList) := by
  have hchars := chars_relative (List.cons_ne_nil part parts)
  rw [Pattern.ruleText, hchars]
  cases hpart : part.toList with
  | nil => exact absurd (String.toList_eq_nil_iff.1 hpart) hne
  | cons c cs =>
      have hc : c ≠ '/' := by
        rintro rfl
        exact hslash (hpart ▸ List.mem_cons_self)
      cases parts with
      | nil => simp [Text.joinWith, hpart, hc]
      | cons next rest => simp [Text.joinWith, hpart, hc]

/-- What lies in a place was generated, whatever the components below it are. -/
theorem isGenerated_of_place
    {above place below : List String}
    (habove : ∀ part, part ∈ above → part ≠ "" ∧ '/' ∉ part.toList ∧ '\n' ∉ part.toList)
    (hplace : place ∈ generatedPlaces)
    (hbelow : below ≠ []) :
    (relative (above ++ place ++ below)).isGenerated = true := by
  obtain ⟨hplaceNe, hparts⟩ := Pattern.place_components place hplace
  refine (Pattern.isGenerated_iff_occursIn _).2 ⟨place, hplace, Pattern.occursIn_insideOf_iff.2
    ⟨Text.joinWith '/' (below.map String.toList), ?_⟩⟩
  rw [← joinWith_place hbelow]
  cases above with
  | nil =>
      obtain ⟨part, rest, rfl⟩ := List.exists_cons_of_ne_nil hplaceNe
      obtain ⟨hne, hslash⟩ := hparts part List.mem_cons_self
      exact .inl (ruleText_relative hne hslash)
  | cons part rest =>
      obtain ⟨hne, hslash, -⟩ := habove part List.mem_cons_self
      refine .inr ⟨Text.joinWith '/' ((part :: rest).map String.toList), ?_, ?_, ?_⟩
      · intro hnil
        cases rest with
        | nil => exact hne (String.toList_eq_nil_iff.1 hnil)
        | cons next rest => simp [Text.joinWith] at hnil
      · intro hline
        obtain ⟨piece, hpiece, hmem⟩ := Text.exists_of_mem_joinWith hline (by decide)
        obtain ⟨component, hcomponent, rfl⟩ := List.mem_map.1 hpiece
        exact (habove component hcomponent).2.2 hmem
      · have htext : Pattern.ruleText (relative (part :: (rest ++ (place ++ below)))) = _ :=
          ruleText_relative hne hslash
        rw [← List.cons_append, List.map_append] at htext
        rw [List.append_assoc, htext]
        exact Text.joinWith_append (by simp) (by simp [hbelow])

/-- The expression of a place reads whole components. -/
theorem liesIn_of_occursIn
    {path : Path}
    (hrelative : path.slashes = 0)
    (hnormal : path.IsNormal)
    (hne : path.parts ≠ [])
    {place : List String}
    (hplace : place ∈ generatedPlaces)
    (h : (Pattern.insideOf place).occursIn (Pattern.ruleText path) = true) :
    path.LiesIn place := by
  obtain ⟨slashes, parts⟩ := path
  obtain rfl : slashes = 0 := hrelative
  obtain ⟨part, rest, rfl⟩ := List.exists_cons_of_ne_nil hne
  obtain ⟨hpart, -, hslash⟩ := hnormal part List.mem_cons_self
  have htext : Pattern.ruleText ⟨0, part :: rest⟩ =
      Text.joinWith '/' ((part :: rest).map String.toList) := ruleText_relative hpart hslash
  have hsplit : Text.split '/' (Pattern.ruleText ⟨0, part :: rest⟩) =
      (part :: rest).map String.toList := by
    rw [htext]
    refine Text.split_joinWith (by simp) (List.forall_mem_map.2 fun component hcomponent => ?_)
    exact (hnormal component hcomponent).2.2
  have hcomponents := Pattern.split_placeText fun component hcomponent =>
    ((Pattern.place_components place hplace).2 component hcomponent).2
  obtain ⟨below, hbegins | ⟨way, -, -, hfollows⟩⟩ := Pattern.occursIn_insideOf_iff.1 h
  · have hparts : (part :: rest).map String.toList =
        [] ++ place.map String.toList ++ Text.split '/' below := by
      rw [← hsplit, hbegins, hcomponents, List.nil_append]
    exact Pattern.liesIn_of_split hparts (Text.split_ne_nil '/' below)
  · have hparts : (part :: rest).map String.toList =
        Text.split '/' way ++ place.map String.toList ++ Text.split '/' below := by
      rw [← hsplit, hfollows, Text.split_append, hcomponents, List.append_assoc]
    exact Pattern.liesIn_of_split hparts (Text.split_ne_nil '/' below)

/--
A path was generated when one of the places stands in it and something lies below that.
Everything below such a path was generated too, and no ignore file brings it back.
-/
theorem isGenerated_iff_liesIn
    {path : Path}
    (hrelative : path.slashes = 0)
    (hnormal : path.IsNormal)
    (hlines : ∀ part, part ∈ path.parts → '\n' ∉ part.toList) :
    (path.isGenerated = true ↔ ∃ place, place ∈ generatedPlaces ∧ path.LiesIn place) ∧
      (path.isGenerated = true → ∀ below lines,
        (path.down below).isGenerated = true ∧ (path.down below).isIgnored lines = .ok true) := by
  have hsound : path.isGenerated = true → ∃ place, place ∈ generatedPlaces ∧ path.LiesIn place := by
    intro h
    have hne : path.parts ≠ [] := by
      obtain ⟨slashes, parts⟩ := path
      obtain rfl : slashes = 0 := hrelative
      rintro rfl
      have hempty : (Path.mk 0 []).isGenerated = false := by
        rw [Pattern.isGenerated_eq]
        decide
      rw [hempty] at h
      cases h
    obtain ⟨place, hplace, hoccurs⟩ := (Pattern.isGenerated_iff_occursIn path).1 h
    exact ⟨place, hplace, liesIn_of_occursIn hrelative hnormal hne hplace hoccurs⟩
  -- Only the components above the place are read one by one, so anything can be put below it.
  have hbelow : (∃ place, place ∈ generatedPlaces ∧ path.LiesIn place) →
      ∀ more, (path.down more).isGenerated = true := by
    rintro ⟨place, hplace, above, below, hparts, hne⟩ more
    have hdown : path.down more = .relative (above ++ place ++ (below ++ more)) := by
      rw [down, hparts, hrelative, List.append_assoc (above ++ place)]
      rfl
    rw [hdown]
    refine isGenerated_of_place ?_ hplace (List.append_ne_nil_of_left_ne_nil hne more)
    intro part hpart
    have hmem : part ∈ path.parts := by
      rw [hparts, List.append_assoc]
      exact List.mem_append_left _ hpart
    exact ⟨(hnormal part hmem).1, (hnormal part hmem).2.2, hlines part hmem⟩
  have hself : path.down [] = path := by
    rw [down, List.append_nil]
  refine ⟨⟨hsound, fun h => hself ▸ hbelow h []⟩, fun h below lines => ?_⟩
  have hgenerated := hbelow (hsound h) below
  refine ⟨hgenerated, ?_⟩
  rw [isIgnored, isNeverScanned, hgenerated, Bool.or_true, if_pos rfl]

theorem codegenFile_generated :
    ∃ path, path = ofString "app/build//generated/source/codegen/./NativeFoo.ts" ∧
      path.slashes = 0 ∧ path.IsNormal ∧ (∀ part, part ∈ path.parts → '\n' ∉ part.toList) ∧
      path.isGenerated = true ∧ path.isIgnored ["!*"] = .ok true := by
  let path := ofString "app/build//generated/source/codegen/./NativeFoo.ts"
  have hrelative : path.slashes = 0 := by decide
  have hlines : ∀ part, part ∈ path.parts → '\n' ∉ part.toList := by decide
  have hlies : path.LiesIn ["generated", "source", "codegen"] :=
    ⟨["app", "build"], ["NativeFoo.ts"], by decide, by decide⟩
  obtain ⟨hiff, hbelow⟩ := isGenerated_iff_liesIn hrelative (isNormal_ofString _) hlines
  have hgenerated := hiff.2 ⟨_, by decide, hlies⟩
  exact ⟨path, rfl, hrelative, isNormal_ofString _, hlines, hgenerated,
    (hbelow hgenerated [] ["!*"]).2⟩

end Path
end ModuleSpec
