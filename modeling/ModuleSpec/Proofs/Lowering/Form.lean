import Mathlib.Tactic.SplitIfs
import ModuleSpec.Proofs.Lowering.Element
import ModuleSpec.Proofs.Lowering.Peel

/-!
# Forms of annotations

The same annotation can be spelled in several ways.  Its form is what lowering looks
at: whether it is nullable, and what is left when it has been peeled.  An array has
one form however it is written, a union of several types shows only which sorts of
member it has, and nothing shows where it stands in a file.

**Idea.**  The form is computed down to the leaves, so that annotations with one form
need only be compared at the top: what they peel to shows the same core, and the
annotations beneath have one form again.

**Results.**  A form is that of the peeled annotation (`Ty.form_peel`), which shows its
core (`Ty.shows_core`).  In environments whose declarations have the same forms,
annotations of one form resolve to types that show one core, with the same flag and
the same last name (`resolve_alike`).
-/

namespace ModuleSpec

/-! ## Forms -/

mutual

/-- What lowering looks at in an annotation. -/
structure Form where
  nullable : Bool
  core : Core

/-- What is left of an annotation that has been peeled. -/
inductive Core
  | keyword
      (word : String)
  | reference
      (name : String)
      (arity : Nat)
  | array
      (element : Form)
  | operator
  | union
      (kinds : MemberKind → Bool)
  | object
      (members : List MemberForm)
  | function
      (params : List ParamForm)
      (result : Option Form)
  | other

/-- What lowering looks at in a member; of what is no typed property, nothing. -/
inductive MemberForm
  | property
      (name : String)
      (type : Form)
      (optional : Bool)
  | other

/-- What lowering looks at in a parameter. -/
structure ParamForm where
  name : String
  type : Option Form
  optional : Bool

end

namespace Ty

/-- The word of a keyword; the two for an absent value are one. -/
def plainWord (word : String) : String :=
  if word = "undefined" then "null" else word

/-- Which sorts of member there are. -/
def kinds (members : List Ty) : MemberKind → Bool :=
  fun kind => members.any fun m => m.memberKind == kind

end Ty

mutual

/-- The form of an annotation. -/
def Ty.form : Ty → Form
  | .keyword word _ => ⟨false, .keyword (Ty.plainWord word)⟩
  | .reference name (some [inner]) _ =>
      if name = "Readonly" then
        inner.form
      else if name = "Array" ∨ name = "ReadonlyArray" then
        ⟨false, .array inner.form⟩
      else
        ⟨false, .reference name 1⟩
  | .reference name typeArgs _ => ⟨false, .reference name (typeArgs.getD []).length⟩
  | .array element _ => ⟨false, .array element.form⟩
  | .operator word (.array element _) _ =>
      ⟨false, if word = "readonly" then .array element.form else .operator⟩
  | .operator .. => ⟨false, .operator⟩
  | .union members _ =>
      if members.any Ty.isNull then
        match members.filter fun m => !m.isNull with
        | [] => ⟨true, .keyword "null"⟩
        | [_] => ⟨true, (Ty.formPresent members).core⟩
        | rest => ⟨true, .union (Ty.kinds rest)⟩
      else
        ⟨false, .union (Ty.kinds members)⟩
  | .object members _ => ⟨false, .object (Member.formAll members)⟩
  | .function params result _ => ⟨false, .function (Param.formAll params) (Ty.formOption result)⟩
  | .literal .. => ⟨false, .other⟩
  | .other .. => ⟨false, .other⟩

/-- The form of the first type of a list that stands for a value. -/
def Ty.formPresent : List Ty → Form
  | [] => ⟨false, .other⟩
  | t :: ts => if t.isNull then Ty.formPresent ts else t.form

def Ty.formOption : Option Ty → Option Form
  | none => none
  | some t => some t.form

def Param.form : Param → ParamForm
  | ⟨name, type, optional, _⟩ => ⟨name, Ty.formOption type, optional⟩

def Param.formAll : List Param → List ParamForm
  | [] => []
  | p :: ps => p.form :: Param.formAll ps

def Member.form : Member → MemberForm
  | .property name (some type) optional _ => .property name type.form optional
  | _ => .other

def Member.formAll : List Member → List MemberForm
  | [] => []
  | m :: ms => m.form :: Member.formAll ms

end

/-! ## Forms of lists -/

theorem Ty.formOption_eq_map
    (t : Option Ty) :
    Ty.formOption t = t.map Ty.form := by
  cases t <;> rfl

theorem Param.formAll_eq_map
    (ps : List Param) :
    Param.formAll ps = ps.map Param.form := by
  induction ps with
  | nil => rfl
  | cons p ps ih => exact congrArg (p.form :: ·) ih

theorem Member.formAll_eq_map
    (ms : List Member) :
    Member.formAll ms = ms.map Member.form := by
  induction ms with
  | nil => rfl
  | cons m ms ih => exact congrArg (m.form :: ·) ih

namespace Ty

theorem form_object
    (members : List Member)
    (span : Span) :
    (object members span).form = ⟨false, .object (members.map Member.form)⟩ := by
  rw [← Member.formAll_eq_map]
  rfl

theorem form_function
    (params : List Param)
    (result : Option Ty)
    (span : Span) :
    (function params result span).form =
      ⟨false, .function (params.map Param.form) (result.map form)⟩ := by
  rw [← Param.formAll_eq_map, ← formOption_eq_map]
  rfl

/-- An array has one form, however it is written. -/
theorem form_around
    (l : ArrayLayer)
    (t : Ty) :
    (l.around t).form = ⟨false, .array t.form⟩ := by
  cases l <;> simp [ArrayLayer.around, form]

/-! ## Forms of unions -/

theorem form_of_isNull
    {t : Ty}
    (h : t.isNull = true) :
    t.form = ⟨false, .keyword "null"⟩ := by
  cases t with
  | keyword word span =>
      simp only [isNull, Bool.or_eq_true, beq_iff_eq] at h
      rcases h with rfl | rfl <;> rfl
  | _ => cases h

theorem formPresent_of_filter
    {ts : List Ty}
    {m : Ty}
    (h : ts.filter (fun m => !m.isNull) = [m]) :
    formPresent ts = m.form := by
  induction ts with
  | nil => cases h
  | cons t ts ih =>
      rw [formPresent]
      by_cases hnull : t.isNull = true
      · rw [List.filter_cons_of_neg (by simp [hnull])] at h
        rw [if_pos hnull, ih h]
      · rw [List.filter_cons_of_pos (by simp [hnull])] at h
        obtain ⟨rfl, -⟩ := List.cons.inj h
        rw [if_neg hnull]

theorem form_union_of_present
    {members : List Ty}
    (h : members.any isNull = false)
    (span : Span) :
    (union members span).form = ⟨false, .union (kinds members)⟩ :=
  if_neg (by simp [h])

/-- The core of a union that has lost its nulls, given the members that are left. -/
def presentCore : List Ty → Core
  | [] => .keyword "null"
  | [m] => m.form.core
  | rest => .union (kinds rest)

theorem form_union_of_any
    {members : List Ty}
    (h : members.any isNull = true)
    (span : Span) :
    (union members span).form = ⟨true, presentCore (members.filter fun m => !m.isNull)⟩ := by
  refine (if_pos h).trans ?_
  rcases hfilter : members.filter (fun m => !m.isNull) with _ | ⟨m, _ | ⟨m', rest⟩⟩
  · simp only [hfilter, presentCore]
  · simp only [hfilter, presentCore, formPresent_of_filter hfilter]
  · simp only [hfilter, presentCore]

/-- What is left of a union without its nulls has the form of the union, but for the flag. -/
theorem form_of_present?
    {members : List Ty}
    {span : Span}
    {u : Ty}
    (hany : members.any isNull = true)
    (h : present? members span = some u) :
    (union members span).form = ⟨true, u.form.core⟩ := by
  rw [form_union_of_any hany]
  -- What is left of the union decides: nothing, one type, or a smaller union.
  rcases hfilter : members.filter (fun m => !m.isNull) with _ | ⟨m, _ | ⟨m', rest⟩⟩
  · rw [present?, hfilter] at h
    have hnull : u.isNull = true := by
      simpa using List.filter_eq_nil_iff.1 hfilter u (List.mem_of_mem_head? h)
    rw [hfilter, form_of_isNull hnull]
    rfl
  · rw [present?, hfilter] at h
    cases h
    rw [hfilter]
    rfl
  · rw [present?, hfilter] at h
    cases h
    have hrest : (m :: m' :: rest).any isNull = false := by
      rw [← hfilter]
      simp
    rw [hfilter, form_union_of_present hrest]
    rfl

/-! ## Forms of unions spelled in another way -/

theorem kinds_of_perm
    {members members' : List Ty}
    (h : members.Perm members') :
    kinds members' = kinds members :=
  funext fun _ => h.any_eq.symm

theorem presentCore_of_perm
    {rest rest' : List Ty}
    (h : rest.Perm rest') :
    presentCore rest' = presentCore rest := by
  rcases rest with _ | ⟨m, _ | ⟨m', rest⟩⟩
  · rw [List.nil_perm.1 h]
  · rw [List.singleton_perm.1 h]
  · have hlength := h.length_eq
    rcases rest' with _ | ⟨l, _ | ⟨l', rest'⟩⟩
    · cases hlength
    · cases hlength
    · exact congrArg Core.union (kinds_of_perm h)

/-- A union is known by whether there is a null, and by its other members in any order. -/
theorem form_union_of_perm
    {members members' : List Ty}
    (hany : members'.any isNull = members.any isNull)
    (hperm : (members.filter fun m => !m.isNull).Perm (members'.filter fun m => !m.isNull))
    (span span' : Span) :
    (union members' span').form = (union members span).form := by
  cases h : members.any isNull with
  | true => rw [form_union_of_any h, form_union_of_any (hany.trans h), presentCore_of_perm hperm]
  | false =>
      have hfilter {ts : List Ty} (hts : ts.any isNull = false) :
          ts.filter (fun m => !m.isNull) = ts := by
        simpa using hts
      rw [hfilter h, hfilter (hany.trans h)] at hperm
      rw [form_union_of_present h, form_union_of_present (hany.trans h), kinds_of_perm hperm]

/-- Among nulls one member counts alone, whatever it is. -/
theorem form_union_of_nulls
    {before after : List Ty}
    (hbefore : ∀ m, m ∈ before → m.isNull = true)
    (hafter : ∀ m, m ∈ after → m.isNull = true)
    (hnull : before ++ after ≠ [])
    (t : Ty)
    (span : Span) :
    (union (before ++ t :: after) span).form = ⟨true, t.form.core⟩ := by
  have hany : (before ++ t :: after).any isNull = true := by
    obtain ⟨m, hm⟩ := List.exists_mem_of_ne_nil _ hnull
    rw [List.any_eq_true]
    rcases List.mem_append.1 hm with hm | hm
    · exact ⟨m, List.mem_append_left _ hm, hbefore m hm⟩
    · exact ⟨m, List.mem_append_right _ (List.mem_cons_of_mem t hm), hafter m hm⟩
  have hnone {ts : List Ty} (hts : ∀ m, m ∈ ts → m.isNull = true) :
      ts.filter (fun m => !m.isNull) = [] :=
    List.filter_eq_nil_iff.2 fun m hm => by simp [hts m hm]
  rw [form_union_of_any hany, List.filter_append, hnone hbefore, List.nil_append]
  cases ht : t.isNull with
  | true => rw [List.filter_cons_of_neg (by simp [ht]), hnone hafter, form_of_isNull ht]; rfl
  | false => rw [List.filter_cons_of_pos (by simp [ht]), hnone hafter]; rfl

/-! ## Forms of what is peeled -/

theorem form_of_peelOnce?
    {t u : Ty}
    (h : t.peelOnce? = some u) :
    t.form = ⟨t.hasNull || u.form.nullable, u.form.core⟩ := by
  unfold peelOnce? at h
  split at h
  case h_1 name inner span =>
      rw [Option.ite_none_right_eq_some] at h
      obtain ⟨rfl, hinner⟩ := h
      cases hinner
      have hform : (reference "Readonly" (some [u]) span).form = u.form := if_pos rfl
      rw [hform]
      cases u.form
      rfl
  case h_2 members span =>
      rw [Option.ite_none_right_eq_some] at h
      obtain ⟨hany, hpresent⟩ := h
      rw [form_of_present? hany hpresent, hasNull, hany, Bool.true_or]
  case h_3 => cases h

/-! ## What a peeled annotation shows -/

/-- What an annotation from which no layer can be taken off looks like, given its core. -/
inductive Shows : Ty → Core → Prop
  | keyword
      {word plain : String}
      (span : Span)
      (hword : plainWord word = plain) :
      Shows (keyword word span) (.keyword plain)
  | reference
      {name : String}
      {typeArgs : Option (List Ty)}
      {arity : Nat}
      (span : Span)
      (harity : (typeArgs.getD []).length = arity)
      (harray : arity = 1 → name ≠ "Array" ∧ name ≠ "ReadonlyArray") :
      Shows (reference name typeArgs span) (.reference name arity)
  | array
      {element : Ty}
      {f : Form}
      (l : ArrayLayer)
      (helement : element.form = f) :
      Shows (l.around element) (.array f)
  | operator
      {word : String}
      {operand : Ty}
      (span : Span)
      (hoperand : ∀ element inner, operand = array element inner → word ≠ "readonly") :
      Shows (operator word operand span) .operator
  | union
      {members : List Ty}
      {sorts : MemberKind → Bool}
      (span : Span)
      (hkinds : kinds members = sorts) :
      Shows (union members span) (.union sorts)
  | object
      {members : List Member}
      {fs : List MemberForm}
      (span : Span)
      (hmembers : members.map Member.form = fs) :
      Shows (object members span) (.object fs)
  | function
      {params : List Param}
      {result : Option Ty}
      {ps : List ParamForm}
      {r : Option Form}
      (span : Span)
      (hparams : params.map Param.form = ps)
      (hresult : result.map form = r) :
      Shows (function params result span) (.function ps r)
  | literal
      (value : Expr)
      (span : Span) :
      Shows (literal value span) .other
  | other
      (kind : String)
      (span : Span) :
      Shows (other kind span) .other

/-- An annotation from which no layer can be taken off is not nullable, and shows its core. -/
theorem shows_core
    {t : Ty}
    (h : t.peelOnce? = none) :
    t.form.nullable = false ∧ t.Shows t.form.core := by
  cases t with
  | keyword word span => exact ⟨rfl, .keyword span rfl⟩
  | reference name typeArgs span =>
      obtain _ | (_ | ⟨inner, _ | ⟨second, rest⟩⟩) := typeArgs
      · exact ⟨rfl, .reference span rfl fun hone => absurd hone (by simp)⟩
      · exact ⟨rfl, .reference span rfl fun hone => absurd hone (by simp)⟩
      · have hname : name ≠ "Readonly" := fun heq => by simp [peelOnce?, heq] at h
        rw [form, if_neg hname]
        split_ifs with harray
        · refine ⟨rfl, ?_⟩
          rcases harray with rfl | rfl
          · exact .array (.array span) rfl
          · exact .array (.readonlyArray span) rfl
        · exact ⟨rfl, .reference span rfl fun _ => not_or.1 harray⟩
      · exact ⟨rfl, .reference span rfl fun hone => absurd hone (by simp)⟩
  | array element span => exact ⟨rfl, .array (.brackets span) rfl⟩
  | operator word operand span =>
      cases operand with
      | array element inner =>
          rw [form]
          split_ifs with hword
          · rw [hword]
            exact ⟨rfl, .array (.readonlyBrackets inner span) rfl⟩
          · exact ⟨rfl, .operator span fun _ _ _ => hword⟩
      | _ => exact ⟨rfl, .operator span fun _ _ heq => absurd heq (by simp)⟩
  | literal value span => exact ⟨rfl, .literal value span⟩
  | union members span =>
      rw [form_union_of_present (peel_of_peelOnce?_eq_none h).2]
      exact ⟨rfl, .union span rfl⟩
  | object members span =>
      rw [form_object]
      exact ⟨rfl, .object span rfl⟩
  | function params result span =>
      rw [form_function]
      exact ⟨rfl, .function span rfl rfl⟩
  | other kind span => exact ⟨rfl, .other kind span⟩

/-- Peeling gives the flag of the form and shows its core. -/
theorem form_peel
    (t : Ty) :
    t.peel.nullable = t.form.nullable ∧ t.peel.type.Shows t.form.core := by
  cases h : t.peelOnce? with
  | some u =>
      obtain ⟨hnullable, hshows⟩ := form_peel u
      rw [peel_of_peelOnce? h, form_of_peelOnce? h]
      exact ⟨congrArg (t.hasNull || ·) hnullable, hshows⟩
  | none =>
      obtain ⟨hnullable, hshows⟩ := shows_core h
      rw [(peel_of_peelOnce?_eq_none h).1, hnullable]
      exact ⟨rfl, hshows⟩
termination_by t.size
decreasing_by exact size_lt_of_peelOnce? h

end Ty

/-! ## Resolution -/

/-- What a name stands for, as far as lowering looks at it. -/
inductive DeclarationForm
  | type (f : Form)
  | enum (decl : Enum)

def Declaration.form : Declaration → DeclarationForm
  | .interface i => .type ⟨false, .object (i.members.map Member.form)⟩
  | .typeAlias a => .type a.type.form
  | .enum e => .enum e

/-- The form of the type that a name stands for; an enum stands for none. -/
def DeclarationForm.type? : DeclarationForm → Option Form
  | .type f => some f
  | .enum _ => none

namespace Environment

/-- The two environments declare as many names, and a name stands for the same form in both. -/
structure SameForms
    (env env' : Environment) : Prop where
  length : env'.declarations.length = env.declarations.length
  form : ∀ name, (env'.find? name).map Declaration.form = (env.find? name).map Declaration.form

/-- Both names of arrays are left to stand for arrays. -/
structure LeavesArrays (env : Environment) : Prop where
  array : env.find? "Array" = none
  readonlyArray : env.find? "ReadonlyArray" = none

section SameForms

variable {env env' : Environment}

theorem LeavesArrays.target?_around
    (h : env.LeavesArrays)
    (followed : List String)
    (l : ArrayLayer)
    (t : Ty) :
    env.target? followed (l.around t) = none := by
  cases l with
  | brackets span => rfl
  | readonlyBrackets inner outer => rfl
  | array span => simp [ArrayLayer.around, target?, h.array]
  | readonlyArray span => simp [ArrayLayer.around, target?, h.readonlyArray]

theorem SameForms.leavesArrays
    (h : env.SameForms env')
    (harrays : env.LeavesArrays) :
    env'.LeavesArrays where
  array := by simpa [harrays.array] using h.form "Array"
  readonlyArray := by simpa [harrays.readonlyArray] using h.form "ReadonlyArray"

theorem map_form_typeOf?
    (env : Environment)
    (name : String) :
    (env.typeOf? name).map Ty.form =
      ((env.find? name).map Declaration.form).bind DeclarationForm.type? := by
  unfold typeOf?
  cases env.find? name with
  | none => rfl
  | some d =>
      cases d with
      | interface i => exact congrArg some (Ty.form_object i.members i.span)
      | _ => rfl

/-- A name stands for a type in both environments or in neither, and the types have one form. -/
theorem SameForms.typeOf?
    (h : env.SameForms env')
    (name : String) :
    (env'.typeOf? name).map Ty.form = (env.typeOf? name).map Ty.form := by
  rw [map_form_typeOf?, map_form_typeOf?, h.form]

/-- Types that show one core refer to the same name, or both to none. -/
theorem SameForms.target?
    (h : env.SameForms env')
    (harrays : env.LeavesArrays)
    {t t' : Ty}
    {c : Core}
    (ht : t.Shows c)
    (ht' : t'.Shows c)
    (followed : List String) :
    (env'.target? followed t').map (Prod.map id Ty.form) =
      (env.target? followed t).map (Prod.map id Ty.form) := by
  cases ht with
  | @reference name typeArgs arity span harity harray =>
      cases ht' with
      | reference span' harity' harray' =>
          have htype := congrArg (Option.map (Prod.mk name)) (h.typeOf? name)
          rw [Environment.target?, Environment.target?]
          split
          · rfl
          · simpa [Option.map_map, Function.comp_def, Environment.typeOf?] using htype
  | array l helement =>
      cases ht' with
      | array l' helement' =>
          rw [harrays.target?_around, (h.leavesArrays harrays).target?_around, Option.map_none]
  | literal value span | other kind span =>
      cases ht' <;> rfl
  | _ =>
      cases ht'
      rfl

end SameForms

end Environment

/-- What was found is the same as far as lowering looks at it. -/
structure Resolved.Alike (r r' : Resolved) : Prop where
  nullable : r'.nullable = r.nullable
  alias? : r'.alias? = r.alias?
  shows : ∃ c, r.type.Shows c ∧ r'.type.Shows c

namespace Environment

section Resolution

variable {env env' : Environment}

theorem SameForms.resolveWithin
    (h : env.SameForms env')
    (harrays : env.LeavesArrays)
    (budget : Nat)
    (followed : List String)
    {t t' : Ty}
    (nullable : Bool)
    (alias? : Option String)
    (hform : t'.form = t.form) :
    (env.resolveWithin budget followed ⟨nullable, t, alias?⟩).Alike
      (env'.resolveWithin budget followed ⟨nullable, t', alias?⟩) := by
  obtain ⟨hnullable, hshows⟩ := t.form_peel
  obtain ⟨hnullable', hshows'⟩ := t'.form_peel
  rw [hform] at hnullable' hshows'
  have htarget := h.target? harrays hshows hshows' followed
  have hflag : t'.peel.nullable = t.peel.nullable := hnullable'.trans hnullable.symm
  -- What is found when no name is followed from here.
  have hstop : Resolved.Alike ⟨nullable || t.peel.nullable, t.peel.type, alias?⟩
      ⟨nullable || t'.peel.nullable, t'.peel.type, alias?⟩ :=
    ⟨congrArg (nullable || ·) hflag, rfl, _, hshows, hshows'⟩
  cases hnext : env.target? followed t.peel.type with
  | none =>
      rw [hnext, Option.map_none, Option.map_eq_none_iff] at htarget
      rw [resolveWithin_stop budget hnext, resolveWithin_stop budget htarget]
      exact hstop
  | some next =>
      obtain ⟨name, u⟩ := next
      rw [hnext] at htarget
      obtain ⟨⟨name', u'⟩, hnext', heq⟩ := Option.map_eq_some_iff.1 htarget
      obtain ⟨rfl, hform'⟩ := Prod.mk.inj heq
      cases budget with
      | zero =>
          simpa [Environment.resolveWithin] using hstop
      | succ budget =>
          rw [resolveWithin_follow budget hnext, resolveWithin_follow budget hnext', hflag]
          exact SameForms.resolveWithin h harrays budget _ _ _ hform'

/-- Annotations of one form resolve alike. -/
theorem SameForms.resolve
    (h : env.SameForms env')
    (harrays : env.LeavesArrays)
    {t t' : Ty}
    (hform : t'.form = t.form) :
    (env.resolve t).Alike (env'.resolve t') := by
  unfold Environment.resolve
  rw [h.length]
  exact h.resolveWithin harrays _ [] false none hform

end Resolution

end Environment

end ModuleSpec
