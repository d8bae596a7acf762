import Mathlib.Data.List.Forall2
import Mathlib.Logic.Relation
import ModuleSpec.Proofs.Lowering.Alike

/-!
# Spellings of annotations

An array can be written in four ways, Readonly can be put around a type, the members of
a union stand in some order, and a name for an object can be declared as an interface
or as an alias.  None of this shows in what an annotation is lowered to.

A spelling counts where lowering comes to: at the annotation itself, at elements,
properties, parameters and results beneath it, at what names stand for, inside
Readonly, and at the one member of a union that is left when it has lost its nulls.
A union without nulls keeps its members as they are written, even when there is only
one (`not_forall_lower_respelt`).

**Idea.**  Every rule keeps the form of an annotation (`Ty.Spells.form_eq`), and so it
does wherever it is used (`Ty.Respells.form_eq`).

**Results.**  An annotation and declarations that are spelled in another way, at any
number of places, give the same value, the same objects, and faults of the same sorts
(`lower_respelt`).
-/

namespace ModuleSpec

/-! ## Rules -/

/-- Two ways to spell the same at one place. -/
inductive Ty.Spells : Ty → Ty → Prop
  | array
      (l l' : ArrayLayer)
      (t : Ty) :
      Spells (l.around t) (l'.around t)
  | readonly
      (t : Ty)
      (span : Span) :
      Spells (.reference "Readonly" (some [t]) span) t
  | order
      {members members' : List Ty}
      (span span' : Span)
      (horder : members.Perm members') :
      Spells (.union members span) (.union members' span')
  | exchange
      {n n' : Ty}
      (members : List Ty)
      (span span' : Span)
      (hn : n.isNull = true)
      (hn' : n'.isNull = true) :
      Spells (.union (n :: members) span) (.union (n' :: members) span')
  | again
      {n : Ty}
      (members : List Ty)
      (span span' : Span)
      (hn : n.isNull = true) :
      Spells (.union (n :: members) span) (.union (n :: n :: members) span')

/--
A rule is used at a place that lowering comes to.  The nulls around the only member of a union
that is none are to be as the parameter says.
-/
inductive Ty.Respells (nulls : List Ty → Prop) : Ty → Ty → Prop
  | here
      {t t' : Ty}
      (h : t.Spells t') :
      Respells nulls t t'
  | element
      {t t' : Ty}
      (l : ArrayLayer)
      (h : Respells nulls t t') :
      Respells nulls (l.around t) (l.around t')
  | argument
      {t t' : Ty}
      (span : Span)
      (h : Respells nulls t t') :
      Respells nulls (.reference "Readonly" (some [t]) span)
        (.reference "Readonly" (some [t']) span)
  | present
      {t t' : Ty}
      (before after : List Ty)
      (span : Span)
      (hbefore : ∀ m, m ∈ before → m.isNull = true)
      (hafter : ∀ m, m ∈ after → m.isNull = true)
      (ht : t.isNull = false)
      (hnulls : nulls (before ++ after))
      (h : Respells nulls t t') :
      Respells nulls (.union (before ++ t :: after) span) (.union (before ++ t' :: after) span)
  | property
      {t t' : Ty}
      (before after : List Member)
      (name : String)
      (optional : Bool)
      (inner span : Span)
      (h : Respells nulls t t') :
      Respells nulls
        (.object (before ++ .property name (some t) optional inner :: after) span)
        (.object (before ++ .property name (some t') optional inner :: after) span)
  | method
      {params params' : List Param}
      {result result' : Option Ty}
      (before after : List Member)
      (name : String)
      (optional : Bool)
      (signature inner span : Span)
      (h : Respells nulls (.function params result signature)
        (.function params' result' signature)) :
      Respells nulls
        (.object (before ++ .method name params result optional inner :: after) span)
        (.object (before ++ .method name params' result' optional inner :: after) span)
  | param
      {t t' : Ty}
      (before after : List Param)
      (result : Option Ty)
      (name : String)
      (optional : Bool)
      (inner span : Span)
      (h : Respells nulls t t') :
      Respells nulls
        (.function (before ++ ⟨name, some t, optional, inner⟩ :: after) result span)
        (.function (before ++ ⟨name, some t', optional, inner⟩ :: after) result span)
  | result
      {t t' : Ty}
      (params : List Param)
      (span : Span)
      (h : Respells nulls t t') :
      Respells nulls (.function params (some t) span) (.function params (some t') span)

/-- Any number of rules, each at some place and in either direction. -/
def Ty.Respelt (nulls : List Ty → Prop) : Ty → Ty → Prop :=
  Relation.EqvGen (Ty.Respells nulls)

/--
A rule is used in an alias, or an interface is declared as an alias of an object.  The members of
an interface are spelled in another way by going to the alias and back.
-/
inductive Declaration.Respells (nulls : List Ty → Prop) : Declaration → Declaration → Prop
  | typeAlias
      {t t' : Ty}
      (name : String)
      (span : Span)
      (h : t.Respells nulls t') :
      Respells nulls (.typeAlias ⟨name, t, span⟩) (.typeAlias ⟨name, t', span⟩)
  | asAlias
      (name : String)
      (bases : List Base)
      (members : List Member)
      (span inner outer : Span) :
      Respells nulls (.interface ⟨name, bases, members, span⟩)
        (.typeAlias ⟨name, .object members inner, outer⟩)

/-- Every declaration is spelled in another way, any number of times. -/
def Environment.Respelt (nulls : List Ty → Prop) (env env' : Environment) : Prop :=
  List.Forall₂ (Relation.EqvGen (Declaration.Respells nulls)) env.declarations env'.declarations

/-! ## Rules keep forms -/

theorem Ty.Spells.form_eq
    {t t' : Ty}
    (h : t.Spells t') :
    t'.form = t.form := by
  cases h with
  | array l l' t => rw [form_around, form_around]
  | readonly t span => rw [form.eq_def (.reference "Readonly" _ _)]; rfl
  | order span span' horder =>
      exact form_union_of_perm horder.any_eq.symm (horder.filter _) span span'
  | exchange members span span' hn hn' =>
      refine form_union_of_perm ?_ ?_ span span'
      · simp [hn, hn']
      · simp [hn, hn']
  | again members span span' hn =>
      refine form_union_of_perm ?_ ?_ span span'
      · simp [hn]
      · simp [hn]

/-- The places that lowering comes to contribute their form. -/
theorem Ty.Respells.form_eq
    {t t' : Ty}
    (h : t.Respells (· ≠ []) t') :
    t'.form = t.form := by
  induction h with
  | here h => exact h.form_eq
  | element l _ ih => rw [form_around, form_around, ih]
  | argument span _ ih => simp only [form, if_true, ih]
  | present before after span hbefore hafter _ hnulls _ ih =>
      rw [form_union_of_nulls hbefore hafter hnulls, form_union_of_nulls hbefore hafter hnulls, ih]
  | property before after name optional inner span _ ih =>
      simp only [form_object, List.map_append, List.map_cons, Member.form, ih]
  | method => simp only [form_object, List.map_append, List.map_cons, Member.form]
  | param before after result name optional inner span _ ih =>
      simp only [form_function, List.map_append, List.map_cons, Param.form, formOption, ih]
  | result params span _ ih => simp only [form_function, Option.map_some, ih]

/-- What every rule keeps, any number of rules keep. -/
theorem eq_of_eqvGen
    {α β : Type}
    {r : α → α → Prop}
    {v : α → β}
    (hr : ∀ a b, r a b → v b = v a)
    {a b : α}
    (h : Relation.EqvGen r a b) :
    v b = v a :=
  (congrArg (Quot.lift v fun a b hab => (hr a b hab).symm) (Quot.eqvGen_sound h)).symm

theorem Ty.Respelt.form_eq
    {t t' : Ty}
    (h : t.Respelt (· ≠ []) t') :
    t'.form = t.form :=
  eq_of_eqvGen (r := Respells (· ≠ [])) (fun _ _ hr => hr.form_eq) h

theorem Declaration.Respells.form_eq
    {d d' : Declaration}
    (h : d.Respells (· ≠ []) d') :
    (d'.name, d'.form) = (d.name, d.form) := by
  cases h with
  | typeAlias name span h =>
      exact congrArg (fun f => (name, DeclarationForm.type f)) h.form_eq
  | asAlias name bases members span inner outer =>
      exact congrArg (fun f => (name, DeclarationForm.type f)) (Ty.form_object members inner)

theorem Environment.Respelt.sameForms
    {env env' : Environment}
    (h : env.Respelt (· ≠ []) env') :
    env.SameForms env' where
  length := (List.Forall₂.length_eq h).symm
  form := by
    intro name
    obtain ⟨ds⟩ := env
    obtain ⟨ds'⟩ := env'
    unfold find?
    change List.Forall₂ _ ds ds' at h
    induction h with
    | nil => rfl
    | @cons d d' ds ds' hd _ ih =>
        obtain ⟨hname, hform⟩ := Prod.mk.inj <|
          eq_of_eqvGen (v := fun d => (d.name, d.form)) (fun _ _ hr => hr.form_eq) hd
        simp only [List.find?_cons, hname]
        split
        · exact congrArg some hform
        · exact ih

/-! ## Translations -/

/-- The two lowerings give the same, with faults of the same sorts. -/
structure SameTranslation (x y : Lowering (Nullable SchemaType)) : Prop where
  terminates : y.Terminates
  value : ∀ v, x.outcome = .ok v ↔ y.outcome = .ok v
  raised : ∀ k, (∃ e, x.outcome = .error (.fault e) ∧ e.kind = k) ↔
    ∃ e, y.outcome = .error (.fault e) ∧ e.kind = k
  aliases : ∀ table : Aliases, table.registerAll (Lowering.registered y.events) =
    table.registerAll (Lowering.registered x.events)
  recorded : ∀ channel, (Lowering.recordedOn channel y.events).map Fault.kind =
    (Lowering.recordedOn channel x.events).map Fault.kind

theorem Lowering.Alike.sameTranslation
    {x y : Lowering (Nullable SchemaType)}
    (h : x.Alike y)
    (hend : x.Terminates) :
    SameTranslation x y := by
  have haliases (table : Aliases) : table.registerAll (Lowering.registered y.events) =
      table.registerAll (Lowering.registered x.events) := by
    rw [h.registered]
  obtain ⟨a, hx, hy⟩ | ⟨e, e', hx, hy, hkind⟩ | ⟨halt, hx, hy, -⟩ := h.cases
  · exact ⟨by simp [Terminates, hy], by simp [hx, hy], by simp [hx, hy], haliases, h.recordedOn⟩
  · exact ⟨by simp [Terminates, hy], by simp [hx, hy], by simp [hx, hy, hkind], haliases,
      h.recordedOn⟩
  · refine ⟨?_, by simp [hx, hy], fun k => ?_, haliases, h.recordedOn⟩
    · rw [Terminates, hy, ← hx]
      exact hend
    · rw [hx, hy]

/--
Where the names of arrays are not declared, spelling an annotation and declarations in another
way changes nothing but what faults are about.
-/
theorem lower_respelt
    {s : Scope}
    {env : Environment}
    {t t' : Ty}
    (harrays : s.types.LeavesArrays)
    (henv : s.types.Respelt (· ≠ []) env)
    (ht : t.Respelt (· ≠ []) t')
    (hend : (lower s t).Terminates) :
    SameTranslation (lower s t) (lower (s.inTypes env) t') := by
  have halike : (lower s t).Alike (lowerWithin (depthBound s.types t) (s.inTypes env) t') :=
    (lowerWithin_alike henv.sameForms harrays _ t t' ht.form_eq).1
  have hsame := halike.sameTranslation hend
  rw [lower_eq_lowerWithin hsame.terminates]
  exact hsame

namespace PolygonSpec

/-- A point has coordinates and a label. -/
def point : Interface :=
  ⟨"Point", [], [
    .property "coordinates" (some (.array (.keyword "number" .none) .none)) false .none,
    .property "label" (some (.keyword "string" .none)) true .none], .none⟩

/-- The same point as an alias, with the coordinates in another kind of array. -/
def pointAlias : TypeAlias :=
  ⟨"Point", .object [
    .property "coordinates"
      (some (.reference "ReadonlyArray" (some [.keyword "number" .none]) .none)) false .none,
    .property "label" (some (.keyword "string" .none)) true .none] .none, .none⟩

def scope : Scope :=
  ⟨"NativePolygon", ⟨[.interface point]⟩, false, .recoverable fileChannel, .recoverable fileChannel⟩

/-- A reference to the point, or null or undefined. -/
def corner (absent : String) : List Ty :=
  [.reference "Point" none .none, .keyword absent .none]

/-- A readonly array of corners. -/
def polygon : Ty :=
  .reference "Readonly"
    (some [.reference "Array" (some [.union (corner "null") .none]) .none]) .none

/-- The same array in brackets, with the members of the union the other way round. -/
def polygonBrackets : Ty :=
  .array (.union (corner "undefined").reverse .none) .none

end PolygonSpec

open PolygonSpec in
/-- Nullable points in an array, declared and spelled in another way. -/
theorem polygonSpec_respelt :
    scope.types.LeavesArrays ∧ scope.types.Respelt (· ≠ []) ⟨[.typeAlias pointAlias]⟩ ∧
      polygon.Respelt (· ≠ []) polygonBrackets ∧ (lower scope polygon).Terminates ∧
      SameTranslation (lower scope polygon)
        (lower (scope.inTypes ⟨[.typeAlias pointAlias]⟩) polygonBrackets) ∧
      (lower scope polygon).outcome = .ok ⟨false, .array (some ⟨true, .alias "Point"⟩)⟩ := by
  have harrays : scope.types.LeavesArrays := ⟨by decide, by decide⟩
  have henv : scope.types.Respelt (· ≠ []) ⟨[.typeAlias pointAlias]⟩ := by
    refine .cons ?_ .nil
    exact .trans _ _ _ (.rel _ _ (.asAlias "Point" [] _ .none .none .none))
      (.rel _ _ (.typeAlias "Point" .none (.property [] _ "coordinates" false .none .none
        (.here (.array (.brackets .none) (.readonlyArray .none) _)))))
  -- The members change places, and then the null at the front is exchanged.
  have hmembers : Ty.Respelt (· ≠ []) (.array (.union (corner "null") .none) .none)
      polygonBrackets :=
    .trans _ _ _
      (.rel _ _ (.element (.brackets .none) (.here (.order .none .none (.swap _ _ [])))))
      (.rel _ _ (.element (.brackets .none) (.here (.exchange _ .none .none rfl rfl))))
  have ht : polygon.Respelt (· ≠ []) polygonBrackets :=
    .trans _ _ _ (.rel _ _ (.here (.readonly _ .none)))
      (.trans _ _ _ (.rel _ _ (.here (.array (.array .none) (.brackets .none) _))) hmembers)
  have hend : (lower scope polygon).Terminates := by
    decide +kernel
  have houtcome : (lower scope polygon).outcome =
      .ok ⟨false, .array (some ⟨true, .alias "Point"⟩)⟩ := by
    cbv
  exact ⟨harrays, henv, ht, hend, lower_respelt harrays henv ht hend, houtcome⟩

/-- The only member of a union counts as it is written when there is no null. -/
theorem not_forall_lower_respelt :
    ¬ ∀ (s : Scope) (env : Environment) (t t' : Ty),
      s.types.LeavesArrays →
      s.types.Respelt (fun _ => True) env →
      t.Respelt (fun _ => True) t' →
      (lower s t).Terminates →
      SameTranslation (lower s t) (lower (s.inTypes env) t') := by
  intro hsame
  let s : Scope := freshScope "NativeFooCxx" .empty true fileChannel
  let one : Ty := .literal (.number ⟨false, 1023, 0⟩ .none) .none
  let t : Ty := .union [.reference "Readonly" (some [one]) .none] .none
  let t' : Ty := .union [one] .none
  have ht : t.Respelt (fun _ => True) t' :=
    .rel _ _ (.present [] [] .none nofun nofun rfl trivial
      (.here (.readonly one .none)))
  have hrun : lower s t = ⟨.ok ⟨false, .union .object⟩, []⟩ := by
    cbv
  have hrun' : lower (s.inTypes .empty) t' = ⟨.ok ⟨false, .union .number⟩, []⟩ := by
    cbv
  have hend : (lower s t).Terminates := by
    rw [hrun]
    rintro ⟨⟩
  have hvalue := (hsame s .empty t t' ⟨rfl, rfl⟩ .nil ht hend).value ⟨false, .union .object⟩
  rw [hrun, hrun'] at hvalue
  cases hvalue.1 rfl

end ModuleSpec
