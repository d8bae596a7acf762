import ModuleSpec.Proofs.AliasAgreement
import ModuleSpec.Proofs.Lowering.Refine

/-!
# C++ alone is a conservative extension

What an annotation is lowered to does not get less when the module is implemented
in C++ alone.  A value stays a value and is refined, and every named object stays
in the table of objects under its name and is refined.

The capture has to be uniform: one that lets every fault through, or one that
accepts all but the fatal ones.  The sink has to accept what arrays record on it.
With a sink that lets every fault through, an array that has no element in
another module may not be lowered at all in C++ alone, because there it has one
that cannot be stored.

**Results.**  `lower_native`, and that the condition on the sink is needed
(`not_forall_lower_native`).
-/

namespace ModuleSpec

namespace Lowering

/--
The second lowering has all values and all objects of the first, refined, and so
has every table in which it registers its objects.
-/
structure WidensTo (x y : Lowering (Nullable SchemaType)) : Prop where
  value : ∀ v, x.outcome = .ok v → ∃ w, y.outcome = .ok w ∧ v.RefinedBy w
  objects : Covers x.events y.events
  tables : ∀ (table : Aliases) name ps,
    (table.registerAll (registered x.events)).find? name = some ps →
    ∃ qs, (table.registerAll (registered y.events)).find? name = some qs ∧
      (SchemaType.object ps).RefinedBy (.object qs)

/-- A table covers another if it registers one object to a name and those cover its own. -/
theorem find?_of_covers
    {es es' : List Event}
    (h : Covers es es')
    (hsame : ∀ a b, .registered a ∈ es' → .registered b ∈ es' → b.name = a.name → b = a)
    {table : Aliases}
    {name : String}
    {ps : List Shape}
    (hfind : (table.registerAll (registered es)).find? name = some ps) :
    ∃ qs, (table.registerAll (registered es')).find? name = some qs ∧
      (SchemaType.object ps).RefinedBy (.object qs) := by
  rw [Aliases.registerAll_eq_join, Aliases.find?_join] at hfind
  rw [Aliases.registerAll_eq_join, Aliases.find?_join]
  cases htable : table.find? name with
  | some rs =>
      rw [htable] at hfind
      exact ⟨ps, hfind, .refl _⟩
  | none =>
      rw [htable] at hfind
      have hmem := Aliases.mem_of_mem_registerAll (Aliases.mem_of_find?_eq_some hfind)
      obtain ⟨b, hb, rfl, hrefined⟩ :=
        h ⟨name, ps⟩ (mem_registered.1 (hmem.resolve_left List.not_mem_nil))
      refine ⟨b.properties, ?_, hrefined⟩
      exact Aliases.find?_registerAll (mem_registered.2 hb)
        fun c hc => hsame b c hb (mem_registered.1 hc)

end Lowering

open FaultContract (invariant invariant_sound)

/--
Under a uniform capture, with a sink that accepts what arrays record, without
empty unions, and if both end, the lowering for C++ alone refines the other.
-/
theorem lower_native
    {s : Scope}
    (h : s.Widens)
    {t : Ty}
    (henv : s.types.Every fun n => n.isEmptyUnion = false)
    (ht : (Node.type t).Every fun n => n.isEmptyUnion = false)
    (hend : (lower s t).Terminates)
    (hend' : (lower s.native t).Terminates) :
    (lower s t).WidensTo (lower s.native t) := by
  have hsound : (invariant s.moduleName).SoundWithin s.native :=
    @invariant_sound s.native henv
  have hsettles : (lower s.native t).Settles := by
    have hkept := (hsound.keeps_lower ht).ends
    intro halt hhalt
    rw [hhalt] at hkept
    cases halt with
    | fault f =>
        exact ⟨f, rfl⟩
    | emptyUnion =>
        obtain ⟨span, hspan⟩ := hkept
        cases hspan
    | endless =>
        exact absurd hhalt hend'
  obtain ⟨hvalue, hobjects⟩ := (lowerWithin_follows h henv (depthBound s.types t) ht).1 hsettles
  have hfresh {a : Alias} (ha : .registered a ∈ (lower s.native t).events) :
      a.IsFresh s.types true :=
    isFresh_of_registered (s := s.native) h.elements ha
  refine ⟨hvalue, hobjects hend, fun table name ps => ?_⟩
  exact Lowering.find?_of_covers (hobjects hend)
    fun a b ha hb hname => (hfresh hb).eq (hfresh ha) hname

namespace WidgetSpec

def kind : Enum :=
  ⟨"Kind", [⟨"on", none, Span.none⟩], Span.none⟩

/-- An object with a number, an enum, and an array of functions that return functions. -/
def widget : Interface :=
  ⟨"Widget", [],
    [MapSpec.property "size" (MapSpec.keyword "number"),
      MapSpec.property "kind" (MapSpec.name "Kind"),
      MapSpec.property "makers"
        (.array
          (.function []
            (some (.function [] (some (MapSpec.keyword "void")) Span.none)) Span.none)
          Span.none)],
    Span.none⟩

def program : Program :=
  ⟨[.declaration (.enum kind), .declaration (.interface widget)], Span.none⟩

def scope : Scope :=
  freshScope "NativeWidget" (Environment.ofProgram program) false fileChannel

/-- A function with an object and an enum as parameters, and an array as result. -/
def type : Ty :=
  .function
    [⟨"widget", some (MapSpec.name "Widget"), false, Span.none⟩,
      ⟨"kind", some (MapSpec.name "Kind"), true, Span.none⟩]
    (some (.array (MapSpec.keyword "unknown") Span.none)) Span.none

theorem widens :
    scope.Widens :=
  ⟨rfl, Capture.uniform_recoverable fileChannel,
    acceptsElements_freshScope "NativeWidget" _ false fileChannel⟩

end WidgetSpec

open WidgetSpec in
theorem widgetSpec_lower_native :
    scope.Widens ∧ (lower scope type).Terminates ∧ (lower scope.native type).Terminates ∧
      (lower scope type).WidensTo (lower scope.native type) := by
  have hunions : WidgetSpec.program.UnionsInhabited := by
    decide +kernel
  have hevery : scope.types.Every fun n => n.isEmptyUnion = false :=
    Environment.every_ofProgram hunions fun _ _ => rfl
  have htype : (Node.type type).Every fun n => n.isEmptyUnion = false := by
    unfold Node.Every
    decide +kernel
  have hend : (lower scope type).Terminates := by
    decide +kernel
  have hend' : (lower scope.native type).Terminates := by
    decide +kernel
  exact ⟨widens, hend, hend', lower_native widens hevery htype hend hend'⟩

/-- With a sink that lets every fault through, an array is lost that gains an element. -/
theorem not_forall_lower_native :
    ¬ ∀ (s : Scope) t, s.nativeOnly = false →
      (∃ channel, s.capture = .recoverable channel) ∨ s.capture = .passthrough →
      s.sink = s.capture →
      (s.types.Every fun n => n.isEmptyUnion = false) →
      ((Node.type t).Every fun n => n.isEmptyUnion = false) →
      (lower s t).Terminates → (lower s.native t).Terminates →
      ∀ v, (lower s t).outcome = .ok v →
        ∃ w, (lower s.native t).outcome = .ok w ∧ v.RefinedBy w := by
  intro hwiden
  let s : Scope := ⟨"NativeWidget", .empty, false, .passthrough, .passthrough⟩
  let inner : Ty := .function [] (some (MapSpec.keyword "void")) Span.none
  let element : Ty := .function [] (some inner) Span.none
  let t : Ty := .array element Span.none
  have hrun : lower s t = ⟨.ok ⟨false, .array none⟩, []⟩ := by
    cbv
  have hnative : lower s.native t = ⟨.error (.fault
      (s.fault (.type element) (.arrayElement "Array" "FunctionTypeAnnotation"))), []⟩ := by
    cbv
  have hevery : (Node.type t).Every fun n => n.isEmptyUnion = false := by
    unfold Node.Every
    decide +kernel
  have htypes : s.types.Every fun n => n.isEmptyUnion = false := by
    rintro _ _ ⟨⟩
  have hend : (lower s t).Terminates := by
    rw [hrun]
    rintro ⟨⟩
  have hnativeEnd : (lower s.native t).Terminates := by
    rw [hnative]
    rintro ⟨⟩
  obtain ⟨w, hw, -⟩ := hwiden s t rfl (.inr rfl) rfl htypes hevery hend hnativeEnd
    ⟨false, .array none⟩ (congrArg Lowering.outcome hrun)
  rw [hnative] at hw
  cases hw

end ModuleSpec
