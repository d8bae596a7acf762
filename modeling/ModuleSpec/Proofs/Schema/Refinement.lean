import ModuleSpec.Proofs.Schema.Occurrence

/-!
# Refinement of schema types

One annotation refines another when it says all that the other says and perhaps
more.  It is of the same kind, its values may be null in the same places, and its
aliases have the same names.  An array without an element may have gained one.
An object may have gained properties and a function parameters; those that were
there stay in their order, with their names and flags, and have refined
annotations.

**Results.**  Every annotation refines itself (`RefinedBy.refl`).  A refined
annotation may stand where the other may (`RefinedBy.unstorable?_eq`,
`RefinedBy.unpassable?_eq`).
-/

namespace ModuleSpec

namespace SchemaType

mutual

/-- The second annotation says what the first says, and perhaps more. -/
inductive RefinedBy : SchemaType → SchemaType → Prop
  | atomic
      {a : SchemaType}
      (h : a.Atomic) :
      RefinedBy a a
  | alias
      (name : String) :
      RefinedBy (.alias name) (.alias name)
  | noElement
      (element : Option (Nullable SchemaType)) :
      RefinedBy (.array none) (.array element)
  | element
      {nullable : Bool}
      {a b : SchemaType}
      (h : RefinedBy a b) :
      RefinedBy (.array (some ⟨nullable, a⟩)) (.array (some ⟨nullable, b⟩))
  | object
      {ps qs : List Shape}
      (h : RefinedWithin ps qs) :
      RefinedBy (.object ps) (.object qs)
  | function
      {ps qs : List Shape}
      {nullable : Bool}
      {a b : SchemaType}
      (hparams : RefinedWithin ps qs)
      (hresult : RefinedBy a b) :
      RefinedBy (.function ps ⟨nullable, a⟩) (.function qs ⟨nullable, b⟩)

/-- Each of the first shapes is refined by one of the second, in the same order. -/
inductive RefinedWithin : List Shape → List Shape → Prop
  | nil :
      RefinedWithin [] []
  | kept
      {name : String}
      {optional nullable : Bool}
      {a b : SchemaType}
      {ps qs : List Shape}
      (h : RefinedBy a b)
      (hrest : RefinedWithin ps qs) :
      RefinedWithin
        (⟨name, optional, ⟨nullable, a⟩⟩ :: ps)
        (⟨name, optional, ⟨nullable, b⟩⟩ :: qs)
  | gained
      (q : Shape)
      {ps qs : List Shape}
      (hrest : RefinedWithin ps qs) :
      RefinedWithin ps (q :: qs)

end

end SchemaType

/-- Both may be null or neither, and the value of the second refines the first. -/
def Nullable.RefinedBy
    (x y : Nullable SchemaType) : Prop :=
  x.nullable = y.nullable ∧ x.value.RefinedBy y.value

/-- The second shape has the name and the flags of the first and a refined annotation. -/
structure Shape.RefinedBy (p q : Shape) : Prop where
  name : p.name = q.name
  optional : p.optional = q.optional
  type : p.type.RefinedBy q.type

/-! ## Every annotation refines itself -/

mutual

theorem SchemaType.RefinedBy.refl : ∀ a : SchemaType, a.RefinedBy a
  | .alias name => .alias name
  | .array x? => refl_array x?
  | .object properties => .object (refl_shapes properties)
  | .function params ⟨_, result⟩ => .function (refl_shapes params) (refl result)
  | .boolean | .number | .int32 | .double | .float | .string | .stringish | .void
  | .promise | .rootTag | .genericObject | .mixed | .enum _ | .union _ => .atomic trivial

theorem SchemaType.RefinedBy.refl_array :
    ∀ x? : Option (Nullable SchemaType), (SchemaType.array x?).RefinedBy (.array x?)
  | none => .noElement none
  | some ⟨_, a⟩ => .element (refl a)

theorem SchemaType.RefinedBy.refl_shapes :
    ∀ ps : List Shape, SchemaType.RefinedWithin ps ps
  | [] => .nil
  | ⟨_, _, ⟨_, a⟩⟩ :: ps => .kept (refl a) (refl_shapes ps)

end

namespace SchemaType

/-! ## Lists of shapes -/

theorem RefinedWithin.cons
    {p q : Shape}
    {ps qs : List Shape}
    (h : p.RefinedBy q)
    (hrest : RefinedWithin ps qs) :
    RefinedWithin (p :: ps) (q :: qs) := by
  obtain ⟨name, optional, ⟨nullable, a⟩⟩ := p
  obtain ⟨name', optional', ⟨nullable', b⟩⟩ := q
  obtain ⟨hname, hoptional, hnullable, hvalue⟩ := h
  dsimp only at hname hoptional hnullable hvalue
  subst hname hoptional hnullable
  exact .kept hvalue hrest

/-! ## Kinds -/

section Kinds

variable {a b : SchemaType}

theorem RefinedBy.unstorable?_eq
    (h : a.RefinedBy b) :
    b.unstorable? = a.unstorable? := by
  cases h <;> rfl

theorem RefinedBy.unpassable?_eq
    (h : a.RefinedBy b) :
    b.unpassable? = a.unpassable? := by
  cases h <;> rfl

end Kinds

end SchemaType

end ModuleSpec
