import Mathlib.Logic.Relation
import Mathlib.Tactic.SplitIfs
import ModuleSpec.Lowering.Step

/-!
# Annotations within annotations

An annotation holds others: an array its element, an object the values of its
properties, a function its parameters and its result.  `SchemaType.Part` is this
relation and `SchemaType.Occurs` its closure, so that a property of the
annotations at every depth of a schema is a property of all that occur in it.

`SchemaType.Placed` is what the position of an annotation asks of it.
`SchemaType.Portable` is what a module that is not implemented in C++ alone asks
of every annotation.
-/

namespace ModuleSpec

namespace SchemaType

/-! ## Parts -/

/-- The first annotation stands directly in the second. -/
inductive Part : SchemaType → SchemaType → Prop
  | element
      (x : Nullable SchemaType) :
      Part x.value (.array (some x))
  | property
      {properties : List Shape}
      {p : Shape}
      (hp : p ∈ properties) :
      Part p.type.value (.object properties)
  | param
      {params : List Shape}
      {p : Shape}
      (result : Nullable SchemaType)
      (hp : p ∈ params) :
      Part p.type.value (.function params result)
  | result
      (params : List Shape)
      (result : Nullable SchemaType) :
      Part result.value (.function params result)

/-- The first annotation is the second or stands in it at some depth. -/
def Occurs : SchemaType → SchemaType → Prop :=
  Relation.ReflTransGen Part

/-- What occurs in an annotation is the annotation or occurs in one of its parts. -/
theorem occurs_cases
    {a b : SchemaType}
    (h : a.Occurs b) :
    a = b ∨ ∃ c, c.Part b ∧ a.Occurs c := by
  obtain rfl | ⟨c, hac, hcb⟩ := Relation.ReflTransGen.cases_tail h
  · exact .inl rfl
  · exact .inr ⟨c, hcb, hac⟩

/-! ## Legal positions -/

/-- Whether an array or an object can hold the annotation. -/
def Storable : SchemaType → Prop
  | void => False
  | promise => False
  | function .. => False
  | _ => True

/-- Whether a parameter can have the annotation. -/
def Passable : SchemaType → Prop
  | void => False
  | promise => False
  | _ => True

def IsFunction : SchemaType → Prop
  | function .. => True
  | _ => False

/-- Each part of the annotation may stand where it stands. -/
def Placed : SchemaType → Prop
  | array (some x) => x.value.Storable
  | object properties => ∀ p, p ∈ properties → p.type.value.Storable
  | function params _ => ∀ p, p ∈ params → p.type.value.Passable
  | _ => True

/-- The annotation needs no module that is implemented in C++ alone. -/
def Portable : SchemaType → Prop
  | union _ => False
  | enum _ => False
  | mixed => False
  | function _ result => ¬ result.value.IsFunction
  | _ => True

/-- The annotation may stand where it stands in a module of the given sort. -/
def Legal
    (nativeOnly : Bool)
    (a : SchemaType) : Prop :=
  a.Placed ∧ (nativeOnly = false → a.Portable)

theorem unstorable?_eq_none_iff
    (a : SchemaType) :
    a.unstorable? = none ↔ a.Storable := by
  cases a <;> simp [unstorable?, Storable]

theorem unpassable?_eq_none_iff
    (a : SchemaType) :
    a.unpassable? = none ↔ a.Passable := by
  cases a <;> simp [unpassable?, Passable]

theorem isFunction_eq_true_iff
    (a : SchemaType) :
    a.isFunction = true ↔ a.IsFunction := by
  cases a <;> simp [isFunction, IsFunction]

/-! ## Annotations that hold no others -/

/-- The annotation holds no others and is no alias. -/
def Leaf : SchemaType → Prop
  | .alias _ => False
  | .object _ => False
  | .array (some _) => False
  | .function .. => False
  | _ => True

theorem Leaf.placed
    {a : SchemaType}
    (h : a.Leaf) :
    a.Placed := by
  cases a with
  | array element =>
      cases element with
      | none => trivial
      | some x => exact absurd h id
  | object properties => exact absurd h id
  | function params result => exact absurd h id
  | _ => trivial

theorem Leaf.not_alias
    {a : SchemaType}
    (h : a.Leaf)
    (name : String) :
    a ≠ .alias name := by
  rintro rfl
  exact h

theorem Leaf.not_part
    {a : SchemaType}
    (h : a.Leaf)
    (b : SchemaType) :
    ¬ b.Part a := by
  intro hpart
  cases hpart <;> exact h

theorem leaf_of_keyword?
    {word : String}
    {a : SchemaType}
    (h : keyword? word = some a) :
    a.Leaf ∧ a.Portable := by
  unfold keyword? at h
  split_ifs at h <;> cases h <;> exact ⟨trivial, trivial⟩

theorem leaf_of_named?
    {name : String}
    {a : SchemaType}
    (h : named? name = some a) :
    a.Leaf ∧ a.Portable := by
  unfold named? at h
  split_ifs at h <;> cases h <;> exact ⟨trivial, trivial⟩

/-- The annotation is of a kind that never holds others, and is no alias. -/
def Atomic : SchemaType → Prop
  | .alias _ => False
  | .object _ => False
  | .array _ => False
  | .function .. => False
  | _ => True

theorem atomic_of_keyword?
    {word : String}
    {a : SchemaType}
    (h : keyword? word = some a) :
    a.Atomic := by
  unfold keyword? at h
  split_ifs at h <;> cases h <;> trivial

theorem atomic_of_named?
    {name : String}
    {a : SchemaType}
    (h : named? name = some a) :
    a.Atomic := by
  unfold named? at h
  split_ifs at h <;> cases h <;> trivial

end SchemaType

/-! ## Named objects -/

namespace Alias

/-- The annotation of a named object. -/
def object (a : Alias) : SchemaType :=
  .object a.properties

/-- The object has an alias with the given name at some depth. -/
def Mentions
    (a : Alias)
    (name : String) : Prop :=
  (SchemaType.alias name).Occurs a.object

end Alias

end ModuleSpec
