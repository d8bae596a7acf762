import ModuleSpec.Environment

/-!
# Resolution of type annotations

An annotation is resolved in two alternating steps.  Peeling takes off what
changes only whether a value may be absent: a union loses its null and undefined
members, and Readonly of one type is that type.  Following replaces a reference
to a declared alias or interface by what it stands for; no name is followed
twice, so a cycle of aliases ends at the reference that closes it.  A reference
to an enum is left as it is.

**Results.**  The steps end because each name followed leaves one fewer to
follow.
-/

namespace ModuleSpec

namespace Ty

/-- Whether a type is one of the two keywords for an absent value. -/
def isNull : Ty → Bool
  | keyword word _ => word == "null" || word == "undefined"
  | _ => false

end Ty

/-- A type, and whether its value may be absent. -/
structure Peeled where
  nullable : Bool
  type : Ty

mutual

/-- Takes off Readonly and the members of a union that stand for no value. -/
def Ty.peel : Ty → Peeled
  | .reference name (some [inner]) span =>
      if name = "Readonly" then
        inner.peel
      else
        ⟨false, .reference name (some [inner]) span⟩
  | .union members span =>
      if members.any Ty.isNull then
        match members.filter fun m => !m.isNull, members with
        | [], first :: _ => ⟨true, first⟩
        | [], [] => ⟨true, .union [] span⟩
        | [_], _ => ⟨true, (Ty.peelPresent members).type⟩
        | rest, _ => ⟨true, .union rest span⟩
      else
        ⟨false, .union members span⟩
  | t => ⟨false, t⟩

/-- Peels the first type of a list that stands for a value. -/
def Ty.peelPresent : List Ty → Peeled
  | [] => ⟨true, .union [] Span.none⟩
  | t :: ts => if t.isNull then Ty.peelPresent ts else t.peel

end

/-- What an annotation stands for, and the last name followed to find it. -/
structure Resolved where
  nullable : Bool
  type : Ty
  alias? : Option String

namespace Declaration

/-- The type that a reference to the declaration stands for; an enum has none. -/
def type? : Declaration → Option Ty
  | .interface i => some (.object i.members i.span)
  | .typeAlias a => some a.type
  | .enum _ => none

end Declaration

namespace Environment

/-- The name that a peeled type refers to, with what it stands for. -/
def target?
    (env : Environment)
    (followed : List String) :
    Ty → Option (String × Ty)
  | .reference name _ _ =>
      if followed.contains name then
        none
      else
        ((env.find? name).bind Declaration.type?).map fun t => (name, t)
  | _ => none

/-- Resolution that follows at most the given number of names. -/
def resolveWithin
    (env : Environment) :
    Nat → List String → Resolved → Resolved
  | budget, followed, found =>
      let peeled := found.type.peel
      let nullable := found.nullable || peeled.nullable
      match budget, env.target? followed peeled.type with
      | budget + 1, some (name, type) =>
          resolveWithin env budget (name :: followed) ⟨nullable, type, some name⟩
      | _, _ =>
          ⟨nullable, peeled.type, found.alias?⟩

/-- Strips nullability and follows the names of aliases and interfaces. -/
def resolve
    (env : Environment)
    (type : Ty) :
    Resolved :=
  env.resolveWithin env.declarations.length [] ⟨false, type, none⟩

end Environment

end ModuleSpec
