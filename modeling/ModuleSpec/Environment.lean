import ModuleSpec.Tree.Basic

/-!
# Type environments

The declarations of types in a file, by name, in the order in which the names
were first declared.  A later declaration of a name takes the place of an
earlier one.

**Results.**  Declaring a name changes what that name stands for and nothing
else.
-/

namespace ModuleSpec

/-- The types declared in a file, one declaration to a name. -/
structure Environment where
  declarations : List Declaration

namespace Environment

def empty : Environment := ⟨[]⟩

/-- What a name stands for. -/
def find?
    (env : Environment)
    (name : String) :
    Option Declaration :=
  env.declarations.find? fun d => d.name == name

def names (env : Environment) : List String :=
  env.declarations.map Declaration.name

/-- Puts a declaration in the place of the one of its name, or at the end. -/
def place (d : Declaration) : List Declaration → List Declaration
  | [] => [d]
  | e :: es =>
      if e.name = d.name then d :: es else e :: place d es

/-- The environment in which a further declaration has been met. -/
def declare
    (env : Environment)
    (d : Declaration) :
    Environment :=
  ⟨place d env.declarations⟩

/-- The types declared at the top level of a file. -/
def ofStatements (body : List Statement) : Environment :=
  (body.filterMap Statement.declaration?).foldl declare empty

def ofProgram (program : Program) : Environment :=
  ofStatements program.body

theorem find?_place
    (d : Declaration)
    (es : List Declaration)
    (name : String) :
    (place d es).find? (fun e => e.name == name) =
      if d.name = name then
        some d
      else
        es.find? fun e => e.name == name := by
  induction es with
  | nil =>
      by_cases h : d.name = name <;> simp [place, h]
  | cons e es ih =>
      by_cases hd : e.name = d.name
      · by_cases h : d.name = name <;>
          simp [place, hd, h]
      · by_cases he : e.name = name
        · have hn : ¬ d.name = name := fun h => hd (he.trans h.symm)
          rw [place, if_neg hd, if_neg hn]
          simp [he]
        · simp [place, hd, he, ih]

theorem find?_declare
    (env : Environment)
    (d : Declaration)
    (name : String) :
    (env.declare d).find? name =
      if d.name = name then some d else env.find? name :=
  find?_place d env.declarations name

end Environment

end ModuleSpec
