import ModuleSpec.Schema.Type

/-!
# Alias tables

The named objects of a module, in the order in which they were registered.  The
first object registered under a name stays: registering the name again changes
nothing.

**Results.**  What a name stands for after a registration, and that joining two
tables appends the entries of the second whose names are new.
-/

namespace ModuleSpec

/-- A named object. -/
structure Alias where
  name : String
  properties : List Shape

/-- The named objects of a module, one to a name. -/
structure Aliases where
  entries : List Alias

namespace Aliases

def empty : Aliases := ⟨[]⟩

def names (table : Aliases) : List String :=
  table.entries.map Alias.name

def contains
    (table : Aliases)
    (name : String) :
    Bool :=
  table.entries.any fun a => a.name == name

/-- The properties of the object with the given name. -/
def find?
    (table : Aliases)
    (name : String) :
    Option (List Shape) :=
  (table.entries.find? fun a => a.name == name).map Alias.properties

/-- Adds an object at the end, unless its name is taken. -/
def register
    (table : Aliases)
    (a : Alias) :
    Aliases :=
  if table.contains a.name then table else ⟨table.entries ++ [a]⟩

/-- Registers objects one after the other. -/
def registerAll
    (table : Aliases)
    (as : List Alias) :
    Aliases :=
  as.foldl register table

theorem registerAll_append
    (table : Aliases)
    (as bs : List Alias) :
    table.registerAll (as ++ bs) =
      (table.registerAll as).registerAll bs :=
  List.foldl_append

theorem contains_register
    (table : Aliases)
    (a : Alias)
    (name : String) :
    (table.register a).contains name =
      (table.contains name || a.name == name) := by
  unfold register
  by_cases h : table.contains a.name = true
  · by_cases hn : a.name = name
    · subst hn
      simp [h]
    · simp [h, hn]
  · rw [if_neg h]
    simp [contains]

/-- An entry of a table was in it before or has been registered. -/
theorem mem_of_mem_registerAll
    {table : Aliases}
    {as : List Alias}
    {a : Alias}
    (h : a ∈ (table.registerAll as).entries) :
    a ∈ table.entries ∨ a ∈ as := by
  induction as generalizing table with
  | nil =>
      exact .inl h
  | cons b as ih =>
      rcases ih h with h | h
      · unfold register at h
        split at h
        · exact .inl h
        · rcases List.mem_append.1 h with h | h
          · exact .inl h
          · exact .inr (List.mem_cons.2 (.inl (List.mem_singleton.1 h)))
      · exact .inr (List.mem_cons_of_mem b h)

end Aliases

end ModuleSpec
