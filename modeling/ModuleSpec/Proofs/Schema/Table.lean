import Mathlib.Data.List.Induction
import Mathlib.Data.List.Nodup
import ModuleSpec.Schema.Aliases

/-!
# Tables of named objects

What a table has after objects have been registered.  The first object of a name
stays, so a table only grows at its end, and its names are different from each
other.

**Results.**  Names (`nodup_names_registerAll`, `mem_names_registerAll`), entries
(`entries_isPrefix_registerAll`), and the object under a name when all objects
registered under it are the same (`find?_registerAll`).  Registering objects joins
a table with the table of these objects (`registerAll_eq_join`).
-/

namespace ModuleSpec

namespace Aliases

theorem contains_iff_mem_names
    (table : Aliases)
    (name : String) :
    table.contains name = true ↔ name ∈ table.names := by
  simp [contains, names]

/-- The names of a table stay different from each other. -/
theorem nodup_names_registerAll
    {table : Aliases}
    (as : List Alias)
    (h : table.names.Nodup) :
    (table.registerAll as).names.Nodup := by
  induction as generalizing table with
  | nil =>
      exact h
  | cons a as ih =>
      change ((table.register a).registerAll as).names.Nodup
      refine ih ?_
      by_cases hin : table.contains a.name = true
      · have hregister : table.register a = table := if_pos hin
        rw [hregister]
        exact h
      · have hregister : table.register a = ⟨table.entries ++ [a]⟩ := if_neg hin
        rw [contains_iff_mem_names] at hin
        rw [hregister]
        simp only [names, List.map_append, List.map_cons, List.map_nil]
        exact List.nodup_append.2 ⟨h, List.nodup_singleton _, by
          intro name hname other hother heq
          rw [List.mem_singleton.1 hother] at heq
          exact hin (heq ▸ hname)⟩

/-- Every name that has been registered is in the table. -/
theorem mem_names_registerAll
    {table : Aliases}
    {as : List Alias}
    {name : String}
    (h : name ∈ table.names ∨ name ∈ as.map Alias.name) :
    name ∈ (table.registerAll as).names := by
  induction as generalizing table with
  | nil =>
      exact h.resolve_right List.not_mem_nil
  | cons a as ih =>
      change name ∈ ((table.register a).registerAll as).names
      refine ih ?_
      rw [← contains_iff_mem_names, contains_register, Bool.or_eq_true, beq_iff_eq,
        contains_iff_mem_names]
      rcases h with h | h
      · exact .inl (.inl h)
      · rcases List.mem_cons.1 h with rfl | h
        · exact .inl (.inr rfl)
        · exact .inr h

theorem mem_of_find?_eq_some
    {table : Aliases}
    {name : String}
    {properties : List Shape}
    (h : table.find? name = some properties) :
    ⟨name, properties⟩ ∈ table.entries := by
  obtain ⟨a, ha, rfl⟩ := Option.map_eq_some_iff.1 h
  obtain rfl : a.name = name := by simpa using List.find?_some ha
  exact List.mem_of_find?_eq_some ha

/-- Registering objects changes and moves no entry of a table. -/
theorem entries_isPrefix_registerAll
    (table : Aliases)
    (as : List Alias) :
    table.entries <+: (table.registerAll as).entries := by
  induction as generalizing table with
  | nil =>
      exact List.prefix_rfl
  | cons a as ih =>
      refine List.IsPrefix.trans ?_ (ih (table.register a))
      unfold register
      split
      · exact List.prefix_rfl
      · exact List.prefix_append table.entries [a]

/-- A name under which one object is registered stands for that object. -/
theorem find?_registerAll
    {as : List Alias}
    {a : Alias}
    (ha : a ∈ as)
    (hsame : ∀ b, b ∈ as → b.name = a.name → b = a) :
    (empty.registerAll as).find? a.name = some a.properties := by
  have hname : a.name ∈ (empty.registerAll as).names :=
    mem_names_registerAll (.inr (List.mem_map_of_mem ha))
  cases hfind : (empty.registerAll as).find? a.name with
  | none =>
      obtain ⟨b, hb, hbname⟩ := List.mem_map.1 hname
      have hno := List.find?_eq_none.1 (Option.map_eq_none_iff.1 hfind) b hb
      simp [hbname] at hno
  | some properties =>
      have hmem := (mem_of_mem_registerAll (mem_of_find?_eq_some hfind)).resolve_left
        List.not_mem_nil
      rw [← hsame _ hmem rfl]

/-! ## Joining two tables -/

/-- The entries of a table, and those of another whose names are new. -/
def join (table other : Aliases) : Aliases :=
  ⟨table.entries ++ other.entries.filter fun a => !table.contains a.name⟩

theorem contains_join
    (table other : Aliases)
    (name : String) :
    (table.join other).contains name = (table.contains name || other.contains name) := by
  rw [Bool.eq_iff_iff]
  simp only [Bool.or_eq_true, contains_iff_mem_names, names, join, List.map_append,
    List.mem_append, List.mem_map, List.mem_filter, Bool.not_eq_true']
  constructor
  · rintro (h | ⟨a, ⟨ha, -⟩, hname⟩)
    · exact .inl h
    · exact .inr ⟨a, ha, hname⟩
  · rintro (h | ⟨a, ha, rfl⟩)
    · exact .inl h
    · cases htable : table.contains a.name with
      | true =>
          exact .inl (List.mem_map.1 ((table.contains_iff_mem_names _).1 htable))
      | false =>
          exact .inr ⟨a, ⟨ha, htable⟩, rfl⟩

/-- A name stands in a join for its object in the table, or else for the one in the other. -/
theorem find?_join
    (table other : Aliases)
    (name : String) :
    (table.join other).find? name = (table.find? name).or (other.find? name) := by
  simp only [find?, join, List.find?_append, Option.map_or]
  cases htable : table.entries.find? (fun a => a.name == name) with
  | some a =>
      rfl
  | none =>
      have hnew : table.contains name = false :=
        List.any_eq_false.2 (List.find?_eq_none.1 htable)
      have hkeep (a : Alias) :
          decide ((!table.contains a.name) = true ∧ (a.name == name) = true) =
            (a.name == name) := by
        by_cases h : a.name = name <;> simp [h, hnew]
      simp only [List.find?_filter, hkeep]

/-- Where equal names stand for equal objects, a join has the entries of both tables. -/
theorem mem_join_iff
    {table other : Aliases}
    (hsame : ∀ a, a ∈ table.entries → ∀ b, b ∈ other.entries → a.name = b.name → a = b)
    (a : Alias) :
    a ∈ (table.join other).entries ↔ a ∈ table.entries ∨ a ∈ other.entries := by
  constructor
  · intro ha
    exact (List.mem_append.1 ha).imp id fun h => (List.mem_filter.1 h).1
  · rintro (ha | ha)
    · exact List.mem_append_left _ ha
    · cases htable : table.contains a.name with
      | true =>
          obtain ⟨b, hb, hname⟩ := List.mem_map.1 ((table.contains_iff_mem_names _).1 htable)
          rw [← hsame b hb a ha hname]
          exact List.mem_append_left _ hb
      | false =>
          refine List.mem_append_right _ (List.mem_filter.2 ⟨ha, ?_⟩)
          rw [htable, Bool.not_false]

/-- An object is registered after a join as it is registered in the second table. -/
theorem register_join
    (table other : Aliases)
    (a : Alias) :
    (table.join other).register a = table.join (other.register a) := by
  have hjoin := contains_join table other a.name
  by_cases hother : other.contains a.name = true
  · rw [register, register, if_pos hother, hjoin, hother, Bool.or_true, if_pos rfl]
  · rw [Bool.not_eq_true] at hother
    rw [hother, Bool.or_false] at hjoin
    unfold register
    rw [hjoin, hother]
    cases htable : table.contains a.name <;>
      simp [join, htable]

/-- Registering objects in a table joins it with the table of these objects. -/
theorem registerAll_eq_join
    (table : Aliases)
    (as : List Alias) :
    table.registerAll as = table.join (empty.registerAll as) := by
  induction as using List.reverseRecOn with
  | nil =>
      exact congrArg Aliases.mk (List.append_nil table.entries).symm
  | append_singleton as a ih =>
      have happend (t : Aliases) : t.registerAll (as ++ [a]) = (t.registerAll as).register a :=
        t.registerAll_append as [a]
      rw [happend, happend, ih, register_join]

end Aliases

end ModuleSpec
