import ModuleSpec.Proofs.Entries
import ModuleSpec.Proofs.Schema.Table

/-!
# The order of named objects

An object can mention others by their names.  It is registered at the end of its
lowering, when everything that it mentions has been registered already, so that
the objects of a lowering come in an order in which each mentions only earlier
ones.  The order survives what happens to the objects afterwards: faults cut a
lowering short, a dropped method takes its objects with it, and of the objects
of all methods only the first of each name stays.

**Results.**  In the table of a built schema every name that is mentioned has an
entry, and an entry mentions only entries before it (`schema_grounded`).  So no
object mentions itself, however long the way.
-/

namespace ModuleSpec

/-! ## Lists in order -/

/-- Each object mentions only names that are known or come before it. -/
def InOrder : List String → List Alias → Prop
  | _, [] => True
  | known, a :: as => (∀ name, a.Mentions name → name ∈ known) ∧ InOrder (known ++ [a.name]) as

namespace InOrder

/-- More known names do not disturb the order. -/
theorem mono
    {known known' : List String}
    {as : List Alias}
    (h : InOrder known as)
    (hsub : known ⊆ known') :
    InOrder known' as := by
  induction as generalizing known known' with
  | nil =>
      trivial
  | cons a as ih =>
      obtain ⟨ha, has⟩ := h
      refine ⟨fun name hname => hsub (ha name hname), ih has ?_⟩
      exact List.append_subset.2
        ⟨List.subset_append_of_subset_left _ hsub, List.subset_append_right _ _⟩

theorem append_iff
    {known : List String}
    {as bs : List Alias} :
    InOrder known (as ++ bs) ↔
      InOrder known as ∧ InOrder (known ++ as.map Alias.name) bs := by
  induction as generalizing known with
  | nil =>
      simp [InOrder]
  | cons a as ih =>
      simp only [List.cons_append, InOrder, ih, List.map_cons, List.append_assoc,
        List.nil_append, and_assoc]

/-- Lists that are in order by themselves are in order one after the other. -/
theorem flatMap
    {α : Type}
    {f : α → List Alias}
    {l : List α}
    (known : List String)
    (h : ∀ a, a ∈ l → InOrder [] (f a)) :
    InOrder known (l.flatMap f) := by
  induction l generalizing known with
  | nil =>
      trivial
  | cons a l ih =>
      rw [List.flatMap_cons, append_iff]
      refine ⟨(h a List.mem_cons_self).mono (List.nil_subset _), ih _ ?_⟩
      exact fun b hb => h b (List.mem_cons_of_mem a hb)

/-- An object in the list mentions only names before it. -/
theorem mentions_before
    {before after : List Alias}
    {a : Alias}
    (h : InOrder [] (before ++ a :: after))
    {name : String}
    (hname : a.Mentions name) :
    name ∈ before.map Alias.name := by
  obtain ⟨-, ha, -⟩ := append_iff.1 h
  exact ha name hname

end InOrder

/-! ## Tables in order -/

namespace Aliases

/-- Registering objects in order keeps a table in order. -/
theorem inOrder_registerAll
    {table : Aliases}
    {as : List Alias}
    (htable : InOrder [] table.entries)
    (has : InOrder table.names as) :
    InOrder [] (table.registerAll as).entries := by
  induction as generalizing table with
  | nil =>
      exact htable
  | cons a as ih =>
      obtain ⟨ha, has⟩ := has
      change InOrder [] ((table.register a).registerAll as).entries
      by_cases hin : table.contains a.name = true
      · have hregister : table.register a = table := if_pos hin
        rw [hregister]
        refine ih htable (has.mono (List.append_subset.2 ⟨List.Subset.refl _, ?_⟩))
        intro name hname
        rw [List.mem_singleton.1 hname]
        exact (contains_iff_mem_names table a.name).1 hin
      · have hregister : table.register a = ⟨table.entries ++ [a]⟩ := if_neg hin
        rw [hregister]
        refine ih (InOrder.append_iff.2 ⟨htable, ha, trivial⟩) ?_
        simpa [names] using has

/-- The first object mentions the second, as the table has them. -/
def Refers
    (table : Aliases)
    (name other : String) : Prop :=
  ∃ a, a ∈ table.entries ∧ a.name = name ∧ a.Mentions other

/-- In a table in order, what an object mentions stands before it. -/
theorem idxOf_lt_of_refers
    {table : Aliases}
    (horder : InOrder [] table.entries)
    (hnodup : table.names.Nodup)
    {name other : String}
    (h : table.Refers name other) :
    table.names.idxOf other < table.names.idxOf name := by
  obtain ⟨a, ha, rfl, hmentions⟩ := h
  obtain ⟨before, after, hentries⟩ := List.append_of_mem ha
  have hnames : table.names = before.map Alias.name ++ a.name :: after.map Alias.name := by
    simp [names, hentries]
  rw [hentries] at horder
  rw [hnames] at hnodup ⊢
  have hother : other ∈ before.map Alias.name := horder.mentions_before hmentions
  have hname : a.name ∉ before.map Alias.name := by
    intro hmem
    exact (List.nodup_append.1 hnodup).2.2 _ hmem _ List.mem_cons_self rfl
  rw [List.idxOf_append_of_mem hother, List.idxOf_append_of_notMem hname,
    List.idxOf_cons_self, Nat.add_zero]
  exact List.idxOf_lt_length_of_mem hother

/-- No object of a table in order mentions itself, however long the way. -/
theorem not_transGen_refers_self
    {table : Aliases}
    (horder : InOrder [] table.entries)
    (hnodup : table.names.Nodup)
    (name : String) :
    ¬ Relation.TransGen table.Refers name name := by
  have hlt : ∀ other, Relation.TransGen table.Refers name other →
      table.names.idxOf other < table.names.idxOf name := by
    intro other h
    induction h with
    | single h => exact idxOf_lt_of_refers horder hnodup h
    | tail _ h ih => exact Nat.lt_trans (idxOf_lt_of_refers horder hnodup h) ih
  intro h
  exact Nat.lt_irrefl _ (hlt name h)

end Aliases

/-! ## The objects of a lowering -/

namespace AliasOrder

/-- Objects are registered in order, and a value mentions registered objects only. -/
def invariant : Invariant where
  node _ := True
  fault _ := True
  events es := InOrder [] (Lowering.registered es)
  value es a := ∀ name, (SchemaType.alias name).Occurs a →
    name ∈ (Lowering.registered es).map Alias.name

theorem invariant_registers
    (lower : Lower)
    (scope : Scope) :
    invariant.Registers lower scope := by
  intro t members span name properties es _ _ _ hes hvalue
  have hregistered : Lowering.registered (es ++ [.registered ⟨name, properties⟩]) =
      Lowering.registered es ++ [⟨name, properties⟩] :=
    Lowering.registered_append _ _
  constructor
  · change InOrder [] (Lowering.registered (es ++ [.registered ⟨name, properties⟩]))
    rw [hregistered]
    exact InOrder.append_iff.2 ⟨hes, hvalue, trivial⟩
  · intro other hother
    rw [hregistered]
    rcases SchemaType.occurs_cases hother with heq | ⟨c, hc, -⟩
    · cases heq
      simp
    · cases hc

theorem invariant_sound
    (scope : Scope) :
    invariant.SoundWithin scope where
  remaining := fun _ _ _ _ _ _ => trivial
  declared := fun _ _ _ _ _ => trivial
  nil := trivial
  append := by
    intro es es' hes hes'
    change InOrder [] (Lowering.registered (es ++ es'))
    rw [Lowering.registered_append]
    exact InOrder.append_iff.2 ⟨hes, hes'.mono (List.nil_subset _)⟩
  raised := fun _ _ => trivial
  recorded := fun _ => trivial
  mono := by
    intro es es' a hsub hvalue name hname
    exact List.map_subset _ (List.filterMap_subset _ hsub) (hvalue name hname)
  compose := by
    intro es a _ halias hparts name hname
    rcases SchemaType.occurs_cases hname with rfl | ⟨c, hc, hoccurs⟩
    · exact absurd rfl (halias name)
    · exact hparts c hc name hoccurs
  registers := fun depth => invariant_registers (lowerWithin depth) scope
  registersPassing := fun depth => invariant_registers (lowerWithin depth) scope.passing

end AliasOrder

/-! ## The objects of a schema -/

/-- Every name that is mentioned has an entry, and entries mention earlier ones. -/
structure Schema.Grounded (schema : Schema) : Prop where
  closed : ∀ p, p ∈ schema.properties → ∀ name,
    (SchemaType.alias name).Occurs p.type.value → name ∈ schema.aliases.names
  ordered : ∀ before a after, schema.aliases.entries = before ++ a :: after →
    ∀ name, a.Mentions name → name ∈ before.map Alias.name
  unique : schema.aliases.names.Nodup
  acyclic : ∀ name, ¬ Relation.TransGen schema.aliases.Refers name name

/-- In a built schema no name is left open, and no object mentions itself. -/
theorem schema_grounded
    {moduleName : String}
    {program : Program}
    {built : Built}
    (h : buildSchema moduleName program = .ok built) :
    built.schema.Grounded := by
  obtain ⟨i, registered, entries, -, -, hentries, rfl⟩ := buildSchema_eq_ok h
  have hsound := AliasOrder.invariant_sound (programScope moduleName program registered)
  have hevery : ∀ m, m ∈ i.members → (Node.member m).Every fun _ => True :=
    fun _ _ _ _ => trivial
  have horder : InOrder []
      (Aliases.empty.registerAll (entries.flatMap Entry.aliases)).entries := by
    refine Aliases.inOrder_registerAll trivial (InOrder.flatMap _ ?_)
    intro e he
    obtain ⟨m, hm, hme⟩ := exists_of_mem_mapM hentries he
    obtain ⟨es, hes, -, haliases, -⟩ :=
      hsound.keeps_buildEntry (hevery m (List.mem_filter.1 hm).1) hme
    rw [haliases]
    split
    · exact hes
    · trivial
  have hnodup : (Aliases.empty.registerAll (entries.flatMap Entry.aliases)).names.Nodup :=
    Aliases.nodup_names_registerAll _ List.nodup_nil
  refine ⟨?_, ?_, hnodup, Aliases.not_transGen_refers_self horder hnodup⟩
  · intro p hp name hname
    obtain ⟨es, -, hmethod, hsub⟩ := hsound.method_of_entries hevery hentries hp
    refine Aliases.mem_names_registerAll (.inr ?_)
    exact List.map_subset _ hsub (hmethod.1 name hname)
  · intro before a after heq name hname
    have hsplit : InOrder [] (before ++ a :: after) := heq ▸ horder
    exact hsplit.mentions_before hname

theorem mapSpec_grounded :
    ∃ built, buildSchema "NativeMap" MapSpec.program = .ok built ∧
      built.schema.aliases.names = ["Size", "Area"] ∧
      built.schema.Grounded := by
  obtain ⟨built, hbuilt, hnames, -⟩ := MapSpec.exists_built
  exact ⟨built, hbuilt, hnames, schema_grounded hbuilt⟩

end ModuleSpec
