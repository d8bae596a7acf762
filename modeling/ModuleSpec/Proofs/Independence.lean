import ModuleSpec.Proofs.AliasAgreement

/-!
# Members by themselves

The members of an interface are built one after the other, with one list of
faults and one table of named objects.  Still what a member gives depends on
nothing but the member: not on its place, and not on the other members.

**Idea.**  An interface is put together from one entry for each member, and what
two lists of members give is joined.  The first object of a name stays, so the
order of the members could decide which object that is.  It does not, because all
objects that are registered under one name are the same.

**Results.**  What two lists of members give one after the other
(`buildMembers_append`), what a list gives in terms of its members by themselves
(`Members.Blocks`), and that the order of the members does not matter
(`members_independent`).
-/

namespace ModuleSpec

/-! ## One list after another -/

namespace Members

def empty : Members := ⟨.empty, [], []⟩

/-- What two lists of members give, one after the other. -/
def append (a b : Members) : Members :=
  ⟨a.aliases.join b.aliases, a.properties ++ b.properties, a.faults ++ b.faults⟩

theorem ofEntries_append
    (entries others : List Entry) :
    ofEntries (entries ++ others) = (ofEntries entries).append (ofEntries others) := by
  simp only [ofEntries, append, List.flatMap_append, List.filterMap_append,
    Aliases.registerAll_append]
  rw [Aliases.registerAll_eq_join (Aliases.empty.registerAll _)]

end Members

section Lists

variable {s : Scope}

theorem buildMembers_append
    (s : Scope)
    (xs ys : List Member) :
    buildMembers s (xs ++ ys) = (do
      let a ← buildMembers s xs
      let b ← buildMembers s ys
      return a.append b) := by
  simp only [buildMembers_eq_map, List.filter_append, List.mapM_append]
  cases (xs.filter Member.isProperty).mapM (buildEntry s) with
  | error halt =>
      rfl
  | ok entries =>
      cases (ys.filter Member.isProperty).mapM (buildEntry s) with
      | error halt =>
          rfl
      | ok others =>
          exact congrArg Except.ok (Members.ofEntries_append entries others)

theorem buildMembers_cons_eq_ok_iff
    {m : Member}
    {ms : List Member}
    {b : Members} :
    buildMembers s (m :: ms) = .ok b ↔
      ∃ a c, buildMembers s [m] = .ok a ∧ buildMembers s ms = .ok c ∧ b = a.append c := by
  rw [← List.singleton_append, buildMembers_append]
  cases buildMembers s [m] with
  | error halt =>
      exact ⟨nofun, nofun⟩
  | ok a =>
      cases buildMembers s ms with
      | error halt =>
          exact ⟨nofun, nofun⟩
      | ok c =>
          constructor
          · rintro ⟨⟩
            exact ⟨a, c, rfl, rfl, rfl⟩
          · rintro ⟨_, _, ⟨⟩, ⟨⟩, rfl⟩
            rfl

/-- A list of members is built exactly if each of its members is. -/
theorem exists_buildMembers_iff
    {ms : List Member} :
    (∃ b, buildMembers s ms = .ok b) ↔ ∀ m, m ∈ ms → ∃ a, buildMembers s [m] = .ok a := by
  induction ms with
  | nil =>
      exact ⟨fun _ => nofun, fun _ => ⟨.ofEntries [], rfl⟩⟩
  | cons m ms ih =>
      rw [List.forall_mem_cons, ← ih]
      constructor
      · rintro ⟨b, hb⟩
        obtain ⟨a, c, ha, hc, -⟩ := buildMembers_cons_eq_ok_iff.1 hb
        exact ⟨⟨a, ha⟩, ⟨c, hc⟩⟩
      · rintro ⟨⟨a, ha⟩, ⟨c, hc⟩⟩
        exact ⟨_, buildMembers_cons_eq_ok_iff.2 ⟨a, c, ha, hc, rfl⟩⟩

end Lists

/-! ## One member by itself -/

/-- What a member gives by itself; nothing if its lowering does not end. -/
def Scope.alone
    (s : Scope)
    (m : Member) :
    Members :=
  (buildMembers s [m]).toOption.getD .empty

theorem alone_eq
    {s : Scope}
    {m : Member}
    {a : Members}
    (h : buildMembers s [m] = .ok a) :
    s.alone m = a := by
  rw [Scope.alone, h]
  rfl

/-- A list of members gives what its members give by themselves, in their order. -/
structure Members.Blocks
    (s : Scope)
    (ms : List Member)
    (b : Members) : Prop where
  alone : ∀ m, m ∈ ms → buildMembers s [m] = .ok (s.alone m)
  properties : b.properties = ms.flatMap fun m => (s.alone m).properties
  faults : b.faults = ms.flatMap fun m => (s.alone m).faults

theorem blocks_of_buildMembers
    {s : Scope}
    {ms : List Member}
    {b : Members}
    (h : buildMembers s ms = .ok b) :
    b.Blocks s ms := by
  induction ms generalizing b with
  | nil =>
      cases h
      exact ⟨nofun, rfl, rfl⟩
  | cons m ms ih =>
      obtain ⟨a, c, ha, hc, rfl⟩ := buildMembers_cons_eq_ok_iff.1 h
      obtain rfl := alone_eq ha
      obtain ⟨halone, hproperties, hfaults⟩ := ih hc
      constructor
      · exact List.forall_mem_cons.2 ⟨ha, halone⟩
      · rw [List.flatMap_cons, ← hproperties]
        rfl
      · rw [List.flatMap_cons, ← hfaults]
        rfl

/-! ## The order of the members -/

theorem entries_of_buildMembers
    {s : Scope}
    {ms : List Member}
    {b : Members}
    (h : buildMembers s ms = .ok b) :
    ∃ entries,
      (ms.filter Member.isProperty).mapM (buildEntry s) = .ok entries ∧ b = .ofEntries entries := by
  rw [buildMembers_eq_map] at h
  cases hentries : (ms.filter Member.isProperty).mapM (buildEntry s) with
  | error halt =>
      rw [hentries] at h
      cases h
  | ok entries =>
      rw [hentries] at h
      cases h
      exact ⟨entries, rfl, rfl⟩

theorem nodup_entries_of_buildMembers
    {s : Scope}
    {ms : List Member}
    {b : Members}
    (h : buildMembers s ms = .ok b) :
    b.aliases.entries.Nodup := by
  obtain ⟨entries, -, rfl⟩ := entries_of_buildMembers h
  exact List.Nodup.of_map _ (Aliases.nodup_names_registerAll _ List.nodup_nil)

section Order

variable {moduleName : String} {env : Environment} {nativeOnly : Bool}

/-- The table of a list of members has what is fresh under each name. -/
theorem isFresh_of_buildMembers
    {ms : List Member}
    {b : Members}
    (h : buildMembers (memberScope moduleName env nativeOnly) ms = .ok b)
    {a : Alias}
    (ha : a ∈ b.aliases.entries) :
    a.IsFresh env nativeOnly := by
  obtain ⟨entries, hentries, rfl⟩ := entries_of_buildMembers h
  have hmem := (Aliases.mem_of_mem_registerAll ha).resolve_left List.not_mem_nil
  obtain ⟨e, he, hae⟩ := List.mem_flatMap.1 hmem
  obtain ⟨m, -, hme⟩ := exists_of_mem_mapM hentries he
  exact isFresh_of_entry hme hae

/-- The table of a list of members has what its members register by themselves. -/
theorem mem_aliases_iff
    {ms : List Member}
    {b : Members}
    (h : buildMembers (memberScope moduleName env nativeOnly) ms = .ok b)
    (a : Alias) :
    a ∈ b.aliases.entries ↔
      ∃ m, m ∈ ms ∧ a ∈ ((memberScope moduleName env nativeOnly).alone m).aliases.entries := by
  induction ms generalizing b with
  | nil =>
      cases h
      exact ⟨nofun, nofun⟩
  | cons m ms ih =>
      obtain ⟨first, rest, hfirst, hrest, rfl⟩ := buildMembers_cons_eq_ok_iff.1 h
      have hsame : ∀ a, a ∈ first.aliases.entries → ∀ b, b ∈ rest.aliases.entries →
          a.name = b.name → a = b :=
        fun a ha b hb =>
          (isFresh_of_buildMembers hfirst ha).eq (isFresh_of_buildMembers hrest hb)
      rw [Members.append, Aliases.mem_join_iff hsame, ih hrest, ← alone_eq hfirst]
      simp only [List.exists_mem_cons_iff]

end Order

/--
What members give depends on neither their order nor their neighbours.  A list
after another gives what both give, of the objects of the second those whose
names are new.  Each member gives its own methods and faults at its place.  In
another order the members register the same objects.
-/
structure Scope.MembersIndependent (s : Scope) : Prop where
  append : ∀ xs ys,
    buildMembers s (xs ++ ys) = (do
      let a ← buildMembers s xs
      let b ← buildMembers s ys
      return a.append b)
  blocks : ∀ ms b, buildMembers s ms = .ok b → b.Blocks s ms
  reorder : ∀ xs ys b, xs.Perm ys → buildMembers s xs = .ok b →
    ∃ c, buildMembers s ys = .ok c ∧ c.Blocks s ys ∧
      b.aliases.entries.Perm c.aliases.entries

theorem members_independent
    (moduleName : String)
    (env : Environment)
    (nativeOnly : Bool) :
    (memberScope moduleName env nativeOnly).MembersIndependent := by
  refine ⟨buildMembers_append _, fun _ _ => blocks_of_buildMembers, ?_⟩
  intro xs ys b hperm hb
  have hys : ∀ m, m ∈ ys →
      ∃ a, buildMembers (memberScope moduleName env nativeOnly) [m] = .ok a :=
    fun m hm => exists_buildMembers_iff.1 ⟨b, hb⟩ m (hperm.mem_iff.2 hm)
  obtain ⟨c, hc⟩ := exists_buildMembers_iff.2 hys
  refine ⟨c, hc, blocks_of_buildMembers hc, ?_⟩
  rw [List.perm_ext_iff_of_nodup (nodup_entries_of_buildMembers hb)
    (nodup_entries_of_buildMembers hc)]
  intro a
  simp only [mem_aliases_iff hb, mem_aliases_iff hc, hperm.mem_iff]

end ModuleSpec
