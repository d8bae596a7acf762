import ModuleSpec.Proofs.Lowering.Carry
import ModuleSpec.Proofs.Lowering.Weaken
import ModuleSpec.Proofs.Schema.Table

/-!
# Naming an annotation

An annotation can be declared under a name that has not been used, and then be
referred to by that name.  Resolution follows the name first and goes on as it
would have from the annotation itself.

**Idea.**  The one trace that the name leaves is that it was followed.  A name that
is followed later takes its place, and only an object asks which name was followed
last.  So the two lowerings are the same step, and they differ when the annotation
is an object literal itself, or is one but for nulls and Readonly.

**Results.**  What is lowered under the name ends as what is lowered by itself, with
the same events.  Of an object literal it gives the name, and registers the object
at the end (`lower_named`).
-/

namespace ModuleSpec

/-! ## A name that is not used -/

instance
    (known : String → Prop)
    [DecidablePred known]
    (n : Node) :
    Decidable (n.Knows known) :=
  inferInstanceAs (Decidable (∀ m, m ∈ n.walk → ∀ name, name ∈ m.mentions → known name))

namespace Environment

/-- The name is not declared, and nothing that is declared mentions it. -/
structure Omits
    (env : Environment)
    (name : String) : Prop where
  undeclared : name ∉ env.names
  unmentioned : env.Every fun m => ∀ n, n ∈ m.mentions → n ≠ name

/-- The environment in which the annotation is declared under a further name. -/
def naming
    (env : Environment)
    (name : String)
    (t : Ty)
    (span : Span) :
    Environment :=
  env.declare (.typeAlias ⟨name, t, span⟩)

section Naming

variable {env : Environment} {name : String} {t : Ty}

theorem typeOf?_naming
    (env : Environment)
    (name : String)
    (t : Ty)
    (span : Span)
    (n : String) :
    (env.naming name t span).typeOf? n = if name = n then some t else env.typeOf? n := by
  unfold typeOf? naming
  rw [find?_declare]
  by_cases h : name = n
  · rw [if_pos (by exact h), if_pos h]
    rfl
  · rw [if_neg (by exact h), if_neg h]

/-- Apart from the new name the two environments agree. -/
theorem agreeOn_naming
    (h : env.Omits name)
    (span : Span) :
    env.AgreeOn (· ≠ name) (env.naming name t span) where
  find? := by
    intro n hn
    rw [naming, find?_declare]
    exact if_neg (Ne.symm hn)
  closed := h.unmentioned

/-- What is declared does not mention the new name, the annotation included. -/
theorem every_naming
    (h : env.Omits name)
    (ht : (Node.type t).Knows (· ≠ name))
    (span : Span) :
    (env.naming name t span).Every fun m => ∀ n, n ∈ m.mentions → n ≠ name := by
  intro n u hu
  rw [typeOf?_naming] at hu
  split at hu
  · cases hu
    exact ht
  · exact h.unmentioned n u hu

end Naming

end Environment

/-! ## Resolution -/

namespace Resolved

/-- What is found when the name was followed to begin with. -/
def under
    (r : Resolved)
    (name : String) :
    Resolved :=
  { r with alias? := r.alias?.or (some name) }

/-- An object was found, and no name was followed to find it. -/
def IsLiteral (r : Resolved) : Prop :=
  r.alias? = none ∧ ∃ members span, r.type = .object members span

end Resolved

namespace Environment

section Resolution

variable {env : Environment} {name : String} {t : Ty}

/-- A name that nothing refers to does not matter among those that were followed. -/
theorem target?_append
    (ht : (Node.type t).Knows (· ≠ name))
    (followed : List String) :
    env.target? (followed ++ [name]) t = env.target? followed t := by
  cases t with
  | reference n typeArgs span =>
      have hn : n ≠ name := ht.self n List.mem_cons_self
      have hsame : (followed ++ [name]).contains n = followed.contains n := by
        simp [hn]
      rw [target?, target?, hsame]
  | _ => rfl

/-- Resolution goes on from an unused name as it begins, but for the name. -/
theorem resolveWithin_under
    (hclosed : env.Every fun m => ∀ n, n ∈ m.mentions → n ≠ name)
    {budget budget' : Nat}
    {followed : List String}
    (hbudget : env.Affords budget followed)
    (hbudget' : env.Affords budget' (followed ++ [name]))
    (found : Resolved)
    (hfound : (Node.type found.type).Knows (· ≠ name)) :
    env.resolveWithin budget' (followed ++ [name]) (found.under name) =
      (env.resolveWithin budget followed found).under name := by
  have hpeel : (Node.type found.type.peel.type).Knows (· ≠ name) :=
    found.type.peelsTo_peel.every (keepsRemaining_mentions _) hfound
  have hsame : env.target? (followed ++ [name]) (found.under name).type.peel.type =
      env.target? followed found.type.peel.type :=
    target?_append hpeel followed
  cases htarget : env.target? followed found.type.peel.type with
  | none =>
      rw [resolveWithin_stop _ htarget, resolveWithin_stop _ (hsame.trans htarget)]
      rfl
  | some next =>
      obtain ⟨n, u⟩ := next
      have htarget' := hsame.trans htarget
      obtain ⟨rest, rfl, hafford⟩ := hbudget.exists_succ htarget
      obtain ⟨rest', rfl, hafford'⟩ := hbudget'.exists_succ htarget'
      rw [resolveWithin_follow _ htarget, resolveWithin_follow _ htarget']
      have hnext : (Node.type u).Knows (· ≠ name) := hclosed n u (target?_eq_some htarget)
      exact resolveWithin_under hclosed hafford hafford' ⟨_, u, some n⟩ hnext

/-- The name resolves to what the annotation resolves to where the name is not declared. -/
theorem resolve_naming
    (h : env.Omits name)
    (ht : (Node.type t).Knows (· ≠ name))
    (span span' : Span) :
    (env.naming name t span).resolve (.reference name none span') =
      (env.resolve t).under name := by
  have hpeel : (Ty.reference name none span').peel = ⟨false, .reference name none span'⟩ := by
    simp [Ty.peel]
  have htarget : (env.naming name t span).target? []
      (Ty.reference name none span').peel.type = some (name, t) := by
    have htype := typeOf?_naming env name t span name
    rw [if_pos rfl] at htype
    rw [hpeel, target?, if_neg (by simp)]
    exact congrArg (Option.map fun t => (name, t)) htype
  obtain ⟨rest, hrest, hafford⟩ := (affords_nil (env.naming name t span)).exists_succ htarget
  calc (env.naming name t span).resolve (.reference name none span')
      = (env.naming name t span).resolveWithin rest [name] ⟨false, t, some name⟩ := by
        rw [resolve, hrest, resolveWithin_follow rest htarget, hpeel]
        rfl
    _ = ((env.naming name t span).resolve t).under name :=
        resolveWithin_under (every_naming h ht span) (affords_nil _) hafford ⟨false, t, none⟩ ht
    _ = (env.resolve t).under name := by
        rw [(agreeOn_naming h span).resolve ht]

end Resolution

end Environment

/-! ## Lowering -/

/-- Of an object the name is given, and the object is registered at the end. -/
def Lowering.named
    (x : Lowering (Nullable SchemaType))
    (name : String) :
    Lowering (Nullable SchemaType) :=
  match x.outcome with
  | .ok ⟨nullable, .object properties⟩ =>
      ⟨.ok ⟨nullable, .alias name⟩, x.events ++ [.registered ⟨name, properties⟩]⟩
  | _ => x

section Step

variable {f : Lower} {s : Scope} {t u : Ty} {name : String}

theorem lowerObject_named
    (f : Lower)
    (s : Scope)
    (members : List Member)
    (name : String)
    (nullable : Bool) :
    lowerObject f s members (some name) nullable =
      (lowerObject f s members none nullable).named name := by
  unfold lowerObject
  generalize Lowering.collect
    (fun m => s.capture.guard (lowerObjectMember f s m)) members = run
  obtain ⟨halt | properties, events⟩ := run
  · rfl
  · change _ = (⟨.ok ⟨nullable, .object properties⟩, events ++ []⟩ :
      Lowering (Nullable SchemaType)).named name
    rw [List.append_nil]
    rfl

/-- Without names followed, only an object literal shows that one was followed before. -/
theorem lowerStep_of_not_literal
    (h : s.types.resolve u = (s.types.resolve t).under name)
    (hliteral : ¬ (s.types.resolve t).IsLiteral) :
    lowerStep f s u = lowerStep f s t := by
  simp only [lowerStep, h]
  generalize s.types.resolve t = r at hliteral ⊢
  obtain ⟨nullable, type, _ | a⟩ := r
  · cases type with
    | object members span => exact absurd ⟨rfl, members, span, rfl⟩ hliteral
    | _ => rfl
  · rfl

theorem lowerStep_of_literal
    (h : s.types.resolve u = (s.types.resolve t).under name)
    (hliteral : (s.types.resolve t).IsLiteral) :
    lowerStep f s u = (lowerStep f s t).named name ∧
      ∀ found, (lowerStep f s t).outcome = .ok found →
        ∃ properties, found.value = .object properties := by
  simp only [lowerStep, h]
  generalize s.types.resolve t = r at hliteral ⊢
  obtain ⟨nullable, type, alias?⟩ := r
  obtain ⟨rfl, members, span, rfl⟩ := hliteral
  refine ⟨lowerObject_named f s members name nullable, ?_⟩
  intro found hfound
  obtain ⟨properties, -, hvalue⟩ := Lowering.outcome_bind_eq_ok_iff.1 hfound
  cases hvalue
  exact ⟨properties, rfl⟩

end Step

/-- What is registered has a declared name. -/
theorem declared_of_registered
    {s : Scope}
    {t : Ty}
    {a : Alias}
    (ha : .registered a ∈ (lower s t).events) :
    a.name ∈ s.types.names := by
  have hregisters : ∀ scope : Scope, scope.types = s.types → ∀ depth,
      (Invariant.ofRegistered fun a => a.name ∈ s.types.names).Registers
        (lowerWithin depth) scope := by
    rintro scope htypes depth t members span name properties es - halias - hes -
    refine ⟨?_, trivial⟩
    intro b hb
    rcases List.mem_append.1 hb with hb | hb
    · exact hes b hb
    · cases List.mem_singleton.1 hb
      obtain ⟨u, hu, -⟩ := Environment.resolve_type_of_alias_some halias
      obtain ⟨d, hd, -⟩ := Option.bind_eq_some_iff.1 hu
      have hname : d.name = name := by simpa using List.find?_some hd
      rw [← htypes]
      exact List.mem_map.2 ⟨d, List.mem_of_find?_eq_some hd, hname⟩
  exact ((Invariant.soundWithin_ofRegistered (hregisters s rfl)
    (hregisters s.passing rfl)).keeps_lower fun _ _ => trivial).events a ha

/-- An object with a new name is put at the end of a table. -/
theorem Aliases.registerAll_concat
    {table : Aliases}
    {as : List Alias}
    {a : Alias}
    (htable : a.name ∉ table.names)
    (has : ∀ b, b ∈ as → b.name ≠ a.name) :
    (table.registerAll (as ++ [a])).entries = (table.registerAll as).entries ++ [a] := by
  have hnew : ¬ (table.registerAll as).contains a.name = true := by
    rw [contains_iff_mem_names]
    intro hmem
    obtain ⟨b, hb, hname⟩ := List.mem_map.1 hmem
    rcases mem_of_mem_registerAll hb with hb | hb
    · exact htable (List.mem_map.2 ⟨b, hb, hname⟩)
    · exact has b hb hname
  rw [registerAll_append]
  change ((table.registerAll as).register a).entries = _
  rw [register, if_neg hnew]

/-! ## The two lowerings -/

/-- How the lowering of a name differs from that of the annotation that it names. -/
structure NamesOnly
    (name : String)
    (literal : Prop)
    (plain named : Lowering (Nullable SchemaType)) : Prop where
  terminates : named.Terminates
  same : ¬ literal → named = plain
  failed : ∀ halt, plain.outcome = .error halt → named = plain
  recorded : ∀ channel,
    Lowering.recordedOn channel named.events = Lowering.recordedOn channel plain.events
  object : literal → ∀ found, plain.outcome = .ok found →
    named.outcome = .ok ⟨found.nullable, .alias name⟩ ∧
      ∃ properties, found.value = .object properties ∧
        ∀ table : Aliases, name ∉ table.names →
          (table.registerAll (Lowering.registered named.events)).entries =
            (table.registerAll (Lowering.registered plain.events)).entries ++
              [⟨name, properties⟩]

theorem namesOnly_refl
    {name : String}
    {literal : Prop}
    {x : Lowering (Nullable SchemaType)}
    (hend : x.Terminates)
    (hliteral : literal → ∃ halt, x.outcome = .error halt) :
    NamesOnly name literal x x where
  terminates := hend
  same := fun _ => rfl
  failed := fun _ _ => rfl
  recorded := fun _ => rfl
  object := by
    intro h found hfound
    obtain ⟨halt, hhalt⟩ := hliteral h
    cases hfound.symm.trans hhalt

theorem namesOnly_named
    {name : String}
    {literal : Prop}
    {x : Lowering (Nullable SchemaType)}
    (hend : x.Terminates)
    (hliteral : literal)
    (hobject : ∀ found, x.outcome = .ok found → ∃ properties, found.value = .object properties)
    (hnames : ∀ a, .registered a ∈ x.events → a.name ≠ name) :
    NamesOnly name literal x (x.named name) := by
  obtain ⟨halt | ⟨nullable, a⟩, events⟩ := x
  · exact namesOnly_refl hend fun _ => ⟨halt, rfl⟩
  · obtain ⟨properties, hvalue⟩ := hobject _ rfl
    obtain rfl : a = .object properties := hvalue
    refine ⟨nofun, fun h => absurd hliteral h, nofun, fun channel => ?_, ?_⟩
    · simp [Lowering.named, Lowering.recordedOn]
    · rintro - found ⟨⟩
      refine ⟨rfl, properties, rfl, fun table htable => ?_⟩
      change (table.registerAll (Lowering.registered
        (events ++ [.registered ⟨name, properties⟩]))).entries = _
      rw [Lowering.registered_append]
      exact Aliases.registerAll_concat htable fun b hb =>
        hnames b (Lowering.mem_registered.1 hb)

/-- One step is alike when a name was followed to the annotation, and nothing else is different. -/
theorem namesOnly_lowerStep
    {f : Lower}
    {s : Scope}
    {t u : Ty}
    {name : String}
    (h : s.types.resolve u = (s.types.resolve t).under name)
    (hend : (lowerStep f s t).Terminates)
    (hnames : ∀ a, .registered a ∈ (lowerStep f s t).events → a.name ≠ name) :
    NamesOnly name (s.types.resolve t).IsLiteral (lowerStep f s t) (lowerStep f s u) := by
  by_cases hliteral : (s.types.resolve t).IsLiteral
  · obtain ⟨hnamed, hobject⟩ := lowerStep_of_literal (f := f) h hliteral
    rw [hnamed]
    exact namesOnly_named hend hliteral hobject hnames
  · rw [lowerStep_of_not_literal h hliteral]
    exact namesOnly_refl hend fun h => absurd h hliteral

/--
An annotation can be declared under an unused name and be lowered under it: only when it is an
object literal, that of a declared name apart, does the lowering give the name in its place.
-/
theorem lower_named
    {s : Scope}
    {name : String}
    {t : Ty}
    (hname : s.types.Omits name)
    (ht : (Node.type t).Knows (· ≠ name))
    (hend : (lower s t).Terminates)
    (span span' : Span) :
    NamesOnly name (s.types.resolve t).IsLiteral (lower s t)
      (lower (s.inTypes (s.types.naming name t span)) (.reference name none span')) := by
  let s' := s.inTypes (s.types.naming name t span)
  have hagree := Environment.agreeOn_naming (t := t) hname span
  have hresolve : s'.types.resolve (.reference name none span') =
      (s'.types.resolve t).under name :=
    (Environment.resolve_naming hname ht span span').trans
      (congrArg (Resolved.under · name) (hagree.resolve ht).symm)
  have hsame : lowerWithin (depthBound s.types t) s' t = lower s t :=
    (lowerWithin_inTypes hagree _ ht).1
  have hnames : ∀ a, .registered a ∈ (lower s t).events → a.name ≠ name := by
    rintro a ha rfl
    exact hname.undeclared (declared_of_registered ha)
  have hfound : s'.types.resolve t = s.types.resolve t := hagree.resolve ht
  have hstep : NamesOnly name (s.types.resolve t).IsLiteral (lower s t)
      (lowerWithin (depthBound s.types t) s' (.reference name none span')) := by
    rw [← hsame] at hend hnames ⊢
    rw [← hfound]
    exact namesOnly_lowerStep hresolve hend hnames
  rw [lower_eq_lowerWithin hstep.terminates]
  exact hstep

namespace NamingPoint

/-- An interface Size with one property. -/
def types : Environment :=
  ⟨[.interface ⟨"Size", [], [.property "value" (some (.keyword "number" .none)) false .none],
    .none⟩]⟩

def scope : Scope := ⟨"NativeShapes", types, false, .recoverable fileChannel,
  .recoverable fileChannel⟩

/-- A point with two coordinates. -/
def point : Ty :=
  .object [
    .property "x" (some (.reference "Size" none .none)) false .none,
    .property "y" (some (.keyword "number" .none)) false .none] .none

end NamingPoint

open NamingPoint in
/-- A point is an object literal; under a name it is given by the name and registered last. -/
theorem lower_named_point :
    scope.types.Omits "Point" ∧ (Node.type point).Knows (· ≠ "Point") ∧
      (lower scope point).Terminates ∧
      NamesOnly "Point" (scope.types.resolve point).IsLiteral (lower scope point)
        (lower (scope.inTypes (scope.types.naming "Point" point .none))
          (.reference "Point" none .none)) ∧
      (lower (scope.inTypes (scope.types.naming "Point" point .none))
        (.reference "Point" none .none)).outcome = .ok ⟨false, .alias "Point"⟩ := by
  have homits : scope.types.Omits "Point" := by
    refine ⟨by decide, ?_⟩
    intro n u hu
    obtain ⟨d, hd, hdu⟩ := Option.bind_eq_some_iff.1 hu
    cases List.mem_singleton.1 (List.mem_of_find?_eq_some hd)
    cases hdu
    exact of_decide_eq_true (p := Node.Knows (· ≠ "Point") _) (by decide +kernel)
  have hknows : (Node.type point).Knows (· ≠ "Point") := by
    decide +kernel
  have hend : (lower scope point).Terminates := by
    decide +kernel
  have houtcome : (lower (scope.inTypes (scope.types.naming "Point" point .none))
      (.reference "Point" none .none)).outcome = .ok ⟨false, .alias "Point"⟩ := by
    cbv
  exact ⟨homits, hknows, hend, lower_named homits hknows hend .none .none, houtcome⟩

end ModuleSpec
