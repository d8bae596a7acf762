import ModuleSpec.Proofs.Lowering.Refine
import ModuleSpec.Proofs.Lowering.Weaken

/-!
# Names that an annotation uses

An annotation uses the names that occur in it, those that occur in what these
stand for, and so on.  What an environment declares besides is nothing to it: its
lowering is the same, to every depth, in the environment that declares only the
names used.

So what has to be known of declarations before an annotation is lowered has to be
known only of those that it uses.

**Results.**  `lower_usedBy`, and that a lowering which ends gives a value or a fault
if no union without members is used (`settles_of_inhabitsUnions`).
-/

namespace ModuleSpec

namespace Environment

/-- The name occurs in the type, in what a name in it stands for, or further on. -/
inductive Uses
    (env : Environment)
    (t : Ty) : String → Prop
  | here
      {n : Node}
      {name : String}
      (hn : n ∈ (Node.type t).walk)
      (hname : name ∈ n.mentions) :
      Uses env t name
  | there
      {n : Node}
      {name name' : String}
      {u : Ty}
      (h : Uses env t name)
      (hu : env.typeOf? name = some u)
      (hn : n ∈ (Node.type u).walk)
      (hname : name' ∈ n.mentions) :
      Uses env t name'

open Classical in
/-- The environment that declares only the names that the type uses. -/
noncomputable def usedBy
    (env : Environment)
    (t : Ty) :
    Environment :=
  ⟨env.declarations.filter fun d => env.Uses t d.name⟩

variable {env : Environment} {t : Ty}

theorem find?_usedBy
    {name : String}
    (h : env.Uses t name) :
    (env.usedBy t).find? name = env.find? name := by
  rw [find?, find?, usedBy, List.find?_filter]
  refine congrArg (List.find? · env.declarations) (funext fun d => ?_)
  by_cases hname : d.name = name
  · simp [hname, h]
  · simp [hname]

theorem uses_of_typeOf?_usedBy
    {name : String}
    {u : Ty}
    (h : (env.usedBy t).typeOf? name = some u) :
    env.Uses t name ∧ env.typeOf? name = some u := by
  obtain ⟨d, hd, -⟩ := Option.bind_eq_some_iff.1 h
  have hname : d.name = name := by simpa using List.find?_some hd
  have huses : env.Uses t name := by
    have hmem := (List.mem_filter.1 (List.mem_of_find?_eq_some hd)).2
    rw [← hname]
    simpa using hmem
  rw [typeOf?, find?_usedBy huses] at h
  exact ⟨huses, h⟩

/-- What a name that is used stands for uses no others. -/
theorem agreeOn_usedBy
    (env : Environment)
    (t : Ty) :
    (env.usedBy t).AgreeOn (env.Uses t) env where
  find? := fun _ hname => (find?_usedBy hname).symm
  closed := by
    intro name u h n hn name' hname'
    obtain ⟨huses, hu⟩ := uses_of_typeOf?_usedBy h
    exact .there huses hu hn hname'

end Environment

/-- A lowering that ends is the same where only the names that are used are declared. -/
theorem lower_usedBy
    {s : Scope}
    {t : Ty}
    (hend : (lower s t).Terminates) :
    lower (s.inTypes (s.types.usedBy t)) t = lower s t := by
  have hknows : (Node.type t).Knows (s.types.Uses t) :=
    fun n hn name hname => .here hn hname
  have hsame : lowerWithin (depthBound s.types t) s t =
      lowerWithin (depthBound s.types t) (s.inTypes (s.types.usedBy t)) t :=
    (lowerWithin_inTypes (s := s.inTypes (s.types.usedBy t))
      (Environment.agreeOn_usedBy s.types t) (depthBound s.types t) hknows).1
  rw [lower, hsame] at hend
  exact (lower_eq_lowerWithin hend).trans hsame.symm

/-! ## Unions without members -/

/-- No union without members stands in the type, or in what a name that it uses stands for. -/
structure Environment.InhabitsUnions
    (env : Environment)
    (t : Ty) : Prop where
  own : (Node.type t).Every fun n => n.isEmptyUnion = false
  used : ∀ name u, env.Uses t name → env.typeOf? name = some u →
    (Node.type u).Every fun n => n.isEmptyUnion = false

open FaultContract (invariant invariant_sound)

/-- If no union is without members, a lowering that ends gives a value or a fault. -/
theorem settles_lower
    {s : Scope}
    {t : Ty}
    (henv : s.types.Every fun n => n.isEmptyUnion = false)
    (ht : (Node.type t).Every fun n => n.isEmptyUnion = false)
    (hend : (lower s t).Terminates) :
    (lower s t).Settles := by
  have hsound : (invariant s.moduleName).SoundWithin s := invariant_sound henv
  have hkept := (hsound.keeps_lower ht).ends
  intro halt hhalt
  rw [hhalt] at hkept
  cases halt with
  | fault f =>
      exact ⟨f, rfl⟩
  | emptyUnion =>
      obtain ⟨span, hspan⟩ := hkept
      cases hspan
  | endless =>
      exact absurd hhalt hend

/-- Unions without members that the annotation does not use make no difference. -/
theorem settles_of_inhabitsUnions
    {s : Scope}
    {t : Ty}
    (h : s.types.InhabitsUnions t)
    (hend : (lower s t).Terminates) :
    (lower s t).Settles := by
  have hsame := lower_usedBy hend
  have hused : (s.types.usedBy t).Every fun n => n.isEmptyUnion = false := by
    intro name u hu
    obtain ⟨huses, hu⟩ := Environment.uses_of_typeOf?_usedBy hu
    exact h.used name u huses hu
  rw [← hsame] at hend ⊢
  exact settles_lower hused h.own hend

end ModuleSpec
