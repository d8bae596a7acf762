import ModuleSpec.Proofs.Bare.Tree
import ModuleSpec.Proofs.Lowering.Descent

/-!
# Bare environments

Resolution looks at the names and the shapes of types, never at where they stand.
So without spans every step of it is the step that it was.

**Results.**  A bare annotation resolves, among bare declarations, to what the
annotation resolves to, bare (`Environment.resolve_bare`).
-/

namespace ModuleSpec

/-! ## Environments -/

namespace Environment

/-- The declarations without their spans. -/
def bare (env : Environment) : Environment :=
  ⟨env.declarations.map Declaration.bare⟩

theorem find?_bare
    (env : Environment)
    (name : String) :
    env.bare.find? name = (env.find? name).map Declaration.bare := by
  simp only [find?, bare, List.find?_map, Function.comp_def, Declaration.name_bare]

theorem place_bare
    (d : Declaration)
    (es : List Declaration) :
    place d.bare (es.map Declaration.bare) = (place d es).map Declaration.bare := by
  induction es with
  | nil => rfl
  | cons e es ih =>
      rw [List.map_cons, place, place, Declaration.name_bare, Declaration.name_bare, ih]
      split <;> rfl

theorem declare_bare
    (env : Environment)
    (d : Declaration) :
    env.bare.declare d.bare = (env.declare d).bare :=
  congrArg Environment.mk (place_bare d env.declarations)

theorem ofStatements_bare
    (body : List Statement) :
    ofStatements (body.map Statement.bare) = (ofStatements body).bare := by
  have hdeclarations : (body.map Statement.bare).filterMap Statement.declaration? =
      (body.filterMap Statement.declaration?).map Declaration.bare := by
    rw [List.filterMap_map, List.map_filterMap]
    congr 1
    funext s
    cases s <;> simp [Statement.bare, Statement.declaration?]
  have hfold (ds : List Declaration) (env : Environment) :
      (ds.map Declaration.bare).foldl declare env.bare = (ds.foldl declare env).bare := by
    induction ds generalizing env with
    | nil => rfl
    | cons d ds ih => rw [List.map_cons, List.foldl_cons, declare_bare, ih, List.foldl_cons]
  rw [ofStatements, hdeclarations]
  exact hfold _ empty

/-- A bare file declares what the file declares, bare. -/
theorem ofProgram_bare
    (program : Program) :
    ofProgram program.bare = (ofProgram program).bare := by
  obtain ⟨body, span⟩ := program
  simpa [ofProgram, Program.bare] using ofStatements_bare body

end Environment

/-! ## Peeling -/

namespace Ty

@[simp]
theorem isNull_bare
    (t : Ty) :
    t.bare.isNull = t.isNull := by
  cases t <;> simp [Ty.bare, isNull]

theorem filter_present_bare
    (ts : List Ty) :
    (ts.map Ty.bare).filter (fun m => !m.isNull) =
      (ts.filter fun m => !m.isNull).map Ty.bare := by
  simp [List.filter_map, Function.comp_def]

mutual

theorem peel_bare : ∀ t : Ty, t.bare.peel = ⟨t.peel.nullable, t.peel.type.bare⟩
  | .reference name (some [inner]) span => by
      rw [Ty.bare, Ty.bareArgs, Ty.bareAll, Ty.bareAll, Ty.peel, Ty.peel]
      split
      · exact peel_bare inner
      · simp [Ty.bare]
  | .reference name none span => by simp [Ty.bare, Ty.peel]
  | .reference name (some []) span => by simp [Ty.bare, Ty.peel]
  | .reference name (some (_ :: _ :: _)) span => by simp [Ty.bare, Ty.peel]
  | .union members span => by
      have hany : (members.map Ty.bare).any isNull = members.any isNull := by
        simp [Function.comp_def]
      have hpresent := peelPresent_bare members
      rw [Ty.bare, Ty.bareAll_eq_map]
      unfold Ty.peel
      simp only [hany, filter_present_bare]
      -- What is left of the union decides, and bare the same is left.
      by_cases hnull : members.any isNull = true
      · simp only [hnull, if_true]
        generalize members.filter (fun m => !m.isNull) = rest
        rcases rest with _ | ⟨_, _ | _⟩
        · cases members <;> simp [Ty.bare]
        · simp [hpresent]
        · simp [Ty.bare]
      · simp [hnull, Ty.bare]
  | .keyword .. => by simp [Ty.bare, Ty.peel]
  | .array .. => by simp [Ty.bare, Ty.peel]
  | .operator .. => by simp [Ty.bare, Ty.peel]
  | .literal .. => by simp [Ty.bare, Ty.peel]
  | .object .. => by simp [Ty.bare, Ty.peel]
  | .function .. => by simp [Ty.bare, Ty.peel]
  | .other .. => by simp [Ty.bare, Ty.peel]

theorem peelPresent_bare :
    ∀ ts : List Ty,
      Ty.peelPresent (ts.map Ty.bare) =
        ⟨(Ty.peelPresent ts).nullable, (Ty.peelPresent ts).type.bare⟩
  | [] => by simp [Ty.peelPresent, Ty.bare]
  | t :: ts => by
      rw [List.map_cons, Ty.peelPresent, Ty.peelPresent, isNull_bare]
      split
      · exact peelPresent_bare ts
      · exact peel_bare t

end

end Ty

/-! ## Resolution -/

@[simp]
theorem Declaration.type?_bare
    (d : Declaration) :
    d.bare.type? = d.type?.map Ty.bare := by
  obtain ⟨name, bases, members, span⟩ | ⟨name, type, span⟩ | ⟨name, members, span⟩ := d <;>
    simp [Declaration.bare, Declaration.type?, Ty.bare]

/-- What a type resolves to, without spans. -/
def Resolved.bare (found : Resolved) : Resolved :=
  { found with type := found.type.bare }

namespace Environment

variable (env : Environment)

theorem target?_bare
    (followed : List String)
    (t : Ty) :
    env.bare.target? followed t.bare =
      (env.target? followed t).map fun next => (next.1, next.2.bare) := by
  cases t with
  | reference name typeArgs span =>
      rw [Ty.bare, target?, target?, find?_bare]
      split
      · rfl
      · cases env.find? name <;> simp [Function.comp_def]
  | _ => rfl

theorem resolveWithin_bare
    (budget : Nat)
    (followed : List String)
    (found : Resolved) :
    env.bare.resolveWithin budget followed found.bare =
      (env.resolveWithin budget followed found).bare := by
  have hpeel : found.bare.type.peel =
      ⟨found.type.peel.nullable, found.type.peel.type.bare⟩ := Ty.peel_bare found.type
  have htarget := env.target?_bare followed found.type.peel.type
  induction budget generalizing followed found with
  | zero =>
      simp only [resolveWithin, hpeel]
      rfl
  | succ budget ih =>
      cases hnext : env.target? followed found.type.peel.type with
      | none =>
          rw [resolveWithin_stop _ hnext, resolveWithin_stop]
          · rw [hpeel]
            rfl
          · rw [hpeel, htarget, hnext]
            rfl
      | some next =>
          obtain ⟨name, t⟩ := next
          have hfollow : env.bare.target? followed found.bare.type.peel.type =
              some (name, t.bare) := by
            rw [hpeel, htarget, hnext]
            rfl
          rw [resolveWithin_follow _ hnext, resolveWithin_follow _ hfollow, hpeel]
          exact ih _ ⟨_, t, some name⟩ (Ty.peel_bare t) (env.target?_bare _ _)

/-- Bare annotations resolve, among bare declarations, to the same, bare. -/
theorem resolve_bare
    (t : Ty) :
    env.bare.resolve t.bare = (env.resolve t).bare := by
  have hlength : env.bare.declarations.length = env.declarations.length := List.length_map _
  rw [resolve, hlength]
  exact env.resolveWithin_bare _ [] ⟨false, t, none⟩

end Environment

end ModuleSpec
