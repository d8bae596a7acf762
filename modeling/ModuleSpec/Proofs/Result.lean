/-!
# Computations with a result

A computation ends with a result or with an error.  A computation that is put
together from others has a result exactly when they have, one after the other.
-/

namespace ModuleSpec

section Result

variable {α β ε : Type}

theorem bind_eq_ok_iff
    {x : Except ε α}
    {f : α → Except ε β}
    {b : β} :
    (x >>= f) = .ok b ↔ ∃ a, x = .ok a ∧ f a = .ok b := by
  cases x with
  | error e =>
      exact ⟨nofun, nofun⟩
  | ok a =>
      constructor
      · intro h
        exact ⟨a, rfl, h⟩
      · rintro ⟨_, ⟨⟩, h⟩
        exact h

theorem map_eq_ok_iff
    {x : Except ε α}
    {f : α → β}
    {b : β} :
    x.map f = .ok b ↔ ∃ a, x = .ok a ∧ f a = b := by
  cases x with
  | error e =>
      exact ⟨nofun, nofun⟩
  | ok a =>
      constructor
      · rintro ⟨⟩
        exact ⟨a, rfl, rfl⟩
      · rintro ⟨_, ⟨⟩, rfl⟩
        rfl

theorem map_eq_error_iff
    {x : Except ε α}
    {f : α → β}
    {e : ε} :
    x.map f = .error e ↔ x = .error e := by
  cases x with
  | error e' => exact ⟨fun h => congrArg Except.error (Except.error.inj h), fun h => by rw [h]; rfl⟩
  | ok a => exact ⟨nofun, nofun⟩

theorem mapError_eq_ok_iff
    {ε' : Type}
    {x : Except ε α}
    {f : ε → ε'}
    {a : α} :
    x.mapError f = .ok a ↔ x = .ok a := by
  cases x with
  | error e => exact ⟨nofun, nofun⟩
  | ok b => exact ⟨fun h => congrArg Except.ok (Except.ok.inj h), fun h => by rw [h]; rfl⟩

/-- Computations go on alike that go on alike from the result. -/
theorem bind_congr_of_ok
    {x : Except ε α}
    {f g : α → Except ε β}
    (h : ∀ a, x = .ok a → f a = g a) :
    (x >>= f) = (x >>= g) := by
  cases x with
  | error e => rfl
  | ok a => exact h a rfl

theorem map_bind_eq
    {γ : Type}
    (x : Except ε α)
    (f : α → Except ε β)
    (g : β → γ) :
    (x >>= f).map g = (x >>= fun a => (f a).map g) := by
  cases x <;> rfl

/-- A list of results begins with the result of the first entry. -/
theorem mapM_cons_eq_ok_iff
    {f : α → Except ε β}
    {a : α}
    {as : List α}
    {bs : List β} :
    (a :: as).mapM f = .ok bs ↔
      ∃ c cs, f a = .ok c ∧ as.mapM f = .ok cs ∧ bs = c :: cs := by
  rw [List.mapM_cons]
  cases f a with
  | error e =>
      exact ⟨nofun, nofun⟩
  | ok c =>
      cases as.mapM f with
      | error e =>
          exact ⟨nofun, nofun⟩
      | ok cs =>
          constructor
          · rintro ⟨⟩
            exact ⟨c, cs, rfl, rfl, rfl⟩
          · rintro ⟨_, _, ⟨⟩, ⟨⟩, rfl⟩
            rfl

theorem mapM_pair
    {f : α → Except ε β}
    {a a' : α}
    {b b' : β}
    (h : f a = .ok b)
    (h' : f a' = .ok b') :
    [a, a'].mapM f = .ok [b, b'] :=
  mapM_cons_eq_ok_iff.2 ⟨b, [b'], h, mapM_cons_eq_ok_iff.2 ⟨b', [], h', rfl, rfl⟩, rfl⟩

/-- Each result can be mapped by itself. -/
theorem mapM_map
    {γ : Type}
    (f : α → Except ε β)
    (g : β → γ)
    (as : List α) :
    as.mapM (fun a => (f a).map g) = (as.mapM f).map (List.map g) := by
  induction as with
  | nil =>
      rfl
  | cons a as ih =>
      rw [List.mapM_cons, List.mapM_cons, ih]
      cases f a with
      | error e =>
          rfl
      | ok b =>
          cases as.mapM f <;> rfl

/-- The results of lists that are put together are put together. -/
theorem mapM_flatMap
    {γ : Type}
    (f : β → Except ε γ)
    (g : α → List β)
    (as : List α) :
    (as.flatMap g).mapM f = (as.mapM fun a => (g a).mapM f).map List.flatten := by
  induction as with
  | nil =>
      rfl
  | cons a as ih =>
      rw [List.flatMap_cons, List.mapM_append, List.mapM_cons, ih]
      cases (g a).mapM f with
      | error e =>
          rfl
      | ok bs =>
          cases as.mapM fun a => (g a).mapM f <;> rfl

theorem mapM_congr
    {f g : α → Except ε β}
    {as : List α}
    (h : ∀ a, a ∈ as → f a = g a) :
    as.mapM f = as.mapM g := by
  induction as with
  | nil => rfl
  | cons a as ih =>
      rw [List.mapM_cons, List.mapM_cons, h a List.mem_cons_self,
        ih fun b hb => h b (List.mem_cons_of_mem a hb)]

/-- Every entry of a list of results comes from an entry of the list. -/
theorem exists_of_mem_mapM
    {f : α → Except ε β}
    {as : List α}
    {bs : List β}
    {b : β}
    (h : as.mapM f = .ok bs)
    (hb : b ∈ bs) :
    ∃ a, a ∈ as ∧ f a = .ok b := by
  induction as generalizing bs with
  | nil =>
      cases h
      cases hb
  | cons a as ih =>
      obtain ⟨c, cs, hc, hcs, rfl⟩ := mapM_cons_eq_ok_iff.1 h
      rcases List.mem_cons.1 hb with rfl | hb
      · exact ⟨a, List.mem_cons_self, hc⟩
      · obtain ⟨d, hd, hfd⟩ := ih hcs hb
        exact ⟨d, List.mem_cons_of_mem a hd, hfd⟩

/-- Every entry of a list gives one of the results. -/
theorem exists_mem_of_mapM
    {f : α → Except ε β}
    {as : List α}
    {bs : List β}
    {a : α}
    (h : as.mapM f = .ok bs)
    (ha : a ∈ as) :
    ∃ b, b ∈ bs ∧ f a = .ok b := by
  induction as generalizing bs with
  | nil => cases ha
  | cons d as ih =>
      obtain ⟨c, cs, hc, hcs, rfl⟩ := mapM_cons_eq_ok_iff.1 h
      rcases List.mem_cons.1 ha with rfl | ha
      · exact ⟨c, List.mem_cons_self, hc⟩
      · obtain ⟨b, hb, hab⟩ := ih hcs ha
        exact ⟨b, List.mem_cons_of_mem c hb, hab⟩

/-- A list of computations ends with an error with which one of them ends. -/
theorem exists_of_mapM_eq_error
    {f : α → Except ε β}
    {as : List α}
    {e : ε}
    (h : as.mapM f = .error e) :
    ∃ a, a ∈ as ∧ f a = .error e := by
  induction as with
  | nil => cases h
  | cons a as ih =>
      rw [List.mapM_cons] at h
      cases ha : f a with
      | error e' =>
          rw [ha] at h
          cases h
          exact ⟨a, List.mem_cons_self, ha⟩
      | ok b =>
          rw [ha] at h
          cases has : as.mapM f with
          | error e' =>
              rw [has] at h
              cases h
              obtain ⟨d, hd, hfd⟩ := ih has
              exact ⟨d, List.mem_cons_of_mem a hd, hfd⟩
          | ok bs =>
              rw [has] at h
              cases h

/-- A list of results that are all there is a result. -/
theorem exists_mapM_eq_ok
    {f : α → Except ε β}
    {as : List α}
    (h : ∀ a, a ∈ as → ∃ b, f a = .ok b) :
    ∃ bs, as.mapM f = .ok bs := by
  induction as with
  | nil =>
      exact ⟨[], rfl⟩
  | cons a as ih =>
      obtain ⟨b, hb⟩ := h a List.mem_cons_self
      obtain ⟨bs, hbs⟩ := ih fun c hc => h c (List.mem_cons_of_mem a hc)
      exact ⟨b :: bs, mapM_cons_eq_ok_iff.2 ⟨b, bs, hb, hbs, rfl⟩⟩

/-- A list of computations has a result when each of them has one. -/
theorem exists_mapM_eq_ok_iff
    {f : α → Except ε β}
    {as : List α} :
    (∃ bs, as.mapM f = .ok bs) ↔ ∀ a, a ∈ as → ∃ b, f a = .ok b := by
  refine ⟨?_, exists_mapM_eq_ok⟩
  rintro ⟨bs, hbs⟩
  induction as generalizing bs with
  | nil => exact nofun
  | cons a as ih =>
      obtain ⟨c, cs, hc, hcs, rfl⟩ := mapM_cons_eq_ok_iff.1 hbs
      exact List.forall_mem_cons.2 ⟨⟨c, hc⟩, ih cs hcs⟩

/-- What has the results of another computation for each entry has them for the list. -/
theorem mapM_eq_ok_of_forall
    {f g : α → Except ε β}
    {as : List α}
    {bs : List β}
    (h : as.mapM f = .ok bs)
    (hfg : ∀ a, a ∈ as → ∀ b, f a = .ok b → g a = .ok b) :
    as.mapM g = .ok bs := by
  induction as generalizing bs with
  | nil =>
      exact h
  | cons a as ih =>
      obtain ⟨c, cs, hc, hcs, rfl⟩ := mapM_cons_eq_ok_iff.1 h
      exact mapM_cons_eq_ok_iff.2 ⟨c, cs, hfg a List.mem_cons_self c hc,
        ih hcs fun d hd => hfg d (List.mem_cons_of_mem a hd), rfl⟩

/-- The results of a list in another order are the results in another order. -/
theorem exists_mapM_of_perm
    {f : α → Except ε β}
    {as as' : List α}
    (hperm : as.Perm as')
    {bs : List β}
    (h : as.mapM f = .ok bs) :
    ∃ bs', as'.mapM f = .ok bs' ∧ bs.Perm bs' := by
  induction hperm generalizing bs with
  | nil =>
      exact ⟨bs, h, .refl bs⟩
  | cons a _ ih =>
      obtain ⟨c, cs, hc, hcs, rfl⟩ := mapM_cons_eq_ok_iff.1 h
      obtain ⟨cs', hcs', hperm⟩ := ih hcs
      exact ⟨c :: cs', mapM_cons_eq_ok_iff.2 ⟨c, cs', hc, hcs', rfl⟩, hperm.cons c⟩
  | swap a b as =>
      obtain ⟨c, cs, hc, hcs, rfl⟩ := mapM_cons_eq_ok_iff.1 h
      obtain ⟨d, ds, hd, hds, rfl⟩ := mapM_cons_eq_ok_iff.1 hcs
      exact ⟨d :: c :: ds, mapM_cons_eq_ok_iff.2 ⟨d, c :: ds, hd,
        mapM_cons_eq_ok_iff.2 ⟨c, ds, hc, hds, rfl⟩, rfl⟩, .swap d c ds⟩
  | trans _ _ ih ih' =>
      obtain ⟨cs, hcs, hperm⟩ := ih h
      obtain ⟨ds, hds, hperm'⟩ := ih' hcs
      exact ⟨ds, hds, hperm.trans hperm'⟩

/-- What is known of an optional result is known of the result. -/
theorem exists_eq_ok_of_toOption
    {x : Except ε α}
    {f : α → β}
    {b : β}
    (h : x.toOption.map f = some b) :
    ∃ a, x = .ok a ∧ f a = b := by
  cases x with
  | error e =>
      cases h
  | ok a =>
      exact ⟨a, rfl, Option.some.inj h⟩

end Result

end ModuleSpec
