import ModuleSpec.Discovery
import Mathlib.Data.List.Basic

/-!
# Sorting that keeps the order of equals

Files are put in order twice: those of a root by their components, and what comes
of all roots by the text of the paths.

**Idea.**  Sorting puts an entry before the first one that it does not come after
in the sorted rest.  What a test leaves of a sorted list is therefore the sorted
list of what it leaves, and entries that compare as equal stay as they were.

**Results.**  `filter_mergeSort`, `filter_mergeSort_of_alike` and
`mergeSort_eq_of_perm`, for the two orders of paths.
-/

namespace ModuleSpec

/-- An order in which any two entries compare. -/
structure Compares
    {α : Type}
    (le : α → α → Bool) : Prop where
  trans : ∀ a b c, le a b = true → le b c = true → le a c = true
  total : ∀ a b, (le a b || le b a) = true

namespace Compares

section Sorting

variable {α : Type} {le : α → α → Bool}

/-- Two ways to cut a list before the first entry that does not come before `a` are the same. -/
theorem cut_eq
    {a : α}
    {as bs cs ds : List α}
    (h : as ++ bs = cs ++ ds)
    (has : ∀ b, b ∈ as → le a b = false)
    (hbs : ∀ b, b ∈ bs → le a b = true)
    (hcs : ∀ b, b ∈ cs → le a b = false)
    (hds : ∀ b, b ∈ ds → le a b = true) :
    as = cs ∧ bs = ds := by
  induction as generalizing cs with
  | nil =>
      cases cs with
      | nil =>
          exact ⟨rfl, h⟩
      | cons c cs =>
          have hc : c ∈ bs := by
            rw [List.nil_append] at h
            rw [h]
            exact List.mem_cons_self
          exact absurd (hbs c hc) (by simp [hcs c List.mem_cons_self])
  | cons b as ih =>
      cases cs with
      | nil =>
          have hb : b ∈ ds := by
            rw [List.nil_append] at h
            rw [← h]
            exact List.mem_cons_self
          exact absurd (hds b hb) (by simp [has b List.mem_cons_self])
      | cons c cs =>
          obtain ⟨rfl, htail⟩ := List.cons.inj h
          obtain ⟨rfl, rfl⟩ := ih htail
            (fun d hd => has d (List.mem_cons_of_mem b hd))
            fun d hd => hcs d (List.mem_cons_of_mem b hd)
          exact ⟨rfl, rfl⟩

/-- The first entry is put before those that it does not come after. -/
theorem exists_cut
    (h : Compares le)
    (a : α)
    (l : List α) :
    ∃ before after,
      (a :: l).mergeSort le = before ++ a :: after ∧
        l.mergeSort le = before ++ after ∧
        (∀ b, b ∈ before → le a b = false) ∧
        ∀ b, b ∈ after → le a b = true := by
  obtain ⟨before, after, hcons, hrest, hbefore⟩ := List.mergeSort_cons h.trans h.total a l
  have hsorted := List.pairwise_mergeSort h.trans h.total (a :: l)
  rw [hcons, List.pairwise_append, List.pairwise_cons] at hsorted
  exact ⟨before, after, hcons, hrest, fun b hb => by simpa using hbefore b hb, hsorted.2.1.1⟩

/-- What a test leaves of a sorted list is what it leaves, sorted. -/
theorem filter_mergeSort
    (h : Compares le)
    (test : α → Bool)
    (l : List α) :
    (l.mergeSort le).filter test = (l.filter test).mergeSort le := by
  induction l with
  | nil =>
      simp
  | cons a l ih =>
      obtain ⟨before, after, hcons, hrest, hbefore, hafter⟩ := h.exists_cut a l
      rw [hrest, List.filter_append] at ih
      rw [hcons, List.filter_append]
      cases ha : test a with
      | false =>
          rw [List.filter_cons_of_neg (by simp [ha]), List.filter_cons_of_neg (by simp [ha]), ih]
      | true =>
          obtain ⟨before', after', hcons', hrest', hbefore', hafter'⟩ :=
            h.exists_cut a (l.filter test)
          obtain ⟨hfirst, hsecond⟩ := cut_eq (ih.trans hrest')
            (fun b hb => hbefore b (List.mem_filter.1 hb).1)
            (fun b hb => hafter b (List.mem_filter.1 hb).1) hbefore' hafter'
          rw [List.filter_cons_of_pos ha, List.filter_cons_of_pos ha, hcons', hfirst, hsecond]

/-- Entries that compare as equal stay in their order. -/
theorem filter_mergeSort_of_alike
    (h : Compares le)
    {test : α → Bool}
    (halike : ∀ a b, test a = true → test b = true → le a b = true)
    (l : List α) :
    (l.mergeSort le).filter test = l.filter test := by
  rw [h.filter_mergeSort]
  refine List.mergeSort_of_pairwise (List.Pairwise.imp_of_mem ?_ (List.pairwise_of_forall
    (fun _ _ => trivial) : (l.filter test).Pairwise fun _ _ => True))
  intro a b ha hb _
  exact halike a b (List.mem_filter.1 ha).2 (List.mem_filter.1 hb).2

/-- The order of the entries does not matter where no two different ones compare as equal. -/
theorem mergeSort_eq_of_perm
    (h : Compares le)
    {l l' : List α}
    (hperm : l.Perm l')
    (hdistinct : ∀ a b, a ∈ l → b ∈ l → le a b = true → le b a = true → a = b) :
    l.mergeSort le = l'.mergeSort le := by
  refine List.Perm.eq_of_pairwise ?_ (List.pairwise_mergeSort h.trans h.total l)
    (List.pairwise_mergeSort h.trans h.total l')
    ((List.mergeSort_perm l le).trans (hperm.trans (List.mergeSort_perm l' le).symm))
  intro a b ha hb
  exact hdistinct a b (List.mem_mergeSort.1 ha) (hperm.mem_iff.2 (List.mem_mergeSort.1 hb))

end Sorting

/-! ## The two orders of paths -/

theorem partsLe_cons_iff
    {a b : String}
    {as bs : List String} :
    partsLe (a :: as) (b :: bs) = true ↔ a < b ∨ a = b ∧ partsLe as bs = true := by
  by_cases hab : a = b
  · subst hab
    simp [partsLe]
  · simp [partsLe, hab]

theorem partsLe_antisymm
    {path path' : List String}
    (h : partsLe path path' = true)
    (h' : partsLe path' path = true) :
    path = path' := by
  induction path generalizing path' with
  | nil =>
      cases path' with
      | nil =>
          rfl
      | cons b bs =>
          cases h'
  | cons a as ih =>
      cases path' with
      | nil =>
          cases h
      | cons b bs =>
          rcases partsLe_cons_iff.1 h with hlt | ⟨rfl, has⟩
          · rcases partsLe_cons_iff.1 h' with hgt | ⟨rfl, -⟩
            · exact absurd hgt (String.lt_asymm hlt)
            · exact absurd hlt (String.lt_irrefl b)
          · rcases partsLe_cons_iff.1 h' with hgt | ⟨-, hbs⟩
            · exact absurd hgt (String.lt_irrefl a)
            · rw [ih has hbs]

theorem partsLe_trans
    {path path' path'' : List String}
    (h : partsLe path path' = true)
    (h' : partsLe path' path'' = true) :
    partsLe path path'' = true := by
  induction path generalizing path' path'' with
  | nil =>
      rfl
  | cons a as ih =>
      cases path' with
      | nil =>
          cases h
      | cons b bs =>
          cases path'' with
          | nil =>
              cases h'
          | cons c cs =>
              refine partsLe_cons_iff.2 ?_
              rcases partsLe_cons_iff.1 h, partsLe_cons_iff.1 h' with
                ⟨hab | ⟨rfl, has⟩, hbc | ⟨rfl, hbs⟩⟩
              · exact .inl (String.lt_trans hab hbc)
              · exact .inl hab
              · exact .inl hbc
              · exact .inr ⟨rfl, ih has hbs⟩

theorem partsLe_total
    (path path' : List String) :
    (partsLe path path' || partsLe path' path) = true := by
  induction path generalizing path' with
  | nil =>
      rfl
  | cons a as ih =>
      cases path' with
      | nil =>
          rfl
      | cons b bs =>
          by_cases hab : a = b
          · subst hab
            simpa [partsLe] using ih bs
          · have hne : ¬ b = a := fun heq => hab heq.symm
            by_cases hlt : a < b
            · simp [partsLe, hab, hlt]
            · simp [partsLe, hab, hne, Std.lt_of_le_of_ne (String.not_lt.1 hlt) hne]

theorem parts : Compares partsLe where
  trans := fun _ _ _ => partsLe_trans
  total := partsLe_total

/-- Entries ordered by a text. -/
theorem text
    {α : Type}
    (path : α → String) :
    Compares fun a b => decide (path a ≤ path b) where
  trans := by
    intro a b c hab hbc
    simp only [decide_eq_true_eq] at hab hbc ⊢
    exact String.le_trans hab hbc
  total := by
    intro a b
    simpa using String.le_total (path a) (path b)

end Compares

end ModuleSpec
