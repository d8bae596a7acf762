import ModuleSpec.Proofs.Lowering.Descent

/-!
# Peeling layer by layer

Peeling takes off, one after another, the layers of an annotation that say only
whether a value may be absent: Readonly around one type, and the members of a
union that stand for no value.  A union of which nothing else is left stands for
the first of these members.

**Results.**  To take off one layer and to peel the rest is to peel
(`Ty.peel_of_peelOnce?`), and what is left is smaller
(`Ty.size_lt_of_peelOnce?`).
-/

namespace ModuleSpec

namespace Ty

/-- Whether the type is a union with a member that stands for no value. -/
def hasNull : Ty → Bool
  | union members _ => members.any isNull
  | _ => false

/-- A union without its members that stand for no value; the first of them if all do. -/
def present? (members : List Ty) (span : Span) : Option Ty :=
  match members.filter fun m => !m.isNull with
  | [] => members.head?
  | [m] => some m
  | rest => some (.union rest span)

/-- Takes off one layer of what says only whether a value may be absent. -/
def peelOnce? : Ty → Option Ty
  | reference name (some [inner]) _ => if name = "Readonly" then some inner else none
  | union members span => if members.any isNull then present? members span else none
  | _ => none

theorem peel_of_isNull
    {t : Ty}
    (h : t.isNull = true) :
    t.peel = ⟨false, t⟩ := by
  cases t with
  | keyword word span => simp [peel]
  | _ => cases h

theorem peelPresent_of_filter
    {ts : List Ty}
    {m : Ty}
    (h : ts.filter (fun m => !m.isNull) = [m]) :
    peelPresent ts = m.peel := by
  induction ts with
  | nil => cases h
  | cons t ts ih =>
      rw [peelPresent]
      by_cases hnull : t.isNull = true
      · rw [List.filter_cons_of_neg (by simp [hnull])] at h
        rw [if_pos hnull, ih h]
      · rw [List.filter_cons_of_pos (by simp [hnull])] at h
        obtain ⟨rfl, -⟩ := List.cons.inj h
        rw [if_neg hnull]

theorem peel_of_present?
    {members : List Ty}
    {span : Span}
    {u : Ty}
    (hany : members.any isNull = true)
    (h : present? members span = some u) :
    (union members span).peel = ⟨true, u.peel.type⟩ := by
  -- What is left of the union decides: nothing, one type, or a smaller union.
  rcases hfilter : members.filter (fun m => !m.isNull) with _ | ⟨m, _ | ⟨m', rest⟩⟩
  · rw [present?, hfilter] at h
    cases members with
    | nil => cases h
    | cons first rest =>
        cases h
        have hnull : u.isNull = true := by
          simpa using List.filter_eq_nil_iff.1 hfilter u List.mem_cons_self
        have hunion : (union (u :: rest) span).peel = ⟨true, u⟩ := by
          simp only [peel, hany, hfilter, if_true]
        rw [hunion, peel_of_isNull hnull]
  · rw [present?, hfilter] at h
    cases h
    have hunion : (union members span).peel = ⟨true, (peelPresent members).type⟩ := by
      simp only [peel, hany, hfilter, if_true]
    rw [hunion, peelPresent_of_filter hfilter]
  · rw [present?, hfilter] at h
    cases h
    have hrest : (m :: m' :: rest).any isNull = false := by
      rw [← hfilter]
      simp
    have hunion : (union members span).peel = ⟨true, union (m :: m' :: rest) span⟩ := by
      simp only [peel, hany, hfilter, if_true]
    have hleft : (union (m :: m' :: rest) span).peel = ⟨false, union (m :: m' :: rest) span⟩ := by
      rw [peel.eq_def]
      simp only [hrest, Bool.false_eq_true, if_false]
    rw [hunion, hleft]

/-- Peeling is to take off one layer, and to go on. -/
theorem peel_of_peelOnce?
    {t u : Ty}
    (h : t.peelOnce? = some u) :
    t.peel = ⟨t.hasNull || u.peel.nullable, u.peel.type⟩ := by
  unfold peelOnce? at h
  split at h
  case h_1 name inner span =>
      rw [Option.ite_none_right_eq_some] at h
      obtain ⟨rfl, hinner⟩ := h
      cases hinner
      rw [peel, if_pos rfl]
      rfl
  case h_2 members span =>
      rw [Option.ite_none_right_eq_some] at h
      obtain ⟨hany, hpresent⟩ := h
      rw [peel_of_present? hany hpresent, hasNull, hany, Bool.true_or]
  case h_3 => cases h

/-- Where there is no layer to take off, peeling changes nothing. -/
theorem peel_of_peelOnce?_eq_none
    {t : Ty}
    (h : t.peelOnce? = none) :
    t.peel = ⟨false, t⟩ ∧ t.hasNull = false := by
  cases t with
  | reference name typeArgs span =>
      obtain _ | (_ | ⟨inner, _ | ⟨second, rest⟩⟩) := typeArgs
      · simp [peel, hasNull]
      · simp [peel, hasNull]
      · have hname : name ≠ "Readonly" := fun heq => by simp [peelOnce?, heq] at h
        simp [peel, hasNull, hname]
      · simp [peel, hasNull]
  | union members span =>
      have hany : members.any isNull = false := by
        rw [← Bool.not_eq_true]
        intro hsome
        rw [peelOnce?, if_pos hsome, present?] at h
        cases members with
        | nil => cases hsome
        | cons first rest =>
            split at h
            · cases h
            · cases h
            · cases h
      rw [peel.eq_def]
      simp [hasNull, hany]
  | _ => simp [peel, hasNull]

theorem sizeAll_filter_lt
    {ts : List Ty}
    (h : ts.any isNull = true) :
    sizeAll (ts.filter fun m => !m.isNull) < sizeAll ts := by
  induction ts with
  | nil => cases h
  | cons t ts ih =>
      have hle := sizeAll_le_of_sublist (List.filter_sublist (l := ts) (p := fun m => !m.isNull))
      by_cases hnull : t.isNull = true
      · have hsize : t.size = 1 := by
          cases t with
          | keyword word span => rw [size]
          | _ => cases hnull
        rw [List.filter_cons_of_neg (by simp [hnull]), sizeAll, hsize]
        omega
      · have hrest : ts.any isNull = true := by
          simpa [hnull] using h
        have := ih hrest
        rw [List.filter_cons_of_pos (by simp [hnull]), sizeAll, sizeAll]
        omega

/-- What is left when a layer has been taken off is smaller. -/
theorem size_lt_of_peelOnce?
    {t u : Ty}
    (h : t.peelOnce? = some u) :
    u.size < t.size := by
  unfold peelOnce? at h
  split at h
  case h_1 name inner span =>
      rw [Option.ite_none_right_eq_some] at h
      obtain ⟨-, hinner⟩ := h
      cases hinner
      simp only [size, sizeAll]
      omega
  case h_2 members span =>
      rw [Option.ite_none_right_eq_some] at h
      obtain ⟨hany, hpresent⟩ := h
      have hfewer := sizeAll_filter_lt hany
      rw [present?] at hpresent
      rw [size]
      split at hpresent
      case h_1 =>
          have := size_le_sizeAll (List.mem_of_mem_head? hpresent)
          omega
      case h_2 m hfilter =>
          cases hpresent
          rw [hfilter, sizeAll, sizeAll] at hfewer
          omega
      case h_3 =>
          cases hpresent
          rw [size]
          omega
  case h_3 => cases h

end Ty

end ModuleSpec
