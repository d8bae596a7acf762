import ModuleSpec.Proofs.Bare.Tree
import ModuleSpec.Proofs.Concrete.Looks
import ModuleSpec.Proofs.Result

/-!
# Two readings side by side

Two readings agree when, as long as both have a result, the same is kept of both.
What is kept of an abstract tree is the tree without its spans.

A twin is a pair of readings with the same kind that play the same part.  To select
among the first readings of some twins is to select among the twins, and likewise
for the second, so that a rule that is applied to both looks at the same twins.

**Results.**  Readings that agree go on to readings that agree (`AgreeOn.bind`).
The selections of a rule are the selections among twins (`Twin.field?_first`,
`Twin.field?_second` and so on).
-/

namespace ModuleSpec

namespace Concrete

/-! ## Results that agree -/

section AgreeOn

variable {α β γ δ : Type}

/-- Of two readings that both have a result, the same is kept. -/
def AgreeOn (keep : α → β) (x x' : Read α) : Prop :=
  ∀ a a', x = .ok a → x' = .ok a' → keep a = keep a'

variable {keep : α → β} {keep' : γ → δ}

namespace AgreeOn

theorem ok
    {a a' : α}
    (h : keep a = keep a') :
    AgreeOn keep (.ok a) (.ok a') := by
  rintro _ _ ⟨⟩ ⟨⟩
  exact h

/-- A reading agrees with itself on all there is. -/
theorem refl
    (x : Read α) :
    AgreeOn id x x := by
  rintro a _ ha ha'
  exact Except.ok.inj (ha.symm.trans ha')

theorem bind
    {x x' : Read α}
    {f f' : α → Read γ}
    (h : AgreeOn keep x x')
    (hf : ∀ a a', keep a = keep a' → AgreeOn keep' (f a) (f' a')) :
    AgreeOn keep' (x >>= f) (x' >>= f') := by
  intro c c' hc hc'
  obtain ⟨a, ha, hc⟩ := bind_eq_ok_iff.1 hc
  obtain ⟨a', ha', hc'⟩ := bind_eq_ok_iff.1 hc'
  exact hf a a' (h a a' ha ha') c c' hc hc'

theorem map
    {x x' : Read α}
    {f f' : α → γ}
    (h : AgreeOn keep x x')
    (hf : ∀ a a', keep a = keep a' → keep' (f a) = keep' (f' a')) :
    AgreeOn keep' (x.map f) (x'.map f') := by
  intro c c' hc hc'
  obtain ⟨a, ha, rfl⟩ := map_eq_ok_iff.1 hc
  obtain ⟨a', ha', rfl⟩ := map_eq_ok_iff.1 hc'
  exact hf a a' (h a a' ha ha')

/-- Where all is kept both go on from the same result. -/
theorem bind_same
    {x x' : Read α}
    {f f' : α → Read γ}
    (h : AgreeOn id x x')
    (hf : ∀ a, AgreeOn keep' (f a) (f' a)) :
    AgreeOn keep' (x >>= f) (x' >>= f') :=
  h.bind fun a a' haa' => by
    obtain rfl : a = a' := haa'
    exact hf a

theorem map_same
    {x x' : Read α}
    {f f' : α → γ}
    (h : AgreeOn id x x')
    (hf : ∀ a, keep' (f a) = keep' (f' a)) :
    AgreeOn keep' (x.map f) (x'.map f') :=
  h.map fun a a' haa' => by
    obtain rfl : a = a' := haa'
    exact hf a

/-- Lists of readings agree entry by entry. -/
theorem mapM
    {τ : Type}
    {first second : τ → Reading}
    {f : Reading → Read α}
    {ts : List τ}
    (h : ∀ t, t ∈ ts → AgreeOn keep (f (first t)) (f (second t))) :
    AgreeOn (List.map keep) ((ts.map first).mapM f) ((ts.map second).mapM f) := by
  induction ts with
  | nil => exact .ok rfl
  | cons t ts ih =>
      intro as as' has has'
      obtain ⟨b, bs, hb, hbs, rfl⟩ := mapM_cons_eq_ok_iff.1 has
      obtain ⟨b', bs', hb', hbs', rfl⟩ := mapM_cons_eq_ok_iff.1 has'
      rw [List.map_cons, List.map_cons, h t List.mem_cons_self b b' hb hb',
        ih (fun u hu => h u (List.mem_cons_of_mem t hu)) bs bs' hbs hbs']

theorem option
    {τ : Type}
    {first second : τ → Reading}
    {f : Reading → Read α}
    {o : Option τ}
    (h : ∀ t, o = some t → AgreeOn keep (f (first t)) (f (second t))) :
    AgreeOn (Option.map keep) (readOption (o.map first) f) (readOption (o.map second) f) := by
  cases o with
  | none => exact .ok rfl
  | some t => exact (h t rfl).map fun a a' haa' => congrArg some haa'

end AgreeOn

end AgreeOn

/-- A list that is not there is empty. -/
theorem map_getD_congr
    {α β : Type}
    {f : α → β}
    {o o' : Option (List α)}
    (h : o.map (List.map f) = o'.map (List.map f)) :
    (o.getD []).map f = (o'.getD []).map f := by
  cases o <;> cases o' <;> simp_all

/-- The readings of two nodes agree on what a use of them keeps. -/
def AlikeIn : Use → Reading → Reading → Prop
  | .text, r, r' => AgreeOn id r.text r'.text
  | .name, r, r' => AgreeOn id r.propertyName r'.propertyName
  | .part .statement, r, r' => AgreeOn Statement.bare r.statement r'.statement
  | .part .statements, r, r' => AgreeOn (List.map Statement.bare) r.statements r'.statements
  | .part .expression, r, r' => AgreeOn Expr.bare r.expression r'.expression
  | .part .expressions, r, r' => AgreeOn (List.map Expr.bare) r.expressions r'.expressions
  | .part .type, r, r' => AgreeOn Ty.bare r.type r'.type
  | .part .types, r, r' => AgreeOn (List.map Ty.bare) r.types r'.types
  | .part .unionMembers, r, r' => AgreeOn (List.map Ty.bare) r.unionMembers r'.unionMembers
  | .part .typing, r, r' => AgreeOn Ty.bare r.typing r'.typing
  | .part .parameter, r, r' => AgreeOn Param.bare r.parameter r'.parameter
  | .part .parameters, r, r' => AgreeOn (List.map Param.bare) r.parameters r'.parameters
  | .part .member, r, r' => AgreeOn Member.bare r.member r'.member
  | .part .members, r, r' => AgreeOn (List.map Member.bare) r.members r'.members
  | .part .base, r, r' => AgreeOn Base.bare r.base r'.base
  | .part .bases, r, r' => AgreeOn (List.map Base.bare) r.bases r'.bases
  | .part .enumMember, r, r' => AgreeOn EnumMember.bare r.enumMember r'.enumMember
  | .part .enumMembers, r, r' => AgreeOn (List.map EnumMember.bare) r.enumMembers r'.enumMembers
  | .part .declarator, r, r' => AgreeOn Declarator.bare r.declarator r'.declarator

/-! ## Twins -/

/-- The readings of two nodes of the same kind that play the same part. -/
structure Twin where
  first : Reading
  second : Reading
  kind : second.kind = first.kind
  named : second.head.named = first.head.named
  field : second.head.field = first.head.field

namespace Twin

/-- What the two readings have in common is in the head of either. -/
def head (t : Twin) : Head :=
  t.first.head

variable {ts : List Twin}

theorem named_first :
    Children.named (ts.map first) = (selectNamed head ts).map first :=
  List.filter_map

theorem named_second :
    Children.named (ts.map second) = (selectNamed head ts).map second := by
  rw [Children.named, List.filter_map, selectNamed]
  congr 2
  funext t
  simp only [Function.comp_apply, t.named, t.kind]
  rfl

/-- Twins are selected by what both are. -/
theorem filter_first
    (p : String → Bool) :
    (ts.map first).filter (fun r => p r.kind) = (ts.filter fun t => p t.head.kind).map first :=
  List.filter_map

theorem filter_second
    (p : String → Bool) :
    (ts.map second).filter (fun r => p r.kind) = (ts.filter fun t => p t.head.kind).map second := by
  rw [List.filter_map]
  congr 2
  funext t
  simp only [Function.comp_apply, t.kind]
  rfl

theorem field?_first
    (field : String) :
    Children.field? (ts.map first) field = (selectField? head ts field).map first :=
  List.find?_map

theorem field?_second
    (field : String) :
    Children.field? (ts.map second) field = (selectField? head ts field).map second := by
  rw [Children.field?, List.find?_map, selectField?]
  congr 2
  funext t
  simp only [Function.comp_apply, t.field]
  rfl

theorem ofKind?_first
    (kinds : List String) :
    Children.ofKind? (ts.map first) kinds = (selectKind? head ts kinds).map first :=
  List.find?_map

theorem ofKind?_second
    (kinds : List String) :
    Children.ofKind? (ts.map second) kinds = (selectKind? head ts kinds).map second := by
  rw [Children.ofKind?, List.find?_map, selectKind?]
  congr 2
  funext t
  simp only [Function.comp_apply, t.kind]
  rfl

theorem hasToken_second
    (token : String) :
    Children.hasToken (ts.map second) token = Children.hasToken (ts.map first) token := by
  rw [Children.hasToken, Children.hasToken, List.any_map, List.any_map]
  congr 1
  funext t
  simp only [Function.comp_apply, t.named, t.kind]

/-- Twins are alike in a use when their readings are. -/
def Alike (use : Use) (t : Twin) : Prop :=
  AlikeIn use t.first t.second

end Twin

/-! ## Looks at readings that are alike -/

/-- Of two nodes, all that the looks are at is alike. -/
structure LooksAlike (head head' : Head) (looks : List (Look Twin)) : Prop where
  own : .own ∈ looks → AgreeOn id head.text head'.text
  child : ∀ use t, .child use t ∈ looks → t.Alike use

namespace LooksAlike

variable {head head' : Head} {looks looks' : List (Look Twin)}

theorem nil :
    LooksAlike head head' [] :=
  ⟨fun hown => absurd hown List.not_mem_nil, fun _ _ ht => absurd ht List.not_mem_nil⟩

theorem cons_own
    (h : LooksAlike head head' looks)
    (htext : AgreeOn id head.text head'.text) :
    LooksAlike head head' (.own :: looks) := by
  refine ⟨fun _ => htext, fun use t ht => ?_⟩
  rcases List.mem_cons.1 ht with hlook | ht
  · cases hlook
  · exact h.child use t ht

theorem cons_child
    {use : Use}
    {t : Twin}
    (h : LooksAlike head head' looks)
    (ht : t.Alike use) :
    LooksAlike head head' (.child use t :: looks) := by
  refine ⟨fun hown => ?_, fun use' t' ht' => ?_⟩
  · rcases List.mem_cons.1 hown with hlook | hown
    · cases hlook
    · exact h.own hown
  · rcases List.mem_cons.1 ht' with hlook | ht'
    · cases hlook
      exact ht
    · exact h.child use' t' ht'

theorem left
    (h : LooksAlike head head' (looks ++ looks')) :
    LooksAlike head head' looks :=
  ⟨fun hown => h.own (List.mem_append_left looks' hown),
    fun use t ht => h.child use t (List.mem_append_left looks' ht)⟩

theorem right
    (h : LooksAlike head head' (looks ++ looks')) :
    LooksAlike head head' looks' :=
  ⟨fun hown => h.own (List.mem_append_right looks hown),
    fun use t ht => h.child use t (List.mem_append_right looks ht)⟩

theorem tail
    {look : Look Twin}
    (h : LooksAlike head head' (look :: looks)) :
    LooksAlike head head' looks :=
  ⟨fun hown => h.own (List.mem_cons_of_mem look hown),
    fun use t ht => h.child use t (List.mem_cons_of_mem look ht)⟩

theorem option
    {use : Use}
    {o : Option Twin}
    (h : LooksAlike head head' (lookOption use o))
    {t : Twin}
    (ht : o = some t) :
    t.Alike use :=
  h.child use t (List.mem_map.2 ⟨t, Option.mem_toList.2 ht, rfl⟩)

theorem each
    {use : Use}
    {ts : List Twin}
    (h : LooksAlike head head' (ts.map (.child use)))
    {t : Twin}
    (ht : t ∈ ts) :
    t.Alike use :=
  h.child use t (List.mem_map.2 ⟨t, ht, rfl⟩)

end LooksAlike

end Concrete

end ModuleSpec
