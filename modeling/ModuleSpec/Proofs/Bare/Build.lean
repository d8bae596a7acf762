import Mathlib.Data.List.Forall2
import ModuleSpec.Build
import ModuleSpec.Proofs.Bare.Lowering
import ModuleSpec.Proofs.Result

/-!
# Bare modules

A bare file gives the schema that the file gives, and the same faults about bare
nodes.

**Results.**  What is built from a bare file is what is built from the file, bare
(`buildSchema_bare`).  Files that are bare the same build alike
(`buildsAlike_of_bare_eq`): both end with the same fault, by its kind and its
message, or both give the same schema and the same faults.
-/

namespace ModuleSpec

section ChangeBoth

variable {α β γ ε : Type}

/-- Computations that are changed go on to what they go on to, changed. -/
theorem changeBoth_bind
    {onError : ε → ε}
    {onOk : α → α}
    {onOk' : β → γ}
    {x : Except ε α}
    {f : α → Except ε β}
    {g : α → Except ε γ}
    (h : ∀ a, g (onOk a) = changeBoth onError onOk' (f a)) :
    (changeBoth onError onOk x >>= g) = changeBoth onError onOk' (x >>= f) := by
  cases x with
  | error e => rfl
  | ok a => exact h a

theorem changeBoth_mapM
    {onError : ε → ε}
    {strip : α → α}
    {onOk : β → β}
    {f g : α → Except ε β}
    (h : ∀ a, g (strip a) = changeBoth onError onOk (f a))
    (as : List α) :
    (as.map strip).mapM g = changeBoth onError (List.map onOk) (as.mapM f) := by
  induction as with
  | nil => rfl
  | cons a as ih =>
      rw [List.map_cons, List.mapM_cons, List.mapM_cons, h, ih]
      cases f a with
      | error e => rfl
      | ok b => cases as.mapM f <;> rfl

end ChangeBoth

/-! ## The interface and the load -/

/-- The interface without its spans. -/
def Interface.bare (i : Interface) : Interface :=
  ⟨i.name, i.bases.map Base.bare, i.members.map Member.bare, .none⟩

theorem Declaration.bare_interface
    (i : Interface) :
    (interface i).bare = interface i.bare := by
  obtain ⟨name, bases, members, span⟩ := i
  simp [Declaration.bare, Interface.bare]

namespace Interface

@[simp]
theorem isModule_bare
    (i : Interface) :
    i.bare.isModule = i.isModule := by
  obtain ⟨name, bases, members, span⟩ := i
  rcases bases with _ | ⟨⟨_, _, _⟩, _ | _⟩ <;> rfl

@[simp]
theorem node_bare
    (i : Interface) :
    i.bare.node = i.node.bare := by
  rw [node, node, Node.bare, Statement.bare, Declaration.bare_interface]

end Interface

theorem Declaration.moduleInterface?_bare
    (d : Declaration) :
    d.bare.moduleInterface? = d.moduleInterface?.map Interface.bare := by
  obtain i | ⟨name, type, span⟩ | ⟨name, members, span⟩ := d
  · rw [bare_interface, moduleInterface?, moduleInterface?, Interface.isModule_bare]
    split <;> rfl
  · rfl
  · rfl

theorem Environment.moduleInterfaces_bare
    (env : Environment) :
    env.bare.moduleInterfaces = env.moduleInterfaces.map Interface.bare := by
  simp only [moduleInterfaces, bare, List.filterMap_map, List.map_filterMap, Function.comp_def,
    Declaration.moduleInterface?_bare]

/-- The interface of a bare file is that of the file, bare. -/
theorem findInterface_bare
    (moduleName : String)
    (program : Program)
    (env : Environment) :
    findInterface moduleName program.bare env.bare =
      changeBoth Fault.bare Interface.bare (findInterface moduleName program env) := by
  unfold findInterface
  rw [Environment.moduleInterfaces_bare]
  rcases env.moduleInterfaces with _ | ⟨i, _ | ⟨j, is⟩⟩
  · rfl
  · simp only [List.map_cons, List.map_nil]
    have hname : i.bare.name = i.name := rfl
    rw [hname]
    split
    · rfl
    · simp [changeBoth, Fault.bare]
  · simp only [List.map_cons, Interface.node_bare, changeBoth, Fault.bare, List.map_map,
      Function.comp_def]
    rfl

/-- The load without its spans. -/
def Load.bare (load : Load) : Load :=
  ⟨load.call.bare, load.method, load.arguments.map Expr.bare,
    load.typeArgs.map (List.map Ty.bare)⟩

theorem Expr.load?_bare
    (e : Expr) :
    e.bare.load? = e.load?.map Load.bare := by
  cases e with
  | call callee arguments typeArgs _ =>
      rw [Expr.bare]
      cases callee with
      | member object property computed _ =>
          cases object with
          | identifier receiver _ =>
              cases property with
              | identifier method _ =>
                  cases computed with
                  | true => rfl
                  | false =>
                      simp only [Expr.bare, load?]
                      split <;> simp [Load.bare, Expr.bare]
              | _ => rfl
          | _ => rfl
      | _ => rfl
  | _ => rfl

theorem Program.loads_bare
    (program : Program) :
    program.bare.loads = program.loads.map Load.bare := by
  have hload (n : Node) : n.bare.load? = n.load?.map Load.bare := by
    cases n with
    | expr e => exact e.load?_bare
    | _ => rfl
  have hwalk : program.bare.walk = program.walk.map Node.bare := (Node.program program).walk_bare
  simp only [loads, hwalk, List.filterMap_map, List.map_filterMap, Function.comp_def, hload]

theorem Load.registeredName_bare
    (load : Load)
    (moduleName : String) :
    load.bare.registeredName moduleName =
      changeBoth Fault.bare id (load.registeredName moduleName) := by
  obtain ⟨call, method, arguments, typeArgs⟩ := load
  rcases arguments with _ | ⟨argument, _ | ⟨argument', arguments⟩⟩
  · rfl
  · cases argument with
    | string name span =>
        rcases typeArgs with _ | (_ | ⟨t, _ | ⟨t', ts⟩⟩)
        · rfl
        · rfl
        · cases t with
          | reference type inner span' =>
              cases inner with
              | none =>
                  simp only [registeredName, bare, Expr.bare, Ty.bare, Ty.bareArgs,
                    List.map_cons, List.map_nil, Option.map_some]
                  split <;> rfl
              | some inner => rfl
          | _ => rfl
        · cases t with
          | reference type inner span' => cases inner <;> rfl
          | _ => rfl
    | _ => rfl
  · simp [registeredName, bare, changeBoth, Fault.bare, Node.bare]

/-- The name that a bare file registers is the one that the file registers. -/
theorem findRegisteredName_bare
    (moduleName : String)
    (program : Program)
    (i : Interface) :
    findRegisteredName moduleName program.bare i.bare =
      changeBoth Fault.bare id (findRegisteredName moduleName program i) := by
  unfold findRegisteredName
  rw [Program.loads_bare]
  rcases program.loads with _ | ⟨load, _ | ⟨load', loads⟩⟩
  · simp [changeBoth, Fault.bare]
  · exact load.registeredName_bare moduleName
  · simp [changeBoth, Fault.bare, Load.bare, Node.bare, Function.comp_def]

/-! ## Members of the interface -/

@[simp]
theorem Member.isProperty_bare
    (m : Member) :
    m.bare.isProperty = m.isProperty := by
  cases m <;> rfl

@[simp]
theorem Lowering.registered_map_bare
    (events : List Event) :
    registered (events.map Event.bare) = registered events := by
  rw [registered, registered, List.filterMap_map]
  congr 1
  funext e
  cases e <;> rfl

@[simp]
theorem Lowering.recordedOn_map_bare
    (channel : Nat)
    (events : List Event) :
    recordedOn channel (events.map Event.bare) = (recordedOn channel events).map Fault.bare := by
  rw [recordedOn, recordedOn, List.filterMap_map, List.map_filterMap]
  congr 1
  funext e
  cases e with
  | registered a => rfl
  | recorded c f =>
      by_cases hc : c = channel <;> simp [Event.bare, hc]

/-- What a member gives, with faults about bare nodes. -/
def Entry.bare (e : Entry) : Entry :=
  { e with faults := e.faults.map Fault.bare }

/-- What the members give together, with faults about bare nodes. -/
def Members.bare (ms : Members) : Members :=
  { ms with faults := ms.faults.map Fault.bare }

/-- What is built, with faults about bare nodes. -/
def Built.bare (built : Built) : Built :=
  { built with faults := built.faults.map Fault.bare }

theorem buildEntry_bare
    (scope : Scope)
    (m : Member) :
    buildEntry scope.bare m.bare = changeBoth Halt.bare Entry.bare (buildEntry scope m) := by
  have hrun : scope.bare.capture.guard (lowerProperty scope.bare m.bare) =
      (scope.capture.guard (lowerProperty scope m)).bare := by
    rw [Capture.bare_guard, lowerProperty_bare, Scope.capture_bare]
  unfold buildEntry
  rw [hrun]
  obtain ⟨h | property?, events⟩ := scope.capture.guard (lowerProperty scope m)
  · rfl
  · simp [Lowering.bare, changeBoth, Entry.bare, Except.map]

theorem buildMembers_bare
    (scope : Scope)
    (members : List Member) :
    buildMembers scope.bare (members.map Member.bare) =
      changeBoth Halt.bare Members.bare (buildMembers scope members) := by
  have hfilter : (members.map Member.bare).filter Member.isProperty =
      (members.filter Member.isProperty).map Member.bare := by
    simp [List.filter_map, Function.comp_def]
  unfold buildMembers
  rw [hfilter, changeBoth_mapM (buildEntry_bare scope)]
  refine changeBoth_bind fun entries => ?_
  simp [changeBoth, Members.ofEntries, Members.bare, Entry.bare, List.flatMap_map,
    List.map_flatMap, List.filterMap_map, Function.comp_def]

/-! ## Files -/

theorem ofFault_changeBoth
    {α β : Type}
    (onOk : α → β)
    (x : Except Fault α) :
    ofFault (changeBoth Fault.bare onOk x) = changeBoth Halt.bare onOk (ofFault x) := by
  cases x <;> rfl

/-- What is built from a bare file is what is built from the file, bare. -/
theorem buildSchema_bare
    (moduleName : String)
    (program : Program) :
    buildSchema moduleName program.bare =
      changeBoth Halt.bare Built.bare (buildSchema moduleName program) := by
  unfold buildSchema
  simp only [Environment.ofProgram_bare, findInterface_bare, ofFault_changeBoth]
  refine changeBoth_bind fun i => ?_
  rw [findRegisteredName_bare, ofFault_changeBoth]
  refine changeBoth_bind fun registered => ?_
  have hmembers := buildMembers_bare (memberScope moduleName (.ofProgram program)
    (PlatformFacts.ofNames [registered, moduleName]).nativeOnly) i.members
  refine (congrArg (· >>= _) hmembers).trans (changeBoth_bind fun members => ?_)
  rfl

/-! ## Files that are bare the same -/

/-- Faults of the same kind and with the same message. -/
structure Fault.Alike (f f' : Fault) : Prop where
  kind : f.kind = f'.kind
  message : f.message = f'.message

theorem Fault.alike_of_bare_eq
    {f f' : Fault}
    (h : f.bare = f'.bare) :
    f.Alike f' := by
  have hmessage : f.bare.message = f'.bare.message := congrArg Fault.message h
  have hkind : f.bare.kind = f'.bare.kind := congrArg Fault.kind h
  exact ⟨hkind, hmessage⟩

/-- How two builds are alike: they end in the same way, but for where the faults stand. -/
inductive BuildsAlike : Except Halt Built → Except Halt Built → Prop
  | fault
      {f f' : Fault}
      (hfault : f.Alike f') :
      BuildsAlike (.error (.fault f)) (.error (.fault f'))
  | emptyUnion :
      BuildsAlike (.error .emptyUnion) (.error .emptyUnion)
  | endless :
      BuildsAlike (.error .endless) (.error .endless)
  | built
      {b b' : Built}
      (hschema : b.schema = b'.schema)
      (hfaults : List.Forall₂ Fault.Alike b.faults b'.faults) :
      BuildsAlike (.ok b) (.ok b')

theorem buildsAlike_of_changeBoth_eq
    {x x' : Except Halt Built}
    (h : changeBoth Halt.bare Built.bare x = changeBoth Halt.bare Built.bare x') :
    BuildsAlike x x' := by
  rcases x with (f | _ | _) | b <;> rcases x' with (f' | _ | _) | b' <;>
    simp only [changeBoth, Halt.bare, Except.error.injEq, Except.ok.injEq, Halt.fault.injEq,
      reduceCtorEq] at h
  · exact .fault (Fault.alike_of_bare_eq h)
  · exact .emptyUnion
  · exact .endless
  · have hfaults : List.Forall₂ (fun f f' => f.bare = f'.bare) b.faults b'.faults := by
      have hmap : b.faults.map Fault.bare = b'.faults.map Fault.bare := congrArg Built.faults h
      rw [← List.forall₂_eq_eq_eq, List.forall₂_map_left_iff, List.forall₂_map_right_iff] at hmap
      exact hmap
    have hschema : b.bare.schema = b'.bare.schema := congrArg Built.schema h
    exact .built hschema (hfaults.imp fun _ _ => Fault.alike_of_bare_eq)

/-- Files that are bare the same build alike. -/
theorem buildsAlike_of_bare_eq
    {program program' : Program}
    (h : program.bare = program'.bare)
    (moduleName : String) :
    BuildsAlike (buildSchema moduleName program) (buildSchema moduleName program') := by
  refine buildsAlike_of_changeBoth_eq ?_
  rw [← buildSchema_bare, ← buildSchema_bare, h]

end ModuleSpec
