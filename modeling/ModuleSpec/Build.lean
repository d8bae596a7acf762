import ModuleSpec.Property
import ModuleSpec.Registration
import ModuleSpec.Schema.Module

/-!
# Building the schema of a module

The schema of a file comes from its one interface and its one load.  Each member
of the interface is lowered by itself, under a capture of the faults after which
a module can still be used; a member with such a fault is dropped, and with it
the objects that it alone has named.

**Results.**  The members of a list are built one after the other, and what one
of them gives does not depend on the others.
-/

namespace ModuleSpec

/-- What one member of the interface gives. -/
structure Entry where
  property? : Option Shape
  aliases : List Alias
  faults : List Fault

/-- What the members of the interface give together. -/
structure Members where
  aliases : Aliases
  properties : List Shape
  faults : List Fault

/-- A schema, and the faults that were recorded while it was built. -/
structure Built where
  schema : Schema
  faults : List Fault

/-- The channel on which the faults of a file are recorded. -/
def fileChannel : Nat := 0

/-- The scope of the members of a module. -/
def memberScope
    (moduleName : String)
    (env : Environment)
    (nativeOnly : Bool) :
    Scope :=
  ⟨moduleName, env, nativeOnly, .recoverable fileChannel, .recoverable fileChannel⟩

/-- What one member gives: its method, unless it has a fault. -/
def buildEntry
    (scope : Scope)
    (m : Member) :
    Except Halt Entry :=
  let run := scope.capture.guard (lowerProperty scope m)
  run.outcome.map fun property? =>
    ⟨property?,
      if property?.isSome then Lowering.registered run.events else [],
      Lowering.recordedOn fileChannel run.events⟩

namespace Members

def ofEntries (entries : List Entry) : Members :=
  ⟨Aliases.empty.registerAll (entries.flatMap Entry.aliases),
    entries.filterMap Entry.property?,
    entries.flatMap Entry.faults⟩

end Members

/-- What the members of an interface give, in their order. -/
def buildMembers
    (scope : Scope)
    (members : List Member) :
    Except Halt Members := do
  let entries ← (members.filter Member.isProperty).mapM (buildEntry scope)
  .ok (.ofEntries entries)

/-- A value without a fault, or the end that a fault is. -/
def ofFault {α : Type} : Except Fault α → Except Halt α
  | .ok a => .ok a
  | .error f => .error (.fault f)

/-- The schema of the module that a file declares. -/
def buildSchema
    (moduleName : String)
    (program : Program) :
    Except Halt Built := do
  let env := Environment.ofProgram program
  let i ← ofFault (findInterface moduleName program env)
  let registered ← ofFault (findRegisteredName moduleName program i)
  let facts := PlatformFacts.ofNames [registered, moduleName]
  let members ← buildMembers (memberScope moduleName env facts.nativeOnly) i.members
  let excluded := if facts.excluded.isEmpty then none else some (facts.excluded.map Platform.name)
  .ok ⟨⟨members.aliases, members.properties, [registered], excluded⟩, members.faults⟩

end ModuleSpec
