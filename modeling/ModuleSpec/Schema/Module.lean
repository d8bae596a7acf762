import ModuleSpec.Platform
import ModuleSpec.Schema.Aliases

/-!
# Module schemas

The schema of one module: its methods, the named objects that they mention, the
names it is registered under, and the names of the platforms it is not generated
for.  A schema can name any platforms; those that are built here name the ones that
the end of a module's name leaves out.
-/

namespace ModuleSpec

/-- What the code generators are told about a module. -/
structure Schema where
  aliases : Aliases
  properties : List Shape
  moduleNames : List String
  excluded : Option (List String)

namespace Schema

/-- Whether the module is left out on a platform. -/
def excludes (schema : Schema) (p : Platform) : Bool :=
  (schema.excluded.getD []).contains p.name

end Schema

end ModuleSpec
