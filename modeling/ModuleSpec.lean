import ModuleSpec.Main
import ModuleSpec.Tree.Same
import ModuleSpec.Proofs.Lowering.Descent
import ModuleSpec.Proofs.Schema.Occurrence
import ModuleSpec.Proofs.Lowering.Invariant
import ModuleSpec.Proofs.Entries
import ModuleSpec.Proofs.Legality
import ModuleSpec.Proofs.AliasOrder
import ModuleSpec.Proofs.Lowering.Companion
import ModuleSpec.Proofs.Lowering.Depth
import ModuleSpec.Proofs.Lowering.Carry
import ModuleSpec.Proofs.AliasAgreement
import ModuleSpec.Proofs.Shape
import ModuleSpec.Proofs.FaultContract
import ModuleSpec.Proofs.Lowering.Turn
import ModuleSpec.Proofs.Reentry
import ModuleSpec.Proofs.Lowering.Passing
import ModuleSpec.Proofs.Independence
import ModuleSpec.Proofs.Lowering.Render
import ModuleSpec.Proofs.Completeness
import ModuleSpec.Proofs.Schema.Refinement
import ModuleSpec.Proofs.Lowering.Refine
import ModuleSpec.Proofs.Widening
import ModuleSpec.Proofs.Uniqueness
import ModuleSpec.Proofs.Lowering.Origin
import ModuleSpec.Proofs.Reachability
import ModuleSpec.Proofs.Calls
import ModuleSpec.Proofs.Lowering.Weaken
import ModuleSpec.Proofs.Rearrangement
import ModuleSpec.Proofs.Files.Found
import ModuleSpec.Proofs.Files.Agreement
import ModuleSpec.Proofs.Merging
import ModuleSpec.Proofs.Ordering
import ModuleSpec.Proofs.Bare.Same
import ModuleSpec.Proofs.Bare.Lowering
import ModuleSpec.Proofs.Bare.Build
import ModuleSpec.Proofs.Concrete.Looks
import ModuleSpec.Proofs.Concrete.Strip
import ModuleSpec.Proofs.Concrete.Alike
import ModuleSpec.Proofs.Layout
import ModuleSpec.Proofs.Schema.Decoding
import ModuleSpec.Proofs.Documents
import ModuleSpec.Proofs.Text.Marker
import ModuleSpec.Proofs.Concrete.Slices
import ModuleSpec.Proofs.Concrete.Bases
import ModuleSpec.Proofs.Candidates
import ModuleSpec.Proofs.Text.Pieces
import ModuleSpec.Proofs.Pattern.Matching
import ModuleSpec.Proofs.GeneratedPlaces
import ModuleSpec.Proofs.IgnoreFile
import ModuleSpec.Proofs.Text.Escaping
import ModuleSpec.Proofs.Files.Writing
import ModuleSpec.Proofs.Files.Reached
import ModuleSpec.Proofs.CommandLine.Steps
import ModuleSpec.Proofs.CommandLine.AllOrNothing
import ModuleSpec.Proofs.CommandLine.Inspection
import ModuleSpec.Proofs.NormalForm
import ModuleSpec.Proofs.ArrayBarrier
import ModuleSpec.Proofs.FunctionElement
import ModuleSpec.Proofs.Exclusion
import ModuleSpec.Proofs.SpecNames
import ModuleSpec.Proofs.Overriding
import ModuleSpec.Proofs.Lowering.Uses
import ModuleSpec.Proofs.FaultPlaces
import ModuleSpec.Proofs.Naming
import ModuleSpec.Proofs.Grouping
import ModuleSpec.Proofs.Respelling
import ModuleSpec.Proofs.Traversal
import ModuleSpec.Proofs.PlatformFacts
import ModuleSpec.Proofs.Numeral.Nearest
import ModuleSpec.Proofs.Numeral.Rounding
import ModuleSpec.Proofs.Numeral.Decimal
import ModuleSpec.Proofs.Numeral.Digits
import ModuleSpec.Proofs.Numeral.Literal
import ModuleSpec.Proofs.Spellings
import ModuleSpec.Proofs.Concrete.Complete
import ModuleSpec.Proofs.Conversion
