import ModuleSpec.Proofs.Concrete.Bases
import ModuleSpec.Proofs.Numeral.Literal

/-!
# Spellings of an integer

An integer can be written in several bases, with letters of either case, zeros in front,
underscores between its digits and an n at the end.  A decimal spelling is read as a
decimal numeral, which is rounded once; a spelling with a mark is read as a natural
number, and that is rounded.

**Idea.**  Both roundings give a nearest double, and there is only one.

**Results.**  `integer_spellings_agree`: every spelling is read as the double nearest to
the integer.  They part ways only where this is infinity, which no spelling with a mark is
read as.  A minus sign in front of a numeral gives the opposite double.
-/

namespace ModuleSpec

namespace Concrete
namespace Node

variable {source : Source} {n : Node} {text : List Char}

/-- The node is a numeral with the given text. -/
structure IsNumeral (source : Source) (text : List Char) (n : Node) : Prop where
  kind : n.kind = "number"
  text : (n.head source).text = .ok (String.ofList text)

/-- The node is a minus sign in front of a numeral with the given text. -/
structure IsNegated (source : Source) (text : List Char) (n : Node) : Prop where
  kind : n.kind = "unary_expression"
  operand : ∃ operand, (n.children.find? fun c => c.field == some "argument") = some operand
    ∧ operand.IsNumeral source text
  operator : ∃ operator, (n.children.find? fun c => c.field == some "operator") = some operator
    ∧ (operator.head source).text = .ok "-"

/-- The value of a numeral, as it is read in a tree. -/
theorem readNumber_ofList (text : List Char) :
    readNumber (String.ofList text) = (Numeral.read text).mapError .badNumeral := by
  rw [readNumber, String.toList_ofList]
  cases Numeral.read text <;> rfl

theorem text_read
    (source : Source)
    (n : Node) :
    (n.read source).text = (n.head source).text := by
  rw [read_eq]
  rfl

/-- A numeral is read as its value. -/
theorem IsNumeral.expression
    (h : n.IsNumeral source text) :
    (n.read source).expression
      = ((Numeral.read text).mapError .badNumeral).map fun x => .number x (n.span source) := by
  have hkind : (n.head source).kind = "number" := (n.kind_head source).trans h.kind
  rw [read_eq, Reading.ofChildren]
  simp only [readExpression, hkind, h.text, ← readNumber_ofList, bind, Except.bind]
  cases readNumber (String.ofList text) <;> rfl

/-- A minus sign in front of a numeral is read as the opposite of its value. -/
theorem IsNegated.expression
    (h : n.IsNegated source text) :
    (n.read source).expression
      = ((Numeral.read text).mapError .badNumeral).map
        fun x => .number x.negate (n.span source) := by
  have hkind : (n.head source).kind = "unary_expression" := (n.kind_head source).trans h.kind
  obtain ⟨operand, hoperand, hnumeral⟩ := h.operand
  obtain ⟨operator, hoperator, hminus⟩ := h.operator
  rw [read_eq, Reading.ofChildren]
  simp only [readExpression, hkind, readUnary, field?_map_read, hoperand, hoperator,
    Option.map_some, kind_read, hnumeral.kind, if_true, text_read, hminus, hnumeral.text,
    ← readNumber_ofList, bind, Except.bind]
  cases readNumber (String.ofList text) <;> rfl

end Node
end Concrete

/--
Every spelling of an integer is read as the double nearest to it while this is finite.
Beyond all doubles a decimal spelling is read as infinity, and one with a mark is an
error.  With a minus sign in front the value is the opposite one.
-/
theorem integer_spellings_agree (l : Numeral.IntegerLiteral) :
    ∃ x : Double, x.IsNearest l.value ∧ (∀ y : Double, y.IsNearest l.value → y = x)
      ∧ (x.isFinite = true → Numeral.read l.text = .ok x)
      ∧ (x.isFinite = false → Numeral.read l.text
          = if l.base = .decimal then .ok Double.infinity else .error .tooLarge)
      ∧ (∀ source n, Concrete.Node.IsNumeral source l.text n → (n.read source).expression
          = ((Numeral.read l.text).mapError .badNumeral).map
            fun y => .number y (n.span source))
      ∧ (∀ source n, Concrete.Node.IsNegated source l.text n → (n.read source).expression
          = ((Numeral.read l.text).mapError .badNumeral).map
            fun y => .number y.negate (n.span source))
      ∧ ∀ y : Double, y.negate.value = -y.value := by
  have hnearest := Double.isNearest_ofNat l.value
  have hread := Numeral.read_integer l
  refine ⟨Double.ofNat l.value, hnearest, fun y hy => hy.unique hnearest, ?_, ?_,
    fun _ _ hn => hn.expression, fun _ _ hn => hn.expression, Double.value_negate⟩
  · intro hfinite
    rw [hread, if_pos (.inr hfinite)]
  · intro hinfinite
    rw [hread, hinfinite, hnearest.eq_infinity hinfinite]
    simp only [Bool.false_eq_true, or_false]

/-! ## A negative integer in hexadecimal digits -/

namespace NegativeSixteen

/-- The integer sixteen, with a mark, an underscore and an n. -/
def literal : Numeral.IntegerLiteral :=
  ⟨.hexadecimal, false,
    ⟨⟨⟨1, Numeral.Base.one_lt_size _⟩, false⟩, [(1, ⟨⟨0, by decide⟩, false⟩)]⟩, true⟩

def source : Concrete.Source :=
  .ofString "-0x1_0n"

def minus : Concrete.Node :=
  .mk "-" false (some "operator") 0 1 []

def numeral : Concrete.Node :=
  .mk "number" true (some "argument") 1 7 []

def node : Concrete.Node :=
  .mk "unary_expression" true none 0 7 [minus, numeral]

theorem isNegated_node : node.IsNegated source literal.text where
  kind := rfl
  operand := ⟨numeral, rfl, rfl, by decide +kernel⟩
  operator := ⟨minus, rfl, by decide +kernel⟩

/-- The double sixteen, field by field. -/
theorem ofNat_value : Double.ofNat literal.value = ⟨false, 1027, 0⟩ := by
  decide +kernel

end NegativeSixteen

theorem negativeSixteen_read :
    Numeral.read NegativeSixteen.literal.text = .ok ⟨false, 1027, 0⟩
      ∧ (NegativeSixteen.node.read NegativeSixteen.source).expression
        = .ok (.number ⟨true, 1027, 0⟩ ⟨1, 0, 1, 7⟩) := by
  obtain ⟨x, hnearest, -, hfinite, -, -, hnegated, -⟩ :=
    integer_spellings_agree NegativeSixteen.literal
  obtain rfl : x = ⟨false, 1027, 0⟩ :=
    (hnearest.unique (Double.isNearest_ofNat _)).trans NegativeSixteen.ofNat_value
  have hread := hfinite rfl
  have hspan : NegativeSixteen.node.span NegativeSixteen.source = ⟨1, 0, 1, 7⟩ := by
    decide +kernel
  refine ⟨hread, ?_⟩
  rw [hnegated _ _ NegativeSixteen.isNegated_node, hread, hspan]
  rfl

end ModuleSpec
