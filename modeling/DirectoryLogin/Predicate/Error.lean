/-!
# What can be wrong with a predicate

An error names its cause and the byte offset in the source at which it was found. The wording of
each cause is fixed by `Fault.message`.
-/

namespace DirectoryLogin.Predicate

/-- Why the text of a predicate, or an answer of a registered rule, is refused. -/
inductive Fault where
  /-- One of `&`, `|` and `=` stands alone where only two of them make a token. -/
  | single (c : Char)
  | unterminatedLiteral
  | unexpectedCharacter (c : Char)
  | tooLong
  | trailingInput
  | nestedTooDeeply
  | unexpectedEnd
  | expectedLeftParen
  | expectedRightParen
  | expectedAttributeName
  | unknownOperand (name : String)
  | expectedOperand
  | unknownOperator (name : String)
  | expectedOperator
  /-- A registered rule failed with a message of its own. -/
  | reported (message : String)
  deriving DecidableEq, Repr

/-- The wording of a cause. -/
def Fault.message : Fault → String
  | single c => s!"expected '{c}{c}'"
  | unterminatedLiteral => "unterminated string literal"
  | unexpectedCharacter c => s!"unexpected character '{c}'"
  | tooLong => "expression too long"
  | trailingInput => "unexpected trailing input"
  | nestedTooDeeply => "expression nested too deeply"
  | unexpectedEnd => "unexpected end of expression"
  | expectedLeftParen => "expected '('"
  | expectedRightParen => "expected ')'"
  | expectedAttributeName => "expected attribute name"
  | unknownOperand name => s!"unknown operand '{name}'"
  | expectedOperand => "expected operand"
  | unknownOperator name => s!"unknown operator '{name}'"
  | expectedOperator => "expected comparison operator"
  | reported message => message

/-- A cause and the byte offset at which it was found. -/
structure PredicateError where
  fault : Fault
  position : Nat
  deriving DecidableEq, Repr

namespace PredicateError

/-- The wording of the cause alone. -/
def message (e : PredicateError) : String := e.fault.message

/-- The wording with the position. -/
def display (e : PredicateError) : String := s!"{e.message} at offset {e.position}"

end PredicateError

end DirectoryLogin.Predicate
