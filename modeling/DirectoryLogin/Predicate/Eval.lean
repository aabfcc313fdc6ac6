import DirectoryLogin.Directory.Entry
import DirectoryLogin.Predicate.Expr

/-!
# Evaluating a predicate

A comparison holds when some value on the left stands in the relation to some value on the right,
all values being compared in ASCII lower case. `!=` is the negation of `==`, so it holds where
either side has no value.
-/

namespace DirectoryLogin.Predicate

/-- The values of an operand, in ASCII lower case. -/
def Operand.values (entry : Entry) (username : String) : Operand → List String
  | dn => [Text.lowerAscii entry.dn]
  | Operand.username => [Text.lowerAscii username]
  | attr name => (entry.values name).map Text.lowerAscii
  | literal value => [Text.lowerAscii value]

/-- Some value on the left stands in the relation to some value on the right. -/
def anyPair (related : String → String → Bool) (left right : List String) : Bool :=
  left.any fun l => right.any fun r => related l r

/-- Whether two lists of values satisfy a comparison. -/
def Comparison.holds (left right : List String) : Comparison → Bool
  | equal => anyPair (· == ·) left right
  | unequal => !anyPair (· == ·) left right
  | contains => anyPair Text.contains left right
  | startsWith => anyPair Text.startsWith left right
  | endsWith => anyPair Text.endsWith left right

/-- Whether an expression holds of an entry and the name it was looked up under. -/
def Expr.eval (entry : Entry) (username : String) : Expr → Bool
  | constant value => value
  | not inner => !inner.eval entry username
  | and left right => left.eval entry username && right.eval entry username
  | or left right => left.eval entry username || right.eval entry username
  | has name => entry.has name
  | compare left op right => op.holds (left.values entry username) (right.values entry username)

end DirectoryLogin.Predicate
