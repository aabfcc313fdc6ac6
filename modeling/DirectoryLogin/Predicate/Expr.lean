/-!
# Predicate expressions

The tree of a predicate: constants, connectives, the test for an attribute, and comparisons
between two operands.
-/

namespace DirectoryLogin.Predicate

/-- What a comparison reads. An attribute can have any number of values, the others have one. -/
inductive Operand where
  | dn
  | username
  | attr (name : String)
  | literal (value : String)
  deriving DecidableEq, Repr

inductive Comparison where
  | equal
  | unequal
  | contains
  | startsWith
  | endsWith
  deriving DecidableEq, Repr

inductive Expr where
  | constant (value : Bool)
  | not (inner : Expr)
  | and (left right : Expr)
  | or (left right : Expr)
  | has (name : String)
  | compare (left : Operand) (op : Comparison) (right : Operand)
  deriving DecidableEq, Repr

/-- The number of nodes, a comparison counting as one. -/
def Expr.size : Expr → Nat
  | constant _ => 1
  | not inner => inner.size + 1
  | and left right => left.size + right.size + 1
  | or left right => left.size + right.size + 1
  | has _ => 1
  | compare .. => 1

end DirectoryLogin.Predicate
