import DirectoryLogin.Json.Printer
import DirectoryLogin.Predicate.Expr

/-!
# Expressions in prefix form

Every compound expression is written in parentheses with its operator first, so the text shows how
an expression was read. Literals are quoted as JSON texts.
-/

namespace DirectoryLogin.Predicate

def Operand.display : Operand → String
  | dn => "dn"
  | username => "username"
  | attr name => s!"(attr {name})"
  | literal value => (Json.string value).print

def Comparison.display : Comparison → String
  | equal => "=="
  | unequal => "!="
  | contains => "contains"
  | startsWith => "starts_with"
  | endsWith => "ends_with"

def Expr.display : Expr → String
  | constant true => "true"
  | constant false => "false"
  | not inner => s!"(not {inner.display})"
  | and left right => s!"(and {left.display} {right.display})"
  | or left right => s!"(or {left.display} {right.display})"
  | has name => s!"(has {name})"
  | compare left op right => s!"({op.display} {left.display} {right.display})"

end DirectoryLogin.Predicate
