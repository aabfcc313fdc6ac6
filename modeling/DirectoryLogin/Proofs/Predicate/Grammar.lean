import DirectoryLogin.Predicate.Parser

/-!
# The grammar of predicates

    disjunction := conjunction ("||" conjunction)*
    conjunction := unary ("&&" unary)*
    unary       := "!" unary | primary
    primary     := "(" disjunction ")" | "true" | "false" | "has" "(" word ")"
                 | operand comparison operand
    operand     := "dn" | "username" | "attr" "(" word ")" | literal
    comparison  := "==" | "!=" | "contains" | "starts_with" | "ends_with"

`Derives` relates a phrase to its tokens and to its tree, without any mention of how tokens are
read. It also counts how deep groups lie inside each other, a group being what a `!` or a pair of
parentheses encloses; the parentheses of `has(..)` and `attr(..)` enclose none.
-/

namespace DirectoryLogin.Predicate

/-- The tokens of an operand. -/
def Operand.tokens : Operand → List Token
  | dn => [.word "dn"]
  | username => [.word "username"]
  | attr name => [.word "attr", .leftParen, .word name, .rightParen]
  | literal value => [.literal value]

/-- The token of a comparison. -/
def Comparison.token : Comparison → Token
  | equal => .equal
  | unequal => .unequal
  | contains => .word "contains"
  | startsWith => .word "starts_with"
  | endsWith => .word "ends_with"

/-- The kinds of phrases that make an expression, from loose to tight. -/
inductive Phrase where
  | disjunction
  | conjunction
  | unary
  | primary
  deriving DecidableEq, Repr

/-- The tokens are a phrase of that kind with that tree, in which groups lie inside each other as
deep as the number says. A chain grows at its right end, so its tree leans to the left. -/
inductive Derives : Phrase → Nat → List Token → Expr → Prop where
  | disjunct {n ts e} : Derives .conjunction n ts e → Derives .disjunction n ts e
  | or {n m ts us e f} : Derives .disjunction n ts e → Derives .conjunction m us f →
      Derives .disjunction (max n m) (ts ++ .or :: us) (.or e f)
  | conjunct {n ts e} : Derives .unary n ts e → Derives .conjunction n ts e
  | and {n m ts us e f} : Derives .conjunction n ts e → Derives .unary m us f →
      Derives .conjunction (max n m) (ts ++ .and :: us) (.and e f)
  | not {n ts e} : Derives .unary n ts e → Derives .unary (n + 1) (.not :: ts) (.not e)
  | plain {n ts e} : Derives .primary n ts e → Derives .unary n ts e
  | group {n ts e} : Derives .disjunction n ts e →
      Derives .primary (n + 1) (.leftParen :: ts ++ [.rightParen]) e
  | true : Derives .primary 0 [.word "true"] (.constant Bool.true)
  | false : Derives .primary 0 [.word "false"] (.constant Bool.false)
  | has (name : String) :
      Derives .primary 0 [.word "has", .leftParen, .word name, .rightParen] (.has name)
  | compare (left : Operand) (op : Comparison) (right : Operand) :
      Derives .primary 0 (left.tokens ++ op.token :: right.tokens) (.compare left op right)

end DirectoryLogin.Predicate
