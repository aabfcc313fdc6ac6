import DirectoryLogin.Predicate.Expr
import DirectoryLogin.Predicate.Token

/-!
# From tokens to an expression

The grammar, from loose to tight:

    disjunction := conjunction ("||" conjunction)*
    conjunction := unary ("&&" unary)*
    unary       := "!" unary | "(" disjunction ")" | "true" | "false"
                 | "has" "(" word ")" | operand comparison operand
    operand     := "dn" | "username" | "attr" "(" word ")" | literal
    comparison  := "==" | "!=" | "contains" | "starts_with" | "ends_with"

Chains associate to the left. At most `maxNesting` groups of `!` and parentheses may lie inside
each other and a source may have at most `maxTokens` tokens, so an expression stays small enough
to evaluate. A word that names no constant is taken for an operand.
-/

namespace DirectoryLogin.Predicate

/-- The deepest nesting of `!` and parentheses. -/
def maxNesting : Nat := 64

/-- The most tokens of a source. -/
def maxTokens : Nat := 1024

/-- The tokens still to read and the position that stands for the end of the source. -/
structure Input where
  tokens : List Placed
  stop : Nat
  deriving DecidableEq, Repr

/-- A step reads tokens from the front of the input and hands on the rest. -/
abbrev Step (α : Type) := Input → Except PredicateError (α × Input)

namespace Input

/-- The whole input of a parse. Its end lies one byte after the start of the last token. -/
def ofTokens (tokens : List Placed) : Input :=
  ⟨tokens, match tokens.getLast? with | some last => last.position + 1 | none => 0⟩

/-- Where the next token starts. -/
def position (input : Input) : Nat :=
  match input.tokens with
  | next :: _ => next.position
  | [] => input.stop

/-- The input after its next token. -/
def tail (input : Input) : Input := ⟨input.tokens.tail, input.stop⟩

/-- Refuses the input at its next token. -/
def refuse {α : Type} (input : Input) (fault : Fault) : Except PredicateError α :=
  .error ⟨fault, input.position⟩

end Input

/-- Reads the token `t`. -/
def expect (t : Token) (fault : Fault) : Step Unit := fun input =>
  match input.tokens with
  | next :: _ => if next.token = t then .ok ((), input.tail) else input.refuse fault
  | [] => input.refuse fault

/-- Reads a word in parentheses. -/
def argument : Step String := fun input => do
  let ((), input) ← expect .leftParen .expectedLeftParen input
  match input.tokens with
  | ⟨.word name, _⟩ :: _ =>
    let ((), rest) ← expect .rightParen .expectedRightParen input.tail
    .ok (name, rest)
  | _ => input.refuse .expectedAttributeName

/-- Reads one side of a comparison. -/
def operand : Step Operand := fun input =>
  match input.tokens with
  | ⟨.literal value, _⟩ :: _ => .ok (.literal value, input.tail)
  | ⟨.word name, _⟩ :: _ =>
    if name = "dn" then .ok (.dn, input.tail)
    else if name = "username" then .ok (.username, input.tail)
    else if name = "attr" then do
      let (name, rest) ← argument input.tail
      .ok (.attr name, rest)
    else input.refuse (.unknownOperand name)
  | _ :: _ => input.refuse .expectedOperand
  | [] => input.refuse .unexpectedEnd

/-- Reads a comparison sign or word. -/
def comparison : Step Comparison := fun input =>
  match input.tokens with
  | ⟨.equal, _⟩ :: _ => .ok (.equal, input.tail)
  | ⟨.unequal, _⟩ :: _ => .ok (.unequal, input.tail)
  | ⟨.word name, _⟩ :: _ =>
    if name = "contains" then .ok (.contains, input.tail)
    else if name = "starts_with" then .ok (.startsWith, input.tail)
    else if name = "ends_with" then .ok (.endsWith, input.tail)
    else input.refuse (.unknownOperator name)
  | _ => input.refuse .expectedOperator

/-- Reads two operands with a comparison between them. -/
def compared : Step Expr := fun input => do
  let (left, input) ← operand input
  let (op, input) ← comparison input
  let (right, input) ← operand input
  .ok (.compare left op right, input)

/-- Goes on with a chain whose operands so far make `left`. The count bounds the links that are
still possible. -/
def chainFrom (item : Step Expr) (link : Token) (join : Expr → Expr → Expr) :
    Nat → Expr → Step Expr
  | 0, left => fun input => .ok (left, input)
  | n + 1, left => fun input =>
    match input.tokens with
    | next :: _ =>
      if next.token = link then do
        let (right, rest) ← item input.tail
        chainFrom item link join n (join left right) rest
      else .ok (left, input)
    | [] => .ok (left, input)

/-- Reads a chain of one or more items, joined from the left. Each link takes a token, so the
number of tokens bounds the chain. -/
def chain (item : Step Expr) (link : Token) (join : Expr → Expr → Expr) : Step Expr := fun input => do
  let (first, rest) ← item input
  chainFrom item link join rest.tokens.length first rest

/-- Reads a conjunction of what `item` reads. -/
def conjunctionOf (item : Step Expr) : Step Expr := chain item .and .and

/-- Reads a disjunction of conjunctions of what `item` reads. -/
def disjunctionOf (item : Step Expr) : Step Expr := chain (conjunctionOf item) .or .or

/-- Reads a negation, a group, a constant, the test for an attribute or a comparison. `room`
counts the groups that may still be opened. -/
def unary (room : Nat) : Step Expr := fun input =>
  match input.tokens with
  | ⟨.not, _⟩ :: _ =>
    match room with
    | 0 => input.refuse .nestedTooDeeply
    | room + 1 => do
      let (inner, rest) ← unary room input.tail
      .ok (.not inner, rest)
  | ⟨.leftParen, _⟩ :: _ =>
    match room with
    | 0 => input.refuse .nestedTooDeeply
    | room + 1 => do
      let (inner, rest) ← disjunctionOf (unary room) input.tail
      let ((), rest) ← expect .rightParen .expectedRightParen rest
      .ok (inner, rest)
  | ⟨.word name, _⟩ :: _ =>
    if name = "true" then .ok (.constant true, input.tail)
    else if name = "false" then .ok (.constant false, input.tail)
    else if name = "has" then do
      let (name, rest) ← argument input.tail
      .ok (.has name, rest)
    else compared input
  | _ :: _ => compared input
  | [] => input.refuse .unexpectedEnd

/-- Reads a disjunction at the outermost level. -/
def disjunction : Step Expr := disjunctionOf (unary maxNesting)

/-- The expression of a list of tokens, all of which it must use. -/
def parseTokens (tokens : List Placed) : Except PredicateError Expr :=
  match tokens[maxTokens]? with
  | some extra => .error ⟨.tooLong, extra.position⟩
  | none => do
    let (expr, rest) ← disjunction (.ofTokens tokens)
    match rest.tokens with
    | [] => .ok expr
    | extra :: _ => .error ⟨.trailingInput, extra.position⟩

/-- The expression that a source text denotes. -/
def parse (source : String) : Except PredicateError Expr := do
  let tokens ← tokenize source
  parseTokens tokens

end DirectoryLogin.Predicate
