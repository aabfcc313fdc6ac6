import DirectoryLogin.Predicate.Eval
import DirectoryLogin.Proofs.Predicate.Parser
import Mathlib.Data.List.Basic

/-!
# Accepted expressions are small

The number of tokens bounds the tree, however it leans, and the tree bounds its evaluation.

* `Derives.size_le`: each node of a tree has a token of its own among those that it was read from;
* `Expr.depth`: how deep nodes lie inside each other. It is at most the number of nodes; each link of
  a chain adds one, since the tree leans to the left;
* `Expr.evalWithin`: evaluation that gives up where calls lie too deep inside each other. It does not
  where there is room for the depth of the tree;
* `parse_small`: what is read from a source has at most as many nodes as the source has tokens, and
  is evaluated in room for 1024 calls.
-/

namespace DirectoryLogin.Predicate

variable {phrase : Phrase} {n room : Nat} {ts : List Token} {e : Expr} {entry : Entry}
  {username : String}

/-! ## Nodes and tokens -/

/-- A tree has at most as many nodes as tokens. The parentheses of a group make no node. -/
theorem Derives.size_le (h : Derives phrase n ts e) : e.size ≤ ts.length := by
  induction h with
  | disjunct _ ih => exact ih
  | or _ _ ihe ihf =>
    simp only [Expr.size, List.length_append, List.length_cons]
    omega
  | conjunct _ ih => exact ih
  | and _ _ ihe ihf =>
    simp only [Expr.size, List.length_append, List.length_cons]
    omega
  | not _ ih =>
    simp only [Expr.size, List.length_cons]
    omega
  | plain _ ih => exact ih
  | group _ ih =>
    simp only [List.length_append, List.length_cons]
    omega
  | true => exact Nat.le_refl 1
  | false => exact Nat.le_refl 1
  | has name => simp [Expr.size]
  | compare left op right =>
    simp only [Expr.size, List.length_append, List.length_cons]
    omega

/-! ## Evaluation in a bounded room -/

/-- The most nodes that lie inside each other. -/
def Expr.depth : Expr → Nat
  | constant _ => 1
  | not inner => inner.depth + 1
  | and left right => max left.depth right.depth + 1
  | or left right => max left.depth right.depth + 1
  | has _ => 1
  | compare .. => 1

theorem Expr.depth_le_size (e : Expr) : e.depth ≤ e.size := by
  induction e with
  | constant _ => exact Nat.le_refl 1
  | not inner ih => exact Nat.succ_le_succ ih
  | and left right ihl ihr =>
    simp only [Expr.depth, Expr.size]
    omega
  | or left right ihl ihr =>
    simp only [Expr.depth, Expr.size]
    omega
  | has _ => exact Nat.le_refl 1
  | compare _ _ _ => exact Nat.le_refl 1

/-- Evaluates with room for so many calls inside each other, and gives no answer where more are
needed. The right side of a connective is evaluated only if the left side leaves the value open. -/
def Expr.evalWithin (entry : Entry) (username : String) : (room : Nat) → Expr → Option Bool
  | 0, _ => none
  | _ + 1, constant value => some value
  | room + 1, not inner => (inner.evalWithin entry username room).map (!·)
  | room + 1, and left right => do
    if ← left.evalWithin entry username room then right.evalWithin entry username room
    else some false
  | room + 1, or left right => do
    if ← left.evalWithin entry username room then some true
    else right.evalWithin entry username room
  | _ + 1, has name => some (entry.has name)
  | _ + 1, compare left op right =>
    some (op.holds (left.values entry username) (right.values entry username))

theorem Expr.depth_pos (e : Expr) : 0 < e.depth := by
  cases e <;> exact Nat.succ_pos _

/-- In room for its depth an expression is evaluated. -/
theorem Expr.evalWithin_of_depth_le (h : e.depth ≤ room) :
    e.evalWithin entry username room = some (e.eval entry username) := by
  induction room generalizing e with
  | zero => exact absurd h (Nat.not_le_of_gt e.depth_pos)
  | succ room ih =>
    cases e with
    | constant value => rfl
    | not inner =>
      rw [evalWithin, ih (Nat.le_of_succ_le_succ h), eval, Option.map_some]
    | and left right =>
      obtain ⟨hleft, hright⟩ := Nat.max_le.mp (Nat.le_of_succ_le_succ h)
      rw [evalWithin, ih hleft, ih hright, eval]
      cases left.eval entry username <;> rfl
    | or left right =>
      obtain ⟨hleft, hright⟩ := Nat.max_le.mp (Nat.le_of_succ_le_succ h)
      rw [evalWithin, ih hleft, ih hright, eval]
      cases left.eval entry username <;> rfl
    | has name => rfl
    | compare left op right => rfl

/-! ## Sources -/

theorem size_le_of_parseTokens {tokens : List Placed} (h : parseTokens tokens = .ok e) :
    e.size ≤ tokens.length ∧ tokens.length ≤ maxTokens := by
  obtain ⟨hlength, hread⟩ := (parseTokens_eq_ok_iff tokens e).mp h
  obtain ⟨n, -, hderives⟩ := (disjunctionOf_all_iff maxNesting (.ofTokens tokens) e).mp hread
  have hsize := hderives.size_le
  rw [List.length_map] at hsize
  exact ⟨hsize, hlength⟩

/-- An expression that is read from a source has at most as many nodes as the source has tokens, of
which there are at most 1024, so no more calls than that lie inside each other when it is evaluated. -/
theorem parse_small {source : String} (h : parse source = .ok e) :
    ∃ tokens, tokenize source = .ok tokens ∧ e.size ≤ tokens.length ∧ tokens.length ≤ 1024 ∧
      ∀ entry username, e.evalWithin entry username 1024 = some (e.eval entry username) := by
  obtain ⟨tokens, htokens, htree⟩ := bind_eq_ok_iff.mp h
  obtain ⟨hsize, hlength⟩ := size_le_of_parseTokens htree
  refine ⟨tokens, htokens, hsize, hlength, fun entry username => ?_⟩
  have hdepth : e.depth ≤ 1024 := calc
    e.depth ≤ e.size := e.depth_le_size
    _ ≤ tokens.length := hsize
    _ ≤ 1024 := hlength
  exact Expr.evalWithin_of_depth_le hdepth

/-- A tree with as many nodes as its source has tokens. -/
def leaningTree : Expr := .or (.or (.constant true) (.constant false)) (.not (.constant true))

theorem sample_small :
    parse "true || false || !true" = .ok leaningTree ∧
      ∃ tokens, tokenize "true || false || !true" = .ok tokens ∧
        leaningTree.size ≤ tokens.length ∧ tokens.length ≤ 1024 ∧
        ∀ entry username,
          leaningTree.evalWithin entry username 1024 = some (leaningTree.eval entry username) := by
  have hparse : parse "true || false || !true" = .ok leaningTree := by decide +kernel
  exact ⟨hparse, parse_small hparse⟩

end DirectoryLogin.Predicate
