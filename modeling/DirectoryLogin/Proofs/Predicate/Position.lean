import DirectoryLogin.Proofs.Predicate.Parser

/-!
# Where errors are

The position of an error cuts the source text between two characters or lies at one of its ends, so
the text can be sliced there. This needs that a token starts with a character of one byte, since the
end of the input is taken to be one byte after the start of the last token.

* `Follows`: what of the source follows a byte offset;
* `scan_located`: every token starts at such an offset, and an error of the scan is at one;
* `Keeps`: a step of the parser names no positions but those of its input. It holds of the steps that
  look at tokens, of two steps in a row, and so of chains and groups;
* `parse_error_isValid`: the position of an error is a valid position of the source.
-/

namespace DirectoryLogin.Predicate

variable {source : String} {position n : Nat} {c : Char} {rest : List Char} {t : Token}

/-! ## Offsets in the source -/

/-- At this byte offset the source goes on with these characters. -/
def Follows (source : String) (position : Nat) (rest : List Char) : Prop :=
  ∃ before, source = String.ofList before ++ String.ofList rest ∧
    position = (String.ofList before).utf8ByteSize

theorem follows_start (source : String) : Follows source 0 source.toList :=
  ⟨[], by simp, rfl⟩

theorem Follows.next (h : Follows source position (c :: rest)) :
    Follows source (position + c.utf8Size) rest := by
  obtain ⟨before, rfl, rfl⟩ := h
  refine ⟨before ++ [c], ?_, ?_⟩
  · rw [← String.ofList_append, ← String.ofList_append, List.append_assoc, List.singleton_append]
  · rw [String.ofList_append, String.utf8ByteSize_append, String.ofList_cons]
    simp

theorem Follows.isValid (h : Follows source position rest) :
    (String.Pos.Raw.mk position).IsValid source := by
  obtain ⟨before, hsource, rfl⟩ := h
  exact String.Pos.Raw.isValid_iff_exists_append.mpr ⟨_, _, hsource, rfl⟩

/-! ## The scan -/

theorem val_le_of_isAlphanum (h : c.isAlphanum = true) : c.val ≤ 127 := by
  have hranges : (65 ≤ c.val ∧ c.val ≤ 90 ∨ 97 ≤ c.val ∧ c.val ≤ 122) ∨
      48 ≤ c.val ∧ c.val ≤ 57 := by
    change ((decide (_ ∧ _) || (_ && _)) || (_ && _)) = true at h
    simpa using h
  grind

theorem val_le_of_isWordChar (h : isWordChar c = true) : c.val ≤ 127 := by
  have hcases : c.isAlphanum = true ∨ c = '_' ∨ c = '-' := by
    simpa [isWordChar, or_assoc] using h
  rcases hcases with halphanum | rfl | rfl
  · exact val_le_of_isAlphanum halphanum
  · decide
  · decide

/-- The characters with which tokens other than words start. -/
def signs : List Char := ['(', ')', '!', '\x22', '\x27', '&', '|', '=']

theorem firstToken_opens (h : firstToken c rest = .ok (t, n)) : c ∈ signs ∨ isWordChar c = true := by
  unfold firstToken isQuote pairToken? at h
  simp only [signs, List.mem_cons]
  grind

/-- A token starts with a character of one byte. -/
theorem utf8Size_of_firstToken (h : firstToken c rest = .ok (t, n)) : c.utf8Size = 1 := by
  rw [Char.utf8Size_eq_one_iff]
  have hsigns : signs.all (·.val ≤ 127) = true := by decide
  rcases firstToken_opens h with hsign | hword
  · exact of_decide_eq_true (List.all_eq_true.mp hsigns c hsign)
  · exact val_le_of_isWordChar hword

/-- A character of one byte stands at this offset of the source. -/
def Starts (source : String) (position : Nat) : Prop :=
  ∃ c rest, c.utf8Size = 1 ∧ Follows source position (c :: rest)

/-- Each token is at the start of a character of one byte, or the error is between characters. -/
def Located (source : String) : Except PredicateError (List Placed) → Prop
  | .ok tokens => ∀ p ∈ tokens, Starts source p.position
  | .error e => ∃ rest, Follows source e.position rest

theorem Located.cons {x : Except PredicateError (List Placed)} {p : Placed}
    (hp : Starts source p.position) (h : Located source x) : Located source (x.map (p :: ·)) := by
  cases x with
  | error e => exact h
  | ok tokens =>
    intro q hq
    rcases List.mem_cons.mp hq with rfl | hq
    · exact hp
    · exact h q hq

theorem scan_located {cs : List Char} (h : Follows source position cs) (skip : Nat) :
    Located source (scan skip position cs) := by
  induction cs generalizing skip position with
  | nil => exact fun p hp => nomatch hp
  | cons c rest ih =>
    cases skip with
    | succ k => exact ih h.next k
    | zero =>
      rw [scan]
      split
      · exact ih h.next 0
      · split
        · exact ⟨_, h⟩
        · rename_i token more hfirst
          exact (ih h.next more).cons ⟨c, rest, utf8Size_of_firstToken hfirst, h⟩

theorem tokenize_located (source : String) : Located source (tokenize source) :=
  scan_located (follows_start source) 0

theorem Starts.isValid (h : Starts source position) :
    (String.Pos.Raw.mk position).IsValid source := by
  obtain ⟨_, _, -, hfollows⟩ := h
  exact hfollows.isValid

/-- One byte after the start of a token the source can still be cut. -/
theorem Starts.isValid_succ (h : Starts source position) :
    (String.Pos.Raw.mk (position + 1)).IsValid source := by
  obtain ⟨c, rest, hc, hfollows⟩ := h
  rw [← hc]
  exact hfollows.next.isValid

/-! ## The parser -/

variable {P : Nat → Prop} {α β : Type} {input : Input}

/-- Every position that the input can name has the property. -/
structure Input.Marked (P : Nat → Prop) (input : Input) : Prop where
  tokens : ∀ p ∈ input.tokens, P p.position
  stop : P input.stop

/-- The error, or what is left of the input, names such positions only. -/
def Leaves (P : Nat → Prop) : Except PredicateError (α × Input) → Prop
  | .ok (_, rest) => rest.Marked P
  | .error e => P e.position

/-- The step names no positions but those of its input. -/
def Keeps (P : Nat → Prop) (step : Step α) : Prop :=
  ∀ input : Input, input.Marked P → Leaves P (step input)

theorem Input.Marked.next (h : input.Marked P) : P input.position := by
  unfold Input.position
  split
  · rename_i p ps htokens
    exact h.tokens p (htokens ▸ List.mem_cons_self)
  · exact h.stop

theorem Input.Marked.tail (h : input.Marked P) : input.tail.Marked P :=
  ⟨fun p hp => h.tokens p (List.mem_of_mem_tail hp), h.stop⟩

theorem Input.Marked.refuse (h : input.Marked P) (fault : Fault) :
    Leaves P (input.refuse fault : Except PredicateError (α × Input)) :=
  h.next

theorem Leaves.bind {x : Except PredicateError (α × Input)}
    {g : α × Input → Except PredicateError (β × Input)} (hx : Leaves P x)
    (hg : ∀ a rest, rest.Marked P → Leaves P (g (a, rest))) : Leaves P (x >>= g) := by
  cases x with
  | error e => exact hx
  | ok result => exact hg _ _ hx

theorem expect_keeps (t : Token) (fault : Fault) : Keeps P (expect t fault) := by
  intro input h
  unfold expect
  split
  · split
    · exact h.tail
    · exact h.refuse fault
  · exact h.refuse fault

theorem argument_keeps : Keeps P argument := by
  intro input h
  refine (expect_keeps .leftParen .expectedLeftParen input h).bind fun _ rest hrest => ?_
  dsimp only
  split
  · exact (expect_keeps .rightParen .expectedRightParen _ hrest.tail).bind fun _ _ hlast => hlast
  · exact hrest.refuse .expectedAttributeName

theorem operand_keeps : Keeps P operand := by
  intro input h
  unfold operand
  split
  · exact h.tail
  · split
    · exact h.tail
    · split
      · exact h.tail
      · split
        · exact (argument_keeps _ h.tail).bind fun _ _ hrest => hrest
        · exact h.refuse _
  · exact h.refuse .expectedOperand
  · exact h.refuse .unexpectedEnd

theorem comparison_keeps : Keeps P comparison := by
  intro input h
  unfold comparison
  split
  · exact h.tail
  · exact h.tail
  · split
    · exact h.tail
    · split
      · exact h.tail
      · split
        · exact h.tail
        · exact h.refuse _
  · exact h.refuse .expectedOperator

theorem compared_keeps : Keeps P compared := fun input h =>
  (operand_keeps input h).bind fun _ _ hleft =>
    (comparison_keeps _ hleft).bind fun _ _ hop =>
      (operand_keeps _ hop).bind fun _ _ hright => hright

variable {item : Step Expr} {link : Token} {join : Expr → Expr → Expr}

theorem chainFrom_keeps (h : Keeps P item) (n : Nat) (left : Expr) :
    Keeps P (chainFrom item link join n left) := by
  induction n generalizing left with
  | zero => exact fun input hinput => hinput
  | succ n ih =>
    intro input hinput
    unfold chainFrom
    split
    · split
      · exact (h _ hinput.tail).bind fun right rest hrest => ih (join left right) rest hrest
      · exact hinput
    · exact hinput

theorem chain_keeps (h : Keeps P item) : Keeps P (chain item link join) := fun input hinput =>
  (h input hinput).bind fun first rest hrest => chainFrom_keeps h _ first rest hrest

theorem disjunctionOf_keeps (h : Keeps P item) : Keeps P (disjunctionOf item) :=
  chain_keeps (chain_keeps h)

/-- In a room positions are kept if they are in all smaller rooms. -/
theorem unary_keeps_of {room : Nat} (ih : ∀ r, room = r + 1 → Keeps P (unary r)) :
    Keeps P (unary room) := by
  intro input h
  unfold unary
  split
  · cases room with
    | zero => exact h.refuse .nestedTooDeeply
    | succ r => exact (ih r rfl _ h.tail).bind fun _ _ hrest => hrest
  · cases room with
    | zero => exact h.refuse .nestedTooDeeply
    | succ r =>
      exact (disjunctionOf_keeps (ih r rfl) _ h.tail).bind fun _ _ hinner =>
        (expect_keeps .rightParen .expectedRightParen _ hinner).bind fun _ _ hrest => hrest
  · split
    · exact h.tail
    · split
      · exact h.tail
      · split
        · exact (argument_keeps _ h.tail).bind fun _ _ hrest => hrest
        · exact compared_keeps input h
  · exact compared_keeps input h
  · exact h.refuse .unexpectedEnd

theorem unary_keeps (room : Nat) : Keeps P (unary room) := by
  induction room with
  | zero => exact unary_keeps_of nofun
  | succ room ih =>
    refine unary_keeps_of fun r hr => ?_
    obtain rfl := Nat.succ.inj hr
    exact ih

theorem disjunction_keeps : Keeps P disjunction := disjunctionOf_keeps (unary_keeps maxNesting)

theorem marked_ofTokens {tokens : List Placed} (hstart : P 0)
    (h : ∀ p ∈ tokens, P p.position ∧ P (p.position + 1)) : (Input.ofTokens tokens).Marked P := by
  refine ⟨fun p hp => (h p hp).1, ?_⟩
  unfold Input.ofTokens
  dsimp only
  split
  · rename_i last hlast
    exact (h last (List.mem_of_getLast? hlast)).2
  · exact hstart

/-- An error of the parser is at a token, or at the end of the input. -/
theorem parseTokens_error {tokens : List Placed} {e : PredicateError}
    (hmarked : (Input.ofTokens tokens).Marked P) (h : parseTokens tokens = .error e) :
    P e.position := by
  unfold parseTokens at h
  split at h
  · rename_i extra hextra
    cases h
    exact hmarked.tokens extra (List.mem_of_getElem? hextra)
  · have hleaves := disjunction_keeps _ hmarked
    rcases bind_eq_error_iff.mp h with hread | ⟨⟨expr, rest⟩, hread, h⟩
    · rw [hread] at hleaves
      exact hleaves
    · rw [hread] at hleaves
      dsimp only at h
      split at h
      · cases h
      · rename_i extra others htokens
        cases h
        exact hleaves.tokens extra (htokens ▸ List.mem_cons_self)

/-! ## Errors in a source -/

/-- The position at which a source text is refused is no further than its end, and lies between two
of its characters or at an end. -/
theorem parse_error_isValid {e : PredicateError} (h : parse source = .error e) :
    e.position ≤ source.utf8ByteSize ∧ (String.Pos.Raw.mk e.position).IsValid source := by
  have hlocated := tokenize_located source
  have hvalid : (String.Pos.Raw.mk e.position).IsValid source := by
    rcases bind_eq_error_iff.mp h with hscan | ⟨tokens, hscan, hread⟩
    · rw [hscan] at hlocated
      obtain ⟨rest, hfollows⟩ := hlocated
      exact hfollows.isValid
    · rw [hscan] at hlocated
      refine parseTokens_error (P := fun p => (String.Pos.Raw.mk p).IsValid source) ?_ hread
      exact marked_ofTokens (follows_start source).isValid fun p hp =>
        ⟨(hlocated p hp).isValid, (hlocated p hp).isValid_succ⟩
  exact ⟨hvalid.le_utf8ByteSize, hvalid⟩

/-- The literal is followed by nothing, so the error is one byte after its start: between the quote
and a character of two bytes. -/
theorem sample_error_isValid :
    parse "'é'" = .error ⟨.expectedOperator, 1⟩ ∧
      1 ≤ "'é'".utf8ByteSize ∧ (String.Pos.Raw.mk 1).IsValid "'é'" := by
  have hparse : parse "'é'" = .error ⟨.expectedOperator, 1⟩ := by rfl
  exact ⟨hparse, parse_error_isValid hparse⟩

end DirectoryLogin.Predicate
