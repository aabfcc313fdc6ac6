import DirectoryLogin.Proofs.Failure.Results
import DirectoryLogin.Proofs.Predicate.Grammar

/-!
# The parser reads the grammar

Each step of the parser is described by what it takes from its input, in one equivalence.

* `Takes`: an input goes over into another one by the loss of tokens at its front;
* `chain_reads`: a chain takes as many links as there are;
* `unary_reads`: with room for so many groups inside each other, the parser takes just the phrases
  that need no more;
* `parseTokens_exact`: it accepts the token lists of the grammar that are neither too long nor too
  deep, and finds their only tree.
-/

namespace DirectoryLogin.Predicate

variable {input rest : Input} {t : Token} {ts us : List Token} {e f : Expr} {n m room : Nat}
  {item : Step Expr} {inner outer : Phrase} {link : Token} {links : List Token}
  {join : Expr → Expr → Expr}

/-! ## Taking tokens -/

/-- The token that comes next. -/
def Input.next? (input : Input) : Option Token := input.tokens.head?.map (·.token)

theorem next?_eq_some_iff :
    input.next? = some t ↔ ∃ position ps, input.tokens = ⟨t, position⟩ :: ps := by
  obtain ⟨tokens, stop⟩ := input
  cases tokens with
  | nil => simp [Input.next?]
  | cons p ps =>
    obtain ⟨token, position⟩ := p
    simp [Input.next?]

/-- The input goes over into `rest` when it loses these tokens at its front. -/
def Takes (input : Input) : List Token → Input → Prop
  | [], rest => rest = input
  | t :: ts, rest => input.next? = some t ∧ Takes input.tail ts rest

theorem takes_append :
    Takes input (ts ++ us) rest ↔ ∃ mid, Takes input ts mid ∧ Takes mid us rest := by
  induction ts generalizing input with
  | nil => simp [Takes]
  | cons t ts ih => simp [Takes, ih, and_assoc]

theorem takes_singleton : Takes input [t] rest ↔ input.next? = some t ∧ rest = input.tail := Iff.rfl

theorem Takes.length_le (h : Takes input ts rest) : rest.tokens.length ≤ input.tokens.length := by
  induction ts generalizing input with
  | nil => exact Nat.le_of_eq (congrArg (·.tokens.length) h)
  | cons t ts ih =>
    have := ih h.2
    simp only [Input.tail, List.length_tail] at this
    omega

/-- To take all tokens of an input is to take its list of tokens. -/
theorem takes_all_iff (h : rest.tokens = []) :
    Takes input ts rest ↔ ts = input.tokens.map (·.token) ∧ rest.stop = input.stop := by
  obtain ⟨tokens, stop⟩ := input
  induction ts generalizing tokens with
  | nil =>
    obtain ⟨restTokens, restStop⟩ := rest
    cases h
    cases tokens <;> simp [Takes]
  | cons t ts ih =>
    cases tokens with
    | nil => simp [Takes, Input.next?]
    | cons p ps => simp [Takes, Input.next?, Input.tail, ih ps, eq_comm, and_assoc]

/-! ## Words and operands -/

theorem expect_eq_ok_iff (fault : Fault) :
    expect t fault input = .ok ((), rest) ↔ Takes input [t] rest := by
  obtain ⟨tokens, stop⟩ := input
  cases tokens with
  | nil => simp [expect, Input.refuse, takes_singleton, Input.next?]
  | cons p ps =>
    by_cases h : p.token = t
    · simp [expect, takes_singleton, Input.next?, h, eq_comm]
    · simp [expect, Input.refuse, takes_singleton, Input.next?, h]

theorem argument_eq_ok_iff {name : String} :
    argument input = .ok (name, rest) ↔
      Takes input [.leftParen, .word name, .rightParen] rest := by
  constructor
  · intro h
    obtain ⟨⟨_, mid⟩, hleft, h⟩ := bind_eq_ok_iff.mp h
    obtain ⟨hnext, rfl⟩ := takes_singleton.mp ((expect_eq_ok_iff _).mp hleft)
    dsimp only at h
    split at h
    · rename_i word position ps hword
      obtain ⟨⟨_, rest'⟩, hright, hrest⟩ := bind_eq_ok_iff.mp h
      cases hrest
      exact ⟨hnext, next?_eq_some_iff.mpr ⟨position, ps, hword⟩, (expect_eq_ok_iff _).mp hright⟩
    · cases h
  · rintro ⟨hnext, hword, hright⟩
    obtain ⟨position, ps, htokens⟩ := next?_eq_some_iff.mp hword
    refine bind_eq_ok_iff.mpr ⟨((), input.tail), (expect_eq_ok_iff _).mpr ⟨hnext, rfl⟩, ?_⟩
    simp only [htokens]
    exact bind_eq_ok_iff.mpr ⟨((), rest), (expect_eq_ok_iff _).mpr hright, rfl⟩

theorem operand_eq_ok_iff {o : Operand} :
    operand input = .ok (o, rest) ↔ Takes input o.tokens rest := by
  constructor
  · intro h
    unfold operand at h
    split at h
    · rename_i value position ps htokens
      cases h
      exact ⟨next?_eq_some_iff.mpr ⟨_, _, htokens⟩, rfl⟩
    · rename_i name position ps htokens
      have hnext : input.next? = some (.word name) := next?_eq_some_iff.mpr ⟨_, _, htokens⟩
      split at h
      · subst name
        cases h
        exact ⟨hnext, rfl⟩
      · split at h
        · subst name
          cases h
          exact ⟨hnext, rfl⟩
        · split at h
          · subst name
            obtain ⟨⟨_, _⟩, hargument, ho⟩ := bind_eq_ok_iff.mp h
            cases ho
            exact ⟨hnext, argument_eq_ok_iff.mp hargument⟩
          · cases h
    · cases h
    · cases h
  · intro h
    cases o with
    | dn | username | literal =>
      obtain ⟨hnext, rfl⟩ := h
      obtain ⟨position, ps, htokens⟩ := next?_eq_some_iff.mp hnext
      simp [operand, htokens]
    | attr name =>
      obtain ⟨hnext, hargument⟩ := h
      obtain ⟨position, ps, htokens⟩ := next?_eq_some_iff.mp hnext
      have hread : argument input.tail = .ok (name, rest) := argument_eq_ok_iff.mpr hargument
      simp only [operand, htokens, String.reduceEq, ↓reduceIte]
      exact bind_eq_ok_iff.mpr ⟨_, hread, rfl⟩

theorem comparison_eq_ok_iff {op : Comparison} :
    comparison input = .ok (op, rest) ↔ Takes input [op.token] rest := by
  constructor
  · intro h
    unfold comparison at h
    split at h
    · rename_i htokens
      cases h
      exact ⟨next?_eq_some_iff.mpr ⟨_, _, htokens⟩, rfl⟩
    · rename_i htokens
      cases h
      exact ⟨next?_eq_some_iff.mpr ⟨_, _, htokens⟩, rfl⟩
    · rename_i name position ps htokens
      have hnext : input.next? = some (.word name) := next?_eq_some_iff.mpr ⟨_, _, htokens⟩
      split at h
      · subst name
        cases h
        exact ⟨hnext, rfl⟩
      · split at h
        · subst name
          cases h
          exact ⟨hnext, rfl⟩
        · split at h
          · subst name
            cases h
            exact ⟨hnext, rfl⟩
          · cases h
    · cases h
  · rintro ⟨hnext, rfl⟩
    obtain ⟨position, ps, htokens⟩ := next?_eq_some_iff.mp hnext
    cases op <;> simp [comparison, htokens, Comparison.token]

theorem compared_eq_ok_iff :
    compared input = .ok (e, rest) ↔ ∃ left op right, e = .compare left op right ∧
      Takes input (left.tokens ++ op.token :: right.tokens) rest := by
  have hsplit : ∀ (left : Operand) (op : Comparison) (right : Operand),
      Takes input (left.tokens ++ op.token :: right.tokens) rest ↔
        ∃ mid, Takes input left.tokens mid ∧ ∃ mid', Takes mid [op.token] mid' ∧
          Takes mid' right.tokens rest := by
    intro left op right
    rw [takes_append]
    simp only [← takes_append, List.singleton_append]
  simp only [hsplit, ← operand_eq_ok_iff, ← comparison_eq_ok_iff]
  constructor
  · intro h
    obtain ⟨⟨left, mid⟩, hleft, h⟩ := bind_eq_ok_iff.mp h
    obtain ⟨⟨op, mid'⟩, hop, h⟩ := bind_eq_ok_iff.mp h
    obtain ⟨⟨right, rest'⟩, hright, h⟩ := bind_eq_ok_iff.mp h
    cases h
    exact ⟨left, op, right, rfl, mid, hleft, mid', hop, hright⟩
  · rintro ⟨left, op, right, rfl, mid, hleft, mid', hop, hright⟩
    exact bind_eq_ok_iff.mpr
      ⟨_, hleft, bind_eq_ok_iff.mpr ⟨_, hop, bind_eq_ok_iff.mpr ⟨_, hright, rfl⟩⟩⟩

/-! ## Chains -/

/-- The next token is none of these. -/
def Stops (links : List Token) (input : Input) : Prop := ∀ t ∈ input.next?, t ∉ links

/-- The step takes the phrases of that kind in which groups lie no deeper than `room`, and stops
before a token that is none of `links`. -/
def Reads (item : Step Expr) (phrase : Phrase) (room : Nat) (links : List Token) : Prop :=
  ∀ input e rest, item input = .ok (e, rest) ↔
    (∃ n ts, n ≤ room ∧ Derives phrase n ts e ∧ Takes input ts rest) ∧ Stops links rest

/-- Further links of a chain, each with what it joins, lead from one tree to another. -/
inductive Extends (inner : Phrase) (link : Token) (join : Expr → Expr → Expr) :
    Expr → Nat → List Token → Expr → Prop where
  | done (e : Expr) : Extends inner link join e 0 [] e
  | more {e f g n m ts us} : Derives inner n ts f → Extends inner link join (join e f) m us g →
      Extends inner link join e (max n m) (link :: ts ++ us) g

theorem Extends.stops {k : Nat} (h : Extends inner link join f k ts e) (ht : Takes input ts rest)
    (hr : Stops (link :: links) rest) (hl : link ∉ links) : Stops links input := by
  cases h with
  | done =>
    intro t hnext
    rw [show input = rest from ht.symm] at hnext
    exact fun hmem => hr t hnext (List.mem_cons_of_mem _ hmem)
  | more _ _ =>
    intro t hnext
    rw [ht.1] at hnext
    cases hnext
    exact hl

theorem Extends.eq_of_next (h : Extends inner link join f n ts e) (ht : Takes input ts rest)
    (hne : input.next? ≠ some link) : f = e ∧ input = rest := by
  cases h with
  | done => exact ⟨rfl, ht.symm⟩
  | more _ _ => exact absurd ht.1 hne

theorem chainFrom_of_next_ne (h : input.next? ≠ some link) (n : Nat) (left : Expr) :
    chainFrom item link join n left input = .ok (left, input) := by
  cases n with
  | zero => rfl
  | succ n =>
    obtain ⟨tokens, stop⟩ := input
    cases tokens with
    | nil => rfl
    | cons p ps =>
      have hp : p.token ≠ link := by simpa [Input.next?] using h
      simp [chainFrom, hp]

theorem chainFrom_of_next_eq (h : input.next? = some link) (n : Nat) (left : Expr) :
    chainFrom item link join (n + 1) left input =
      item input.tail >>= fun (right, rest) =>
        chainFrom item link join n (join left right) rest := by
  obtain ⟨position, ps, htokens⟩ := next?_eq_some_iff.mp h
  simp [chainFrom, htokens]

theorem chainFrom_eq_ok_iff_of_next_ne (hnext : input.next? ≠ some link) (hs : Stops links input)
    (n : Nat) (left : Expr) :
    chainFrom item link join n left input = .ok (e, rest) ↔
      (∃ k ts, k ≤ room ∧ Extends inner link join left k ts e ∧ Takes input ts rest) ∧
        Stops (link :: links) rest := by
  rw [chainFrom_of_next_ne hnext]
  constructor
  · intro h
    cases h
    refine ⟨⟨0, [], Nat.zero_le room, .done _, rfl⟩, fun t ht hmem => ?_⟩
    rcases List.mem_cons.mp hmem with rfl | hmem
    · exact hnext ht
    · exact hs t ht hmem
  · rintro ⟨⟨k, ts, -, hextends, htakes⟩, -⟩
    obtain ⟨rfl, rfl⟩ := hextends.eq_of_next htakes hnext
    rfl

/-- With a count that covers the input, a chain is followed to its end. -/
theorem chainFrom_eq_ok_iff (h : Reads item inner room links) (hl : link ∉ links) {left : Expr}
    (hs : Stops links input) (hn : input.tokens.length ≤ n) :
    chainFrom item link join n left input = .ok (e, rest) ↔
      (∃ k ts, k ≤ room ∧ Extends inner link join left k ts e ∧ Takes input ts rest) ∧
        Stops (link :: links) rest := by
  induction n generalizing left input with
  | zero =>
    have hempty : input.tokens = [] := List.length_eq_zero_iff.mp (Nat.le_zero.mp hn)
    exact chainFrom_eq_ok_iff_of_next_ne (by simp [Input.next?, hempty]) hs 0 _
  | succ n ih =>
    by_cases hnext : input.next? = some link
    · rw [chainFrom_of_next_eq hnext, bind_eq_ok_iff, Prod.exists]
      have hlength : input.tail.tokens.length ≤ n := by
        simp only [Input.tail, List.length_tail]
        omega
      constructor
      · rintro ⟨right, mid, hitem, hchain⟩
        obtain ⟨⟨k, ts, hk, hright, htakes⟩, hmid⟩ := (h _ _ _).mp hitem
        have hcount : mid.tokens.length ≤ n := Nat.le_trans htakes.length_le hlength
        obtain ⟨⟨k', us, hk', hextends, htakes'⟩, hstops⟩ := (ih hmid hcount).mp hchain
        exact ⟨⟨max k k', link :: ts ++ us, by omega, .more hright hextends, hnext,
          takes_append.mpr ⟨mid, htakes, htakes'⟩⟩, hstops⟩
      · rintro ⟨⟨k, ts, hk, hextends, htakes⟩, hstops⟩
        cases hextends with
        | done =>
          rw [show rest = input from htakes] at hstops
          exact absurd List.mem_cons_self (hstops link hnext)
        | @more _ right _ k₁ k₂ ts us hright hextends =>
          obtain ⟨mid, htakes, htakes'⟩ := takes_append.mp htakes.2
          have hmid := hextends.stops htakes' hstops hl
          have hcount : mid.tokens.length ≤ n := Nat.le_trans htakes.length_le hlength
          exact ⟨right, mid, (h _ _ _).mpr ⟨⟨k₁, ts, by omega, hright, htakes⟩, hmid⟩,
            (ih hmid hcount).mpr ⟨⟨k₂, us, by omega, hextends, htakes'⟩, hstops⟩⟩
    · exact chainFrom_eq_ok_iff_of_next_ne hnext hs (n + 1) _

/-- A chain takes what its items take, with a link before each but the first, as far as it goes. -/
theorem chain_reads (h : Reads item inner room links) (hl : link ∉ links)
    (houter : ∀ n ts e, Derives outer n ts e ↔ ∃ n₁ ts₁ f n₂ ts₂, Derives inner n₁ ts₁ f ∧
      Extends inner link join f n₂ ts₂ e ∧ n = max n₁ n₂ ∧ ts = ts₁ ++ ts₂) :
    Reads (chain item link join) outer room (link :: links) := by
  intro input e rest
  rw [chain, bind_eq_ok_iff, Prod.exists]
  constructor
  · rintro ⟨first, mid, hitem, hchain⟩
    obtain ⟨⟨n₁, ts₁, hn₁, hfirst, htakes⟩, hmid⟩ := (h _ _ _).mp hitem
    obtain ⟨⟨n₂, ts₂, hn₂, hextends, htakes'⟩, hstops⟩ :=
      (chainFrom_eq_ok_iff h hl hmid (Nat.le_refl _)).mp hchain
    refine ⟨⟨max n₁ n₂, ts₁ ++ ts₂, by omega, ?_, takes_append.mpr ⟨mid, htakes, htakes'⟩⟩, hstops⟩
    exact (houter _ _ _).mpr ⟨n₁, ts₁, first, n₂, ts₂, hfirst, hextends, rfl, rfl⟩
  · rintro ⟨⟨n, ts, hn, hderives, htakes⟩, hstops⟩
    obtain ⟨n₁, ts₁, first, n₂, ts₂, hfirst, hextends, rfl, rfl⟩ := (houter _ _ _).mp hderives
    obtain ⟨mid, htakes, htakes'⟩ := takes_append.mp htakes
    have hmid := hextends.stops htakes' hstops hl
    exact ⟨first, mid, (h _ _ _).mpr ⟨⟨n₁, ts₁, by omega, hfirst, htakes⟩, hmid⟩,
      (chainFrom_eq_ok_iff h hl hmid (Nat.le_refl _)).mpr
        ⟨⟨n₂, ts₂, by omega, hextends, htakes'⟩, hstops⟩⟩

/-! ## Chains in the grammar -/

theorem Extends.snoc (h : Extends inner link join f n ts e) {g : Expr}
    (hg : Derives inner m us g) :
    Extends inner link join f (max n m) (ts ++ link :: us) (join e g) := by
  induction h with
  | done e =>
    have hmore : Extends inner link join e (max m 0) (link :: us ++ []) (join e g) :=
      .more hg (.done _)
    rw [Nat.max_zero, List.append_nil] at hmore
    rw [Nat.zero_max]
    exact hmore
  | more hf _ ih =>
    have hmore := Extends.more hf ih
    rw [Nat.max_assoc]
    simpa using hmore

/-- A phrase that may be one item, or be followed by a link and an item, grows by any number of
links. -/
theorem derives_of_extends
    (hstep : ∀ {n m ts us e f}, Derives outer n ts e → Derives inner m us f →
      Derives outer (max n m) (ts ++ link :: us) (join e f))
    (h : Derives outer n ts f) (he : Extends inner link join f m us e) :
    Derives outer (max n m) (ts ++ us) e := by
  induction he generalizing n ts with
  | done =>
    rw [Nat.max_zero, List.append_nil]
    exact h
  | more hf _ ih =>
    have hmore := ih (hstep h hf)
    rw [Nat.max_assoc] at hmore
    simpa using hmore

theorem derives_conjunction_iff :
    Derives .conjunction n ts e ↔ ∃ n₁ ts₁ f n₂ ts₂, Derives .unary n₁ ts₁ f ∧
      Extends .unary .and .and f n₂ ts₂ e ∧ n = max n₁ n₂ ∧ ts = ts₁ ++ ts₂ := by
  constructor
  · intro h
    generalize hphrase : Phrase.conjunction = phrase at h
    induction h with
    | conjunct h => exact ⟨_, _, _, 0, [], h, .done _, by simp, by simp⟩
    | and _ hf ih _ =>
      obtain ⟨n₁, ts₁, f, n₂, ts₂, hfirst, hextends, rfl, rfl⟩ := ih rfl
      exact ⟨n₁, ts₁, f, _, _, hfirst, hextends.snoc hf, by omega, by simp⟩
    | _ => cases hphrase
  · rintro ⟨n₁, ts₁, f, n₂, ts₂, hfirst, hextends, rfl, rfl⟩
    exact derives_of_extends .and (.conjunct hfirst) hextends

theorem derives_disjunction_iff :
    Derives .disjunction n ts e ↔ ∃ n₁ ts₁ f n₂ ts₂, Derives .conjunction n₁ ts₁ f ∧
      Extends .conjunction .or .or f n₂ ts₂ e ∧ n = max n₁ n₂ ∧ ts = ts₁ ++ ts₂ := by
  constructor
  · intro h
    generalize hphrase : Phrase.disjunction = phrase at h
    induction h with
    | disjunct h => exact ⟨_, _, _, 0, [], h, .done _, by simp, by simp⟩
    | or _ hf ih _ =>
      obtain ⟨n₁, ts₁, f, n₂, ts₂, hfirst, hextends, rfl, rfl⟩ := ih rfl
      exact ⟨n₁, ts₁, f, _, _, hfirst, hextends.snoc hf, by omega, by simp⟩
    | _ => cases hphrase
  · rintro ⟨n₁, ts₁, f, n₂, ts₂, hfirst, hextends, rfl, rfl⟩
    exact derives_of_extends .or (.disjunct hfirst) hextends

theorem conjunctionOf_reads (h : Reads item .unary room []) :
    Reads (conjunctionOf item) .conjunction room [.and] :=
  chain_reads h (by simp) fun _ _ _ => derives_conjunction_iff

theorem disjunctionOf_reads (h : Reads item .unary room []) :
    Reads (disjunctionOf item) .disjunction room [.or, .and] :=
  chain_reads (conjunctionOf_reads h) (by simp) fun _ _ _ => derives_disjunction_iff

/-! ## Unary phrases -/

/-- A token at which a comparison is tried. -/
def Token.OpensComparison (t : Token) : Prop :=
  t ∉ [.not, .leftParen, .word "true", .word "false", .word "has"]

theorem unary_of_opensComparison (hnext : input.next? = some t) (ht : t.OpensComparison)
    (room : Nat) : unary room input = compared input := by
  obtain ⟨position, ps, htokens⟩ := next?_eq_some_iff.mp hnext
  unfold unary
  simp only [htokens]
  cases t with
  | not | leftParen => simp [Token.OpensComparison] at ht
  | word name =>
    obtain ⟨htrue, hfalse, hhas⟩ : name ≠ "true" ∧ name ≠ "false" ∧ name ≠ "has" := by
      simpa [Token.OpensComparison] using ht
    simp [htrue, hfalse, hhas]
  | _ => rfl

theorem unary_true (hnext : input.next? = some (.word "true")) (room : Nat) :
    unary room input = .ok (.constant true, input.tail) := by
  obtain ⟨position, ps, htokens⟩ := next?_eq_some_iff.mp hnext
  unfold unary
  simp [htokens]

theorem unary_false (hnext : input.next? = some (.word "false")) (room : Nat) :
    unary room input = .ok (.constant false, input.tail) := by
  obtain ⟨position, ps, htokens⟩ := next?_eq_some_iff.mp hnext
  unfold unary
  simp [htokens]

theorem unary_has (hnext : input.next? = some (.word "has")) (room : Nat) :
    unary room input = argument input.tail >>= fun (name, rest) => .ok (.has name, rest) := by
  obtain ⟨position, ps, htokens⟩ := next?_eq_some_iff.mp hnext
  unfold unary
  simp [htokens]

theorem unary_not (hnext : input.next? = some .not) (room : Nat) :
    unary (room + 1) input =
      unary room input.tail >>= fun (inner, rest) => .ok (.not inner, rest) := by
  obtain ⟨position, ps, htokens⟩ := next?_eq_some_iff.mp hnext
  rw [unary]
  simp only [htokens]

theorem unary_group (hnext : input.next? = some .leftParen) (room : Nat) :
    unary (room + 1) input =
      disjunctionOf (unary room) input.tail >>= fun (inner, rest) =>
        expect .rightParen .expectedRightParen rest >>= fun ((), rest) => .ok (inner, rest) := by
  obtain ⟨position, ps, htokens⟩ := next?_eq_some_iff.mp hnext
  rw [unary]
  simp only [htokens]

theorem unary_zero_of_group (hnext : input.next? = some .not ∨ input.next? = some .leftParen) :
    unary 0 input ≠ .ok (e, rest) := by
  rcases hnext with hnext | hnext
  all_goals
    obtain ⟨position, ps, htokens⟩ := next?_eq_some_iff.mp hnext
    unfold unary
    simp [htokens, Input.refuse]

theorem unary_of_next_eq_none (hnext : input.next? = none) (room : Nat) :
    unary room input ≠ .ok (e, rest) := by
  have htokens : input.tokens = [] := by simpa [Input.next?] using hnext
  unfold unary
  simp [htokens, Input.refuse]

/-- What is read in a room is a phrase that fits in it, if that is so in all smaller rooms. -/
theorem unary_sound (ih : ∀ r, room = r + 1 → Reads (unary r) .unary r [])
    (h : unary room input = .ok (e, rest)) :
    ∃ n ts, n ≤ room ∧ Derives .unary n ts e ∧ Takes input ts rest := by
  cases hnext : input.next? with
  | none => exact absurd h (unary_of_next_eq_none hnext room)
  | some t =>
    by_cases hopens : t.OpensComparison
    · rw [unary_of_opensComparison hnext hopens] at h
      obtain ⟨left, op, right, rfl, htakes⟩ := compared_eq_ok_iff.mp h
      exact ⟨0, _, Nat.zero_le room, .plain (.compare left op right), htakes⟩
    · obtain rfl | rfl | rfl | rfl | rfl : t = .not ∨ t = .leftParen ∨ t = .word "true" ∨
          t = .word "false" ∨ t = .word "has" := by
        simpa using Classical.not_not.mp hopens
      · cases room with
        | zero => exact absurd h (unary_zero_of_group (.inl hnext))
        | succ r =>
          rw [unary_not hnext] at h
          obtain ⟨⟨inner, rest'⟩, hinner, h⟩ := bind_eq_ok_iff.mp h
          cases h
          obtain ⟨⟨n, ts, hn, hderives, htakes⟩, -⟩ := (ih r rfl _ _ _).mp hinner
          exact ⟨n + 1, .not :: ts, by omega, .not hderives, hnext, htakes⟩
      · cases room with
        | zero => exact absurd h (unary_zero_of_group (.inr hnext))
        | succ r =>
          rw [unary_group hnext] at h
          obtain ⟨⟨inner, mid⟩, hinner, h⟩ := bind_eq_ok_iff.mp h
          obtain ⟨⟨_, rest'⟩, hright, h⟩ := bind_eq_ok_iff.mp h
          cases h
          obtain ⟨⟨n, ts, hn, hderives, htakes⟩, -⟩ :=
            (disjunctionOf_reads (ih r rfl) _ _ _).mp hinner
          have hright := (expect_eq_ok_iff _).mp hright
          exact ⟨n + 1, _, by omega, .plain (.group hderives), hnext,
            takes_append.mpr ⟨mid, htakes, hright⟩⟩
      · rw [unary_true hnext] at h
        cases h
        exact ⟨0, _, Nat.zero_le room, .plain .true, hnext, rfl⟩
      · rw [unary_false hnext] at h
        cases h
        exact ⟨0, _, Nat.zero_le room, .plain .false, hnext, rfl⟩
      · rw [unary_has hnext] at h
        obtain ⟨⟨name, rest'⟩, hargument, h⟩ := bind_eq_ok_iff.mp h
        cases h
        exact ⟨0, _, Nat.zero_le room, .plain (.has name), hnext, argument_eq_ok_iff.mp hargument⟩

/-- A phrase that fits in a room is read in it, if that is so in all smaller rooms. -/
theorem unary_complete (ih : ∀ r, room = r + 1 → Reads (unary r) .unary r []) (hn : n ≤ room)
    (hd : Derives .unary n ts e) (ht : Takes input ts rest) : unary room input = .ok (e, rest) := by
  cases hd with
  | not hd =>
    obtain ⟨r, rfl⟩ : ∃ r, room = r + 1 := ⟨room - 1, by omega⟩
    rw [unary_not ht.1]
    refine bind_eq_ok_iff.mpr ⟨_, (ih r rfl _ _ _).mpr ⟨⟨_, _, by omega, hd, ht.2⟩, ?_⟩, rfl⟩
    exact fun _ _ => List.not_mem_nil
  | plain hd =>
    cases hd with
    | group hd =>
      obtain ⟨r, rfl⟩ : ∃ r, room = r + 1 := ⟨room - 1, by omega⟩
      rw [unary_group ht.1]
      obtain ⟨mid, htakes, hright⟩ := takes_append.mp ht.2
      have hstops : Stops [.or, .and] mid := by
        intro t hnext
        rw [hright.1] at hnext
        cases hnext
        simp
      exact bind_eq_ok_iff.mpr ⟨_, (disjunctionOf_reads (ih r rfl) _ _ _).mpr
        ⟨⟨_, _, by omega, hd, htakes⟩, hstops⟩,
        bind_eq_ok_iff.mpr ⟨_, (expect_eq_ok_iff _).mpr hright, rfl⟩⟩
    | true =>
      obtain ⟨hnext, rfl⟩ := ht
      exact unary_true hnext room
    | false =>
      obtain ⟨hnext, rfl⟩ := ht
      exact unary_false hnext room
    | has name =>
      rw [unary_has ht.1]
      exact bind_eq_ok_iff.mpr ⟨_, argument_eq_ok_iff.mpr ht.2, rfl⟩
    | compare left op right =>
      have hopens : ∃ t, input.next? = some t ∧ t.OpensComparison := by
        cases left with
        | dn | username | attr | literal => exact ⟨_, ht.1, by simp [Token.OpensComparison]⟩
      obtain ⟨t, hnext, hopens⟩ := hopens
      rw [unary_of_opensComparison hnext hopens]
      exact compared_eq_ok_iff.mpr ⟨left, op, right, rfl, ht⟩

theorem unary_reads (room : Nat) : Reads (unary room) .unary room [] := by
  have hreads : ∀ room, (∀ r, room = r + 1 → Reads (unary r) .unary r []) →
      Reads (unary room) .unary room [] := by
    intro room ih input e rest
    constructor
    · intro h
      exact ⟨unary_sound ih h, fun _ _ => List.not_mem_nil⟩
    · rintro ⟨⟨n, ts, hn, hd, ht⟩, -⟩
      exact unary_complete ih hn hd ht
  induction room with
  | zero => exact hreads 0 nofun
  | succ room ih => exact hreads (room + 1) fun r hr => by obtain rfl := Nat.succ.inj hr; exact ih

/-! ## Whole inputs -/

/-- All of an input is read as a disjunction just when its tokens derive one that fits. -/
theorem disjunctionOf_all_iff (room : Nat) (input : Input) (e : Expr) :
    (∃ rest, rest.tokens = [] ∧ disjunctionOf (unary room) input = .ok (e, rest)) ↔
      ∃ n ≤ room, Derives .disjunction n (input.tokens.map (·.token)) e := by
  constructor
  · rintro ⟨rest, hrest, h⟩
    obtain ⟨⟨n, ts, hn, hd, ht⟩, -⟩ := (disjunctionOf_reads (unary_reads room) _ _ _).mp h
    obtain ⟨rfl, -⟩ := (takes_all_iff hrest).mp ht
    exact ⟨n, hn, hd⟩
  · rintro ⟨n, hn, hd⟩
    refine ⟨⟨[], input.stop⟩, rfl, (disjunctionOf_reads (unary_reads room) _ _ _).mpr ⟨?_, ?_⟩⟩
    · exact ⟨n, _, hn, hd, (takes_all_iff rfl).mpr ⟨rfl, rfl⟩⟩
    · exact fun t ht => (nomatch ht)

theorem parseTokens_eq_ok_iff (tokens : List Placed) (e : Expr) :
    parseTokens tokens = .ok e ↔ tokens.length ≤ maxTokens ∧
      ∃ rest, rest.tokens = [] ∧ disjunction (.ofTokens tokens) = .ok (e, rest) := by
  unfold parseTokens
  by_cases hlength : tokens.length ≤ maxTokens
  · rw [List.getElem?_eq_none hlength]
    simp only [hlength, true_and]
    rw [bind_eq_ok_iff, Prod.exists]
    constructor
    · rintro ⟨expr, rest, hread, h⟩
      dsimp only at h
      split at h
      · rename_i hrest
        cases h
        exact ⟨rest, hrest, hread⟩
      · cases h
    · rintro ⟨rest, hrest, hread⟩
      refine ⟨e, rest, hread, ?_⟩
      simp only [hrest]
  · obtain ⟨extra, hextra⟩ : ∃ extra, tokens[maxTokens]? = some extra :=
      ⟨_, List.getElem?_eq_getElem (Nat.lt_of_not_le hlength)⟩
    simp [hextra, hlength]

/-- A list of tokens derives at most one tree. -/
theorem derives_unique (hn : Derives .disjunction n ts e) (hm : Derives .disjunction m ts f) :
    e = f := by
  have htokens : (ts.map (Placed.mk · 0)).map (·.token) = ts := by
    simp [Function.comp_def]
  have hread : ∀ {k g}, k ≤ max n m → Derives .disjunction k ts g →
      disjunctionOf (unary (max n m)) ⟨ts.map (Placed.mk · 0), 0⟩ = .ok (g, ⟨[], 0⟩) := by
    intro k g hk hg
    refine (disjunctionOf_reads (unary_reads (max n m)) _ _ _).mpr ⟨⟨k, ts, hk, hg, ?_⟩, ?_⟩
    · exact (takes_all_iff rfl).mpr ⟨htokens.symm, rfl⟩
    · exact fun t ht => (nomatch ht)
  have heq := (hread (by omega) hn).symm.trans (hread (by omega) hm)
  exact (Prod.mk.inj (Except.ok.inj heq)).1

/-- The parser accepts a list of tokens just when it is not too long and derives from the grammar
with its groups not too deep, and answers with the tree. There is at most one tree. -/
theorem parseTokens_exact :
    (∀ tokens e, parseTokens tokens = .ok e ↔ tokens.length ≤ maxTokens ∧
      ∃ n ≤ maxNesting, Derives .disjunction n (tokens.map (·.token)) e) ∧
    ∀ ts n m e f, Derives .disjunction n ts e → Derives .disjunction m ts f → e = f := by
  refine ⟨fun tokens e => ?_, fun ts n m e f => derives_unique⟩
  rw [parseTokens_eq_ok_iff]
  exact and_congr_right fun _ => disjunctionOf_all_iff maxNesting (.ofTokens tokens) e

/-- The tokens of `!true || false && has(true)`. -/
def sampleTokens : List Token :=
  [.not, .word "true", .or, .word "false", .and, .word "has", .leftParen, .word "true", .rightParen]

/-- A negation binds tightest and a disjunction loosest, and a word that is a constant elsewhere
names an attribute. -/
def sampleTree : Expr := .or (.not (.constant true)) (.and (.constant false) (.has "true"))

theorem sample_tree_unique :
    (∃ n ≤ maxNesting, Derives .disjunction n sampleTokens sampleTree) ∧
      ∀ n e, Derives .disjunction n sampleTokens e → e = sampleTree := by
  have hparse : parseTokens (sampleTokens.map (Placed.mk · 0)) = .ok sampleTree := rfl
  obtain ⟨-, n, hn, hd⟩ := (parseTokens_exact.1 _ _).mp hparse
  exact ⟨⟨n, hn, hd⟩, fun m e he => parseTokens_exact.2 _ _ _ _ _ he hd⟩

end DirectoryLogin.Predicate
