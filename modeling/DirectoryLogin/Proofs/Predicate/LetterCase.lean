import DirectoryLogin.Predicate.Eval
import DirectoryLogin.Proofs.Text.LowerCase
import Mathlib.Data.List.Nodup

/-!
# Predicates do not see letter case

Two entries, user names and expressions that differ in the case of ASCII letters only are related by
`SameLetters`, each by a form of it for its kind.

* `Entry.values_cases`, `Entry.values_eq_of_mem`: the lookup of an attribute in an entry that has
  no two names of the same letters. There is one such attribute or none, so it does not matter that
  an exact name takes precedence;
* `Expr.SameLetters.eval_eq`: an expression and one of the same letters have the same value;
* `eval_unequal`, `eval_equal_of_values_eq_nil`: `!=` is the negation of `==`, and holds where an
  attribute is missing.
-/

namespace DirectoryLogin

/-! ## Entries -/

namespace Entry

open Text (letters sameAscii sameAscii_iff)

/-- No two attributes have the same name, whatever the case of its letters. -/
def NamesApart (e : Entry) : Prop := (e.attributes.map fun a => letters a.1).Nodup

instance (e : Entry) : Decidable e.NamesApart := inferInstanceAs (Decidable (List.Nodup _))

/-- The letters of an attribute's name and of its values. -/
def folded (a : String × List String) : List Char × List (List Char) :=
  (letters a.1, a.2.map letters)

/-- The entries differ only in the letter case of the distinguished name, of the names of attributes
and of their values. Attributes are in no order. -/
structure SameLetters (e e' : Entry) : Prop where
  dn : Text.SameLetters e.dn e'.dn
  attributes : (e.attributes.map folded).Perm (e'.attributes.map folded)

variable {e e' : Entry} {name name' : String} {a : String × List String}

theorem NamesApart.eq_of_mem {b : String × List String} (h : e.NamesApart) (ha : a ∈ e.attributes)
    (hb : b ∈ e.attributes) (hab : Text.SameLetters a.1 b.1) : a = b :=
  List.inj_on_of_nodup_map h ha hb hab

/-- The values are those of an attribute of this name, or there is none. -/
theorem values_cases (e : Entry) (name : String) :
    (∃ a ∈ e.attributes, Text.SameLetters a.1 name ∧ e.values name = a.2) ∨
      (∀ a ∈ e.attributes, ¬ Text.SameLetters a.1 name) ∧ e.values name = [] := by
  unfold values
  cases hexact : e.attributes.find? (·.1 == name) with
  | some a =>
    have ha : a.1 = name := by simpa using List.find?_some hexact
    exact .inl ⟨a, List.mem_of_find?_eq_some hexact, congrArg letters ha, rfl⟩
  | none =>
    cases hany : e.attributes.find? (sameAscii ·.1 name) with
    | some a =>
      have ha : Text.SameLetters a.1 name := sameAscii_iff.mp (by simpa using List.find?_some hany)
      exact .inl ⟨a, List.mem_of_find?_eq_some hany, ha, rfl⟩
    | none =>
      refine .inr ⟨fun a ha haname => ?_, rfl⟩
      exact List.find?_eq_none.mp hany a ha (sameAscii_iff.mpr haname)

/-- The attribute of the name is found, spelled in this way or another. -/
theorem values_eq_of_mem (h : e.NamesApart) (ha : a ∈ e.attributes)
    (hname : Text.SameLetters a.1 name) : e.values name = a.2 := by
  rcases e.values_cases name with ⟨b, hb, hbname, hvalues⟩ | ⟨hnone, -⟩
  · rw [hvalues, h.eq_of_mem ha hb (hname.trans hbname.symm)]
  · exact absurd hname (hnone a ha)

theorem values_eq_nil (h : ∀ a ∈ e.attributes, Text.SameLetters a.1 name → a.2 = []) :
    e.values name = [] := by
  rcases e.values_cases name with ⟨a, ha, haname, hvalues⟩ | ⟨-, hvalues⟩
  · rw [hvalues, h a ha haname]
  · exact hvalues

theorem SameLetters.symm (h : e.SameLetters e') : e'.SameLetters e where
  dn := h.dn.symm
  attributes := h.attributes.symm

theorem SameLetters.namesApart (h : e.SameLetters e') (he : e.NamesApart) : e'.NamesApart := by
  have hnames := h.attributes.map Prod.fst
  rw [List.map_map, List.map_map] at hnames
  exact hnames.nodup_iff.mp he

theorem SameLetters.exists_mem (h : e.SameLetters e') (ha : a ∈ e.attributes) :
    ∃ a' ∈ e'.attributes, Text.SameLetters a'.1 a.1 ∧ a'.2.map letters = a.2.map letters := by
  obtain ⟨a', ha', hfolded⟩ := List.mem_map.mp (h.attributes.mem_iff.mp (List.mem_map_of_mem ha))
  exact ⟨a', ha', Prod.mk.inj hfolded⟩

/-- The values of an attribute differ in letter case only. -/
theorem SameLetters.values (h : e.SameLetters e') (he : e.NamesApart)
    (hname : Text.SameLetters name name') :
    (e.values name).map letters = (e'.values name').map letters := by
  by_cases hfound : ∃ a ∈ e.attributes, Text.SameLetters a.1 name
  · obtain ⟨a, ha, haname⟩ := hfound
    obtain ⟨a', ha', hletters, hvalues⟩ := h.exists_mem ha
    rw [values_eq_of_mem he ha haname,
      values_eq_of_mem (h.namesApart he) ha' (hletters.trans (haname.trans hname)), hvalues]
  · have hmissing : e.values name = [] :=
      values_eq_nil fun a ha haname => absurd ⟨a, ha, haname⟩ hfound
    have hmissing' : e'.values name' = [] := by
      refine values_eq_nil fun a' ha' haname => absurd ?_ hfound
      obtain ⟨a, ha, hletters, -⟩ := h.symm.exists_mem ha'
      exact ⟨a, ha, hletters.trans (haname.trans hname.symm)⟩
    rw [hmissing, hmissing']

end Entry

/-! ## Expressions -/

namespace Predicate

variable {e e' : Entry} {user user' name : String} {a b : Operand}

/-- The operands differ only in the letter case of a name or of a literal. -/
inductive Operand.SameLetters : Operand → Operand → Prop
  | dn : SameLetters .dn .dn
  | username : SameLetters .username .username
  | attr {name name' : String} (h : Text.SameLetters name name') :
      SameLetters (.attr name) (.attr name')
  | literal {value value' : String} (h : Text.SameLetters value value') :
      SameLetters (.literal value) (.literal value')

/-- The expressions differ only in the letter case of names and literals. -/
inductive Expr.SameLetters : Expr → Expr → Prop
  | constant (value : Bool) : SameLetters (.constant value) (.constant value)
  | not {x x' : Expr} (h : SameLetters x x') : SameLetters (.not x) (.not x')
  | and {x x' y y' : Expr} (hx : SameLetters x x') (hy : SameLetters y y') :
      SameLetters (.and x y) (.and x' y')
  | or {x x' y y' : Expr} (hx : SameLetters x x') (hy : SameLetters y y') :
      SameLetters (.or x y) (.or x' y')
  | has {name name' : String} (h : Text.SameLetters name name') :
      SameLetters (.has name) (.has name')
  | compare {a a' b b' : Operand} (op : Comparison) (ha : a.SameLetters a')
      (hb : b.SameLetters b') : SameLetters (.compare a op b) (.compare a' op b')

theorem Operand.SameLetters.values_eq {a a' : Operand} (h : a.SameLetters a')
    (he : e.SameLetters e') (hapart : e.NamesApart) (huser : Text.SameLetters user user') :
    a.values e user = a'.values e' user' := by
  have hlower : ∀ xs : List String,
      xs.map Text.lowerAscii = (xs.map Text.letters).map String.ofList := by
    intro xs
    rw [List.map_map]
    rfl
  cases h with
  | dn => exact congrArg (fun cs => [String.ofList cs]) he.dn
  | username => exact congrArg (fun cs => [String.ofList cs]) huser
  | attr hname => rw [values, values, hlower, hlower, he.values hapart hname]
  | literal hvalue => exact congrArg (fun cs => [String.ofList cs]) hvalue

theorem Expr.SameLetters.eval_eq {x x' : Expr} (h : x.SameLetters x') (he : e.SameLetters e')
    (hapart : e.NamesApart) (huser : Text.SameLetters user user') :
    x.eval e user = x'.eval e' user' := by
  induction h with
  | constant => rfl
  | not _ ih => rw [eval, eval, ih]
  | and _ _ ihx ihy => rw [eval, eval, ihx, ihy]
  | or _ _ ihx ihy => rw [eval, eval, ihx, ihy]
  | has hname =>
    have hvalues := congrArg List.isEmpty (he.values hapart hname)
    rw [List.isEmpty_map, List.isEmpty_map] at hvalues
    rw [eval, eval, Entry.has, Entry.has, hvalues]
  | compare op ha hb =>
    rw [eval, eval, ha.values_eq he hapart huser, hb.values_eq he hapart huser]

theorem eval_unequal (e : Entry) (user : String) (a b : Operand) :
    (Expr.compare a .unequal b).eval e user = !(Expr.compare a .equal b).eval e user := rfl

theorem anyPair_nil_right (related : String → String → Bool) (left : List String) :
    anyPair related left [] = false := by
  simp [anyPair]

/-- An operand without values is equal to none. -/
theorem eval_equal_of_values_eq_nil (h : a.values e user = [] ∨ b.values e user = []) :
    (Expr.compare a .equal b).eval e user = false := by
  rw [Expr.eval, Comparison.holds]
  rcases h with h | h
  · rw [h]
    rfl
  · rw [h, anyPair_nil_right]

theorem values_attr_of_missing
    (h : ∀ item ∈ e.attributes, Text.SameLetters item.1 name → item.2 = []) :
    (Operand.attr name).values e user = [] := by
  rw [Operand.values, Entry.values_eq_nil h, List.map_nil]

/-- Letter case does not count in entries, user names and expressions. `!=` is the negation of `==`;
where an attribute is missing on either side, `==` does not hold and `!=` does. -/
theorem eval_letterCase :
    (∀ (x x' : Expr) (e e' : Entry) (user user' : String), x.SameLetters x' → e.SameLetters e' →
      e.NamesApart → Text.SameLetters user user' → x.eval e user = x'.eval e' user') ∧
      (∀ (e : Entry) (user : String) (a b : Operand),
        (Expr.compare a .unequal b).eval e user = !(Expr.compare a .equal b).eval e user) ∧
      ∀ (e : Entry) (user name : String) (a b : Operand), a = .attr name ∨ b = .attr name →
        (∀ item ∈ e.attributes, Text.SameLetters item.1 name → item.2 = []) →
          (Expr.compare a .equal b).eval e user = false ∧
            (Expr.compare a .unequal b).eval e user = true := by
  refine ⟨fun x x' e e' user user' hx he hapart huser => hx.eval_eq he hapart huser,
    eval_unequal, fun e user name a b hattr hmissing => ?_⟩
  have hequal : (Expr.compare a .equal b).eval e user = false := by
    refine eval_equal_of_values_eq_nil (hattr.imp ?_ ?_)
    · rintro rfl
      exact values_attr_of_missing hmissing
    · rintro rfl
      exact values_attr_of_missing hmissing
  rw [eval_unequal, hequal]
  exact ⟨rfl, rfl⟩

namespace Sample

/-- An entry, and the same with other letter case and its attributes in another order. -/
def staff : Entry :=
  ⟨"cn=ssnape,ou=Staff", "hogwarts", [("mail", ["Snape@Hogwarts.edu"]), ("uid", ["ssnape"])]⟩

def staffAgain : Entry :=
  ⟨"CN=SSnape,OU=staff", "hogwarts", [("UID", ["SSNAPE"]), ("Mail", ["snape@hogwarts.EDU"])]⟩

/-- A comparison of each kind of operand. -/
def rule : Expr :=
  .and (.compare (.attr "Mail") .endsWith (.literal "@hogwarts.edu"))
    (.or (.compare .dn .contains (.literal "OU=STAFF"))
      (.compare .username .unequal (.attr "title")))

def ruleAgain : Expr :=
  .and (.compare (.attr "MAIL") .endsWith (.literal "@Hogwarts.Edu"))
    (.or (.compare .dn .contains (.literal "ou=staff"))
      (.compare .username .unequal (.attr "Title")))

end Sample

theorem sample_eval_letterCase : Sample.rule.eval Sample.staff "ssnape" = true ∧
    Sample.ruleAgain.eval Sample.staffAgain "SSnape" = true ∧
    (Expr.compare (.attr "title") .unequal .username).eval Sample.staff "ssnape" = true := by
  have hrule : Sample.rule.eval Sample.staff "ssnape" = true := by decide +kernel
  have hagain : Sample.rule.eval Sample.staff "ssnape" =
      Sample.ruleAgain.eval Sample.staffAgain "SSnape" := by
    refine eval_letterCase.1 _ _ _ _ _ _ ?_ ⟨?_, ?_⟩ ?_ ?_
    · exact .and (.compare _ (.attr (by decide +kernel)) (.literal (by decide +kernel)))
        (.or (.compare _ .dn (.literal (by decide +kernel)))
          (.compare _ .username (.attr (by decide +kernel))))
    all_goals decide +kernel
  exact ⟨hrule, hagain ▸ hrule,
    (eval_letterCase.2.2 _ _ "title" _ _ (.inl rfl) (by decide +kernel)).2⟩

end Predicate

end DirectoryLogin
