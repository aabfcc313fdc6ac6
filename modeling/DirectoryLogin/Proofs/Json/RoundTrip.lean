import DirectoryLogin.Json.Printer
import DirectoryLogin.Json.Reader
import Mathlib.Data.List.Basic
import Mathlib.Tactic.SplitIfs

/-!
# Reading what was printed

A value of texts, words, arrays and objects is read back from its print as it was.

* `readText_quoted`: a text, whatever characters it consists of;
* `readValue_chars`: a value with anything after it;
* `read_print`: a whole text.
-/

namespace DirectoryLogin.Json

/-! ## Texts -/

theorem hexValue?_hexDigit : ∀ n < 16, hexValue? (hexDigit n) = some n := by decide

/-- Characters that belong to an escape are passed over. -/
theorem readText_skip (taken rest : List Char) :
    readText taken.length (taken ++ rest) = readText 0 rest := by
  induction taken with
  | nil => rfl
  | cons c taken ih => exact ih

/-- What is read of a text that has `c` before what `r` was read from. -/
def consText (c : Char) (r : Option (Option (List Char) × List Char)) :
    Option (Option (List Char) × List Char) :=
  r.map fun (body, after) => (body.map (c :: ·), after)

/-- An escape is read as the character that it stands for. `tail` is what follows its backslash. -/
theorem readText_backslash {c : Char} (tail : List Char) {rest : List Char}
    (h : unescape? (tail ++ rest) = some (some c, tail.length)) :
    readText 0 ('\\' :: (tail ++ rest)) = consText c (readText 0 rest) := by
  simp only [readText, h, readText_skip]
  cases readText 0 rest with
  | none => rfl
  | some p =>
    obtain ⟨body, after⟩ := p
    cases body <;> rfl

/-- A control character is read back from its four hexadecimal digits. -/
theorem unescape?_control {c : Char} (h : c.toNat < 0x20) (rest : List Char) :
    unescape? (['u', '0', '0', hexDigit (c.toNat / 16), hexDigit (c.toNat % 16)] ++ rest) =
      some (some c, 5) := by
  have zero : hexValue? '0' = some 0 := by decide
  have high := hexValue?_hexDigit (c.toNat / 16) (by omega)
  have low := hexValue?_hexDigit (c.toNat % 16) (by omega)
  have digits : fourHex?
      ('0' :: '0' :: hexDigit (c.toNat / 16) :: hexDigit (c.toNat % 16) :: rest) =
        some c.toNat := by
    simp only [fourHex?, zero, high, low]
    have sum : ((0 * 16 + 0) * 16 + c.toNat / 16) * 16 + c.toNat % 16 = c.toNat := by omega
    exact congrArg some sum
  have below : ¬(0xD800 ≤ c.toNat ∧ c.toNat < 0xDC00) := by omega
  have below' : ¬(0xDC00 ≤ c.toNat ∧ c.toNat < 0xE000) := by omega
  simp [unescape?, unicodeEscape?, digits, below, below', Char.ofNat_toNat]

theorem readText_escape (c : Char) (rest : List Char) :
    readText 0 (escape c ++ rest) = consText c (readText 0 rest) := by
  unfold escape
  split_ifs with quote backslash backspace feed line back tab control
  · exact readText_backslash ['\x22'] (by simp_all [unescape?])
  · exact readText_backslash ['\\'] (by simp_all [unescape?])
  · exact readText_backslash ['b'] (by simp_all [unescape?])
  · exact readText_backslash ['f'] (by simp_all [unescape?])
  · exact readText_backslash ['n'] (by simp_all [unescape?])
  · exact readText_backslash ['r'] (by simp_all [unescape?])
  · exact readText_backslash ['t'] (by simp_all [unescape?])
  · exact readText_backslash _ (unescape?_control control rest)
  · simp [readText, consText, quote, backslash, control]

theorem readText_body (body rest : List Char) :
    readText 0 (body.flatMap escape ++ '\x22' :: rest) = some (some body, rest) := by
  induction body with
  | nil => rfl
  | cons c body ih =>
    rw [List.flatMap_cons, List.append_assoc, readText_escape, ih]
    rfl

theorem quoted_append (s : String) (rest : List Char) :
    quoted s ++ rest = '\x22' :: (s.toList.flatMap escape ++ '\x22' :: rest) := by
  simp [quoted]

/-! ## Values -/

/-- A value without numbers in which nothing failed. -/
inductive Plain : Json → Prop
  | null : Plain .null
  | bool (b : Bool) : Plain (.bool b)
  | string (s : String) : Plain (.string s)
  | array {elements : List Json} (h : ∀ v ∈ elements, Plain v) : Plain (.array elements)
  | object {members : List (String × Json)} (h : ∀ m ∈ members, Plain m.2) :
      Plain (.object members)

/-- A character that is neither white space nor the end of an array. -/
def opens (c : Char) : Bool := !isSpace c && c != ']'

theorem Plain.opens {v : Json} (h : Plain v) : ∃ c rest, chars v = c :: rest ∧ opens c := by
  cases h with
  | null => exact ⟨'n', "ull".toList, rfl, by decide⟩
  | bool b => cases b with
    | true => exact ⟨'t', "rue".toList, rfl, by decide⟩
    | false => exact ⟨'f', "alse".toList, rfl, by decide⟩
  | string s => exact ⟨'\x22', _, rfl, by decide⟩
  | @array elements _ => cases elements with
    | nil => exact ⟨'[', _, rfl, by decide⟩
    | cons v elements => exact ⟨'[', _, rfl, by decide⟩
  | @object members _ => cases members with
    | nil => exact ⟨'\x7b', _, rfl, by decide⟩
    | cons m members => exact ⟨'\x7b', _, rfl, by decide⟩

/-- The value is read back from its characters, whatever follows them, in twice as many steps. -/
def Reread (v : Json) : Prop :=
  ∀ n rest, 2 * (chars v).length ≤ n + 1 → readValue (n + 1) (chars v ++ rest) = (v, rest)

theorem readElements_chars {v : Json} {vs : List Json} (h : ∀ u ∈ v :: vs, Reread u) {n : Nat}
    (hn : 2 * (chars v ++ elementChars vs).length ≤ n) (rest : List Char) :
    readElements n (chars v ++ (elementChars vs ++ rest)) = (v :: vs, rest) := by
  induction vs generalizing v n with
  | nil =>
    simp only [elementChars, List.length_append, List.length_singleton] at hn
    obtain ⟨m, rfl⟩ : ∃ m, n = m + 2 := ⟨n - 2, by omega⟩
    have last := h v (by simp) m (']' :: rest) (by omega)
    simp [readElements, elementChars, last, isSpace]
  | cons u us ih =>
    simp only [elementChars, List.length_append, List.length_cons] at hn
    obtain ⟨m, rfl⟩ : ∃ m, n = m + 2 := ⟨n - 2, by omega⟩
    have first := h v (by simp) m (',' :: (chars u ++ (elementChars us ++ rest))) (by omega)
    have later := ih (fun w hw => h w (List.mem_cons_of_mem v hw)) (n := m + 1)
      (by simp only [List.length_append]; omega)
    rw [readElements, elementChars, List.cons_append, List.append_assoc, first]
    simp [later, isSpace]

theorem readMembers_chars {name : String} {v : Json} {ms : List (String × Json)}
    (h : ∀ m ∈ (name, v) :: ms, Reread m.2) {n : Nat}
    (hn : 2 * (quoted name ++ ':' :: (chars v ++ memberChars ms)).length ≤ n) (rest : List Char) :
    readMembers n (quoted name ++ ':' :: (chars v ++ (memberChars ms ++ rest))) =
      ((name, v) :: ms, rest) := by
  induction ms generalizing name v n with
  | nil =>
    simp only [memberChars, List.length_append, List.length_cons, List.length_nil] at hn
    obtain ⟨m, rfl⟩ : ∃ m, n = m + 2 := ⟨n - 2, by omega⟩
    have last := h (name, v) (by simp) m ('\x7d' :: rest) (by simp only; omega)
    simp [readMembers, memberChars, quoted_append, readText_body, last, isSpace]
  | cons u us ih =>
    obtain ⟨next, u⟩ := u
    simp only [memberChars, List.length_append, List.length_cons] at hn
    obtain ⟨m, rfl⟩ : ∃ m, n = m + 2 := ⟨n - 2, by omega⟩
    have first := h (name, v) (by simp) m
      (',' :: (quoted next ++ ':' :: (chars u ++ (memberChars us ++ rest)))) (by simp only; omega)
    have later := ih (fun w hw => h w (List.mem_cons_of_mem _ hw)) (n := m + 1)
      (by simp only [List.length_append, List.length_cons]; omega)
    rw [readMembers, quoted_append]
    simp [memberChars, readText_body, first, later, isSpace]

theorem readWord_append (word : List Char) (v : Json) (rest : List Char) :
    readWord word v (word ++ rest) = (v, rest) := by
  rw [readWord, List.isPrefixOf?_eq_some_iff_append_eq.mpr rfl]

/-- An array that does not close at once has elements. -/
theorem readValue_array {c : Char} (h : opens c) (n : Nat) (rest : List Char) :
    readValue (n + 1) ('[' :: c :: rest) =
      (array (readElements n (c :: rest)).1, (readElements n (c :: rest)).2) := by
  simp only [opens, Bool.and_eq_true, Bool.not_eq_true', bne_iff_ne] at h
  have here : (c :: rest).dropWhile isSpace = c :: rest :=
    List.dropWhile_cons_of_neg (by simp [h.1])
  rw [readValue, List.dropWhile_cons_of_neg (by decide)]
  simp only [beq_self_eq_true, if_true, here]
  split
  · next after closed => exact absurd (List.cons.inj closed).1 h.2
  · rfl

/-- Every plain value is read back. The induction is on how it is made up, and the lists in it are
read by the two lemmas above. -/
theorem Plain.reread {v : Json} (h : Plain v) : Reread v := by
  induction h with
  | null =>
    intro n rest _
    exact readWord_append "null".toList .null rest
  | bool b =>
    intro n rest _
    cases b with
    | true => exact readWord_append "true".toList (.bool true) rest
    | false => exact readWord_append "false".toList (.bool false) rest
  | string s =>
    intro n rest _
    simp [readValue, chars, quoted_append, readText_body, isSpace]
  | @array elements plain ih =>
    intro n rest hn
    cases elements with
    | nil => simp [readValue, chars, isSpace]
    | cons v vs =>
      simp only [chars, List.length_cons] at hn
      have body := readElements_chars ih (n := n) (by omega) rest
      obtain ⟨c, tail, hc, opening⟩ := (plain v (by simp)).opens
      rw [hc] at body
      simp only [chars, hc, List.cons_append, List.append_assoc] at body ⊢
      rw [readValue_array opening, body]
  | @object members plain ih =>
    intro n rest hn
    cases members with
    | nil => simp [readValue, chars, isSpace]
    | cons m ms =>
      obtain ⟨name, v⟩ := m
      simp only [chars, List.length_cons] at hn
      have body := readMembers_chars ih (n := n) (by omega) rest
      rw [quoted_append] at body
      simp [readValue, chars, isSpace, quoted_append, body]

/-- The print of a plain value holds that value and nothing more. -/
theorem read_print {v : Json} (h : Plain v) : Json.read (print v) = (v, false) := by
  have whole := h.reread (2 * (chars v).length + 1) [] (by omega)
  simp only [List.append_nil] at whole
  simp [Json.read, print, whole]

end DirectoryLogin.Json
