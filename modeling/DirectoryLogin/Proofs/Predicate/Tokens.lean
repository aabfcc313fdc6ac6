import DirectoryLogin.Predicate.Token
import DirectoryLogin.Proofs.Text.Trimming

/-!
# Tokens written out and read back

A source text is written token by token, with any white space between them, and literals in either
quote with escapes.

* `Lexeme`: a token as it is written, `render`: a source text that is written so;
* `literalBody?_escape`: a literal is read back from its escaped form;
* `firstToken_spelling`: a spelled token is read where white space follows it, or nothing;
* `scan_blank`, `scan_passed`, `scan_token`: how the scan goes on over white space, over characters
  of a token, and from a token to the next one;
* `tokenize_render`: the tokens of a text are those that it was written from, each at the byte
  offset at which it was written.
-/

namespace DirectoryLogin.Predicate

open Text (isBlank isBlankText)

/-! ## Writing -/

/-- The quote around a literal. -/
inductive Quote where
  | single
  | double
  deriving DecidableEq, Repr

def Quote.char : Quote → Char
  | single => '\x27'
  | double => '\x22'

/-- The text with a backslash before each backslash and each quote. -/
def escape (quote : Char) (body : List Char) : List Char :=
  body.flatMap fun c => if c == quote || c == '\\' then ['\\', c] else [c]

/-- The characters of a token, a literal being written in the given quote. -/
def Token.spelling (quote : Quote) : Token → List Char
  | leftParen => ['(']
  | rightParen => [')']
  | and => ['&', '&']
  | or => ['|', '|']
  | not => ['!']
  | equal => ['=', '=']
  | unequal => ['!', '=']
  | word name => name.toList
  | literal value => quote.char :: (escape quote.char value.toList ++ [quote.char])

/-- Words are made of one or more characters of words. -/
def Token.Writable : Token → Prop
  | word name => name ≠ "" ∧ ∀ c ∈ name.toList, isWordChar c = true
  | _ => True

/-- A token as it is written, with the white space before it. -/
structure Lexeme where
  gap : String
  token : Token
  quote : Quote
  blank : isBlankText gap = true
  writable : token.Writable

/-- The source text with these tokens, and with `trail` after the last of them. -/
def render : List Lexeme → (trail : String) → String
  | [], trail => trail
  | l :: rest, trail => l.gap ++ String.ofList (l.token.spelling l.quote) ++ render rest trail

/-! ## One token -/

variable {c : Char} {rest : List Char}

theorem isWordChar_of_isBlank (h : isBlank c = true) : isWordChar c = false := by
  have hcodes : ∀ code ∈ Text.blankCodes, isWordChar (Char.ofNat code) = false := by decide
  have hc := hcodes _ (Text.isBlank_iff.mp h)
  rwa [Char.ofNat_toNat] at hc

/-- White space comes first, or nothing. -/
def Ends (rest : List Char) : Prop := ∀ c ∈ rest.head?, isBlank c = true

theorem literalBody?_escape (quote : Quote) (body rest : List Char) :
    literalBody? quote.char (escape quote.char body ++ quote.char :: rest) =
      some (body, (escape quote.char body).length + 1) := by
  have hquote : quote.char ≠ '\\' := by cases quote <;> decide
  induction body with
  | nil => simp [escape, literalBody?, hquote]
  | cons c body ih =>
    rw [escape, List.flatMap_cons, ← escape]
    by_cases hc : c = quote.char ∨ c = '\\'
    · rw [if_pos (by simpa using hc)]
      simp [literalBody?, ih]
    · rw [if_neg (by simpa using hc)]
      rw [not_or] at hc
      simp [literalBody?, ih, hc]

theorem takeWhile_isWordChar {w : List Char} (hw : ∀ c ∈ w, isWordChar c = true)
    (hrest : Ends rest) : (w ++ rest).takeWhile isWordChar = w := by
  have hstop : rest.takeWhile isWordChar = [] := by
    cases rest with
    | nil => rfl
    | cons c rest => simp [isWordChar_of_isBlank (hrest c rfl)]
  rw [List.takeWhile_append_of_pos hw, hstop, List.append_nil]

theorem firstToken_word (hc : isWordChar c = true) : firstToken c rest =
    .ok (.word (String.ofList (c :: rest.takeWhile isWordChar)),
      (rest.takeWhile isWordChar).length) := by
  have hother : ∀ d, isWordChar d = false → c ≠ d := by
    rintro d hd rfl
    rw [hc] at hd
    cases hd
  simp [firstToken, isQuote, hc, hother '(' (by decide), hother ')' (by decide),
    hother '!' (by decide), hother '\x22' (by decide), hother '\x27' (by decide)]

theorem firstToken_literal (quote : Quote) (value : String) (rest : List Char) :
    firstToken quote.char (escape quote.char value.toList ++ [quote.char] ++ rest) =
      .ok (.literal value, (escape quote.char value.toList ++ [quote.char]).length) := by
  have hquote : quote.char ≠ '(' ∧ quote.char ≠ ')' ∧ quote.char ≠ '!' ∧
      isQuote quote.char = true := by
    cases quote <;> decide
  simp [firstToken, hquote, literalBody?_escape]

/-- A token that is written before white space, or at the end, is read back. -/
theorem firstToken_spelling {t : Token} (ht : t.Writable) (quote : Quote) (hrest : Ends rest) :
    ∃ c w, t.spelling quote = c :: w ∧ isBlank c = false ∧
      firstToken c (w ++ rest) = .ok (t, w.length) := by
  cases t with
  | leftParen => exact ⟨_, _, rfl, by decide, rfl⟩
  | rightParen => exact ⟨_, _, rfl, by decide, rfl⟩
  | and => exact ⟨_, _, rfl, by decide, rfl⟩
  | or => exact ⟨_, _, rfl, by decide, rfl⟩
  | not =>
    have hnext : rest.head? ≠ some '=' := fun h => absurd (hrest '=' h) (by decide)
    exact ⟨_, _, rfl, by decide, by simp [firstToken, hnext]⟩
  | equal => exact ⟨_, _, rfl, by decide, rfl⟩
  | unequal => exact ⟨_, _, rfl, by decide, rfl⟩
  | word name =>
    obtain ⟨hne, hname⟩ := ht
    cases hw : name.toList with
    | nil => exact absurd (String.toList_eq_nil_iff.mp hw) hne
    | cons c w =>
      rw [hw] at hname
      have hc := hname c List.mem_cons_self
      have hblank : isBlank c = false := by
        by_contra h
        rw [isWordChar_of_isBlank (Bool.not_eq_false _ ▸ h)] at hc
        cases hc
      refine ⟨c, w, hw, hblank, ?_⟩
      rw [firstToken_word hc,
        takeWhile_isWordChar (fun d hd => hname d (List.mem_cons_of_mem _ hd)) hrest, ← hw,
        String.ofList_toList]
  | literal value =>
    exact ⟨_, _, rfl, by cases quote <;> decide, firstToken_literal quote value rest⟩

/-! ## The scan -/

theorem utf8ByteSize_ofList_cons (c : Char) (cs : List Char) :
    (String.ofList (c :: cs)).utf8ByteSize = c.utf8Size + (String.ofList cs).utf8ByteSize := by
  rw [String.ofList_cons, String.utf8ByteSize_append, String.utf8ByteSize_singleton]

theorem scan_blank {gap : List Char} (hgap : ∀ c ∈ gap, isBlank c = true) (position : Nat)
    (rest : List Char) : scan 0 position (gap ++ rest) =
      scan 0 (position + (String.ofList gap).utf8ByteSize) rest := by
  induction gap generalizing position with
  | nil => rfl
  | cons c gap ih =>
    rw [List.cons_append, scan, if_pos (hgap c List.mem_cons_self),
      ih fun d hd => hgap d (List.mem_cons_of_mem _ hd), utf8ByteSize_ofList_cons, Nat.add_assoc]

theorem scan_passed (w : List Char) (position : Nat) (rest : List Char) :
    scan w.length position (w ++ rest) =
      scan 0 (position + (String.ofList w).utf8ByteSize) rest := by
  induction w generalizing position with
  | nil => rfl
  | cons c w ih =>
    rw [List.cons_append, List.length_cons, scan, ih, utf8ByteSize_ofList_cons, Nat.add_assoc]

theorem scan_token {t : Token} (ht : t.Writable) (quote : Quote) (position : Nat)
    (hrest : Ends rest) : scan 0 position (t.spelling quote ++ rest) =
      (scan 0 (position + (String.ofList (t.spelling quote)).utf8ByteSize) rest).map
        (⟨t, position⟩ :: ·) := by
  obtain ⟨c, w, hspelling, hblank, hfirst⟩ := firstToken_spelling ht quote hrest
  rw [hspelling, List.cons_append, scan, if_neg (by simp [hblank]), hfirst]
  dsimp only
  rw [scan_passed, utf8ByteSize_ofList_cons, Nat.add_assoc]

/-- After a token comes white space, or the end of the text. -/
theorem ends_render {ls : List Lexeme} {trail : String} (hspaced : ∀ l ∈ ls, l.gap ≠ "")
    (htrail : isBlankText trail = true) : Ends (render ls trail).toList := by
  cases ls with
  | nil => exact fun c hc => Text.mem_of_isBlankText htrail c (List.mem_of_mem_head? hc)
  | cons l rest =>
    intro c hc
    have hgap : l.gap.toList ≠ [] := fun h =>
      hspaced l List.mem_cons_self (String.toList_eq_nil_iff.mp h)
    rw [render, String.append_assoc, String.toList_append,
      List.head?_append_of_ne_nil _ hgap] at hc
    exact Text.mem_of_isBlankText l.blank c (List.mem_of_mem_head? hc)

theorem scan_render {ls : List Lexeme} {trail : String} (hspaced : ∀ l ∈ ls.tail, l.gap ≠ "")
    (htrail : isBlankText trail = true) (position : Nat) :
    scan 0 position (render ls trail).toList = .ok (ls.mapIdx fun i l =>
      ⟨l.token, position + (render (ls.take i) l.gap).utf8ByteSize⟩) := by
  induction ls generalizing position with
  | nil =>
    have hend := scan_blank (Text.mem_of_isBlankText htrail) position []
    rw [List.append_nil] at hend
    exact hend
  | cons l rest ih =>
    rw [List.tail_cons] at hspaced
    have hrest := ih (fun l' hl' => hspaced l' (List.mem_of_mem_tail hl'))
    rw [render, String.toList_append, String.toList_append, String.toList_ofList, List.append_assoc,
      scan_blank (Text.mem_of_isBlankText l.blank),
      scan_token l.writable _ _ (ends_render hspaced htrail), hrest, String.ofList_toList, List.mapIdx_cons]
    simp [Except.map, render, String.utf8ByteSize_append, Nat.add_assoc]

/-- A text that is written from tokens, with white space between each two of them and with any other
white space, is read as these tokens, each at the byte offset at which it was written. -/
theorem tokenize_render (ls : List Lexeme) (trail : String) (hspaced : ∀ l ∈ ls.tail, l.gap ≠ "")
    (htrail : isBlankText trail = true) :
    tokenize (render ls trail) =
      .ok (ls.mapIdx fun i l => ⟨l.token, (render (ls.take i) l.gap).utf8ByteSize⟩) := by
  rw [tokenize, scan_render hspaced htrail]
  simp only [Nat.zero_add]

namespace Sample

/-- A negation and an equals sign, which together would be one token, and a literal with characters
of several bytes and escapes. -/
def lexemes : List Lexeme := [
  ⟨"\u00A0", .not, .single, by decide, trivial⟩,
  ⟨"\n", .equal, .single, by decide, trivial⟩,
  ⟨"\u2003 ", .literal "é'\"\\", .double, by decide, trivial⟩,
  ⟨"\t", .word "a-1", .single, by decide, by decide, List.all_eq_true.mp (by decide)⟩]

end Sample

theorem sample_tokenize_render : tokenize "\u00A0!\n==\u2003 \"é'\\\"\\\\\"\ta-1\r" = .ok
    [⟨.not, 2⟩, ⟨.equal, 4⟩, ⟨.literal "é'\"\\", 10⟩, ⟨.word "a-1", 20⟩] := by
  have hread := tokenize_render Sample.lexemes "\r" (by decide) (by decide)
  have htext : render Sample.lexemes "\r" = "\u00A0!\n==\u2003 \"é'\\\"\\\\\"\ta-1\r" := by
    decide +kernel
  rw [htext] at hread
  rw [hread]
  decide +kernel

end DirectoryLogin.Predicate
