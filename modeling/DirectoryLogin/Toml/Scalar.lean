import DirectoryLogin.Json.Reader
import DirectoryLogin.Text.Search
import DirectoryLogin.Time.Calendar

/-!
# Keys and simple values of TOML

Texts in their four quotations, whole numbers in four bases, floating-point numbers, truth values,
dates and times, following version 1.1 of the format. Whole numbers of 64 bits are kept; a
floating-point number is kept as it was written, and a date or time becomes an object of one
member, since no setting is either of them.

Each reader takes the characters in front and hands on the rest.
-/

namespace DirectoryLogin.Toml

/-- A reader of what stands in front; `none` for a fault. -/
abbrev Front (α : Type) := List Char → Option (α × List Char)

/-! ## Characters -/

def isTabOrSpace (c : Char) : Bool := c == ' ' || c == '\t'

/-- Control characters, which may stand nowhere but the tab. -/
def isControl (c : Char) : Bool := (c.toNat < 0x20 && c != '\t') || c.toNat == 0x7F

/-- What follows a line end in front. -/
def lineEnd? : List Char → Option (List Char)
  | '\n' :: rest => some rest
  | '\r' :: '\n' :: rest => some rest
  | _ => none

/-- What follows blanks, line ends and comments in front. -/
def skipFiller (inComment : Bool) : List Char → Option (List Char)
  | [] => some []
  | c :: rest =>
    if c == '\n' then skipFiller false rest
    else if c == '\r' then if rest.head? == some '\n' then skipFiller inComment rest else none
    else if inComment then if isControl c then none else skipFiller true rest
    else if isTabOrSpace c then skipFiller false rest
    else if c == '#' then skipFiller true rest
    else some (c :: rest)

/-- What follows the rest of a line that holds nothing more than a comment. -/
def restOfLine? (cs : List Char) : Option (List Char) :=
  match cs.dropWhile isTabOrSpace with
  | [] => some []
  | '#' :: comment =>
    let (body, rest) := comment.span fun c => c != '\n' && c != '\r'
    if body.any isControl then none else if rest.isEmpty then some [] else lineEnd? rest
  | rest => lineEnd? rest

/-! ## Texts -/

/-- The character that a number of hexadecimal digits in front denotes. -/
def hexChar? (count : Nat) (cs : List Char) : Option Char := do
  let digits := cs.take count
  if digits.length < count then none
  else do
    let values ← digits.mapM Json.hexValue?
    let n := values.foldl (fun n d => n * 16 + d) 0
    if h : n.isValidChar then some (Char.ofNatAux n h) else none

/-- What an escape stands for, given what follows its backslash, and how many characters it
takes. -/
def escape? : List Char → Option (Char × Nat)
  | 'b' :: _ => some ('\x08', 1)
  | 't' :: _ => some ('\t', 1)
  | 'n' :: _ => some ('\n', 1)
  | 'f' :: _ => some ('\x0c', 1)
  | 'r' :: _ => some ('\r', 1)
  | 'e' :: _ => some ('\x1b', 1)
  | '\x22' :: _ => some ('\x22', 1)
  | '\\' :: _ => some ('\\', 1)
  | 'x' :: rest => (hexChar? 2 rest).map (·, 3)
  | 'u' :: rest => (hexChar? 4 rest).map (·, 5)
  | 'U' :: rest => (hexChar? 8 rest).map (·, 9)
  | _ => none

/-- The number of characters of a line end after a backslash, with all the blanks and line ends
around it. -/
def foldedLength? (cs : List Char) : Option Nat :=
  let blanks := cs.takeWhile isTabOrSpace
  match lineEnd? (cs.drop blanks.length) with
  | some _ => some (cs.takeWhile fun c => isTabOrSpace c || c == '\n' || c == '\r').length
  | none => none

/-- The contents of a text on one line after its opening quote. The first `skip` characters belong
to an escape that has been read. -/
def lineBody (quote : Char) (skip : Nat) : Front (List Char)
  | [] => none
  | c :: rest =>
    match skip with
    | k + 1 => lineBody quote k rest
    | 0 =>
      if c == quote then some ([], rest)
      else if isControl c then none
      else if c == '\\' && quote == '\x22' then
        match escape? rest with
        | some (x, n) => (lineBody quote n rest).map fun (body, after) => (x :: body, after)
        | none => none
      else (lineBody quote 0 rest).map fun (body, after) => (c :: body, after)

/-- The contents of a text of several lines after its opening quotes. It ends at three quotes,
before which one or two more may stand. -/
def linesBody (quote : Char) (skip : Nat) : Front (List Char)
  | [] => none
  | c :: rest =>
    match skip with
    | k + 1 => linesBody quote k rest
    | 0 =>
      if c == quote && rest.take 2 == [quote, quote] then
        let more := ((rest.drop 2).takeWhile (· == quote)).take 2
        some (more, rest.drop (2 + more.length))
      else if c == '\r' && rest.head? != some '\n' then none
      else if isControl c && c != '\n' && c != '\r' then none
      else if c == '\\' && quote == '\x22' then
        match foldedLength? rest with
        | some n => linesBody quote n rest
        | none =>
          match escape? rest with
          | some (x, n) => (linesBody quote n rest).map fun (body, after) => (x :: body, after)
          | none => none
      else (linesBody quote 0 rest).map fun (body, after) => (c :: body, after)

/-- A text at its opening quote. A line end right after three opening quotes is left out. -/
def text? (quote : Char) (cs : List Char) : Option (String × List Char) := do
  let (body, rest) ←
    if cs.take 3 == [quote, quote, quote] then
      let inner := cs.drop 3
      linesBody quote 0 ((lineEnd? inner).getD inner)
    else lineBody quote 0 (cs.drop 1)
  some (String.ofList body, rest)

/-! ## Keys -/

def isBareKeyChar (c : Char) : Bool := c.isAlphanum || c == '_' || c == '-'

/-- One part of a key. -/
def keyPart? : Front String
  | [] => none
  | c :: rest =>
    if c == '\x22' || c == '\x27' then
      (lineBody c 0 rest).map fun (body, after) => (String.ofList body, after)
    else
      let (name, after) := (c :: rest).span isBareKeyChar
      if name.isEmpty then none else some (String.ofList name, after)

/-- A key of one or more parts with dots between them. The count bounds the parts. -/
def key? : Nat → Front (List String)
  | 0, _ => none
  | n + 1, cs => do
    let (part, rest) ← keyPart? (cs.dropWhile isTabOrSpace)
    match rest.dropWhile isTabOrSpace with
    | '.' :: more => do
      let (parts, after) ← key? n more
      some (part :: parts, after)
    | after => some ([part], after)

/-! ## Numbers, truth values and times -/

/-- Digits with single underscores between them, without the underscores. -/
def digits? (isDigit : Char → Bool) (cs : List Char) : Option (List Char) :=
  let groups := Text.pieces '_' cs
  if groups.all fun g => !g.isEmpty && g.all isDigit then some groups.flatten else none

/-- The number that digits denote in a base. -/
def numberIn (base : Nat) (digits : List Char) : Nat :=
  digits.foldl (fun n d => n * base + (Json.hexValue? d).getD 0) 0

/-- A sign and what follows it. -/
def signed (cs : List Char) : Bool × List Char :=
  match cs with
  | '-' :: rest => (true, rest)
  | '+' :: rest => (false, rest)
  | rest => (false, rest)

/-- Digits of a decimal number; a leading zero stands alone. -/
def decimalDigits? (cs : List Char) : Option (List Char) :=
  match digits? Char.isDigit cs with
  | some digits => if digits.head? == some '0' && digits.length > 1 then none else some digits
  | none => none

/-- A whole number of at most 128 bits, a bit of which goes to a minus sign. Other bases than ten
take no sign. -/
def integer? (cs : List Char) : Option Json := do
  let (base, digits, negative) ← match cs with
    | '0' :: 'x' :: rest => (digits? (fun c => (Json.hexValue? c).isSome) rest).map (16, ·, false)
    | '0' :: 'o' :: rest => (digits? (fun c => '0' ≤ c && c ≤ '7') rest).map (8, ·, false)
    | '0' :: 'b' :: rest => (digits? (fun c => c == '0' || c == '1') rest).map (2, ·, false)
    | _ =>
      let (negative, rest) := signed cs
      (decimalDigits? rest).map (10, ·, negative)
  let n := numberIn base digits
  if n < (if negative then 1 <<< 127 + 1 else 1 <<< 128) then
    some (.integer (if negative then -n else n))
  else none

/-- The exponent of a floating-point number. -/
def isExponent (cs : List Char) : Bool := (digits? Char.isDigit (signed cs).2).isSome

/-- The digits before an exponent, with or without a fraction. -/
def isMantissa (cs : List Char) : Bool :=
  match Text.cutFirst? '.' cs with
  | some (whole, fraction) => (decimalDigits? whole).isSome && (digits? Char.isDigit fraction).isSome
  | none => (decimalDigits? cs).isSome

/-- A floating-point number. -/
def float? (cs : List Char) : Option Json :=
  let body := (signed cs).2
  let isFloat :=
    body == "inf".toList || body == "nan".toList ||
      match Text.cutFirst? 'e' (body.map Char.toLower) with
      | some (mantissa, exponent) => isMantissa mantissa && isExponent exponent
      | none => body.contains '.' && isMantissa body
  if isFloat then some (.decimal (String.ofList cs)) else none

/-- A number of exactly so many digits in front. -/
def field? (count : Nat) (cs : List Char) : Option (Nat × List Char) :=
  let digits := cs.take count
  if digits.length == count && digits.all Char.isDigit then
    some (Json.digitsValue digits, cs.drop count)
  else none

/-- A character in front. -/
def mark? (c : Char) (cs : List Char) : Option (List Char) :=
  match cs with
  | x :: rest => if x == c then some rest else none
  | [] => none

/-- What follows a date in front. -/
def date? (cs : List Char) : Option (List Char) := do
  let (year, rest) ← field? 4 cs
  let (month, rest) ← field? 2 (← mark? '-' rest)
  let (day, rest) ← field? 2 (← mark? '-' rest)
  let (y, m, d) := Time.dateOfDays (Time.daysOfDate year month day)
  if 1 ≤ month && month ≤ 12 && y == year && m == month && d == day then some rest else none

/-- What follows a time of day in front. The seconds may be left out. -/
def time? (cs : List Char) : Option (List Char) := do
  let (hour, rest) ← field? 2 cs
  let (minute, rest) ← field? 2 (← mark? ':' rest)
  if hour > 23 || minute > 59 then none
  else match rest with
    | ':' :: rest => do
      let (second, rest) ← field? 2 rest
      if second > 60 then none
      else match rest with
        | '.' :: rest =>
          let (fraction, rest) := rest.span Char.isDigit
          if fraction.isEmpty then none else some rest
        | rest => some rest
    | rest => some rest

/-- The characters are an offset from universal time, or there are none. -/
def isOffset (cs : List Char) : Bool :=
  match cs with
  | [] => true
  | c :: rest =>
    if c == 'Z' || c == 'z' then rest.isEmpty
    else if c == '+' || c == '-' then
      match (do
        let (hour, rest) ← field? 2 rest
        let (minute, rest) ← field? 2 (← mark? ':' rest)
        some (hour ≤ 23 && minute ≤ 59 && rest.isEmpty) : Option Bool) with
      | some ok => ok
      | none => false
    else false

/-- A date, a time, or both. -/
def isMoment (cs : List Char) : Bool :=
  match date? cs with
  | some [] => true
  | some (c :: rest) =>
    (c == 'T' || c == 't' || c == ' ') && match time? rest with
      | some offset => isOffset offset
      | none => false
  | none => time? cs == some []

/-- The value of a word that is no text. -/
def word? (cs : List Char) : Option Json :=
  if cs == "true".toList then some (.bool true)
  else if cs == "false".toList then some (.bool false)
  else if isMoment cs then some (.object [("moment", .string (String.ofList cs))])
  else integer? cs <|> float? cs

/-- Characters of a word. -/
def isWordChar (c : Char) : Bool :=
  c.isAlphanum || c == '_' || c == '+' || c == '-' || c == '.' || c == ':'

/-- A word in front. A blank between a date and a time belongs to it. -/
def spanWord (cs : List Char) : List Char × List Char :=
  let (word, rest) := cs.span isWordChar
  match date? word, rest with
  | some [], ' ' :: c :: more =>
    if c.isDigit then
      let (time, after) := (c :: more).span isWordChar
      (word ++ ' ' :: time, after)
    else (word, rest)
  | _, _ => (word, rest)

/-- A value that is no array and no table. -/
def scalar? (cs : List Char) : Option (Json × List Char) :=
  match cs with
  | [] => none
  | c :: _ =>
    if c == '\x22' || c == '\x27' then (text? c cs).map fun (s, rest) => (.string s, rest)
    else
      let (word, rest) := spanWord cs
      (word? word).map (·, rest)

end DirectoryLogin.Toml
