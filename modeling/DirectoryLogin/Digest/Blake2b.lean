import DirectoryLogin.Digest.Bytes

/-!
# BLAKE2b

The digest of RFC 7693 without a key, of 1 to 64 bytes. The sixteen words that the rounds work on
form a `Row`; Argon2 works on rows as well, with a multiplication in its mixing step.
-/

namespace DirectoryLogin.Digest

/-- Sixteen words. -/
structure Row where
  w0 : UInt64
  w1 : UInt64
  w2 : UInt64
  w3 : UInt64
  w4 : UInt64
  w5 : UInt64
  w6 : UInt64
  w7 : UInt64
  w8 : UInt64
  w9 : UInt64
  w10 : UInt64
  w11 : UInt64
  w12 : UInt64
  w13 : UInt64
  w14 : UInt64
  w15 : UInt64
  deriving DecidableEq, Repr, Inhabited

def rotateRight64 (x n : UInt64) : UInt64 := (x >>> n) ||| (x <<< (64 - n))

namespace Row

def zero : Row := ⟨0, 0, 0, 0, 0, 0, 0, 0, 0, 0, 0, 0, 0, 0, 0, 0⟩

/-- Words one by one exclusive-or. -/
def xor (x y : Row) : Row :=
  ⟨x.w0 ^^^ y.w0, x.w1 ^^^ y.w1, x.w2 ^^^ y.w2, x.w3 ^^^ y.w3, x.w4 ^^^ y.w4, x.w5 ^^^ y.w5,
    x.w6 ^^^ y.w6, x.w7 ^^^ y.w7, x.w8 ^^^ y.w8, x.w9 ^^^ y.w9, x.w10 ^^^ y.w10, x.w11 ^^^ y.w11,
    x.w12 ^^^ y.w12, x.w13 ^^^ y.w13, x.w14 ^^^ y.w14, x.w15 ^^^ y.w15⟩

def toList (x : Row) : List UInt64 :=
  [x.w0, x.w1, x.w2, x.w3, x.w4, x.w5, x.w6, x.w7, x.w8, x.w9, x.w10, x.w11, x.w12, x.w13, x.w14,
    x.w15]

/-- The first sixteen words of a list, zeros where it is too short. -/
def ofList : List UInt64 → Row
  | w0 :: w1 :: w2 :: w3 :: w4 :: w5 :: w6 :: w7 :: w8 :: w9 :: w10 :: w11 :: w12 :: w13 :: w14 ::
      w15 :: _ => ⟨w0, w1, w2, w3, w4, w5, w6, w7, w8, w9, w10, w11, w12, w13, w14, w15⟩
  | ws => let w (i : Nat) := ws.getD i 0
    ⟨w 0, w 1, w 2, w 3, w 4, w 5, w 6, w 7, w 8, w 9, w 10, w 11, w 12, w 13, w 14, w 15⟩

end Row

namespace Blake2b

/-- Mixes four words with two message words, and hands the four new ones on. -/
@[inline] def mix {β : Type} (a b c d x y : UInt64) (next : UInt64 → UInt64 → UInt64 → UInt64 → β) : β :=
  let a := a + b + x
  let d := rotateRight64 (d ^^^ a) 32
  let c := c + d
  let b := rotateRight64 (b ^^^ c) 24
  let a := a + b + y
  let d := rotateRight64 (d ^^^ a) 16
  let c := c + d
  let b := rotateRight64 (b ^^^ c) 63
  next a b c d

/-- One round over a row, with the message words in the order of the round. -/
def round (v m : Row) : Row :=
  mix v.w0 v.w4 v.w8 v.w12 m.w0 m.w1 fun v0 v4 v8 v12 =>
  mix v.w1 v.w5 v.w9 v.w13 m.w2 m.w3 fun v1 v5 v9 v13 =>
  mix v.w2 v.w6 v.w10 v.w14 m.w4 m.w5 fun v2 v6 v10 v14 =>
  mix v.w3 v.w7 v.w11 v.w15 m.w6 m.w7 fun v3 v7 v11 v15 =>
  mix v0 v5 v10 v15 m.w8 m.w9 fun v0 v5 v10 v15 =>
  mix v1 v6 v11 v12 m.w10 m.w11 fun v1 v6 v11 v12 =>
  mix v2 v7 v8 v13 m.w12 m.w13 fun v2 v7 v8 v13 =>
  mix v3 v4 v9 v14 m.w14 m.w15 fun v3 v4 v9 v14 =>
  ⟨v0, v1, v2, v3, v4, v5, v6, v7, v8, v9, v10, v11, v12, v13, v14, v15⟩

/-- The order of the message words in each round. -/
def orders : List (List Nat) :=
  let first := [[0, 1, 2, 3, 4, 5, 6, 7, 8, 9, 10, 11, 12, 13, 14, 15],
    [14, 10, 4, 8, 9, 15, 13, 6, 1, 12, 0, 2, 11, 7, 5, 3]]
  first ++
    [[11, 8, 12, 0, 5, 2, 15, 13, 10, 14, 3, 6, 7, 1, 9, 4],
     [7, 9, 3, 1, 13, 12, 11, 14, 2, 6, 5, 10, 4, 0, 15, 8],
     [9, 0, 5, 7, 2, 4, 10, 15, 14, 1, 11, 12, 6, 8, 3, 13],
     [2, 12, 6, 10, 0, 11, 8, 3, 4, 13, 7, 5, 15, 14, 1, 9],
     [12, 5, 1, 15, 14, 13, 4, 10, 0, 7, 6, 3, 9, 2, 8, 11],
     [13, 11, 7, 14, 12, 1, 3, 9, 5, 0, 15, 4, 8, 6, 2, 10],
     [6, 15, 14, 9, 11, 3, 0, 8, 12, 2, 13, 7, 1, 4, 10, 5],
     [10, 2, 8, 4, 7, 6, 1, 5, 15, 11, 9, 14, 3, 12, 13, 0]] ++ first

/-- The eight words of the initial state, which are also the last eight of a working row. -/
def initial : List UInt64 :=
  [0x6a09e667f3bcc908, 0xbb67ae8584caa73b, 0x3c6ef372fe94f82b, 0xa54ff53a5f1d36f1,
   0x510e527fade682d1, 0x9b05688c2b3e6c1f, 0x1f83d9abfb41bd6b, 0x5be0cd19137e2179]

/-- Takes in a block of sixteen words; `count` bytes have been read with it. -/
def compress (h : List UInt64) (m : List UInt64) (count : Nat) (last : Bool) : List UInt64 :=
  let v := Row.ofList (h ++ initial)
  let v := { v with
    w12 := v.w12 ^^^ UInt64.ofNat count
    w13 := v.w13 ^^^ UInt64.ofNat (count >>> 64)
    w14 := if last then ~~~v.w14 else v.w14 }
  let v := orders.foldl (fun v order => round v (.ofList (order.map fun i => m.getD i 0))) v
  let w := v.toList
  List.zipWith (· ^^^ ·) h (List.zipWith (· ^^^ ·) w (w.drop 8))

/-- Takes in a message block by block, the last one filled up with zeros. The count, taken from
the length of the message, bounds the blocks. -/
def absorb : Nat → List UInt64 → Nat → Bytes → List UInt64
  | 0, h, _, _ => h
  | n + 1, h, count, message =>
    let now := message.take 128
    let later := message.drop 128
    let words := words64 (now ++ List.replicate (128 - now.length) 0)
    if later.isEmpty then compress h words (count + now.length) true
    else absorb n (compress h words (count + 128) false) (count + 128) later

end Blake2b

/-- The digest of a message, of a length from 1 to 64 bytes. -/
def blake2b (length : Nat) (message : Bytes) : Bytes :=
  let h := match Blake2b.initial with
    | first :: rest => (first ^^^ 0x01010000 ^^^ UInt64.ofNat length) :: rest
    | [] => []
  ((Blake2b.absorb (message.length / 128 + 1) h 0 message).flatMap littleEndian64).take length

end DirectoryLogin.Digest
