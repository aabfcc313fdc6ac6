import DirectoryLogin.Digest.Bytes

/-!
# SHA-256 and its keyed form

The digest of FIPS 180-4 and the message authentication code HMAC over it. Both give 32 bytes.
-/

namespace DirectoryLogin.Digest

/-- The eight words that a digest is made of. -/
structure Sha256 where
  a : UInt32
  b : UInt32
  c : UInt32
  d : UInt32
  e : UInt32
  f : UInt32
  g : UInt32
  h : UInt32
  deriving DecidableEq, Repr

namespace Sha256

/-- The constant added in each round. -/
def roundConstants : List UInt32 :=
  [0x428a2f98, 0x71374491, 0xb5c0fbcf, 0xe9b5dba5, 0x3956c25b, 0x59f111f1, 0x923f82a4, 0xab1c5ed5,
   0xd807aa98, 0x12835b01, 0x243185be, 0x550c7dc3, 0x72be5d74, 0x80deb1fe, 0x9bdc06a7, 0xc19bf174,
   0xe49b69c1, 0xefbe4786, 0x0fc19dc6, 0x240ca1cc, 0x2de92c6f, 0x4a7484aa, 0x5cb0a9dc, 0x76f988da,
   0x983e5152, 0xa831c66d, 0xb00327c8, 0xbf597fc7, 0xc6e00bf3, 0xd5a79147, 0x06ca6351, 0x14292967,
   0x27b70a85, 0x2e1b2138, 0x4d2c6dfc, 0x53380d13, 0x650a7354, 0x766a0abb, 0x81c2c92e, 0x92722c85,
   0xa2bfe8a1, 0xa81a664b, 0xc24b8b70, 0xc76c51a3, 0xd192e819, 0xd6990624, 0xf40e3585, 0x106aa070,
   0x19a4c116, 0x1e376c08, 0x2748774c, 0x34b0bcb5, 0x391c0cb3, 0x4ed8aa4a, 0x5b9cca4f, 0x682e6ff3,
   0x748f82ee, 0x78a5636f, 0x84c87814, 0x8cc70208, 0x90befffa, 0xa4506ceb, 0xbef9a3f7, 0xc67178f2]

/-- The words before any message. -/
def start : Sha256 :=
  ⟨0x6a09e667, 0xbb67ae85, 0x3c6ef372, 0xa54ff53a, 0x510e527f, 0x9b05688c, 0x1f83d9ab, 0x5be0cd19⟩

def rotateRight (x : UInt32) (n : UInt32) : UInt32 := (x >>> n) ||| (x <<< (32 - n))

/-- One round with its message word and constant. -/
def round (s : Sha256) (w k : UInt32) : Sha256 :=
  let sum1 := rotateRight s.e 6 ^^^ rotateRight s.e 11 ^^^ rotateRight s.e 25
  let choice := (s.e &&& s.f) ^^^ (~~~s.e &&& s.g)
  let t1 := s.h + sum1 + choice + k + w
  let sum0 := rotateRight s.a 2 ^^^ rotateRight s.a 13 ^^^ rotateRight s.a 22
  let majority := (s.a &&& s.b) ^^^ (s.a &&& s.c) ^^^ (s.b &&& s.c)
  ⟨t1 + (sum0 + majority), s.a, s.b, s.c, s.d + t1, s.e, s.f, s.g⟩

/-- The next message word, from the sixteen before it. -/
def nextWord (window : List UInt32) : UInt32 :=
  let word (i : Nat) := window.getD i 0
  let x := word 1
  let y := word 14
  let small0 := rotateRight x 7 ^^^ rotateRight x 18 ^^^ (x >>> 3)
  let small1 := rotateRight y 17 ^^^ rotateRight y 19 ^^^ (y >>> 10)
  word 0 + small0 + word 9 + small1

/-- The rounds with the remaining constants; `window` holds the next sixteen message words. -/
def rounds (s : Sha256) (window : List UInt32) : List UInt32 → Sha256
  | [] => s
  | k :: rest => rounds (s.round (window.getD 0 0) k) (window.drop 1 ++ [nextWord window]) rest

/-- Takes in a block of sixteen words. -/
def block (s : Sha256) (words : List UInt32) : Sha256 :=
  let r := rounds s words roundConstants
  ⟨s.a + r.a, s.b + r.b, s.c + r.c, s.d + r.d, s.e + r.e, s.f + r.f, s.g + r.g, s.h + r.h⟩

/-- Takes in whole blocks. -/
def blocks (s : Sha256) : List UInt32 → Sha256
  | w0 :: w1 :: w2 :: w3 :: w4 :: w5 :: w6 :: w7 :: w8 :: w9 :: w10 :: w11 :: w12 :: w13 :: w14 ::
      w15 :: rest =>
    blocks (s.block [w0, w1, w2, w3, w4, w5, w6, w7, w8, w9, w10, w11, w12, w13, w14, w15]) rest
  | _ => s

/-- The message with its padding: a one bit, zeros, and the length in bits as eight bytes. -/
def pad (message : Bytes) : Bytes :=
  let bits := message.length * 8
  let zeros := (119 - message.length % 64) % 64
  let high : UInt32 := UInt32.ofNat (bits >>> 32)
  message ++ 0x80 :: List.replicate zeros 0 ++
    (bigEndian32 high ++ bigEndian32 (UInt32.ofNat bits))

/-- The bytes of the words. -/
def bytes (s : Sha256) : Bytes :=
  [s.a, s.b, s.c, s.d, s.e, s.f, s.g, s.h].flatMap bigEndian32

end Sha256

/-- The digest of a message. -/
def sha256 (message : Bytes) : Bytes := (Sha256.start.blocks (words32 (Sha256.pad message))).bytes

theorem length_sha256 (message : Bytes) : (sha256 message).length = 32 := rfl

/-- A key of one block: a longer one is replaced by its digest, and zeros fill it up. -/
def hmacKey (key : Bytes) : Bytes :=
  let key := if key.length > 64 then sha256 key else key
  key ++ List.replicate (64 - key.length) 0

/-- The message authentication code of a message under a key. -/
def hmac (key message : Bytes) : Bytes :=
  let key := hmacKey key
  sha256 (key.map (· ^^^ 0x5c) ++ sha256 (key.map (· ^^^ 0x36) ++ message))

theorem length_hmac (key message : Bytes) : (hmac key message).length = 32 := rfl

end DirectoryLogin.Digest
