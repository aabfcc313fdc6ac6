import DirectoryLogin.Digest.Blake2b

/-!
# Argon2

The memory-hard password function of RFC 9106 in its three variants and its two versions. It fills
a memory of blocks of 1024 bytes, each made from its predecessor and from another block chosen
by a pseudo-random number, and reduces the last ones to a tag.

A block is eight rows of sixteen words. Mixing works on each row and then on each column, a column
being two adjacent words of every row; `Block.transpose` makes the columns rows.
-/

namespace DirectoryLogin.Digest.Argon2

/-- Where the choice of the other block comes from. -/
inductive Variant where
  /-- From the memory. -/
  | dependent
  /-- From a counter. -/
  | independent
  /-- From a counter in the first half of the first pass, then from the memory. -/
  | hybrid
  deriving DecidableEq, Repr

/-- The number by which a variant goes into the tag. -/
def Variant.code : Variant → Nat
  | dependent => 0
  | independent => 1
  | hybrid => 2

inductive Version where
  /-- Version 16: later passes replace the blocks. -/
  | replacing
  /-- Version 19: later passes add to the blocks. -/
  | adding
  deriving DecidableEq, Repr

def Version.code : Version → Nat
  | replacing => 16
  | adding => 19

structure Params where
  variant : Variant
  version : Version
  /-- The memory in units of 1024 bytes. -/
  memory : Nat
  passes : Nat
  lanes : Nat
  /-- Data that go into the tag beside the password and the salt. -/
  associated : Bytes
  tagLength : Nat
  deriving DecidableEq, Repr

/-! ## Blocks -/

structure Block where
  r0 : Row
  r1 : Row
  r2 : Row
  r3 : Row
  r4 : Row
  r5 : Row
  r6 : Row
  r7 : Row
  deriving Inhabited

/-- A sum of two words with twice the product of their lower halves. -/
@[inline] def blend (x y : UInt64) : UInt64 :=
  x + y + 2 * ((x &&& 0xFFFFFFFF) * (y &&& 0xFFFFFFFF))

/-- Mixes four words, and hands the four new ones on. -/
@[inline] def mix {β : Type} (a b c d : UInt64) (next : UInt64 → UInt64 → UInt64 → UInt64 → β) : β :=
  let a := blend a b
  let d := rotateRight64 (d ^^^ a) 32
  let c := blend c d
  let b := rotateRight64 (b ^^^ c) 24
  let a := blend a b
  let d := rotateRight64 (d ^^^ a) 16
  let c := blend c d
  let b := rotateRight64 (b ^^^ c) 63
  next a b c d

/-- Mixes a row. -/
def mixRow (v : Row) : Row :=
  mix v.w0 v.w4 v.w8 v.w12 fun v0 v4 v8 v12 =>
  mix v.w1 v.w5 v.w9 v.w13 fun v1 v5 v9 v13 =>
  mix v.w2 v.w6 v.w10 v.w14 fun v2 v6 v10 v14 =>
  mix v.w3 v.w7 v.w11 v.w15 fun v3 v7 v11 v15 =>
  mix v0 v5 v10 v15 fun v0 v5 v10 v15 =>
  mix v1 v6 v11 v12 fun v1 v6 v11 v12 =>
  mix v2 v7 v8 v13 fun v2 v7 v8 v13 =>
  mix v3 v4 v9 v14 fun v3 v4 v9 v14 =>
  ⟨v0, v1, v2, v3, v4, v5, v6, v7, v8, v9, v10, v11, v12, v13, v14, v15⟩

namespace Block

def zero : Block := ⟨.zero, .zero, .zero, .zero, .zero, .zero, .zero, .zero⟩

/-- Changes each row. -/
@[inline] def mapRows (f : Row → Row) (b : Block) : Block :=
  ⟨f b.r0, f b.r1, f b.r2, f b.r3, f b.r4, f b.r5, f b.r6, f b.r7⟩

def xor (x y : Block) : Block :=
  ⟨x.r0.xor y.r0, x.r1.xor y.r1, x.r2.xor y.r2, x.r3.xor y.r3, x.r4.xor y.r4, x.r5.xor y.r5,
    x.r6.xor y.r6, x.r7.xor y.r7⟩

/-- The columns as rows. A column takes two adjacent words of each row. -/
def transpose (b : Block) : Block :=
  let ⟨a, c, d, e, f, g, h, i⟩ := b
  ⟨⟨a.w0, a.w1, c.w0, c.w1, d.w0, d.w1, e.w0, e.w1, f.w0, f.w1, g.w0, g.w1, h.w0, h.w1, i.w0, i.w1⟩,
    ⟨a.w2, a.w3, c.w2, c.w3, d.w2, d.w3, e.w2, e.w3, f.w2, f.w3, g.w2, g.w3, h.w2, h.w3, i.w2, i.w3⟩,
    ⟨a.w4, a.w5, c.w4, c.w5, d.w4, d.w5, e.w4, e.w5, f.w4, f.w5, g.w4, g.w5, h.w4, h.w5, i.w4, i.w5⟩,
    ⟨a.w6, a.w7, c.w6, c.w7, d.w6, d.w7, e.w6, e.w7, f.w6, f.w7, g.w6, g.w7, h.w6, h.w7, i.w6, i.w7⟩,
    ⟨a.w8, a.w9, c.w8, c.w9, d.w8, d.w9, e.w8, e.w9, f.w8, f.w9, g.w8, g.w9, h.w8, h.w9, i.w8, i.w9⟩,
    ⟨a.w10, a.w11, c.w10, c.w11, d.w10, d.w11, e.w10, e.w11, f.w10, f.w11, g.w10, g.w11, h.w10,
      h.w11, i.w10, i.w11⟩,
    ⟨a.w12, a.w13, c.w12, c.w13, d.w12, d.w13, e.w12, e.w13, f.w12, f.w13, g.w12, g.w13, h.w12,
      h.w13, i.w12, i.w13⟩,
    ⟨a.w14, a.w15, c.w14, c.w15, d.w14, d.w15, e.w14, e.w15, f.w14, f.w15, g.w14, g.w15, h.w14,
      h.w15, i.w14, i.w15⟩⟩

/-- Makes a block from two: their sum, and the sum mixed by rows and by columns, added up. -/
def compress (x y : Block) : Block :=
  let sum := x.xor y
  let mixed := ((sum.mapRows mixRow).transpose.mapRows mixRow).transpose
  sum.xor mixed

def words (b : Block) : List UInt64 :=
  [b.r0, b.r1, b.r2, b.r3, b.r4, b.r5, b.r6, b.r7].flatMap Row.toList

def ofWords (ws : List UInt64) : Block :=
  let row (i : Nat) := Row.ofList (ws.drop (16 * i))
  ⟨row 0, row 1, row 2, row 3, row 4, row 5, row 6, row 7⟩

def ofBytes (bytes : Bytes) : Block := ofWords (words64 bytes)

def bytes (b : Block) : Bytes := b.words.flatMap littleEndian64

end Block

/-! ## Digests of any length -/

/-- The digests of a chain, each of the one before: 32 bytes of each but the last. -/
def chainDigest : Nat → (remaining : Nat) → Bytes → Bytes
  | 0, _, _ => []
  | n + 1, remaining, v =>
    if remaining ≤ 64 then blake2b remaining v
    else
      let next := blake2b 64 v
      next.take 32 ++ chainDigest n (remaining - 32) next

/-- A digest of any length. -/
def longDigest (length : Nat) (message : Bytes) : Bytes :=
  let message := littleEndian32 (UInt32.ofNat length) ++ message
  if length ≤ 64 then blake2b length message
  else
    let first := blake2b 64 message
    first.take 32 ++ chainDigest length (length - 32) first

/-! ## The memory -/

/-- A byte string with its length in front. -/
def withLength (bytes : Bytes) : Bytes := littleEndian32 (UInt32.ofNat bytes.length) ++ bytes

/-- The digest of all inputs from which the memory starts. -/
def seed (p : Params) (password salt : Bytes) : Bytes :=
  let number (n : Nat) := littleEndian32 (UInt32.ofNat n)
  blake2b 64 (number p.lanes ++ number p.tagLength ++ number p.memory ++ number p.passes ++
    number p.version.code ++ number p.variant.code ++ withLength password ++ withLength salt ++
    withLength [] ++ withLength p.associated)

/-- The number of blocks of a quarter of a lane. -/
def Params.segmentLength (p : Params) : Nat := p.memory / (4 * p.lanes)

/-- The number of blocks of a lane. -/
def Params.laneLength (p : Params) : Nat := 4 * p.segmentLength

/-- The blocks are chosen by a counter in this quarter of this pass. -/
def Params.byCounter (p : Params) (pass slice : Nat) : Bool :=
  match p.variant with
  | .dependent => false
  | .independent => true
  | .hybrid => pass == 0 && slice < 2

/-- The pseudo-random words that a counter gives for 128 blocks of a segment. -/
def addressBlock (p : Params) (pass lane slice counter : Nat) : Array UInt64 :=
  let n (x : Nat) := UInt64.ofNat x
  let input : Block := { Block.zero with
    r0 := { Row.zero with
      w0 := n pass
      w1 := n lane
      w2 := n slice
      w3 := n (p.lanes * p.laneLength)
      w4 := n p.passes
      w5 := n p.variant.code
      w6 := n counter } }
  (Block.zero.compress (Block.zero.compress input)).words.toArray

/-- The place in the memory of the other block, chosen by a pseudo-random word for the block at
`index` of a segment. -/
def otherBlock (p : Params) (pass lane slice index : Nat) (random : UInt64) : Nat :=
  let segment := p.segmentLength
  let low := (random &&& 0xFFFFFFFF).toNat
  let high := (random >>> 32).toNat
  let otherLane := if pass == 0 && slice == 0 then lane else high % p.lanes
  let sameLane := otherLane == lane
  let area :=
    if pass == 0 then
      if slice == 0 then index - 1
      else if sameLane then slice * segment + index - 1
      else slice * segment - (if index == 0 then 1 else 0)
    else if sameLane then p.laneLength - segment + index - 1
    else p.laneLength - segment - (if index == 0 then 1 else 0)
  let back := (low * low) >>> 32
  let relative := area - 1 - (area * back) >>> 32
  let first := if pass == 0 || slice == 3 then 0 else (slice + 1) * segment
  otherLane * p.laneLength + (first + relative) % p.laneLength

/-- Fills in the block at `index` of a segment. -/
def fillBlock (p : Params) (pass lane slice : Nat) (addresses : Array UInt64) (memory : Array Block)
    (index : Nat) : Array Block :=
  let column := slice * p.segmentLength + index
  let place := lane * p.laneLength + column
  let before := lane * p.laneLength + (if column == 0 then p.laneLength - 1 else column - 1)
  let previous := memory.getD before .zero
  let random := if p.byCounter pass slice then addresses.getD (index % 128) 0 else previous.r0.w0
  let other := memory.getD (otherBlock p pass lane slice index random) .zero
  let made := previous.compress other
  match pass, p.version with
  | 0, _ => memory.setIfInBounds place made
  | _, .replacing => memory.setIfInBounds place made
  | _, .adding => memory.setIfInBounds place (made.xor (memory.getD place .zero))

/-- Fills in the blocks of a segment from `index` on. -/
def fillFrom (p : Params) (pass lane slice : Nat) :
    Nat → Nat → Array UInt64 → Array Block → Array Block
  | 0, _, _, memory => memory
  | n + 1, index, addresses, memory =>
    let addresses :=
      if p.byCounter pass slice && (index % 128 == 0 || addresses.isEmpty) then
        addressBlock p pass lane slice (index / 128 + 1)
      else addresses
    fillFrom p pass lane slice n (index + 1) addresses
      (fillBlock p pass lane slice addresses memory index)

/-- Fills in a segment. The first two blocks of a lane are there from the start. -/
def fillSegment (p : Params) (pass slice : Nat) (memory : Array Block) (lane : Nat) : Array Block :=
  let start := if pass == 0 && slice == 0 then 2 else 0
  fillFrom p pass lane slice (p.segmentLength - start) start #[] memory

/-- Fills in a quarter of each lane, quarter by quarter. -/
def fillPass (p : Params) (memory : Array Block) (pass : Nat) : Array Block :=
  (List.range 4).foldl (fun memory slice =>
    (List.range p.lanes).foldl (fillSegment p pass slice) memory) memory

/-- Puts the first two blocks of a lane in place. -/
def startLane (p : Params) (seed : Bytes) (memory : Array Block) (lane : Nat) : Array Block :=
  let start (i : Nat) := Block.ofBytes (longDigest 1024
    (seed ++ littleEndian32 (UInt32.ofNat i) ++ littleEndian32 (UInt32.ofNat lane)))
  (memory.setIfInBounds (lane * p.laneLength) (start 0)).setIfInBounds (lane * p.laneLength + 1)
    (start 1)

/-- The tag of a password and a salt. -/
def tag (p : Params) (password salt : Bytes) : Bytes :=
  let memory := Array.replicate (p.lanes * p.laneLength) Block.zero
  let memory := (List.range p.lanes).foldl (startLane p (seed p password salt)) memory
  let memory := (List.range p.passes).foldl (fillPass p) memory
  let lastBlock (lane : Nat) := memory.getD (lane * p.laneLength + (p.laneLength - 1)) .zero
  let last := (List.range p.lanes).foldl (fun sum lane => sum.xor (lastBlock lane)) Block.zero
  longDigest p.tagLength last.bytes

end DirectoryLogin.Digest.Argon2
