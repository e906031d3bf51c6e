import CoherenceFabric.Ids

/-!
The integrity primitives: CRC-32C over slicing tables, and the streaming SHA-256.
-/

namespace CoherenceFabric

/-! ### CRC-32C -/

namespace Crc32c

def poly : UInt32 := 0x82F63B78

def shiftBit (crc : UInt32) : UInt32 :=
  if crc &&& 1 != 0 then (crc >>> 1) ^^^ poly else crc >>> 1

/-- The slicing tables: `entry slice i` is `entries[slice][i]`. -/
def entry : Nat → UInt32 → UInt32
  | 0, i => (List.range 8).foldl (fun crc _ => shiftBit crc) i
  | slice + 1, i =>
    let crc := entry slice i
    entry 0 (crc &&& 0xFF) ^^^ (crc >>> 8)

/-- Eight bytes at once; `low` and `high` are the halves of the little-endian word. -/
def slice8 (crc low high : UInt32) : UInt32 :=
  let crc := crc ^^^ low
  entry 7 (crc &&& 0xFF) ^^^ entry 6 ((crc >>> 8) &&& 0xFF) ^^^
    entry 5 ((crc >>> 16) &&& 0xFF) ^^^ entry 4 ((crc >>> 24) &&& 0xFF) ^^^
    entry 3 (high &&& 0xFF) ^^^ entry 2 ((high >>> 8) &&& 0xFF) ^^^
    entry 1 ((high >>> 16) &&& 0xFF) ^^^ entry 0 ((high >>> 24) &&& 0xFF)

def word (b₀ b₁ b₂ b₃ : UInt8) : UInt32 :=
  b₀.toUInt32 ||| (b₁.toUInt32 <<< 8) ||| (b₂.toUInt32 <<< 16) ||| (b₃.toUInt32 <<< 24)

/-- Whole groups of eight bytes, then the bytes that are left one by one. -/
def loop : UInt32 → Bytes → UInt32
  | crc, b₀ :: b₁ :: b₂ :: b₃ :: b₄ :: b₅ :: b₆ :: b₇ :: rest =>
    loop (slice8 crc (word b₀ b₁ b₂ b₃) (word b₄ b₅ b₆ b₇)) rest
  | crc, b :: rest => loop (entry 0 ((crc ^^^ b.toUInt32) &&& 0xFF) ^^^ (crc >>> 8)) rest
  | crc, [] => crc

end Crc32c

def crc32c (seed : UInt32) (data : Bytes) : UInt32 := ~~~ Crc32c.loop (~~~ seed) data

/-! ### SHA-256 -/

structure ShaState where
  a : UInt32 := 0x6a09e667
  b : UInt32 := 0xbb67ae85
  c : UInt32 := 0x3c6ef372
  d : UInt32 := 0xa54ff53a
  e : UInt32 := 0x510e527f
  f : UInt32 := 0x9b05688c
  g : UInt32 := 0x1f83d9ab
  h : UInt32 := 0x5be0cd19

namespace ShaState

def constants : List UInt32 :=
  [0x428a2f98, 0x71374491, 0xb5c0fbcf, 0xe9b5dba5, 0x3956c25b, 0x59f111f1, 0x923f82a4,
   0xab1c5ed5, 0xd807aa98, 0x12835b01, 0x243185be, 0x550c7dc3, 0x72be5d74, 0x80deb1fe,
   0x9bdc06a7, 0xc19bf174, 0xe49b69c1, 0xefbe4786, 0x0fc19dc6, 0x240ca1cc, 0x2de92c6f,
   0x4a7484aa, 0x5cb0a9dc, 0x76f988da, 0x983e5152, 0xa831c66d, 0xb00327c8, 0xbf597fc7,
   0xc6e00bf3, 0xd5a79147, 0x06ca6351, 0x14292967, 0x27b70a85, 0x2e1b2138, 0x4d2c6dfc,
   0x53380d13, 0x650a7354, 0x766a0abb, 0x81c2c92e, 0x92722c85, 0xa2bfe8a1, 0xa81a664b,
   0xc24b8b70, 0xc76c51a3, 0xd192e819, 0xd6990624, 0xf40e3585, 0x106aa070, 0x19a4c116,
   0x1e376c08, 0x2748774c, 0x34b0bcb5, 0x391c0cb3, 0x4ed8aa4a, 0x5b9cca4f, 0x682e6ff3,
   0x748f82ee, 0x78a5636f, 0x84c87814, 0x8cc70208, 0x90befffa, 0xa4506ceb, 0xbef9a3f7,
   0xc67178f2]

def rotr (x n : UInt32) : UInt32 := (x >>> n) ||| (x <<< (32 - n))

def bigSigma0 (x : UInt32) : UInt32 := rotr x 2 ^^^ rotr x 13 ^^^ rotr x 22

def bigSigma1 (x : UInt32) : UInt32 := rotr x 6 ^^^ rotr x 11 ^^^ rotr x 25

def smallSigma0 (x : UInt32) : UInt32 := rotr x 7 ^^^ rotr x 18 ^^^ (x >>> 3)

def smallSigma1 (x : UInt32) : UInt32 := rotr x 17 ^^^ rotr x 19 ^^^ (x >>> 10)

/-- The message schedule: sixteen big-endian words of the block and the 48 derived from them. -/
def schedule (block : Bytes) : List UInt32 :=
  let byte (i : Nat) : UInt32 := (block.getD i 0).toUInt32
  let first := (List.range 16).map fun i =>
    (byte (i * 4) <<< 24) ||| (byte (i * 4 + 1) <<< 16) ||| (byte (i * 4 + 2) <<< 8) |||
      byte (i * 4 + 3)
  (List.range 48).foldl
    (fun w i => w ++ [smallSigma1 (w.getD (i + 14) 0) + w.getD (i + 9) 0 +
      smallSigma0 (w.getD (i + 1) 0) + w.getD i 0]) first

def round (s : ShaState) (constant w : UInt32) : ShaState :=
  let t1 := s.h + bigSigma1 s.e + ((s.e &&& s.f) ^^^ (~~~ s.e &&& s.g)) + constant + w
  let t2 := bigSigma0 s.a + ((s.a &&& s.b) ^^^ (s.a &&& s.c) ^^^ (s.b &&& s.c))
  { h := s.g, g := s.f, f := s.e, e := s.d + t1, d := s.c, c := s.b, b := s.a, a := t1 + t2 }

def compress (s : ShaState) (block : Bytes) : ShaState :=
  let r := (constants.zip (schedule block)).foldl (fun r kw => r.round kw.1 kw.2) s
  { a := s.a + r.a, b := s.b + r.b, c := s.c + r.c, d := s.d + r.d, e := s.e + r.e,
    f := s.f + r.f, g := s.g + r.g, h := s.h + r.h }

/-- Compresses whole blocks from the front of the data. -/
def blocks : Nat → ShaState → Bytes → ShaState × Bytes
  | 0, s, data => (s, data)
  | n + 1, s, data => blocks n (s.compress (data.take 64)) (data.drop 64)

def output (s : ShaState) : Bytes :=
  [s.a, s.b, s.c, s.d, s.e, s.f, s.g, s.h].flatMap fun (word : UInt32) =>
    [(word >>> 24).toUInt8, (word >>> 16).toUInt8, (word >>> 8).toUInt8, word.toUInt8]

end ShaState

/-- The streaming hasher. `buffer` holds the bytes buffered so far, fewer than a block between
calls. -/
structure Sha256 where
  state : ShaState := {}
  bitLength : UInt64 := 0
  buffer : Bytes := []

namespace Sha256

def update (s : Sha256) (data : Bytes) : Sha256 :=
  let bitLength := s.bitLength + UInt64.ofNat data.length * 8
  -- a partial block is filled up first
  let missing := if s.buffer.isEmpty then 0 else min (64 - s.buffer.length) data.length
  let filled := s.buffer ++ data.take missing
  let data := data.drop missing
  let full := filled.length = 64
  let state := if full then s.state.compress filled else s.state
  let buffer := if full then [] else filled
  let r := state.blocks (data.length / 64) data
  { state := r.1, bitLength := bitLength, buffer := buffer ++ r.2 }

def finish (s : Sha256) : Bytes :=
  let padded := s.buffer ++ [0x80]
  -- a second block is needed if the length does not fit behind the padding byte
  let r := if padded.length > 56 then
      (s.state.compress (padded ++ List.replicate (64 - padded.length) 0), [])
    else (s.state, padded)
  let size := (List.range 8).map fun i => (s.bitLength >>> UInt64.ofNat (8 * (7 - i))).toUInt8
  (r.1.compress (r.2 ++ List.replicate (56 - r.2.length) 0 ++ size)).output

def digest (data : Bytes) : Bytes := (({} : Sha256).update data).finish

@[simp] lemma length_digest (data : Bytes) : (digest data).length = 32 := rfl

end Sha256

end CoherenceFabric
