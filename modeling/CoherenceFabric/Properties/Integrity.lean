import CoherenceFabric.Codec.Integrity
import CoherenceFabric.Lib.ShiftRegister
import Mathlib.Tactic.NormNum

/-!
The integrity primitives compute what they are named after.

The slicing tables of the CRC are iterates of a linear feedback shift register, so that eight
lookups do the work of sixty-four single shifts. The streaming SHA-256 keeps the blocks of the
message so far compressed and the rest buffered, however the message is cut into calls.
-/

namespace CoherenceFabric

/-! ### CRC-32C -/

namespace Castagnoli

/-- The generator without its leading term, the coefficient of `x ^ 31` first. -/
def generator : BitVec 32 := 0x1EDC6F41#32

/-- The bits of a message: those of a byte from the low end up. -/
def bits (data : Bytes) : List Bool := data.flatMap fun b => (List.range 8).map b.toBitVec.getLsbD

/-- CRC-32C as it is published: the message is divided bit by bit, with the register reflected and
complemented at both ends. -/
def crc (seed : BitVec 32) (data : Bytes) : BitVec 32 :=
  ~~~ ((bits data).foldl (ShiftRegister.divide generator) (~~~ seed).reverse).reverse

end Castagnoli

namespace Crc32c

variable (x y crc : UInt32)

lemma shiftBit_toBitVec : (shiftBit x).toBitVec = ShiftRegister.step poly.toBitVec x.toBitVec := by
  have hbit : (x &&& 1 != 0) = x.toBitVec.getLsbD 0 := by
    have hone : (x &&& 1).toBitVec = (BitVec.ofBool (x.toBitVec.getLsbD 0)).setWidth 32 :=
      BitVec.and_one_eq_setWidth_ofBool_getLsbD
    rw [bne, Bool.eq_iff_iff, Bool.not_eq_true', beq_eq_false_iff_ne, Ne, ← UInt32.toBitVec_inj,
      hone]
    cases x.toBitVec.getLsbD 0 <;> decide
  unfold shiftBit ShiftRegister.step
  rw [hbit]
  split <;> rfl

lemma entry_zero : entry 0 x = shiftBit^[8] x := by
  rw [entry, List.foldl_const, List.length_range]

lemma entry_zero_toBitVec :
    (entry 0 x).toBitVec = (ShiftRegister.step poly.toBitVec)^[8] x.toBitVec := by
  rw [entry_zero]
  exact Function.Semiconj.iterate_right (f := UInt32.toBitVec) shiftBit_toBitVec 8 x

lemma entry_zero_xor : entry 0 (x ^^^ y) = entry 0 x ^^^ entry 0 y := by
  apply UInt32.toBitVec_inj.mp
  rw [UInt32.toBitVec_xor, entry_zero_toBitVec, entry_zero_toBitVec, entry_zero_toBitVec]
  exact ShiftRegister.iterate_xor _

lemma low_byte (i : Nat) : (255#32).getLsbD i = decide (i < 8) := by
  change (BitVec.ofNat 32 (2 ^ 8 - 1)).getLsbD i = _
  rw [BitVec.getLsbD_ofNat, Nat.testBit_two_pow_sub_one]
  simp
  omega

lemma entry_zero_split : entry 0 x = entry 0 (x &&& 0xFF) ^^^ (x >>> 8) := by
  apply UInt32.toBitVec_inj.mp
  rw [UInt32.toBitVec_xor, entry_zero_toBitVec, entry_zero_toBitVec]
  exact ShiftRegister.iterate_split _ low_byte

lemma entry_succ (slice : Nat) : entry (slice + 1) x = entry 0 (entry slice x) := by
  rw [entry.eq_2]
  exact (entry_zero_split _).symm

lemma entry_four : entry 0 (entry 0 (entry 0 (entry 0 x))) =
    entry 3 (x &&& 0xFF) ^^^ entry 2 ((x >>> 8) &&& 0xFF) ^^^ entry 1 ((x >>> 16) &&& 0xFF) ^^^
      entry 0 ((x >>> 24) &&& 0xFF) := by
  have hshift := BitVec.shiftRight_add x.toBitVec
  have h8 : x >>> 8 >>> 8 = x >>> 16 := UInt32.toBitVec_inj.mp (hshift 8 8).symm
  have h16 : x >>> 16 >>> 8 = x >>> 24 := UInt32.toBitVec_inj.mp (hshift 16 8).symm
  have h24 : x >>> 24 >>> 8 = 0 := UInt32.toBitVec_inj.mp
    ((hshift 24 8).symm.trans (BitVec.ushiftRight_eq_zero (by decide)))
  rw [entry_zero_split x, entry_zero_xor, entry_zero_split (x >>> 8), h8]
  simp only [entry_zero_xor, entry_succ]
  rw [entry_zero_split (x >>> 16), h16, entry_zero_xor, entry_zero_split (x >>> 24), h24]
  simp [UInt32.xor_assoc]

variable (b₀ b₁ b₂ b₃ : UInt8)

lemma word_bytes : word b₀ b₁ b₂ b₃ &&& 0xFF = b₀.toUInt32 ∧
    (word b₀ b₁ b₂ b₃ >>> 8) &&& 0xFF = b₁.toUInt32 ∧
    (word b₀ b₁ b₂ b₃ >>> 16) &&& 0xFF = b₂.toUInt32 ∧
    (word b₀ b₁ b₂ b₃ >>> 24) &&& 0xFF = b₃.toUInt32 := by
  have hmask : UInt32.toBitVec 0xFF = 255#32 := rfl
  simp only [← UInt32.toBitVec_inj, word, UInt32.toBitVec_and, UInt32.toBitVec_or,
    UInt32.toBitVec_shiftLeft, UInt32.toBitVec_shiftRight, UInt8.toBitVec_toUInt32, hmask]
  refine ⟨?_, ?_, ?_, ?_⟩ <;> refine BitVec.eq_of_getLsbD_eq fun i hi => ?_ <;>
    simp [low_byte] <;> grind

lemma entry_bytes : entry 0 (entry 0 (entry 0 (entry 0 (crc ^^^ b₀.toUInt32) ^^^
    b₁.toUInt32) ^^^ b₂.toUInt32) ^^^ b₃.toUInt32) =
      entry 0 (entry 0 (entry 0 (entry 0 (crc ^^^ word b₀ b₁ b₂ b₃)))) := by
  obtain ⟨h₀, h₁, h₂, h₃⟩ := word_bytes b₀ b₁ b₂ b₃
  simp only [entry_zero_xor]
  rw [entry_four (word b₀ b₁ b₂ b₃), h₀, h₁, h₂, h₃]
  simp only [entry_succ, UInt32.xor_assoc]

lemma slice8_eq (low high : UInt32) : slice8 crc low high = entry 0 (entry 0 (entry 0 (entry 0
    (entry 0 (entry 0 (entry 0 (entry 0 (crc ^^^ low)))) ^^^ high)))) := by
  rw [entry_four (crc ^^^ low)]
  simp only [entry_zero_xor]
  rw [entry_four high]
  simp only [slice8, entry_succ, UInt32.xor_assoc]

lemma entry_byte (b : UInt8) : entry 0 ((crc ^^^ b.toUInt32) &&& 0xFF) ^^^ (crc >>> 8) =
    entry 0 (crc ^^^ b.toUInt32) := by
  have hshift : (crc ^^^ b.toUInt32) >>> 8 = crc >>> 8 := by
    apply UInt32.toBitVec_inj.mp
    simp
    refine BitVec.eq_of_getLsbD_eq fun i _ => ?_
    simp
  rw [entry_zero_split (crc ^^^ b.toUInt32), hshift]

lemma poly_eq : poly.toBitVec = Castagnoli.generator.reverse := by decide +kernel

lemma entry_feed (b : UInt8) : (entry 0 (crc ^^^ b.toUInt32)).toBitVec =
    ((List.range 8).map b.toBitVec.getLsbD).foldl
      (ShiftRegister.feed Castagnoli.generator.reverse) crc.toBitVec := by
  rw [entry_zero_toBitVec, ShiftRegister.foldl_feed _ _ (by decide), poly_eq, UInt32.toBitVec_xor,
    UInt8.toBitVec_toUInt32, BitVec.setWidth_eq]

lemma loop_feed (data : Bytes) : (loop crc data).toBitVec =
    (Castagnoli.bits data).foldl (ShiftRegister.feed Castagnoli.generator.reverse)
      crc.toBitVec := by
  fun_induction loop crc data with
  | case1 crc b₀ b₁ b₂ b₃ b₄ b₅ b₆ b₇ rest ih =>
    rw [ih, slice8_eq, ← entry_bytes, ← entry_bytes]
    simp only [Castagnoli.bits, List.flatMap_cons, List.foldl_append, entry_feed]
  | case2 crc b rest _ ih =>
    rw [ih, entry_byte, entry_feed, ← List.foldl_append]
    rfl
  | case3 => rfl

end Crc32c

/-- **The fast CRC-32C is the CRC-32C**, and it can be continued. -/
theorem crc32c_castagnoli (seed : UInt32) (a b : Bytes) :
    (crc32c seed a).toBitVec = Castagnoli.crc seed.toBitVec a ∧
      crc32c (crc32c seed a) b = crc32c seed (a ++ b) := by
  constructor
  · unfold crc32c Castagnoli.crc
    rw [UInt32.toBitVec_not, Crc32c.loop_feed, ShiftRegister.foldl_divide_reverse _ (by decide),
      BitVec.reverse_reverse_eq, UInt32.toBitVec_not]
  · apply UInt32.toBitVec_inj.mp
    unfold crc32c
    simp only [UInt32.toBitVec_not, Crc32c.loop_feed, BitVec.not_not, Castagnoli.bits,
      List.flatMap_append, List.foldl_append]

def Castagnoli.digits : Bytes := [0x31, 0x32, 0x33, 0x34, 0x35, 0x36, 0x37, 0x38, 0x39]

/-- The published check value, in one call and in two. -/
theorem crc32c_castagnoli_digits :
    Castagnoli.crc 0#32 Castagnoli.digits = 0xE3069283#32 ∧
      crc32c 0 Castagnoli.digits = 0xE3069283 ∧
      crc32c (crc32c 0 (Castagnoli.digits.take 4)) (Castagnoli.digits.drop 4) = 0xE3069283 := by
  have hpublished : Castagnoli.crc 0#32 Castagnoli.digits = 0xE3069283#32 := by decide +kernel
  have hcheck : crc32c 0 Castagnoli.digits = 0xE3069283 :=
    UInt32.toBitVec_inj.mp ((crc32c_castagnoli 0 Castagnoli.digits []).1.trans hpublished)
  exact ⟨hpublished, hcheck, (crc32c_castagnoli 0 _ _).2.trans hcheck⟩

/-! ### SHA-256 as the standard states it -/

namespace Fips180

/-- The first sixty-four prime numbers. -/
def primes : List Nat :=
  (List.range 312).filter fun p => 2 ≤ p && (List.range p).all fun d => d < 2 || p % d != 0

/-- The first 32 bits of the fractional part of the `k`-th root, found bit by bit. -/
def rootFraction (k p : Nat) : UInt32 :=
  UInt32.ofNat ((List.range 40).foldr (fun i root =>
    if (root + 2 ^ i) ^ k ≤ p * 2 ^ (32 * k) then root + 2 ^ i else root) 0)

def rotate (n : Nat) (x : UInt32) : UInt32 := ⟨x.toBitVec.rotateRight n⟩

def scheduled (block : Bytes) (t : Nat) : UInt32 :=
  if t < 16 then
    let byte (i : Nat) : UInt32 := (block.getD (4 * t + i) 0).toUInt32
    (byte 0 <<< 24) ||| (byte 1 <<< 16) ||| (byte 2 <<< 8) ||| byte 3
  else
    let w₂ := scheduled block (t - 2)
    let w₁₅ := scheduled block (t - 15)
    (rotate 17 w₂ ^^^ rotate 19 w₂ ^^^ (w₂ >>> 10)) + scheduled block (t - 7) +
      (rotate 7 w₁₅ ^^^ rotate 18 w₁₅ ^^^ (w₁₅ >>> 3)) + scheduled block (t - 16)
termination_by t

def nextRound : List UInt32 → UInt32 × UInt32 → List UInt32
  | [a, b, c, d, e, f, g, h], (constant, word) =>
    let t₁ := h + (rotate 6 e ^^^ rotate 11 e ^^^ rotate 25 e) + ((e &&& f) ^^^ (~~~ e &&& g)) +
      constant + word
    let t₂ := (rotate 2 a ^^^ rotate 13 a ^^^ rotate 22 a) +
      ((a &&& b) ^^^ (a &&& c) ^^^ (b &&& c))
    [t₁ + t₂, a, b, c, d + t₁, e, f, g]
  | hash, _ => hash

def compress (hash : List UInt32) (block : Bytes) : List UInt32 :=
  List.zipWith (· + ·) hash (((primes.map (rootFraction 3)).zip
    ((List.range 64).map (scheduled block))).foldl nextRound hash)

/-- A one bit, the fewest zero bits that fill a block, and the length in bits. -/
def pad (message : Bytes) : Bytes :=
  message ++ 0x80 :: List.replicate ((119 - message.length % 64) % 64) 0 ++
    (List.range 8).map fun i => UInt8.ofNat (8 * message.length / 256 ^ (7 - i))

def sha256 (message : Bytes) : Bytes :=
  let padded := pad message
  let blocks := (List.range (padded.length / 64)).map fun i => (padded.drop (64 * i)).take 64
  (blocks.foldl compress ((primes.take 8).map (rootFraction 2))).flatMap fun word =>
    (List.range 4).map fun i => UInt8.ofNat (word.toNat / 256 ^ (3 - i))

end Fips180

open Fips180

/-! ### Blocks -/

namespace ShaState

variable (s : ShaState) (data : Bytes)

def words : List UInt32 := [s.a, s.b, s.c, s.d, s.e, s.f, s.g, s.h]

lemma primes_eq : primes = [2, 3, 5, 7, 11, 13, 17, 19, 23, 29, 31, 37, 41, 43, 47, 53, 59, 61, 67,
    71, 73, 79, 83, 89, 97, 101, 103, 107, 109, 113, 127, 131, 137, 139, 149, 151, 157, 163, 167,
    173, 179, 181, 191, 193, 197, 199, 211, 223, 227, 229, 233, 239, 241, 251, 257, 263, 269, 271,
    277, 281, 283, 293, 307, 311] := by
  decide +kernel

lemma constants_eq : primes.map (rootFraction 3) = constants := by
  rw [primes_eq]
  decide +kernel

lemma words_initial : (primes.take 8).map (rootFraction 2) = ({} : ShaState).words := by
  rw [primes_eq]
  decide +kernel

lemma schedule_eq (block : Bytes) : schedule block = (List.range 64).map (scheduled block) := by
  have hderived : ∀ n, (List.range n).foldl
      (fun w i => w ++ [smallSigma1 (w.getD (i + 14) 0) + w.getD (i + 9) 0 +
        smallSigma0 (w.getD (i + 1) 0) + w.getD i 0])
      ((List.range 16).map (scheduled block)) = (List.range (16 + n)).map (scheduled block) := by
    intro n
    induction n with
    | zero => rfl
    | succ n ih =>
      have hfound : ∀ i < 16 + n, ((List.range (16 + n)).map (scheduled block)).getD i 0 =
          scheduled block i := by
        intro i hi
        simp [List.getD_eq_getElem?_getD, List.getElem?_map, List.getElem?_range hi]
      rw [List.range_succ (n := n), List.foldl_append, ih, ← Nat.add_assoc,
        List.range_succ (n := 16 + n), List.map_append, List.foldl_cons, List.foldl_nil,
        hfound _ (by omega), hfound _ (by omega), hfound _ (by omega), hfound _ (by omega),
        List.map_singleton, scheduled.eq_1 block (16 + n), if_neg (by omega)]
      rw [show 16 + n - 2 = n + 14 by omega, show 16 + n - 7 = n + 9 by omega,
        show 16 + n - 15 = n + 1 by omega, show 16 + n - 16 = n by omega]
      rfl
  rw [← hderived 48]
  unfold schedule
  dsimp only
  congr 1
  refine List.map_congr_left fun t ht => ?_
  rw [scheduled, if_pos (List.mem_range.mp ht), Nat.mul_comm]
  rfl

lemma words_compress : (s.compress data).words = Fips180.compress s.words data := by
  have hrounds : ∀ (l : List (UInt32 × UInt32)) (s : ShaState),
      (l.foldl (fun r kw => r.round kw.1 kw.2) s).words = l.foldl nextRound s.words := by
    intro l
    induction l with
    | nil => exact fun _ => rfl
    | cons kw l ih => exact fun s => ih (s.round kw.1 kw.2)
  unfold compress Fips180.compress
  rw [constants_eq, ← schedule_eq, ← hrounds]
  rfl

lemma output_eq : s.output = s.words.flatMap fun word =>
    (List.range 4).map fun i => UInt8.ofNat (word.toNat / 256 ^ (3 - i)) := by
  unfold output words
  refine List.flatMap_congr fun word _ => ?_
  have hbyte : ∀ n < 32,
      (word >>> UInt32.ofNat n).toUInt8 = UInt8.ofNat (word.toNat / 2 ^ n) := by
    intro n hn
    apply UInt8.toNat_inj.mp
    rw [UInt32.toNat_toUInt8, UInt32.toNat_shiftRight,
      UInt32.toNat_ofNat_of_lt' (by norm_num; omega), Nat.mod_eq_of_lt hn,
      Nat.shiftRight_eq_div_pow]
    rfl
  have hlast := hbyte 0 (by decide)
  rw [show word >>> UInt32.ofNat 0 = word by simp] at hlast
  rw [hlast]
  exact congrArg₂ _ (hbyte 24 (by decide)) (congrArg₂ _ (hbyte 16 (by decide))
    (congrArg (· :: _) (hbyte 8 (by decide))))

lemma blocks_eq (n : Nat) : (s.blocks n data).2 = data.drop (64 * n) ∧ (s.blocks n data).1.words =
      ((List.range n).map fun i => (data.drop (64 * i)).take 64).foldl Fips180.compress
        s.words := by
  induction n generalizing s data with
  | zero => exact ⟨rfl, rfl⟩
  | succ n ih =>
    obtain ⟨hrest, hwords⟩ := ih (s.compress (data.take 64)) (data.drop 64)
    refine ⟨hrest.trans ?_, hwords.trans ?_⟩
    · rw [List.drop_drop, Nat.mul_succ, Nat.add_comm]
    · rw [words_compress, List.range_succ_eq_map, List.map_cons, List.foldl_cons, List.map_map]
      simp [Function.comp_def, Nat.mul_add, Nat.add_comm]

lemma blocks_add (n k : Nat) :
    s.blocks (n + k) data = (s.blocks n data).1.blocks k (s.blocks n data).2 := by
  induction n generalizing s data with
  | zero => rw [Nat.zero_add]; rfl
  | succ n ih => rw [Nat.succ_add]; exact ih ..

variable {data}

lemma blocks_append {n} (h : 64 * n ≤ data.length) (more : Bytes) :
    s.blocks n (data ++ more) = ((s.blocks n data).1, (s.blocks n data).2 ++ more) := by
  induction n generalizing s data with
  | zero => rfl
  | succ n ih =>
    unfold blocks
    rw [List.take_append_of_le_length (by omega), List.drop_append_of_le_length (by omega)]
    exact ih _ (by rw [List.length_drop]; omega)

end ShaState

/-! ### Calls -/

namespace Sha256

/-- The hasher after a message: whole blocks are compressed and the rest is buffered. -/
structure Absorbed (s : Sha256) (message : Bytes) : Prop where
  blocks : ({} : ShaState).blocks (message.length / 64) message = (s.state, s.buffer)
  bits : s.bitLength = UInt64.ofNat (8 * message.length)

namespace Absorbed

variable {s : Sha256} {message : Bytes} (h : s.Absorbed message)
include h

lemma buffer_length : s.buffer.length = message.length % 64 := by
  have hrest := (ShaState.blocks_eq {} message (message.length / 64)).1
  rw [h.blocks] at hrest
  rw [show s.buffer = _ from hrest, List.length_drop]
  omega

lemma more (data : Bytes) (n : Nat) :
    ({} : ShaState).blocks (message.length / 64 + n) (message ++ data) =
      s.state.blocks n (s.buffer ++ data) := by
  rw [ShaState.blocks_add, ShaState.blocks_append _ (by omega), h.blocks]

lemma update (data : Bytes) : (s.update data).Absorbed (message ++ data) where
  bits := by
    change s.bitLength + UInt64.ofNat data.length * 8 = _
    rw [h.bits, List.length_append, Nat.mul_add, UInt64.ofNat_add, Nat.mul_comm 8 data.length]
    exact congrArg _ (UInt64.ofNat_mul ..).symm
  blocks := by
    have hbuffer := h.buffer_length
    have hn : (message ++ data).length / 64 = message.length / 64 +
        (s.buffer.length + data.length) / 64 := by
      rw [List.length_append, hbuffer]
      omega
    rw [hn, h.more]
    unfold Sha256.update
    dsimp only
    generalize s.buffer = buffer at hbuffer ⊢
    cases buffer with
    | nil => simp
    | cons first rest =>
      generalize hlength : first :: rest = buffer at hbuffer ⊢
      have hnonempty : buffer.isEmpty = false := by rw [← hlength]; rfl
      rw [hnonempty, if_neg Bool.false_ne_true]
      by_cases hfull : 64 ≤ buffer.length + data.length
      · -- the buffered block is filled up and compressed
        have hmissing : min (64 - buffer.length) data.length = 64 - buffer.length := by omega
        have hblock : (buffer ++ data).take 64 = buffer ++ data.take (64 - buffer.length) := by
          rw [List.take_append, List.take_of_length_le (by omega)]
        have hrest : (buffer ++ data).drop 64 = data.drop (64 - buffer.length) := by
          rw [List.drop_append, List.drop_of_length_le (by omega), List.nil_append]
        have hcount : (buffer.length + data.length) / 64 =
            (data.length - (64 - buffer.length)) / 64 + 1 := by omega
        rw [hmissing, hcount, if_pos (by simp; omega), if_pos (by simp; omega), List.length_drop,
          List.nil_append, ShaState.blocks, hblock, hrest]
      · have hmissing : min (64 - buffer.length) data.length = data.length := by omega
        rw [hmissing, List.take_length, List.drop_length, if_neg (by simp; omega),
          if_neg (by simp; omega), Nat.div_eq_of_lt (by omega)]
        simp [ShaState.blocks]

lemma size (hlength : message.length < 2 ^ 61) :
    (List.range 8).map (fun i => (s.bitLength >>> UInt64.ofNat (8 * (7 - i))).toUInt8) =
      (List.range 8).map fun i => UInt8.ofNat (8 * message.length / 256 ^ (7 - i)) := by
  refine List.map_congr_left fun i _ => UInt8.toNat_inj.mp ?_
  have hshift : (UInt64.ofNat (8 * (7 - i))).toNat % 64 = 8 * (7 - i) := by
    rw [UInt64.toNat_ofNat_of_lt' (by norm_num; omega)]
    omega
  rw [h.bits, UInt64.toNat_toUInt8, UInt64.toNat_shiftRight, hshift,
    UInt64.toNat_ofNat_of_lt' (by norm_num; omega), Nat.shiftRight_eq_div_pow, Nat.pow_mul]
  rfl

lemma sha256 {tail n} (hpad : pad message = message ++ tail)
    (hn : (message.length + tail.length) / 64 = message.length / 64 + n) :
    Fips180.sha256 message = (s.state.blocks n (s.buffer ++ tail)).1.output := by
  unfold Fips180.sha256
  dsimp only
  rw [← h.more, ← hn, ShaState.output_eq, (ShaState.blocks_eq ..).2, ← ShaState.words_initial,
    hpad, List.length_append]

lemma digest (hlength : message.length < 2 ^ 61) : s.finish = Fips180.sha256 message := by
  have hbuffer := h.buffer_length
  unfold Sha256.finish
  dsimp only
  rw [h.size hlength]
  generalize hbytes : (List.range 8).map
    (fun i => UInt8.ofNat (8 * message.length / 256 ^ (7 - i))) = size
  have hsize : size.length = 8 := by rw [← hbytes]; rfl
  have hpad : pad message = message ++
      (0x80 :: List.replicate ((119 - message.length % 64) % 64) 0 ++ size) := by
    unfold pad
    rw [hbytes, List.append_assoc]
  generalize hzeros : (119 - message.length % 64) % 64 = zeros at hpad
  by_cases hlong : 56 < (s.buffer ++ [0x80]).length
  · -- the length does not fit behind the padding byte
    rw [if_pos hlong]
    rw [List.length_append, List.length_singleton] at hlong
    have hsplit : s.buffer ++ (0x80 :: List.replicate zeros 0 ++ size) =
        (s.buffer ++ [0x80] ++ List.replicate (64 - (s.buffer ++ [0x80]).length) 0) ++
          (List.replicate 56 0 ++ size) := by
      rw [show zeros = (64 - (s.buffer ++ [0x80]).length) + 56 by simp; omega, List.replicate_add]
      simp
    rw [h.sha256 (n := 2) hpad (by simp [hsize]; omega), hsplit, ShaState.blocks, ShaState.blocks,
      ShaState.blocks, List.take_left' (by simp; omega), List.drop_left' (by simp; omega),
      List.take_of_length_le (by simp [hsize])]
    rfl
  rw [if_neg hlong]
  rw [List.length_append, List.length_singleton] at hlong
  rw [h.sha256 (n := 1) hpad (by simp [hsize]; omega), ShaState.blocks, ShaState.blocks,
    List.take_of_length_le (by simp [hsize]; omega),
    show zeros = 56 - (s.buffer ++ [0x80]).length by simp; omega]
  simp

omit h in
lemma run {calls : List Bytes} (h : s.Absorbed message) :
    (calls.foldl Sha256.update s).Absorbed (message ++ calls.flatten) := by
  induction calls generalizing s message with
  | nil => simpa using h
  | cons data calls ih =>
    rw [List.flatten_cons, ← List.append_assoc]
    exact ih (h.update data)

end Absorbed

end Sha256

/-- **Streaming SHA-256 is SHA-256**, however the message is cut into calls. -/
theorem sha256_streamed (calls : List Bytes) (h : calls.flatten.length < 2 ^ 61) :
    (calls.foldl Sha256.update {}).finish = sha256 calls.flatten ∧
      (calls.foldl Sha256.update {}).buffer.length < 64 := by
  have hall : (calls.foldl Sha256.update {}).Absorbed calls.flatten :=
    @Sha256.Absorbed.run {} [] calls ⟨rfl, rfl⟩
  refine ⟨hall.digest h, ?_⟩
  rw [hall.buffer_length]
  exact Nat.mod_lt _ (by decide)

/-- A message of three bytes in four calls, one of them empty. -/
theorem sha256_streamed_abc :
    let calls : List Bytes := [[0x61], [], [0x62], [0x63]]
    calls.flatten.length < 2 ^ 61 ∧
      (calls.foldl Sha256.update {}).finish = sha256 [0x61, 0x62, 0x63] ∧
        (calls.foldl Sha256.update {}).buffer.length < 64 :=
  ⟨by decide, sha256_streamed [[0x61], [], [0x62], [0x63]] (by decide)⟩

end CoherenceFabric
