import CoherenceFabric.Lib.Codec
import CoherenceFabric.Status

/-!
The byte writer and the bounds-checked byte reader.

Numbers are little-endian and of fixed width. A reader fails without reading past the end of its
input, and refuses a declared length before it reads that many bytes.
-/

namespace CoherenceFabric

open Codec

/-! ### Writing -/

namespace ByteWriter

def u8 (value : UInt8) : Bytes := [value]

def u16 (value : UInt16) : Bytes := leBytes 2 value.toNat

def u32 (value : UInt32) : Bytes := leBytes 4 value.toNat

def u64 (value : UInt64) : Bytes := leBytes 8 value.toNat

def boolean (value : Bool) : Bytes := u8 (if value then 1 else 0)

/-- A text behind its length, which is cut to 32 bits. -/
def text (value : Text) : Bytes := u32 (UInt32.ofNat value.length) ++ value

def uuid (value : UInt128) : Bytes := u64 value.high ++ u64 value.low

def strongId {tag : IdTag} (value : StrongId tag) : Bytes := u64 value.value

def wideId {tag : WideTag} (value : WideId tag) : Bytes := uuid value.value

@[simp] lemma length_u8 (value : UInt8) : (u8 value).length = 1 := rfl

@[simp] lemma length_u16 (value : UInt16) : (u16 value).length = 2 := length_leBytes ..

@[simp] lemma length_u32 (value : UInt32) : (u32 value).length = 4 := length_leBytes ..

@[simp] lemma length_u64 (value : UInt64) : (u64 value).length = 8 := length_leBytes ..

@[simp] lemma length_boolean (value : Bool) : (boolean value).length = 1 := rfl

@[simp] lemma length_text (value : Text) : (text value).length = 4 + value.length := by
  simp [text]

@[simp] lemma length_uuid (value : UInt128) : (uuid value).length = 16 := by simp [uuid]

@[simp] lemma length_strongId {tag} (value : StrongId tag) :
    (strongId value).length = 8 := length_leBytes ..

@[simp] lemma length_wideId {tag} (value : WideId tag) : (wideId value).length = 16 := length_uuid _

end ByteWriter

/-! ### Fixed offsets

A header is a run of fields, so what is loaded at an offset is found by skipping the fields in
front of it. -/

section Loads

open ByteWriter (u16 u32 u64)

/-- The number in the `n` bytes at an offset. -/
def loadLe (n : Nat) (src : Bytes) (offset : Nat) : Nat := leValue ((src.drop offset).take n)

def loadU16 (src : Bytes) (offset : Nat) : UInt16 := UInt16.ofNat (loadLe 2 src offset)

def loadU32 (src : Bytes) (offset : Nat) : UInt32 := UInt32.ofNat (loadLe 4 src offset)

def loadU64 (src : Bytes) (offset : Nat) : UInt64 := UInt64.ofNat (loadLe 8 src offset)

variable {n offset : Nat} {src : Bytes}

lemma loadLe_leBytes {x} (hx : x < 256 ^ n) (rest : Bytes) :
    loadLe n (leBytes n x ++ rest) 0 = x := by
  rw [loadLe, List.drop_zero, List.take_left' (length_leBytes n x), leValue_leBytes n x hx]

lemma loadLe_skip (n : Nat) (front rest : Bytes) (offset : Nat) :
    loadLe n (front ++ rest) (front.length + offset) = loadLe n rest offset := by
  rw [loadLe, loadLe, List.drop_append, List.drop_eq_nil_of_le (Nat.le_add_right ..),
    Nat.add_sub_cancel_left, List.nil_append]

@[simp] lemma loadLe_u16_zero (value : UInt16) (rest : Bytes) :
    loadLe 2 (u16 value ++ rest) 0 = value.toNat :=
  loadLe_leBytes (by simpa using value.toNat_lt) rest

@[simp] lemma loadLe_u32_zero (value : UInt32) (rest : Bytes) :
    loadLe 4 (u32 value ++ rest) 0 = value.toNat :=
  loadLe_leBytes (by simpa using value.toNat_lt) rest

@[simp] lemma loadLe_u64_zero (value : UInt64) (rest : Bytes) :
    loadLe 8 (u64 value ++ rest) 0 = value.toNat :=
  loadLe_leBytes (by simpa using value.toNat_lt) rest

@[simp] lemma loadLe_u16 (n : Nat) (value : UInt16) (rest : Bytes) (offset : Nat) :
    loadLe n (u16 value ++ rest) (offset + 2) = loadLe n rest offset := by
  simpa [Nat.add_comm] using loadLe_skip n (u16 value) rest offset

@[simp] lemma loadLe_u32 (n : Nat) (value : UInt32) (rest : Bytes) (offset : Nat) :
    loadLe n (u32 value ++ rest) (offset + 4) = loadLe n rest offset := by
  simpa [Nat.add_comm] using loadLe_skip n (u32 value) rest offset

@[simp] lemma loadLe_u64 (n : Nat) (value : UInt64) (rest : Bytes) (offset : Nat) :
    loadLe n (u64 value ++ rest) (offset + 8) = loadLe n rest offset := by
  simpa [Nat.add_comm] using loadLe_skip n (u64 value) rest offset

lemma loadLe_take {size} (h : offset + n ≤ size) (src : Bytes) :
    loadLe n (src.take size) offset = loadLe n src offset := by
  rw [loadLe, loadLe, List.drop_take, List.take_take, Nat.min_eq_left (by omega)]

lemma leBytes_loadLe (h : offset + n ≤ src.length) : loadLe n src offset < 256 ^ n ∧
      src.drop offset = leBytes n (loadLe n src offset) ++ src.drop (offset + n) := by
  have hlength : ((src.drop offset).take n).length = n := by simp; omega
  constructor
  · have hlt := leValue_lt ((src.drop offset).take n)
    rw [hlength] at hlt
    exact hlt
  · have hfield := leBytes_leValue ((src.drop offset).take n)
    rw [hlength] at hfield
    rw [loadLe, hfield, ← List.drop_drop, List.take_append_drop]

lemma drop_u16 (h : offset + 2 ≤ src.length) :
    src.drop offset = u16 (loadU16 src offset) ++ src.drop (offset + 2) := by
  obtain ⟨hlt, hdrop⟩ := leBytes_loadLe h
  rw [u16, loadU16, UInt16.toNat_ofNat_of_lt' (by simpa [UInt16.size] using hlt), ← hdrop]

lemma drop_u32 (h : offset + 4 ≤ src.length) :
    src.drop offset = u32 (loadU32 src offset) ++ src.drop (offset + 4) := by
  obtain ⟨hlt, hdrop⟩ := leBytes_loadLe h
  rw [u32, loadU32, UInt32.toNat_ofNat_of_lt' (by simpa [UInt32.size] using hlt), ← hdrop]

lemma drop_u64 (h : offset + 8 ≤ src.length) :
    src.drop offset = u64 (loadU64 src offset) ++ src.drop (offset + 8) := by
  obtain ⟨hlt, hdrop⟩ := leBytes_loadLe h
  rw [u64, loadU64, UInt64.toNat_ofNat_of_lt' (by simpa [UInt64.size] using hlt), ← hdrop]

end Loads

/-! ### Reading -/

/-- Where and how a read stopped: whether the reader itself failed (its `failed_` flag), or a value
it had read was refused, and how many bytes were left. -/
structure ReadFailure where
  failed : Bool
  remaining : Nat

abbrev ByteReader := Reader UInt8 ReadFailure

namespace ByteReader

/-- The reader fails where it stands. -/
def short (input : Bytes) : ReadFailure := ⟨true, input.length⟩

def u8 : ByteReader UInt8 := UInt8.ofNat <$> readLe 1 short

def u16 : ByteReader UInt16 := UInt16.ofNat <$> readLe 2 short

def u32 : ByteReader UInt32 := UInt32.ofNat <$> readLe 4 short

def u64 : ByteReader UInt64 := UInt64.ofNat <$> readLe 8 short

/-- Refuses to go on unless `p` holds; `failed` says whether the reader counts as failed. -/
def require (failed : Bool) (p : Prop) [Decidable p] : ByteReader Unit := fun input =>
  if p then .ok ((), input) else .error ⟨failed, input.length⟩

/-- A byte above 1 is not a truth value. -/
def boolean : ByteReader Bool := do
  let raw ← u8
  require true (raw ≤ 1)
  return raw != 0

def text (maxLength : Nat) : ByteReader Text := do
  let length ← u32
  require true (length.toNat ≤ maxLength)
  readTokens length.toNat short

def uuid : ByteReader UInt128 := do
  let high ← u64
  let low ← u64
  return ⟨high, low⟩

def strongId {tag : IdTag} : ByteReader (StrongId tag) := StrongId.mk <$> u64

def wideId {tag : WideTag} : ByteReader (WideId tag) := WideId.mk <$> uuid

/-- The status of a reader over `size` bytes that stopped. -/
def status (failure : ReadFailure) (size : Nat) : Status :=
  if failure.failed then
    ⟨.truncatedInput, CoherenceFabric.text "binary record ended before all fields were read",
      CoherenceFabric.text "offset=" ++ decimal (size - failure.remaining) ++
        CoherenceFabric.text " size=" ++ decimal size⟩
  else .success

/-- Trailing bytes are a defect and never ignored. -/
def expectEnd (what : Text) (rest : Bytes) : Status :=
  if rest.isEmpty then .success
  else ⟨.trailingGarbage, CoherenceFabric.text "unexpected trailing bytes after record",
    what ++ CoherenceFabric.text " trailing=" ++ decimal rest.length⟩

/-! ### The law of each primitive -/

lemma reads_u8 : Reads u8 ByteWriter.u8 fun _ => True := by
  have h : Reads u8 (fun v => leBytes 1 v.toNat) fun _ => True :=
    (reads_le 1 short).map UInt8.toNat (fun a ha => ⟨trivial, by simp at ha ⊢; omega⟩)
      fun b _ => ⟨by simpa using b.toNat_lt, UInt8.ofNat_toNat⟩
  refine ⟨fun {input v rest} => ?_⟩
  rw [h.iff]
  simp [leBytes, ByteWriter.u8]

lemma reads_u16 : Reads u16 ByteWriter.u16 fun _ => True :=
  (reads_le 2 short).map UInt16.toNat (fun a ha => ⟨trivial, by simp at ha ⊢; omega⟩)
    fun b _ => ⟨by simpa using b.toNat_lt, UInt16.ofNat_toNat⟩

lemma reads_u32 : Reads u32 ByteWriter.u32 fun _ => True :=
  (reads_le 4 short).map UInt32.toNat (fun a ha => ⟨trivial, by simp at ha ⊢; omega⟩)
    fun b _ => ⟨by simpa using b.toNat_lt, UInt32.ofNat_toNat⟩

lemma reads_u64 : Reads u64 ByteWriter.u64 fun _ => True :=
  (reads_le 8 short).map UInt64.toNat (fun a ha => ⟨trivial, by simp at ha ⊢; omega⟩)
    fun b _ => ⟨by simpa using b.toNat_lt, UInt64.ofNat_toNat⟩

variable {failed : Bool} {β : Type}

lemma require_step {p : Prop} [Decidable p] {next : Unit → ByteReader β} {input} {r : β × Bytes} :
    (require failed p >>= next).run input = .ok r ↔ p ∧ (next ()).run input = .ok r := by
  rw [bind_run_ok]
  unfold require
  split
  · rename_i hp
    exact ⟨by rintro ⟨a, tail, heq, hnext⟩; cases heq; exact ⟨hp, hnext⟩,
      fun h => ⟨(), input, rfl, h.2⟩⟩
  · rename_i hp
    exact ⟨(by rintro ⟨a, tail, heq, -⟩; cases heq), fun h => absurd h.1 hp⟩

/-- A condition on what has been read of a record. -/
lemma requires {q : Prop} [Decidable q] {next : Unit → ByteReader β} {fill}
    {write : β → Bytes} {valid} (p : β → Prop)
    (hnext : Builds (next ()) fill write valid) (hp : ∀ b, p (fill b) ↔ q) :
    Builds (require failed q >>= next) fill write fun b => p b ∧ valid b := by
  refine ⟨fun {input b rest} => ?_⟩
  rw [require_step, hnext.iff, ← hp b]
  constructor
  · rintro ⟨hpb, hfill, hvalid, heq⟩
    exact ⟨hfill, ⟨hfill ▸ hpb, hvalid⟩, heq⟩
  · rintro ⟨hfill, ⟨hpb, hvalid⟩, heq⟩
    exact ⟨hfill.symm ▸ hpb, hfill, hvalid, heq⟩

lemma reads_boolean : Reads boolean ByteWriter.boolean fun _ => True := by
  refine ⟨fun {input v rest} => ?_⟩
  simp only [boolean, reads_u8.step, require_step, pure_run_ok]
  constructor
  · rintro ⟨raw, _, -, rfl, hle, rfl, rfl⟩
    have hraw : raw = 0 ∨ raw = 1 := by
      rcases UInt8.le_iff_toNat_le.mp hle with h
      have h0 : raw.toNat = 0 ∨ raw.toNat = 1 := by simp at h; omega
      exact h0.imp (fun h => UInt8.toNat_inj.mp h) fun h => UInt8.toNat_inj.mp h
    rcases hraw with rfl | rfl <;> exact ⟨trivial, rfl⟩
  · rintro ⟨-, rfl⟩
    cases v
    · exact ⟨0, rest, trivial, rfl, by decide, rfl, rfl⟩
    · exact ⟨1, rest, trivial, rfl, by decide, rfl, rfl⟩

lemma reads_text {maxLength : Nat} (hmax : maxLength < UInt32.size) :
    Reads (text maxLength) ByteWriter.text (·.length ≤ maxLength) := by
  refine ⟨fun {input v rest} => ?_⟩
  simp only [text, reads_u32.step, require_step, (reads_tokens _ short).iff]
  constructor
  · rintro ⟨length, _, -, rfl, hle, hlength, rfl⟩
    refine ⟨hlength ▸ hle, ?_⟩
    rw [ByteWriter.text, hlength, UInt32.ofNat_toNat, List.append_assoc, id]
  · rintro ⟨hle, rfl⟩
    have hnat := UInt32.toNat_ofNat_of_lt' (Nat.lt_of_le_of_lt hle hmax)
    exact ⟨UInt32.ofNat v.length, v ++ rest, trivial, by rw [ByteWriter.text, List.append_assoc],
      hnat.symm ▸ hle, hnat.symm, rfl⟩

lemma reads_uuid : Reads uuid ByteWriter.uuid fun _ => True := by
  refine ⟨fun {input v rest} => ?_⟩
  simp only [uuid, reads_u64.step, pure_run_ok]
  constructor
  · rintro ⟨high, _, -, rfl, low, _, -, rfl, rfl, rfl⟩
    exact ⟨trivial, by simp [ByteWriter.uuid]⟩
  · rintro ⟨-, rfl⟩
    exact ⟨v.high, _, trivial, List.append_assoc .., v.low, _, trivial, rfl, rfl, rfl⟩

lemma reads_strongId {tag} :
    Reads (strongId : ByteReader (StrongId tag)) ByteWriter.strongId fun _ => True :=
  reads_u64.map StrongId.value (fun _ _ => ⟨trivial, rfl⟩) fun _ _ => ⟨trivial, rfl⟩

lemma reads_wideId {tag} :
    Reads (wideId : ByteReader (WideId tag)) ByteWriter.wideId fun _ => True :=
  reads_uuid.map WideId.value (fun _ _ => ⟨trivial, rfl⟩) fun _ _ => ⟨trivial, rfl⟩

end ByteReader

end CoherenceFabric
