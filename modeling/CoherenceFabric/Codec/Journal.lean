import CoherenceFabric.Codec.Records
import CoherenceFabric.Codec.Integrity
import CoherenceFabric.Journal

/-!
Journal records as bytes.

A record is a header of 24 bytes and a payload. The header declares the length of the payload and
its checksum; the reader bounds the declared length by the configuration and by the bytes that are
there before it looks at the payload. The writer bounds nothing.
-/

namespace CoherenceFabric

open Codec ByteWriter ByteReader

structure StoreLimits where
  barrierPerAppend : Bool := true
  maxSnapshotBytes : UInt64 := 2147483648
  maxJournalBytes : UInt64 := 2147483648
  maxJournalRecordBytes : UInt64 := 67108864
  maxRecords : UInt64 := 20000000

def defaultDecodeLimits : DecodeLimits := {}

def kPayloadCrcSeed : UInt32 := 0

def kJournalRecordMagic : UInt32 := 0x43464A31

def kJournalFormatVersion : UInt16 := 1

def kJournalHeaderSize : Nat := 24

/-! ### Kinds of entries -/

inductive JournalEntryKind where
  | invalid | snapshot | upsertDomain | upsertParticipant | upsertObject | upsertRegion
  | upsertInvalidation | upsertSync | upsertPolicy | setPendingPublication
  | clearPendingPublication | removeObject | removeRegion | setEpoch | removeSync
  | removeParticipant
  deriving DecidableEq

def JournalEntryKind.code (kind : JournalEntryKind) : UInt16 := UInt16.ofNat kind.ctorIdx

def journalKindFromU16 : UInt16 → Option JournalEntryKind
  | 1 => some .snapshot
  | 2 => some .upsertDomain
  | 3 => some .upsertParticipant
  | 4 => some .upsertObject
  | 5 => some .upsertRegion
  | 6 => some .upsertInvalidation
  | 7 => some .upsertSync
  | 8 => some .upsertPolicy
  | 9 => some .setPendingPublication
  | 10 => some .clearPendingPublication
  | 11 => some .removeObject
  | 12 => some .removeRegion
  | 13 => some .setEpoch
  | 14 => some .removeSync
  | 15 => some .removeParticipant
  | _ => none

lemma journalKindFromU16_code {kind} (h : kind ≠ .invalid) :
    journalKindFromU16 kind.code = some kind := by
  cases kind <;> first | rfl | exact absurd rfl h

lemma code_of_journalKindFromU16 {raw kind}
    (h : journalKindFromU16 raw = some kind) : kind.code = raw := by
  unfold journalKindFromU16 at h
  split at h <;> cases h <;> rfl

/-! ### Payloads -/

namespace JournalPayload

def kind : JournalPayload → JournalEntryKind
  | .invalid => .invalid
  | .snapshot => .snapshot
  | .upsertDomain _ => .upsertDomain
  | .upsertParticipant _ => .upsertParticipant
  | .upsertObject _ => .upsertObject
  | .upsertRegion _ => .upsertRegion
  | .upsertInvalidation _ => .upsertInvalidation
  | .upsertSync _ => .upsertSync
  | .upsertPolicy _ => .upsertPolicy
  | .setPendingPublication _ => .setPendingPublication
  | .clearPendingPublication _ => .clearPendingPublication
  | .removeObject _ => .removeObject
  | .removeRegion _ => .removeRegion
  | .setEpoch _ => .setEpoch
  | .removeSync _ => .removeSync
  | .removeParticipant _ => .removeParticipant

/-- The record of a payload passes the limits of its decoder. -/
def Within : JournalPayload → Prop
  | .invalid => False
  | .upsertDomain domain => domain.Within defaultDecodeLimits
  | .upsertParticipant participant => participant.Within defaultDecodeLimits
  | .upsertObject object => object.Within defaultDecodeLimits
  | .upsertRegion region => region.Within defaultDecodeLimits
  | .upsertInvalidation invalidation => invalidation.Within defaultDecodeLimits
  | .upsertSync sync => sync.Within defaultDecodeLimits
  | .upsertPolicy policy => policy.Within defaultDecodeLimits
  | .setPendingPublication pending => pending.Within defaultDecodeLimits
  | _ => True

end JournalPayload

/-- `encode_payload`; an entry without a kind has no encoding. -/
def encodePayload : JournalPayload → Option Bytes
  | .invalid => none
  | .snapshot => some []
  | .upsertDomain domain => some (encodeDomain domain)
  | .upsertParticipant participant => some (encodeParticipant participant)
  | .upsertObject object => some (encodeObject object)
  | .upsertRegion region => some (encodeRegion region)
  | .upsertInvalidation invalidation => some (encodeInvalidation invalidation)
  | .upsertSync sync => some (encodeSync sync)
  | .upsertPolicy policy => some (encodePolicy policy)
  | .setPendingPublication pending => some (encodePendingPublication pending)
  | .clearPendingPublication object => some (strongId object)
  | .removeObject object => some (strongId object)
  | .removeRegion region => some (strongId region)
  | .setEpoch epoch => some (strongId epoch)
  | .removeSync sync => some (strongId sync)
  | .removeParticipant participant => some (strongId participant)

def decodePayload : JournalEntryKind → ByteReader JournalPayload
  | .invalid => fun input => .error ⟨false, input.length⟩
  | .snapshot => pure .snapshot
  | .upsertDomain => .upsertDomain <$> decodeDomain defaultDecodeLimits
  | .upsertParticipant => .upsertParticipant <$> decodeParticipant defaultDecodeLimits
  | .upsertObject => .upsertObject <$> decodeObject defaultDecodeLimits
  | .upsertRegion => .upsertRegion <$> decodeRegion defaultDecodeLimits
  | .upsertInvalidation => .upsertInvalidation <$> decodeInvalidation defaultDecodeLimits
  | .upsertSync => .upsertSync <$> decodeSync defaultDecodeLimits
  | .upsertPolicy => .upsertPolicy <$> decodePolicy defaultDecodeLimits
  | .setPendingPublication =>
    .setPendingPublication <$> decodePendingPublication defaultDecodeLimits
  | .clearPendingPublication => .clearPendingPublication <$> strongId
  | .removeObject => .removeObject <$> strongId
  | .removeRegion => .removeRegion <$> strongId
  | .setEpoch => .setEpoch <$> strongId
  | .removeSync => .removeSync <$> strongId
  | .removeParticipant => .removeParticipant <$> strongId

/-- The bytes behind the header of an entry. -/
def JournalPayload.bytes (payload : JournalPayload) : Bytes := (encodePayload payload).getD []

lemma encodePayload_eq {payload} (h : payload.kind ≠ .invalid) :
    encodePayload payload = some payload.bytes := by
  cases payload <;> first | rfl | exact absurd rfl h

lemma JournalPayload.Within.kind_ne {payload : JournalPayload} (h : payload.Within) :
    payload.kind ≠ .invalid := by
  intro hkind
  cases payload <;> cases hkind
  exact h

lemma ObjectRecord.Within.sized {object}
    (h : object.Within defaultDecodeLimits) : (encodeObject object).length < UInt32.size := by
  simp only [within_iff, defaultDecodeLimits, UInt32.reduceToNat, UInt64.reduceToNat] at h
  simp [encodeObject, length_encList length_strongId,
    length_encList length_encodeReadGrant, length_encList length_encodeCompleted, UInt32.size]
  omega

/-- A payload within the limits is short enough for the 32 bits that declare its length. -/
lemma JournalPayload.Within.sized {payload : JournalPayload} (h : payload.Within) :
    payload.bytes.length < UInt32.size := by
  cases payload with
  | invalid => exact h.elim
  | upsertObject object => exact ObjectRecord.Within.sized h
  | upsertDomain | upsertParticipant | upsertRegion | upsertInvalidation | upsertSync
  | upsertPolicy =>
    simp only [Within, DomainRecord.within_iff, ParticipantRecord.within_iff,
      RegionRecord.within_iff, InvalidationRecord.within_iff, SyncRecord.within_iff,
      CoherencePolicy.within_iff, defaultDecodeLimits, UInt32.reduceToNat] at h
    simp [bytes, encodePayload, encodeDomain, encodeParticipant, encodeRegion, encodeInvalidation,
      encodeSync, encodePolicy, UInt32.size]
    omega
  | _ => simp [bytes, encodePayload, encodePendingPublication, UInt32.size]

/-- The payload of one kind of entry, from the codec of what it carries. -/
private lemma reads_kind {α} {read : ByteReader α} {write valid kind make}
    [h : Field read write valid] (hwrite : ∀ a, (make a).bytes = write a)
    (hvalid : ∀ payload, (∃ a, valid a ∧ make a = payload) ↔ payload.kind = kind ∧ payload.Within) :
    Reads (make <$> read) JournalPayload.bytes fun payload =>
      payload.kind = kind ∧ payload.Within :=
  (h.toReads.inject hwrite).congr hvalid

lemma reads_payload (kind : JournalEntryKind) :
    Reads (decodePayload kind) JournalPayload.bytes fun payload =>
      payload.kind = kind ∧ payload.Within := by
  cases kind with
  | invalid =>
    refine ⟨fun {input payload rest} => ⟨nofun, ?_⟩⟩
    rintro ⟨⟨hkind, hwithin⟩, -⟩
    exact absurd hkind hwithin.kind_ne
  | snapshot =>
    refine ⟨fun {input payload rest} => ?_⟩
    rw [decodePayload, pure_run_ok]
    constructor
    · rintro ⟨rfl, rfl⟩
      exact ⟨⟨rfl, trivial⟩, rfl⟩
    · rintro ⟨⟨hkind, -⟩, rfl⟩
      cases payload <;> cases hkind
      exact ⟨rfl, rfl⟩
  | _ =>
    refine reads_kind (fun _ => rfl) fun payload => ?_
    cases payload <;> simp [JournalPayload.kind, JournalPayload.Within]

/-! ### Records -/

section Frames

open ByteWriter (u16 u32 u64)

/-- `write_frame_header`: the fields in the order of their offsets. -/
def writeFrameHeader (kind : UInt16) (sequence : UInt64) (payloadLength payloadCrc : UInt32) :
    Bytes :=
  u32 kJournalRecordMagic ++ (u16 kJournalFormatVersion ++ (u16 kind ++ (u64 sequence ++
    (u32 payloadLength ++ u32 payloadCrc))))

def encodeJournalEntry (entry : JournalEntry) : Bytes :=
  match encodePayload entry.payload with
  | none => []
  | some payload =>
    writeFrameHeader entry.payload.kind.code entry.sequence (UInt32.ofNat payload.length)
      (crc32c kPayloadCrcSeed payload) ++ payload

def decodeJournalEntry (limits : StoreLimits) (frame : Bytes) : Result JournalEntry :=
  if frame.length < kJournalHeaderSize then
    .error (.make .truncatedInput (text "journal frame is shorter than its header"))
  else if loadU32 frame 0 ≠ kJournalRecordMagic then
    .error (.make .corruptionDetected (text "journal frame magic mismatch"))
  else if loadU16 frame 4 ≠ kJournalFormatVersion then
    .error ⟨.unsupportedSchema, text "journal frame format version is not supported",
      decimal (loadU16 frame 4).toNat⟩
  else match journalKindFromU16 (loadU16 frame 6) with
    | none =>
      .error (.make .protocolViolation (text "journal frame carries an undeclared entry kind"))
    | some kind =>
      let sequence := loadU64 frame 8
      let payloadLength := (loadU32 frame 16).toNat
      let payloadCrc := loadU32 frame 20
      if limits.maxJournalRecordBytes.toNat < payloadLength then
        .error ⟨.oversizedInput, text "journal record exceeds the configured bound",
          text "declared=" ++ decimal payloadLength ++ text " bound=" ++
            decimal limits.maxJournalRecordBytes.toNat⟩
      else if frame.length < kJournalHeaderSize + payloadLength then
        .error ⟨.truncatedInput, text "journal record payload is incomplete",
          text "declared=" ++ decimal payloadLength ++ text " available=" ++
            decimal (frame.length - kJournalHeaderSize)⟩
      else
        let payload := (frame.drop kJournalHeaderSize).take payloadLength
        if crc32c kPayloadCrcSeed payload ≠ payloadCrc then
          .error (.make .integrityFailure
            (text "journal record payload failed its CRC-32C check"))
        else match (decodePayload kind).run payload with
          | .error failure =>
            let status := status failure payload.length
            .error (if status.code = .ok then .make .corruptionDetected
              (text "journal record payload could not be decoded") else status)
          | .ok (decoded, rest) =>
            let finish := expectEnd (text "journal record") rest
            if finish.isOk then .ok ⟨decoded, sequence⟩ else .error finish

/-- The next record of a journal, behind the bounds that the replay checks before it decodes one.
Whatever fails here is a torn tail to the replay, so a failure carries nothing. -/
def nextRecord (limits : StoreLimits) : Reader UInt8 Unit JournalEntry := fun data =>
  if data.length < kJournalHeaderSize then .error ()
  else
    let payloadLength := (loadU32 data 16).toNat
    if limits.maxJournalRecordBytes.toNat < payloadLength then .error ()
    else
      let frameSize := kJournalHeaderSize + payloadLength
      if data.length < frameSize then .error ()
      else match decodeJournalEntry limits (data.take frameSize) with
        | .error _ => .error ()
        | .ok entry => .ok (entry, data.drop frameSize)

/-! ### What is read back -/

variable {frame : Bytes} {limits : StoreLimits}

@[simp] lemma length_writeFrameHeader (kind : UInt16) (sequence : UInt64) (length crc : UInt32) :
    (writeFrameHeader kind sequence length crc).length = kJournalHeaderSize := by
  simp [writeFrameHeader, kJournalHeaderSize]

lemma frame_split (hmagic : loadU32 frame 0 = kJournalRecordMagic)
    (hformat : loadU16 frame 4 = kJournalFormatVersion)
    (hlength : kJournalHeaderSize ≤ frame.length) :
    frame = writeFrameHeader (loadU16 frame 6) (loadU64 frame 8) (loadU32 frame 16)
      (loadU32 frame 20) ++ frame.drop kJournalHeaderSize := by
  unfold kJournalHeaderSize at hlength
  have h0 : frame.drop 0 = _ := drop_u32 (by omega)
  have h4 : frame.drop 4 = _ := drop_u16 (by omega)
  have h6 : frame.drop 6 = _ := drop_u16 (by omega)
  have h8 : frame.drop 8 = _ := drop_u64 (by omega)
  have h16 : frame.drop 16 = _ := drop_u32 (by omega)
  have h20 := drop_u32 (by omega)
  rw [hmagic, List.drop_zero] at h0
  rw [hformat] at h4
  simp only [writeFrameHeader, kJournalHeaderSize, List.append_assoc]
  rw [← h20, ← h16, ← h8, ← h6, ← h4, ← h0]

/-- What an entry must satisfy to be read back from its record. -/
structure JournalEntry.Storable (limits : StoreLimits) (entry : JournalEntry) : Prop where
  within : entry.payload.Within
  bounded : entry.payload.bytes.length ≤ limits.maxJournalRecordBytes.toNat

lemma encodeJournalEntry_eq {entry} (h : entry.payload.kind ≠ .invalid) : encodeJournalEntry entry =
      writeFrameHeader entry.payload.kind.code entry.sequence
        (UInt32.ofNat entry.payload.bytes.length) (crc32c kPayloadCrcSeed entry.payload.bytes) ++
      entry.payload.bytes := by
  rw [encodeJournalEntry, encodePayload_eq h]

lemma length_encodeJournalEntry {entry} (h : entry.payload.kind ≠ .invalid) :
    (encodeJournalEntry entry).length = kJournalHeaderSize + entry.payload.bytes.length := by
  rw [encodeJournalEntry_eq h, List.length_append, length_writeFrameHeader]

lemma expectEnd_isOk {what rest} : (expectEnd what rest).isOk = true ↔ rest = [] := by
  cases rest <;> simp [expectEnd, Status.isOk, Status.success]

lemma decodeJournalEntry_sound {entry : JournalEntry}
    (h : decodeJournalEntry limits frame = .ok entry) :
    entry.Storable limits ∧ (loadU32 frame 16).toNat = entry.payload.bytes.length ∧
      ∃ extra, frame = encodeJournalEntry entry ++ extra := by
  unfold decodeJournalEntry at h
  split at h
  · cases h
  split at h
  · cases h
  split at h
  · cases h
  rename_i hlong hmagic hformat
  cases hkind : journalKindFromU16 (loadU16 frame 6) with
  | none => simp [hkind] at h
  | some kind =>
    simp only [hkind] at h
    split at h
    · cases h
    split at h
    · cases h
    split at h
    · cases h
    rename_i hbound havailable hcrc
    split at h
    · cases h
    rename_i decoded rest hrun
    split at h
    · rename_i hend
      cases h
      rw [expectEnd_isOk] at hend
      subst hend
      obtain ⟨⟨rfl, hwithin⟩, hpayload⟩ := (reads_payload kind).iff.mp hrun
      rw [List.append_nil] at hpayload
      have hlength : (loadU32 frame 16).toNat = decoded.bytes.length := by
        rw [← hpayload, List.length_take, List.length_drop]
        omega
      have hbounded : decoded.bytes.length ≤ limits.maxJournalRecordBytes.toNat := by omega
      have hdeclared : UInt32.ofNat decoded.bytes.length = loadU32 frame 16 := by
        rw [← hlength, UInt32.ofNat_toNat]
      refine ⟨⟨hwithin, hbounded⟩, hlength,
        (frame.drop kJournalHeaderSize).drop (loadU32 frame 16).toNat, ?_⟩
      rw [encodeJournalEntry_eq hwithin.kind_ne]
      rw [code_of_journalKindFromU16 hkind, hdeclared, ← hpayload, Decidable.not_not.mp hcrc,
        List.append_assoc, List.take_append_drop]
      exact frame_split (Decidable.not_not.mp hmagic) (Decidable.not_not.mp hformat) (by omega)
    · cases h

section Loaded

variable (kind : UInt16) (sequence : UInt64) (length crc : UInt32) (rest : Bytes)

lemma loadU32_magic : loadU32 (writeFrameHeader kind sequence length crc ++ rest) 0 =
    kJournalRecordMagic := by
  simp [loadU32, writeFrameHeader]

lemma loadU16_format : loadU16 (writeFrameHeader kind sequence length crc ++ rest) 4 =
    kJournalFormatVersion := by
  simp [loadU16, writeFrameHeader]

lemma loadU16_kind : loadU16 (writeFrameHeader kind sequence length crc ++ rest) 6 = kind := by
  simp [loadU16, writeFrameHeader]

lemma loadU64_sequence :
    loadU64 (writeFrameHeader kind sequence length crc ++ rest) 8 = sequence := by
  simp [loadU64, writeFrameHeader]

lemma loadU32_length : loadU32 (writeFrameHeader kind sequence length crc ++ rest) 16 = length := by
  simp [loadU32, writeFrameHeader]

lemma loadU32_crc : loadU32 (writeFrameHeader kind sequence length crc ++ rest) 20 = crc := by
  simp [loadU32, writeFrameHeader]

end Loaded

lemma decodeJournalEntry_encode {entry : JournalEntry} (h : entry.Storable limits) (extra : Bytes) :
    decodeJournalEntry limits (encodeJournalEntry entry ++ extra) = .ok entry := by
  have hkind := h.within.kind_ne
  have hlength := UInt32.toNat_ofNat_of_lt' h.within.sized
  have hrun : (decodePayload entry.payload.kind).run entry.payload.bytes =
      .ok (entry.payload, []) := by
    simpa using (reads_payload entry.payload.kind).round_trip ⟨rfl, h.within⟩ []
  rw [encodeJournalEntry_eq hkind, List.append_assoc]
  unfold decodeJournalEntry
  simp only [loadU32_magic, loadU16_format, loadU16_kind, loadU64_sequence, loadU32_length,
    loadU32_crc, journalKindFromU16_code hkind, hlength]
  rw [if_neg (by simp), if_neg (by simp), if_neg (by simp), if_neg (Nat.not_lt.mpr h.bounded),
    if_neg (by simp)]
  rw [List.drop_left' (length_writeFrameHeader ..), List.take_left, if_neg (by simp), hrun]
  rfl

/-- A frame decodes to the storable entry whose record it starts with. -/
theorem decodeJournalEntry_iff {entry} : decodeJournalEntry limits frame = .ok entry ↔
    entry.Storable limits ∧ ∃ extra, frame = encodeJournalEntry entry ++ extra := by
  constructor
  · exact fun h => ⟨(decodeJournalEntry_sound h).1, (decodeJournalEntry_sound h).2.2⟩
  · rintro ⟨h, extra, rfl⟩
    exact decodeJournalEntry_encode h extra

/-- The next record of a journal is read exactly if it is the record of a storable entry. -/
lemma reads_record (limits : StoreLimits) :
    Reads (nextRecord limits) encodeJournalEntry (JournalEntry.Storable limits) := by
  refine ⟨fun {input entry rest} => ?_⟩
  change nextRecord limits input = _ ↔ _
  constructor
  · intro h
    unfold nextRecord at h
    split at h
    · cases h
    simp only at h
    split at h
    · cases h
    split at h
    · cases h
    rename_i hheader hbound havailable
    split at h
    · cases h
    rename_i decoded hdecode
    cases h
    obtain ⟨hstorable, hdeclared, extra, hframe⟩ := decodeJournalEntry_sound hdecode
    rw [loadU32, loadLe_take (by simp [kJournalHeaderSize]; omega), ← loadU32] at hdeclared
    -- the record ends where its header says, so nothing of the frame is left over
    have hextra : extra = [] := by
      have hlength := congrArg List.length hframe
      rw [List.length_take, List.length_append,
        length_encodeJournalEntry hstorable.within.kind_ne] at hlength
      exact List.length_eq_zero_iff.mp (by omega)
    rw [hextra, List.append_nil] at hframe
    exact ⟨hstorable, by rw [← hframe, List.take_append_drop]⟩
  rintro ⟨h, rfl⟩
  have hlength := UInt32.toNat_ofNat_of_lt' h.within.sized
  have hsize := length_encodeJournalEntry h.within.kind_ne
  have hdecode := decodeJournalEntry_encode h []
  have hdeclared : (loadU32 (encodeJournalEntry entry ++ rest) 16).toNat =
      entry.payload.bytes.length := by
    rw [encodeJournalEntry_eq h.within.kind_ne, List.append_assoc, loadU32_length, hlength]
  unfold nextRecord
  simp only [hdeclared, ← hsize]
  rw [if_neg (by simp; omega), if_neg (Nat.not_lt.mpr h.bounded), if_neg (by simp), List.take_left,
    List.drop_left]
  rw [List.append_nil] at hdecode
  rw [hdecode]

end Frames

end CoherenceFabric
