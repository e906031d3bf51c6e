import CoherenceFabric.Codec.Integrity
import CoherenceFabric.Codec.Serialize

/-!
The frames of the control plane.

A frame is a header of fixed size and a body; the header declares the length of the body and carries
its checksum. A socket delivers bytes in order until it ends.
-/

namespace CoherenceFabric

open Codec ByteWriter

def kFrameMagic : UInt32 := 0x43464731

def kFrameHeaderSize : Nat := 60

def protocolVersion : UInt32 := 1

/-! ### Message types -/

inductive MessageType where
  | invalid | hello | helloAck | response | goodbye | createDomain | registerParticipant
  | registerObject | registerRegion | acquireRead | acquireWrite | markDirty | publish
  | invalidate | acknowledgeInvalidation | syncBegin | syncComplete | syncFail | release
  | revalidate | query | snapshot | audit | fenceParticipant | retireRegion | retireObject
  | shutdown | ping | setPolicy | listParticipants | listObjects | listRegions | decisionLog
  | recoveryInfo | drainSessions | listInvalidations | resolveRecovery
  deriving DecidableEq

def MessageType.code : MessageType → UInt16
  | .invalid => 0
  | .hello => 1
  | .helloAck => 2
  | .response => 3
  | .goodbye => 4
  | .createDomain => 10
  | .registerParticipant => 11
  | .registerObject => 12
  | .registerRegion => 13
  | .acquireRead => 14
  | .acquireWrite => 15
  | .markDirty => 16
  | .publish => 17
  | .invalidate => 18
  | .acknowledgeInvalidation => 19
  | .syncBegin => 20
  | .syncComplete => 21
  | .syncFail => 22
  | .release => 23
  | .revalidate => 24
  | .query => 25
  | .snapshot => 26
  | .audit => 27
  | .fenceParticipant => 28
  | .retireRegion => 29
  | .retireObject => 30
  | .shutdown => 31
  | .ping => 32
  | .setPolicy => 33
  | .listParticipants => 34
  | .listObjects => 35
  | .listRegions => 36
  | .decisionLog => 37
  | .recoveryInfo => 38
  | .drainSessions => 39
  | .listInvalidations => 40
  | .resolveRecovery => 41

def messageTypeFromU16 : UInt16 → Option MessageType
  | 1 => some .hello
  | 2 => some .helloAck
  | 3 => some .response
  | 4 => some .goodbye
  | 10 => some .createDomain
  | 11 => some .registerParticipant
  | 12 => some .registerObject
  | 13 => some .registerRegion
  | 14 => some .acquireRead
  | 15 => some .acquireWrite
  | 16 => some .markDirty
  | 17 => some .publish
  | 18 => some .invalidate
  | 19 => some .acknowledgeInvalidation
  | 20 => some .syncBegin
  | 21 => some .syncComplete
  | 22 => some .syncFail
  | 23 => some .release
  | 24 => some .revalidate
  | 25 => some .query
  | 26 => some .snapshot
  | 27 => some .audit
  | 28 => some .fenceParticipant
  | 29 => some .retireRegion
  | 30 => some .retireObject
  | 31 => some .shutdown
  | 32 => some .ping
  | 33 => some .setPolicy
  | 34 => some .listParticipants
  | 35 => some .listObjects
  | 36 => some .listRegions
  | 37 => some .decisionLog
  | 38 => some .recoveryInfo
  | 39 => some .drainSessions
  | 40 => some .listInvalidations
  | 41 => some .resolveRecovery
  | _ => none

variable {type : MessageType} {limits : FrameLimits}

lemma messageTypeFromU16_code (h : type ≠ .invalid) : messageTypeFromU16 type.code = some type := by
  cases type <;> first | rfl | exact absurd rfl h

lemma code_of_messageTypeFromU16 {raw} (h : messageTypeFromU16 raw = some type) :
    type.code = raw ∧ type ≠ .invalid := by
  unfold messageTypeFromU16 at h
  split at h <;> cases h <;> exact ⟨rfl, nofun⟩

/-! ### Frames -/

structure FrameLimits where
  maxBodyBytes : UInt32 := 16777216

structure FrameHeader where
  version : UInt16 := 0
  type : MessageType := .invalid
  flags : UInt32 := 0
  session : SessionId := .nil
  epoch : CoordinatorEpoch := .nil
  sequence : UInt64 := 0
  correlation : UInt64 := 0

structure Frame where
  header : FrameHeader
  body : Bytes

/-- The fields of a header one after the other, as they are stored at their offsets. -/
def frameHead (header : FrameHeader) (length crc : UInt32) : Bytes :=
  u32 kFrameMagic ++ (u16 header.version ++ (u16 header.type.code ++ (u32 header.flags ++
    (u64 header.session.value.high ++ (u64 header.session.value.low ++ (u64 header.epoch.value ++
      (u64 header.sequence ++ (u64 header.correlation ++ (u32 length ++ u32 crc)))))))))

def encodeFrame (frame : Frame) : Bytes :=
  frameHead frame.header (UInt32.ofNat frame.body.length) (crc32c 0 frame.body) ++ frame.body

def decodeFrameHeader (headerBytes : Bytes) (limits : FrameLimits) : Result FrameHeader :=
  if headerBytes.length < kFrameHeaderSize then
    .error (.make .truncatedInput (text "frame header is incomplete"))
  else if loadU32 headerBytes 0 ≠ kFrameMagic then
    .error (.make .protocolViolation (text "frame magic mismatch"))
  else
    let version := loadU16 headerBytes 4
    if version ≠ protocolVersion.toUInt16 then
      .error ⟨.unsupportedSchema, text "control-plane protocol version mismatch",
        text "peer=" ++ decimal version.toNat ++ text " local=" ++
          decimal protocolVersion.toNat⟩
    else match messageTypeFromU16 (loadU16 headerBytes 6) with
      | none =>
        .error (.make .protocolViolation (text "frame carries an undeclared message type"))
      | some type =>
        let bodyLength := loadU32 headerBytes 52
        if limits.maxBodyBytes < bodyLength then
          .error ⟨.oversizedInput, text "frame body exceeds the configured bound",
            text "declared=" ++ decimal bodyLength.toNat ++ text " bound=" ++
              decimal limits.maxBodyBytes.toNat⟩
        else
          .ok
            { version := version
              type := type
              flags := loadU32 headerBytes 8
              session := ⟨⟨loadU64 headerBytes 12, loadU64 headerBytes 20⟩⟩
              epoch := ⟨loadU64 headerBytes 28⟩
              sequence := loadU64 headerBytes 36
              correlation := loadU64 headerBytes 44 }

/-- Bytes of a socket, in order; a stream that ends before has been closed by the peer. -/
def recvExact (count : Nat) : Reader UInt8 Status Bytes :=
  readTokens count fun _ => .make .connectionClosed (text "the peer closed the connection")

/-- An empty body takes no read from the socket. -/
def recvBody (length : UInt32) : Reader UInt8 Status Bytes :=
  if length ≠ 0 then recvExact length.toNat else pure []

def readFrame (limits : FrameLimits) : Reader UInt8 Status Frame := do
  let head ← recvExact kFrameHeaderSize
  let header ← (decodeFrameHeader head limits : Result FrameHeader)
  let bodyLength := loadU32 head 52
  let bodyCrc := loadU32 head 56
  let body ← recvBody bodyLength
  if crc32c 0 body ≠ bodyCrc then
    throw (.make .integrityFailure (text "frame body failed its CRC-32C check"))
  else return ⟨header, body⟩

/-! ### What is read back -/

/-- What the reader of frames accepts. -/
structure Frame.Sendable (limits : FrameLimits) (frame : Frame) : Prop where
  version : frame.header.version = protocolVersion.toUInt16
  type : frame.header.type ≠ .invalid
  body : frame.body.length ≤ limits.maxBodyBytes.toNat

@[simp] lemma length_frameHead (header : FrameHeader) (length crc : UInt32) :
    (frameHead header length crc).length = kFrameHeaderSize := by
  simp [frameHead, kFrameHeaderSize]

lemma decodeFrameHeader_sound {head header}
    (hlength : head.length = kFrameHeaderSize) (h : decodeFrameHeader head limits = .ok header) :
    header.version = protocolVersion.toUInt16 ∧ header.type ≠ .invalid ∧
      loadU32 head 52 ≤ limits.maxBodyBytes ∧
      head = frameHead header (loadU32 head 52) (loadU32 head 56) := by
  unfold decodeFrameHeader at h
  split at h
  · cases h
  split at h
  · cases h
  simp only at h
  split at h
  · cases h
  rename_i hmagic hversion
  cases htype : messageTypeFromU16 (loadU16 head 6) with
  | none => simp [htype] at h
  | some type =>
    simp only [htype] at h
    split at h
    · cases h
    rename_i hbound
    cases h
    obtain ⟨hcode, hne⟩ := code_of_messageTypeFromU16 htype
    refine ⟨Decidable.not_not.mp hversion, hne, UInt32.not_lt.mp hbound, ?_⟩
    -- every field is behind the one before it, and nothing is behind the last
    unfold kFrameHeaderSize at hlength
    have h0 : head.drop 0 = _ := drop_u32 (by omega)
    have h4 : head.drop 4 = _ := drop_u16 (by omega)
    have h6 : head.drop 6 = _ := drop_u16 (by omega)
    have h8 : head.drop 8 = _ := drop_u32 (by omega)
    have h12 : head.drop 12 = _ := drop_u64 (by omega)
    have h20 : head.drop 20 = _ := drop_u64 (by omega)
    have h28 : head.drop 28 = _ := drop_u64 (by omega)
    have h36 : head.drop 36 = _ := drop_u64 (by omega)
    have h44 : head.drop 44 = _ := drop_u64 (by omega)
    have h52 : head.drop 52 = _ := drop_u32 (by omega)
    have h56 : head.drop 56 = _ := drop_u32 (by omega)
    have h60 : head.drop (56 + 4) = [] := List.drop_eq_nil_of_le (by omega)
    rw [h60, List.append_nil] at h56
    rw [Decidable.not_not.mp hmagic, List.drop_zero] at h0
    simp only [frameHead, hcode]
    rw [← h56, ← h52, ← h44, ← h36, ← h28, ← h20, ← h12, ← h8, ← h6, ← h4, ← h0]

section Loaded

variable (header : FrameHeader) (length crc : UInt32)

lemma frameHead_length : loadU32 (frameHead header length crc) 52 = length := by
  simp [loadU32, frameHead]

lemma frameHead_crc : loadU32 (frameHead header length crc) 56 = crc := by
  have hcrc := loadLe_u32_zero crc []
  rw [List.append_nil] at hcrc
  simp [loadU32, frameHead, hcrc]

lemma decodeFrameHeader_frameHead (hversion : header.version = protocolVersion.toUInt16)
    (htype : header.type ≠ .invalid) (hlength : length ≤ limits.maxBodyBytes) :
    decodeFrameHeader (frameHead header length crc) limits = .ok header := by
  have hloads : loadU32 (frameHead header length crc) 0 = kFrameMagic ∧
      loadU16 (frameHead header length crc) 4 = header.version ∧
      loadU16 (frameHead header length crc) 6 = header.type.code ∧
      loadU32 (frameHead header length crc) 8 = header.flags ∧
      loadU64 (frameHead header length crc) 12 = header.session.value.high ∧
      loadU64 (frameHead header length crc) 20 = header.session.value.low ∧
      loadU64 (frameHead header length crc) 28 = header.epoch.value ∧
      loadU64 (frameHead header length crc) 36 = header.sequence ∧
      loadU64 (frameHead header length crc) 44 = header.correlation := by
    simp [loadU16, loadU32, loadU64, frameHead]
  obtain ⟨h0, h4, h6, h8, h12, h20, h28, h36, h44⟩ := hloads
  unfold decodeFrameHeader
  rw [if_neg (by simp), h0, if_neg (by simp)]
  simp only [h4, h6, h8, h12, h20, h28, h36, h44, frameHead_length, messageTypeFromU16_code htype]
  rw [if_neg (by simp [hversion]), if_neg (UInt32.not_lt.mpr hlength)]

end Loaded

lemma reads_body (length : UInt32) : Reads (recvBody length) id (·.length = length.toNat) := by
  unfold recvBody
  split
  · exact reads_tokens ..
  rename_i hzero
  rw [Decidable.not_not.mp hzero]
  refine ⟨fun {input body rest} => ?_⟩
  rw [pure_run_ok]
  constructor
  · rintro ⟨rfl, rfl⟩
    exact ⟨rfl, rfl⟩
  · rintro ⟨hlength, rfl⟩
    rw [List.length_eq_zero_iff.mp hlength]
    exact ⟨rfl, rfl⟩

lemma reads_frame (limits : FrameLimits) :
    Reads (readFrame limits) encodeFrame (Frame.Sendable limits) := by
  refine ⟨fun {input frame rest} => ?_⟩
  unfold readFrame
  rw [recvExact, (reads_tokens _ _).step]
  simp only [lift_bind_run_ok, (reads_body _).step]
  constructor
  · rintro ⟨head, _, hhead, rfl, header, hdecode, body, tail, hbody, rfl, h⟩
    obtain ⟨hversion, htype, hbound, hfields⟩ := decodeFrameHeader_sound hhead hdecode
    split at h
    · cases h
    rename_i hcrc
    obtain ⟨rfl, rfl⟩ := pure_run_ok.mp h
    refine ⟨⟨hversion, htype, ?_⟩, ?_⟩
    · rw [hbody]
      exact UInt32.le_iff_toNat_le.mp hbound
    · rw [encodeFrame, hbody, UInt32.ofNat_toNat, Decidable.not_not.mp hcrc, ← hfields]
      simp
  rintro ⟨h, rfl⟩
  have hlength :=
    UInt32.toNat_ofNat_of_lt' (Nat.lt_of_le_of_lt h.body limits.maxBodyBytes.toNat_lt)
  have hbound : UInt32.ofNat frame.body.length ≤ limits.maxBodyBytes := by
    rw [UInt32.le_iff_toNat_le, hlength]
    exact h.body
  refine ⟨_, _, length_frameHead .., by rw [encodeFrame, List.append_assoc]; rfl, frame.header,
    decodeFrameHeader_frameHead _ _ _ h.version h.type hbound, frame.body, rest, ?_, rfl, ?_⟩
  · rw [frameHead_length, hlength]
  · rw [frameHead_crc, if_neg (by simp)]
    rfl

end CoherenceFabric
