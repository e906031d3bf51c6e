import CoherenceFabric.Codec.Serialize
import CoherenceFabric.Model

/-!
The codecs of the records that are persisted.

Every encoder writes its fields in one fixed order. A decoder refuses an unknown record version, an
undeclared byte of an enumeration, and a text, length or count above its limit; an encoder refuses
nothing. So a record is read back exactly if it lies within the limits of the decoder.
-/

namespace CoherenceFabric

open Codec ByteWriter

/-- The version every record starts with. -/
def kRecordVersion : UInt16 := 1

structure DecodeLimits where
  maxText : UInt32 := 4096
  maxCollection : UInt64 := 4000000
  maxObjectLength : UInt64 := 1099511627776

/-! ### Encoders -/

section Encoders

open ByteWriter (u8 u16 u32 u64 boolean strongId wideId)

def encEnum {α : Type} [NameTable α] (value : α) : Bytes := u8 (NameTable.code value)

/-- A collection behind the number of its members. -/
def encList {α : Type} (encode : α → Bytes) (values : List α) : Bytes :=
  u64 (UInt64.ofNat values.length) ++ values.flatMap encode

def encodeFingerprint (value : ContentFingerprint) : Bytes :=
  [boolean value.defined, wideId value.digest, u32 value.crc32c, u64 value.length].flatten

def encodePolicy (value : CoherencePolicy) : Bytes :=
  [u16 kRecordVersion, strongId value.id, strongId value.generation, ByteWriter.text value.name,
   encEnum value.consistency, encEnum value.writeOwnership, encEnum value.publicationDurability,
   encEnum value.conflictBehavior, encEnum value.recoveryPolicy, encEnum value.staleReadPolicy,
   encEnum value.dirtyLossPolicy, u64 value.staleReadBoundVersions,
   u64 value.evidenceMaxAgeOperations, boolean value.requireInvalidationAcksBeforePublication,
   boolean value.requireSyncCompletionForCurrentness, u32 value.allowedDomainsMask,
   boolean value.requireContentFingerprint].flatten

def encodeDomain (value : DomainRecord) : Bytes :=
  [u16 kRecordVersion, strongId value.id, ByteWriter.text value.name, u64 value.generation,
   encEnum value.lifecycle, strongId value.createdEpoch, strongId value.currentEpoch].flatten

def encodeParticipant (value : ParticipantRecord) : Bytes :=
  [u16 kRecordVersion, strongId value.id, ByteWriter.text value.name, wideId value.boot,
   wideId value.previousBoot, encEnum value.lifecycle, strongId value.admittedEpoch,
   strongId value.lastEpoch, wideId value.session, strongId value.lastSequence, boolean value.live,
   u64 value.regionCount, ByteWriter.text value.nodeLabel,
   ByteWriter.text value.fenceReason].flatten

def encodeReadGrant (value : ReadGrant) : Bytes :=
  [strongId value.lease, strongId value.participant, wideId value.boot, strongId value.object,
   strongId value.objectGeneration, strongId value.ownershipGeneration, strongId value.version,
   strongId value.region, strongId value.regionGeneration, strongId value.grantedSequence,
   boolean value.released].flatten

def encodeCompleted (value : CompletedPublicationRequest) : Bytes :=
  [strongId value.request, strongId value.version, strongId value.publication,
   strongId value.committedSequence].flatten

def encodeObject (value : ObjectRecord) : Bytes :=
  [u16 kRecordVersion, strongId value.id, strongId value.generation, strongId value.domain,
   ByteWriter.text value.name, u64 value.length, strongId value.policy,
   strongId value.policyGeneration, encEnum value.lifecycle, encEnum value.authority,
   strongId value.writer, wideId value.writerBoot, strongId value.ownershipGeneration,
   strongId value.authoritativeVersion, strongId value.publishedVersion, strongId value.publication,
   strongId value.committedSequence, strongId value.pendingPublication,
   strongId value.pendingVersion, encEnum value.publicationState,
   encodeFingerprint value.pendingContent, strongId value.preferredCurrentReplica,
   encList strongId value.replicas, encList encodeReadGrant value.reads,
   encList strongId value.outstandingInvalidations, encList encodeCompleted value.completedRequests,
   strongId value.lastWriter, wideId value.lastWriterBoot, boolean value.hasUnpublishedDirty,
   encEnum value.dirtyCondition, strongId value.updatedSequence,
   ByteWriter.text value.recoveryNote].flatten

def encodeRegion (value : RegionRecord) : Bytes :=
  [u16 kRecordVersion, strongId value.id, strongId value.generation, strongId value.replica,
   strongId value.replicaGeneration, strongId value.domain, strongId value.object,
   strongId value.objectGeneration, strongId value.participant, wideId value.boot,
   encEnum value.memoryDomain, encEnum value.evidenceClass, ByteWriter.text value.name,
   u64 value.offset, u64 value.length, u64 value.addressHint, boolean value.declaredWritable,
   encEnum value.lifecycle, encEnum value.state, strongId value.version,
   strongId value.lastSyncedVersion, strongId value.lastPublishedVersion,
   strongId value.ownershipGeneration, strongId value.lastInvalidation,
   strongId value.pendingInvalidation, strongId value.pendingInvalidationTarget,
   boolean value.invalidationPending, strongId value.evidence, strongId value.evidenceGeneration,
   encEnum value.dirty, strongId value.dirtyBaseVersion, boolean value.dirtyPublished,
   encodeFingerprint value.content, strongId value.updatedSequence,
   ByteWriter.text value.note].flatten

def encodeInvalidation (value : InvalidationRecord) : Bytes :=
  [u16 kRecordVersion, strongId value.id, strongId value.object, strongId value.objectGeneration,
   strongId value.region, strongId value.regionGeneration, strongId value.replicaGeneration,
   strongId value.publishedVersion, strongId value.supersededVersion,
   strongId value.ownershipGeneration, strongId value.epoch, strongId value.targetParticipant,
   wideId value.targetBoot, encEnum value.state, boolean value.acknowledgementRequired,
   strongId value.issuedSequence, strongId value.settledSequence,
   ByteWriter.text value.rationale].flatten

def encodeSync (value : SyncRecord) : Bytes :=
  [u16 kRecordVersion, strongId value.id, encEnum value.kind, strongId value.object,
   strongId value.objectGeneration, strongId value.sourceRegion,
   strongId value.sourceRegionGeneration, strongId value.destinationRegion,
   strongId value.destinationRegionGeneration, strongId value.sourceVersion,
   strongId value.destinationPriorVersion, u64 value.extentOffset, u64 value.extentLength,
   encodeFingerprint value.expectedContent, strongId value.ownershipGeneration,
   strongId value.policy, strongId value.policyGeneration, strongId value.epoch,
   strongId value.destinationParticipant, wideId value.destinationBoot, encEnum value.state,
   ByteWriter.text value.postcondition, ByteWriter.text value.transport,
   strongId value.issuedSequence, strongId value.settledSequence,
   ByteWriter.text value.failureReason].flatten

def encodePendingPublication (value : PendingPublication) : Bytes :=
  [u16 kRecordVersion, strongId value.id, strongId value.object, strongId value.objectGeneration,
   strongId value.version, strongId value.priorVersion, strongId value.ownershipGeneration,
   strongId value.epoch, strongId value.writer, wideId value.writerBoot, strongId value.request,
   encodeFingerprint value.content, strongId value.sequence, boolean value.durable].flatten

end Encoders

/-! ### How long an encoding is -/

variable {α : Type}

@[simp] lemma length_encEnum [NameTable α] (value : α) : (encEnum value).length = 1 :=
  rfl

lemma length_encList {encode width} (h : ∀ v, (encode v).length = width)
    (values : List α) : (encList encode values).length = 8 + width * values.length := by
  have hsum : (values.map fun v => (encode v).length).sum = width * values.length := by
    simp [h, Nat.mul_comm]
  rw [encList, List.length_append, length_u64, List.length_flatMap, hsum]

@[simp] lemma length_encodeFingerprint (value : ContentFingerprint) :
    (encodeFingerprint value).length = 29 := by
  simp [encodeFingerprint]

@[simp] lemma length_encodeReadGrant (value : ReadGrant) : (encodeReadGrant value).length = 89 := by
  simp [encodeReadGrant]

@[simp] lemma length_encodeCompleted (value : CompletedPublicationRequest) :
    (encodeCompleted value).length = 32 := by
  simp [encodeCompleted]

/-! ### Decoders -/

section Decoders

open ByteReader (u8 u16 u32 u64 boolean strongId wideId require)

variable (limits : DecodeLimits)

/-- A byte that no declared member has is refused. -/
def decEnum {α : Type} [NameTable α] : ByteReader α := do
  let raw ← u8
  match NameTable.fromU8 raw with
  | some value => return value
  | none => fun input => .error ⟨false, input.length⟩

def decText : ByteReader Text := ByteReader.text limits.maxText.toNat

def decHeader (expected : UInt16) : ByteReader Unit := do
  let version ← u16
  require false (version = expected)

def decList {α : Type} (limits : DecodeLimits) (decode : ByteReader α) : ByteReader (List α) := do
  let count ← u64
  require false (count ≤ limits.maxCollection)
  readList decode count.toNat

def decodeFingerprint : ByteReader ContentFingerprint := do
  let defined ← boolean
  let digest ← wideId
  let crc32c ← u32
  let length ← u64
  require false (length ≤ limits.maxObjectLength)
  return { defined, digest, crc32c, length }

def decodePolicy : ByteReader CoherencePolicy := do
  decHeader kRecordVersion
  let id ← strongId
  let generation ← strongId
  let name ← decText limits
  let consistency ← decEnum
  let writeOwnership ← decEnum
  let publicationDurability ← decEnum
  let conflictBehavior ← decEnum
  let recoveryPolicy ← decEnum
  let staleReadPolicy ← decEnum
  let dirtyLossPolicy ← decEnum
  let staleReadBoundVersions ← u64
  let evidenceMaxAgeOperations ← u64
  let requireInvalidationAcksBeforePublication ← boolean
  let requireSyncCompletionForCurrentness ← boolean
  let allowedDomainsMask ← u32
  let requireContentFingerprint ← boolean
  return { id, generation, name, consistency, writeOwnership, publicationDurability,
           conflictBehavior, recoveryPolicy, staleReadPolicy, dirtyLossPolicy,
           staleReadBoundVersions, evidenceMaxAgeOperations,
           requireInvalidationAcksBeforePublication, requireSyncCompletionForCurrentness,
           allowedDomainsMask, requireContentFingerprint }

def decodeDomain : ByteReader DomainRecord := do
  decHeader kRecordVersion
  let id ← strongId
  let name ← decText limits
  let generation ← u64
  let lifecycle ← decEnum
  let createdEpoch ← strongId
  let currentEpoch ← strongId
  require false (generation ≠ 0)
  return { id, name, generation, lifecycle, createdEpoch, currentEpoch }

def decodeParticipant : ByteReader ParticipantRecord := do
  decHeader kRecordVersion
  let id ← strongId
  let name ← decText limits
  let boot ← wideId
  let previousBoot ← wideId
  let lifecycle ← decEnum
  let admittedEpoch ← strongId
  let lastEpoch ← strongId
  let session ← wideId
  let lastSequence ← strongId
  let live ← boolean
  let regionCount ← u64
  let nodeLabel ← decText limits
  let fenceReason ← decText limits
  return { id, name, boot, previousBoot, lifecycle, admittedEpoch, lastEpoch, session, lastSequence,
           live, regionCount, nodeLabel, fenceReason }

def decodeReadGrant : ByteReader ReadGrant := do
  let lease ← strongId
  let participant ← strongId
  let boot ← wideId
  let object ← strongId
  let objectGeneration ← strongId
  let ownershipGeneration ← strongId
  let version ← strongId
  let region ← strongId
  let regionGeneration ← strongId
  let grantedSequence ← strongId
  let released ← boolean
  return { lease, participant, boot, object, objectGeneration, ownershipGeneration, version, region,
           regionGeneration, grantedSequence, released }

def decodeCompleted : ByteReader CompletedPublicationRequest := do
  let request ← strongId
  let version ← strongId
  let publication ← strongId
  let committedSequence ← strongId
  return { request, version, publication, committedSequence }

def decodeObject : ByteReader ObjectRecord := do
  decHeader kRecordVersion
  let id ← strongId
  let generation ← strongId
  let domain ← strongId
  let name ← decText limits
  let length ← u64
  require false (length ≤ limits.maxObjectLength)
  let policy ← strongId
  let policyGeneration ← strongId
  let lifecycle ← decEnum
  let authority ← decEnum
  let writer ← strongId
  let writerBoot ← wideId
  let ownershipGeneration ← strongId
  let authoritativeVersion ← strongId
  let publishedVersion ← strongId
  let publication ← strongId
  let committedSequence ← strongId
  let pendingPublication ← strongId
  let pendingVersion ← strongId
  let publicationState ← decEnum
  let pendingContent ← decodeFingerprint limits
  let preferredCurrentReplica ← strongId
  let replicas ← decList limits strongId
  let reads ← decList limits decodeReadGrant
  let outstandingInvalidations ← decList limits strongId
  let completedRequests ← decList limits decodeCompleted
  let lastWriter ← strongId
  let lastWriterBoot ← wideId
  let hasUnpublishedDirty ← boolean
  let dirtyCondition ← decEnum
  let updatedSequence ← strongId
  let recoveryNote ← decText limits
  return { id, generation, domain, name, length, policy, policyGeneration, lifecycle, authority,
           writer, writerBoot, ownershipGeneration, authoritativeVersion, publishedVersion,
           publication, committedSequence, pendingPublication, pendingVersion, publicationState,
           pendingContent, preferredCurrentReplica, replicas, reads, outstandingInvalidations,
           completedRequests, lastWriter, lastWriterBoot, hasUnpublishedDirty, dirtyCondition,
           updatedSequence, recoveryNote }

def decodeRegion : ByteReader RegionRecord := do
  decHeader kRecordVersion
  let id ← strongId
  let generation ← strongId
  let replica ← strongId
  let replicaGeneration ← strongId
  let domain ← strongId
  let object ← strongId
  let objectGeneration ← strongId
  let participant ← strongId
  let boot ← wideId
  let memoryDomain ← decEnum
  let evidenceClass ← decEnum
  let name ← decText limits
  let offset ← u64
  let length ← u64
  let addressHint ← u64
  require false (length ≤ limits.maxObjectLength)
  let declaredWritable ← boolean
  let lifecycle ← decEnum
  let state ← decEnum
  let version ← strongId
  let lastSyncedVersion ← strongId
  let lastPublishedVersion ← strongId
  let ownershipGeneration ← strongId
  let lastInvalidation ← strongId
  let pendingInvalidation ← strongId
  let pendingInvalidationTarget ← strongId
  let invalidationPending ← boolean
  let evidence ← strongId
  let evidenceGeneration ← strongId
  let dirty ← decEnum
  let dirtyBaseVersion ← strongId
  let dirtyPublished ← boolean
  let content ← decodeFingerprint limits
  let updatedSequence ← strongId
  let note ← decText limits
  return { id, generation, replica, replicaGeneration, domain, object, objectGeneration,
           participant, boot, memoryDomain, evidenceClass, name, offset, length, addressHint,
           declaredWritable, lifecycle, state, version, lastSyncedVersion, lastPublishedVersion,
           ownershipGeneration, lastInvalidation, pendingInvalidation, pendingInvalidationTarget,
           invalidationPending, evidence, evidenceGeneration, dirty, dirtyBaseVersion,
           dirtyPublished, content, updatedSequence, note }

def decodeInvalidation : ByteReader InvalidationRecord := do
  decHeader kRecordVersion
  let id ← strongId
  let object ← strongId
  let objectGeneration ← strongId
  let region ← strongId
  let regionGeneration ← strongId
  let replicaGeneration ← strongId
  let publishedVersion ← strongId
  let supersededVersion ← strongId
  let ownershipGeneration ← strongId
  let epoch ← strongId
  let targetParticipant ← strongId
  let targetBoot ← wideId
  let state ← decEnum
  let acknowledgementRequired ← boolean
  let issuedSequence ← strongId
  let settledSequence ← strongId
  let rationale ← decText limits
  return { id, object, objectGeneration, region, regionGeneration, replicaGeneration,
           publishedVersion, supersededVersion, ownershipGeneration, epoch, targetParticipant,
           targetBoot, state, acknowledgementRequired, issuedSequence, settledSequence, rationale }

def decodeSync : ByteReader SyncRecord := do
  decHeader kRecordVersion
  let id ← strongId
  let kind ← decEnum
  let object ← strongId
  let objectGeneration ← strongId
  let sourceRegion ← strongId
  let sourceRegionGeneration ← strongId
  let destinationRegion ← strongId
  let destinationRegionGeneration ← strongId
  let sourceVersion ← strongId
  let destinationPriorVersion ← strongId
  let extentOffset ← u64
  let extentLength ← u64
  require false (extentLength ≤ limits.maxObjectLength)
  let expectedContent ← decodeFingerprint limits
  let ownershipGeneration ← strongId
  let policy ← strongId
  let policyGeneration ← strongId
  let epoch ← strongId
  let destinationParticipant ← strongId
  let destinationBoot ← wideId
  let state ← decEnum
  let postcondition ← decText limits
  let transport ← decText limits
  let issuedSequence ← strongId
  let settledSequence ← strongId
  let failureReason ← decText limits
  return { id, kind, object, objectGeneration, sourceRegion, sourceRegionGeneration,
           destinationRegion, destinationRegionGeneration, sourceVersion, destinationPriorVersion,
           extentOffset, extentLength, expectedContent, ownershipGeneration, policy,
           policyGeneration, epoch, destinationParticipant, destinationBoot, state, postcondition,
           transport, issuedSequence, settledSequence, failureReason }

def decodePendingPublication : ByteReader PendingPublication := do
  decHeader kRecordVersion
  let id ← strongId
  let object ← strongId
  let objectGeneration ← strongId
  let version ← strongId
  let priorVersion ← strongId
  let ownershipGeneration ← strongId
  let epoch ← strongId
  let writer ← strongId
  let writerBoot ← wideId
  let request ← strongId
  let content ← decodeFingerprint limits
  let sequence ← strongId
  let durable ← boolean
  return { id, object, objectGeneration, version, priorVersion, ownershipGeneration, epoch, writer,
           writerBoot, request, content, sequence, durable }

end Decoders

/-! ### What is read back -/

open ByteReader

lemma reads_enum [NameTable α] : Reads (decEnum : ByteReader α) encEnum fun _ => True := by
  refine ⟨fun {input v rest} => ?_⟩
  simp only [decEnum, reads_u8.step, true_and]
  constructor
  · rintro ⟨raw, _, rfl, h⟩
    cases hraw : (NameTable.fromU8 raw : Option α) with
    | none =>
      rw [hraw] at h
      cases h
    | some value =>
      rw [hraw] at h
      obtain ⟨rfl, rfl⟩ := pure_run_ok.mp h
      rw [encEnum, NameTable.code_fromU8 hraw]
  · rintro rfl
    refine ⟨NameTable.code v, rest, rfl, ?_⟩
    rw [NameTable.fromU8_code]
    exact pure_run_ok.mpr ⟨rfl, rfl⟩

lemma reads_decText (limits : DecodeLimits) :
    Reads (decText limits) ByteWriter.text (·.length ≤ limits.maxText.toNat) :=
  reads_text limits.maxText.toNat_lt

/-! The kinds of fields. -/

instance {tag : IdTag} :
    Field (strongId : ByteReader (StrongId tag)) strongId fun _ => True :=
  ⟨reads_strongId⟩

instance {tag : WideTag} :
    Field (wideId : ByteReader (WideId tag)) wideId fun _ => True :=
  ⟨reads_wideId⟩

instance : Field boolean boolean fun _ => True := ⟨reads_boolean⟩

instance : Field u32 u32 fun _ => True := ⟨reads_u32⟩

instance : Field u64 u64 fun _ => True := ⟨reads_u64⟩

instance [NameTable α] : Field (decEnum : ByteReader α) encEnum fun _ => True := ⟨reads_enum⟩

instance (limits : DecodeLimits) :
    Field (decText limits) ByteWriter.text (·.length ≤ limits.maxText.toNat) :=
  ⟨reads_decText limits⟩

/-- The version in front of a record. -/
lemma header {β} {expected next fill write}
    {valid : β → Prop} (hnext : Builds (next ()) fill write valid) :
    Builds (decHeader expected >>= next) fill (fun b => u16 expected ++ write b) valid := by
  refine ⟨fun {input b rest} => ?_⟩
  simp only [decHeader, bind_assoc, reads_u16.step, require_step, true_and, hnext.iff]
  constructor
  · rintro ⟨version, _, rfl, rfl, hfill, hvalid, rfl⟩
    exact ⟨hfill, hvalid, (List.append_assoc ..).symm⟩
  · rintro ⟨hfill, hvalid, rfl⟩
    exact ⟨expected, _, List.append_assoc .., rfl, hfill, hvalid, rfl⟩

/-- A collection whose members are read back, if the number of members passes the bound. -/
lemma reads_listOf {decode encode} {valid : α → Prop}
    (limits : DecodeLimits) (h : Reads decode encode valid) :
    Reads (decList limits decode) (encList encode) fun vs =>
      vs.length ≤ limits.maxCollection.toNat ∧ ∀ v ∈ vs, valid v := by
  refine ⟨fun {input v rest} => ?_⟩
  simp only [decList, reads_u64.step, require_step, (h.list _).iff, true_and]
  constructor
  · rintro ⟨count, _, rfl, hle, ⟨hlength, hvalid⟩, rfl⟩
    refine ⟨⟨hlength ▸ UInt64.le_iff_toNat_le.mp hle, hvalid⟩, ?_⟩
    rw [encList, hlength, UInt64.ofNat_toNat, List.append_assoc]
  rintro ⟨⟨hle, hvalid⟩, rfl⟩
  have hnat : (UInt64.ofNat v.length).toNat = v.length :=
    UInt64.toNat_ofNat_of_lt' (Nat.lt_of_le_of_lt hle limits.maxCollection.toNat_lt)
  exact ⟨UInt64.ofNat v.length, v.flatMap encode ++ rest,
    by rw [encList, List.append_assoc], UInt64.le_iff_toNat_le.mpr (hnat.symm ▸ hle),
    ⟨hnat.symm, hvalid⟩, rfl⟩

instance {decode : ByteReader α} {encode : α → Bytes} {valid : α → Prop} (limits : DecodeLimits)
    [h : Field decode encode valid] : Field (decList limits decode) (encList encode)
      fun vs => vs.length ≤ limits.maxCollection.toNat ∧ ∀ v ∈ vs, valid v :=
  ⟨reads_listOf limits h.toReads⟩

variable (limits : DecodeLimits)

/-- The length passes the bound of the decoder. -/
@[mk_iff]
structure ContentFingerprint.Within (limits : DecodeLimits) (value : ContentFingerprint) :
    Prop where
  length : value.length ≤ limits.maxObjectLength

instance : Field (decodeFingerprint limits) encodeFingerprint
      (ContentFingerprint.Within limits) := by
  apply Field.record
  repeat' first | apply Builds.done | apply Builds.next _ fun _ => ?_ |
    apply requires (fun b : ContentFingerprint => b.length ≤ limits.maxObjectLength)
  all_goals simp [ContentFingerprint.within_iff]

@[mk_iff]
structure CoherencePolicy.Within (limits : DecodeLimits) (value : CoherencePolicy) : Prop where
  name : value.name.length ≤ limits.maxText.toNat

instance : Field (decodePolicy limits) encodePolicy (CoherencePolicy.Within limits) := by
  apply Field.record (header ?_)
  repeat' first | apply Builds.done | apply Builds.next _ fun _ => ?_
  all_goals simp [CoherencePolicy.within_iff]

@[mk_iff]
structure DomainRecord.Within (limits : DecodeLimits) (value : DomainRecord) : Prop where
  name : value.name.length ≤ limits.maxText.toNat
  generation : value.generation ≠ 0

instance : Field (decodeDomain limits) encodeDomain (DomainRecord.Within limits) := by
  apply Field.record (header ?_)
  repeat' first | apply Builds.done | apply Builds.next _ fun _ => ?_ |
    apply requires (fun b : DomainRecord => b.generation ≠ 0)
  all_goals simp [DomainRecord.within_iff]

@[mk_iff]
structure ParticipantRecord.Within (limits : DecodeLimits) (value : ParticipantRecord) : Prop where
  name : value.name.length ≤ limits.maxText.toNat
  nodeLabel : value.nodeLabel.length ≤ limits.maxText.toNat
  fenceReason : value.fenceReason.length ≤ limits.maxText.toNat

instance : Field (decodeParticipant limits) encodeParticipant
      (ParticipantRecord.Within limits) := by
  apply Field.record (header ?_)
  repeat' first | apply Builds.done | apply Builds.next _ fun _ => ?_
  all_goals simp [ParticipantRecord.within_iff]

instance : Field decodeReadGrant encodeReadGrant fun _ => True := by
  apply Field.record
  repeat' first | apply Builds.done | apply Builds.next _ fun _ => ?_
  all_goals simp

instance : Field decodeCompleted encodeCompleted fun _ => True := by
  apply Field.record
  repeat' first | apply Builds.done | apply Builds.next _ fun _ => ?_
  all_goals simp

@[mk_iff]
structure ObjectRecord.Within (limits : DecodeLimits) (value : ObjectRecord) : Prop where
  name : value.name.length ≤ limits.maxText.toNat
  length : value.length ≤ limits.maxObjectLength
  pendingContent : value.pendingContent.Within limits
  replicas : value.replicas.length ≤ limits.maxCollection.toNat
  reads : value.reads.length ≤ limits.maxCollection.toNat
  outstandingInvalidations : value.outstandingInvalidations.length ≤ limits.maxCollection.toNat
  completedRequests : value.completedRequests.length ≤ limits.maxCollection.toNat
  recoveryNote : value.recoveryNote.length ≤ limits.maxText.toNat

instance : Field (decodeObject limits) encodeObject (ObjectRecord.Within limits) := by
  apply Field.record (header ?_)
  repeat' first | apply Builds.done | apply Builds.next _ fun _ => ?_ |
    apply requires (fun b : ObjectRecord => b.length ≤ limits.maxObjectLength)
  all_goals simp [ObjectRecord.within_iff]

@[mk_iff]
structure RegionRecord.Within (limits : DecodeLimits) (value : RegionRecord) : Prop where
  name : value.name.length ≤ limits.maxText.toNat
  length : value.length ≤ limits.maxObjectLength
  content : value.content.Within limits
  note : value.note.length ≤ limits.maxText.toNat

instance : Field (decodeRegion limits) encodeRegion (RegionRecord.Within limits) := by
  apply Field.record (header ?_)
  repeat' first | apply Builds.done | apply Builds.next _ fun _ => ?_ |
    apply requires (fun b : RegionRecord => b.length ≤ limits.maxObjectLength)
  all_goals simp [RegionRecord.within_iff]

@[mk_iff]
structure InvalidationRecord.Within (limits : DecodeLimits) (value : InvalidationRecord) :
    Prop where
  rationale : value.rationale.length ≤ limits.maxText.toNat

instance : Field (decodeInvalidation limits) encodeInvalidation
      (InvalidationRecord.Within limits) := by
  apply Field.record (header ?_)
  repeat' first | apply Builds.done | apply Builds.next _ fun _ => ?_
  all_goals simp [InvalidationRecord.within_iff]

@[mk_iff]
structure SyncRecord.Within (limits : DecodeLimits) (value : SyncRecord) : Prop where
  extentLength : value.extentLength ≤ limits.maxObjectLength
  expectedContent : value.expectedContent.Within limits
  postcondition : value.postcondition.length ≤ limits.maxText.toNat
  transport : value.transport.length ≤ limits.maxText.toNat
  failureReason : value.failureReason.length ≤ limits.maxText.toNat

instance : Field (decodeSync limits) encodeSync (SyncRecord.Within limits) := by
  apply Field.record (header ?_)
  repeat' first | apply Builds.done | apply Builds.next _ fun _ => ?_ |
    apply requires (fun b : SyncRecord => b.extentLength ≤ limits.maxObjectLength)
  all_goals simp [SyncRecord.within_iff]

@[mk_iff]
structure PendingPublication.Within (limits : DecodeLimits) (value : PendingPublication) :
    Prop where
  content : value.content.Within limits

instance : Field (decodePendingPublication limits) encodePendingPublication
      (PendingPublication.Within limits) := by
  apply Field.record (header ?_)
  repeat' first | apply Builds.done | apply Builds.next _ fun _ => ?_
  all_goals simp [PendingPublication.within_iff]

end CoherenceFabric
