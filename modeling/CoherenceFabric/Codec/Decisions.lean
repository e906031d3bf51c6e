import CoherenceFabric.Codec.Records
import CoherenceFabric.Requests

/-!
The codecs of evidence, of what callers send to the engine, and of what it decides.

They are built like the codecs of the persisted records and obey the same law.
-/

namespace CoherenceFabric

open Codec

/-- The declared code with a wire value; `dec_code` asks for a name in the status table. -/
def StatusCode.fromU16 (raw : UInt16) : Option StatusCode :=
  (statusCodes.find? fun entry => entry.2.1 = raw).map Prod.fst

lemma StatusCode.fromU16_toU16 (code : StatusCode) : fromU16 code.toU16 = some code := by
  cases code <;> decide

lemma StatusCode.toU16_of_fromU16 {raw code} (h : fromU16 raw = some code) : code.toU16 = raw := by
  obtain ⟨entry, hfind, rfl⟩ := Option.map_eq_some_iff.mp h
  have hraw : entry.2.1 = raw := by simpa using List.find?_some hfind
  have htable : ∀ entry ∈ statusCodes, entry.1.toU16 = entry.2.1 := by decide
  rw [htable entry (List.mem_of_find?_eq_some hfind), hraw]

/-! ### Encoders -/

section Encoders

open ByteWriter (u16 u32 u64 boolean strongId wideId)

def encCode (code : StatusCode) : Bytes := u16 code.toU16

def encodeAuthorityContext (value : AuthorityContext) : Bytes :=
  [strongId value.epoch, strongId value.participant, wideId value.boot, strongId value.object,
   strongId value.objectGeneration, strongId value.policyGeneration, strongId value.request].flatten

def encodeEvidence (value : EvidenceRecord) : Bytes :=
  [u16 kRecordVersion, strongId value.id, strongId value.generation, encEnum value.kind,
   encEnum value.evidenceClass, strongId value.participant, wideId value.boot, strongId value.epoch,
   strongId value.ownershipGeneration, strongId value.object, strongId value.objectGeneration,
   strongId value.region, strongId value.regionGeneration, strongId value.observedVersion,
   wideId value.observedDigest, u32 value.observedCrc32c, strongId value.sequence,
   boolean value.processLocal, ByteWriter.text value.note].flatten

def encContext (value : DecisionContext) : Bytes :=
  [strongId value.decision, strongId value.epoch, strongId value.policy,
   strongId value.policyGeneration, strongId value.object, strongId value.objectGeneration,
   strongId value.ownershipGeneration, strongId value.sequence].flatten

def encodeReadDecision (value : ReadDecision) : Bytes :=
  [u16 kRecordVersion, encContext value.context, encEnum value.outcome, encCode value.reason,
   strongId value.region, strongId value.regionGeneration, encEnum value.regionState,
   strongId value.authoritativeVersion, strongId value.regionVersion, u64 value.staleness,
   boolean value.stalenessKnown, boolean value.syncRequired, boolean value.staleAllowed,
   boolean value.evidenceFresh, strongId value.evidence, strongId value.evidenceGeneration,
   encEnum value.evidenceClass, strongId value.requiredSync, strongId value.lease,
   ByteWriter.text value.rationale].flatten

def encodeWriteGrant (value : WriteGrant) : Bytes :=
  [u16 kRecordVersion, encContext value.context, boolean value.granted, encCode value.reason,
   strongId value.writer, wideId value.writerBoot, strongId value.baseVersion,
   strongId value.authoritativeVersion, strongId value.writerRegion,
   strongId value.writerRegionGeneration, encList encodeInvalidation value.requiredInvalidations,
   boolean value.mayMutateNow, ByteWriter.text value.rationale].flatten

def encodePublication (value : PublicationReceipt) : Bytes :=
  [u16 kRecordVersion, encContext value.context, strongId value.publication, encEnum value.state,
   encCode value.reason, strongId value.version, strongId value.priorVersion, strongId value.writer,
   wideId value.writerBoot, encodeFingerprint value.content, encEnum value.durability,
   boolean value.durable, boolean value.idempotentReplay, boolean value.completedByRecovery,
   ByteWriter.text value.rationale].flatten

def encodeInvalidationOutcome (value : InvalidationOutcome) : Bytes :=
  [u16 kRecordVersion, encContext value.context, strongId value.invalidation, encEnum value.state,
   encCode value.reason, strongId value.region, strongId value.regionGeneration,
   strongId value.replicaGeneration, boolean value.idempotentReplay,
   ByteWriter.text value.rationale].flatten

def encodeSyncOutcome (value : SyncOutcome) : Bytes :=
  [u16 kRecordVersion, encContext value.context, strongId value.operation, encEnum value.state,
   encCode value.reason, encodeSync value.plan, boolean value.idempotentReplay,
   ByteWriter.text value.rationale].flatten

def encodeReleaseOutcome (value : ReleaseOutcome) : Bytes :=
  [u16 kRecordVersion, encContext value.context, encCode value.reason, strongId value.lease,
   strongId value.participant, wideId value.boot, strongId value.version,
   boolean value.alreadyReleased, ByteWriter.text value.rationale].flatten

def encodeReadRequest (value : ReadRequest) : Bytes :=
  [u16 kRecordVersion, encodeAuthorityContext value.context, strongId value.region,
   strongId value.regionGeneration, strongId value.snapshotVersion,
   boolean value.requireCurrent].flatten

def encodeWriteRequest (value : WriteRequest) : Bytes :=
  [u16 kRecordVersion, encodeAuthorityContext value.context, strongId value.region,
   strongId value.regionGeneration].flatten

def encodeDirtyRequest (value : DirtyRequest) : Bytes :=
  [u16 kRecordVersion, encodeAuthorityContext value.context, strongId value.region,
   strongId value.regionGeneration, strongId value.ownershipGeneration, strongId value.baseVersion,
   encodeFingerprint value.content].flatten

def encodePublishRequest (value : PublishRequest) : Bytes :=
  [u16 kRecordVersion, encodeAuthorityContext value.context, strongId value.ownershipGeneration,
   strongId value.region, strongId value.regionGeneration, strongId value.expectedBaseVersion,
   encodeFingerprint value.content, boolean value.allowWithoutDirty].flatten

def encodeReleaseRequest (value : ReleaseRequest) : Bytes :=
  [u16 kRecordVersion, encodeAuthorityContext value.context, strongId value.lease,
   strongId value.ownershipGeneration, boolean value.releaseWriteAuthority].flatten

def encodeInvalidationRequest (value : InvalidationRequest) : Bytes :=
  [u16 kRecordVersion, encodeAuthorityContext value.context, strongId value.targetRegion,
   strongId value.targetRegionGeneration, strongId value.targetReplicaGeneration,
   strongId value.ownershipGeneration, strongId value.publishedVersion,
   boolean value.acknowledgementRequired].flatten

def encodeInvalidationAck (value : InvalidationAck) : Bytes :=
  [u16 kRecordVersion, encodeAuthorityContext value.context, strongId value.invalidation,
   strongId value.region, strongId value.regionGeneration, strongId value.replicaGeneration,
   strongId value.supersededVersion].flatten

def encodeSyncRequest (value : SyncRequest) : Bytes :=
  [u16 kRecordVersion, encodeAuthorityContext value.context, encEnum value.kind,
   strongId value.sourceRegion, strongId value.sourceRegionGeneration,
   strongId value.destinationRegion, strongId value.destinationRegionGeneration,
   strongId value.ownershipGeneration, ByteWriter.text value.transport].flatten

def encodeSyncComplete (value : SyncCompleteRequest) : Bytes :=
  [u16 kRecordVersion, encodeAuthorityContext value.context, strongId value.operation,
   strongId value.destinationRegion, strongId value.destinationRegionGeneration,
   strongId value.destinationNewVersion, encodeFingerprint value.observedContent,
   boolean value.contentMoved].flatten

def encodeSyncFail (value : SyncFailRequest) : Bytes :=
  [u16 kRecordVersion, encodeAuthorityContext value.context, strongId value.operation,
   encCode value.cause, boolean value.outcomeUnknown, ByteWriter.text value.detail].flatten

def encodeRevalidateRequest (value : RevalidateRequest) : Bytes :=
  [u16 kRecordVersion, encodeAuthorityContext value.context, strongId value.region,
   strongId value.regionGeneration, strongId value.observedVersion, encodeFingerprint value.content,
   boolean value.byteCompared].flatten

def encodeRegionRegistration (value : RegionRegistration) : Bytes :=
  [u16 kRecordVersion, encodeAuthorityContext value.context, strongId value.domain,
   strongId value.requestedId, ByteWriter.text value.name, encEnum value.memoryDomain,
   encEnum value.evidenceClass, u64 value.offset, u64 value.length, u64 value.addressHint,
   strongId value.requestedReplica, boolean value.declaredWritable, strongId value.initialVersion,
   encodeFingerprint value.content].flatten

end Encoders

/-! ### Decoders -/

section Decoders

open ByteReader (u16 u32 u64 boolean strongId wideId require)

variable (limits : DecodeLimits)

def decCode : ByteReader StatusCode := do
  let raw ← u16
  match StatusCode.fromU16 raw with
  | some code => return code
  | none => fun input => .error ⟨false, input.length⟩

def decodeAuthorityContext : ByteReader AuthorityContext := do
  let epoch ← strongId
  let participant ← strongId
  let boot ← wideId
  let object ← strongId
  let objectGeneration ← strongId
  let policyGeneration ← strongId
  let request ← strongId
  return { epoch, participant, boot, object, objectGeneration, policyGeneration, request }

def decodeEvidence : ByteReader EvidenceRecord := do
  decHeader kRecordVersion
  let id ← strongId
  let generation ← strongId
  let kind ← decEnum
  let evidenceClass ← decEnum
  let participant ← strongId
  let boot ← wideId
  let epoch ← strongId
  let ownershipGeneration ← strongId
  let object ← strongId
  let objectGeneration ← strongId
  let region ← strongId
  let regionGeneration ← strongId
  let observedVersion ← strongId
  let observedDigest ← wideId
  let observedCrc32c ← u32
  let sequence ← strongId
  let processLocal ← boolean
  let note ← decText limits
  return { id, generation, kind, evidenceClass, participant, boot, epoch, ownershipGeneration,
           object, objectGeneration, region, regionGeneration, observedVersion, observedDigest,
           observedCrc32c, sequence, processLocal, note }

def decContext : ByteReader DecisionContext := do
  let decision ← strongId
  let epoch ← strongId
  let policy ← strongId
  let policyGeneration ← strongId
  let object ← strongId
  let objectGeneration ← strongId
  let ownershipGeneration ← strongId
  let sequence ← strongId
  return { decision, epoch, policy, policyGeneration, object, objectGeneration, ownershipGeneration,
           sequence }

def decodeReadDecision : ByteReader ReadDecision := do
  decHeader kRecordVersion
  let context ← decContext
  let outcome ← decEnum
  let reason ← decCode
  let region ← strongId
  let regionGeneration ← strongId
  let regionState ← decEnum
  let authoritativeVersion ← strongId
  let regionVersion ← strongId
  let staleness ← u64
  let stalenessKnown ← boolean
  let syncRequired ← boolean
  let staleAllowed ← boolean
  let evidenceFresh ← boolean
  let evidence ← strongId
  let evidenceGeneration ← strongId
  let evidenceClass ← decEnum
  let requiredSync ← strongId
  let lease ← strongId
  let rationale ← decText limits
  return { context, outcome, reason, region, regionGeneration, regionState, authoritativeVersion,
           regionVersion, staleness, stalenessKnown, syncRequired, staleAllowed, evidenceFresh,
           evidence, evidenceGeneration, evidenceClass, requiredSync, lease, rationale }

def decodeWriteGrant : ByteReader WriteGrant := do
  decHeader kRecordVersion
  let context ← decContext
  let granted ← boolean
  let reason ← decCode
  let writer ← strongId
  let writerBoot ← wideId
  let baseVersion ← strongId
  let authoritativeVersion ← strongId
  let writerRegion ← strongId
  let writerRegionGeneration ← strongId
  let requiredInvalidations ← decList limits (decodeInvalidation limits)
  let mayMutateNow ← boolean
  let rationale ← decText limits
  return { context, granted, reason, writer, writerBoot, baseVersion, authoritativeVersion,
           writerRegion, writerRegionGeneration, requiredInvalidations, mayMutateNow, rationale }

def decodePublication : ByteReader PublicationReceipt := do
  decHeader kRecordVersion
  let context ← decContext
  let publication ← strongId
  let state ← decEnum
  let reason ← decCode
  let version ← strongId
  let priorVersion ← strongId
  let writer ← strongId
  let writerBoot ← wideId
  let content ← decodeFingerprint limits
  let durability ← decEnum
  let durable ← boolean
  let idempotentReplay ← boolean
  let completedByRecovery ← boolean
  let rationale ← decText limits
  return { context, publication, state, reason, version, priorVersion, writer, writerBoot, content,
           durability, durable, idempotentReplay, completedByRecovery, rationale }

def decodeInvalidationOutcome : ByteReader InvalidationOutcome := do
  decHeader kRecordVersion
  let context ← decContext
  let invalidation ← strongId
  let state ← decEnum
  let reason ← decCode
  let region ← strongId
  let regionGeneration ← strongId
  let replicaGeneration ← strongId
  let idempotentReplay ← boolean
  let rationale ← decText limits
  return { context, invalidation, state, reason, region, regionGeneration, replicaGeneration,
           idempotentReplay, rationale }

def decodeSyncOutcome : ByteReader SyncOutcome := do
  decHeader kRecordVersion
  let context ← decContext
  let operation ← strongId
  let state ← decEnum
  let reason ← decCode
  let plan ← decodeSync limits
  let idempotentReplay ← boolean
  let rationale ← decText limits
  return { context, operation, state, reason, plan, idempotentReplay, rationale }

def decodeReleaseOutcome : ByteReader ReleaseOutcome := do
  decHeader kRecordVersion
  let context ← decContext
  let reason ← decCode
  let lease ← strongId
  let participant ← strongId
  let boot ← wideId
  let version ← strongId
  let alreadyReleased ← boolean
  let rationale ← decText limits
  return { context, reason, lease, participant, boot, version, alreadyReleased, rationale }

def decodeReadRequest : ByteReader ReadRequest := do
  decHeader kRecordVersion
  let context ← decodeAuthorityContext
  let region ← strongId
  let regionGeneration ← strongId
  let snapshotVersion ← strongId
  let requireCurrent ← boolean
  return { context, region, regionGeneration, snapshotVersion, requireCurrent }

def decodeWriteRequest : ByteReader WriteRequest := do
  decHeader kRecordVersion
  let context ← decodeAuthorityContext
  let region ← strongId
  let regionGeneration ← strongId
  return { context, region, regionGeneration }

def decodeDirtyRequest : ByteReader DirtyRequest := do
  decHeader kRecordVersion
  let context ← decodeAuthorityContext
  let region ← strongId
  let regionGeneration ← strongId
  let ownershipGeneration ← strongId
  let baseVersion ← strongId
  let content ← decodeFingerprint limits
  return { context, region, regionGeneration, ownershipGeneration, baseVersion, content }

def decodePublishRequest : ByteReader PublishRequest := do
  decHeader kRecordVersion
  let context ← decodeAuthorityContext
  let ownershipGeneration ← strongId
  let region ← strongId
  let regionGeneration ← strongId
  let expectedBaseVersion ← strongId
  let content ← decodeFingerprint limits
  let allowWithoutDirty ← boolean
  return { context, ownershipGeneration, region, regionGeneration, expectedBaseVersion, content,
           allowWithoutDirty }

def decodeReleaseRequest : ByteReader ReleaseRequest := do
  decHeader kRecordVersion
  let context ← decodeAuthorityContext
  let lease ← strongId
  let ownershipGeneration ← strongId
  let releaseWriteAuthority ← boolean
  return { context, lease, ownershipGeneration, releaseWriteAuthority }

def decodeInvalidationRequest : ByteReader InvalidationRequest := do
  decHeader kRecordVersion
  let context ← decodeAuthorityContext
  let targetRegion ← strongId
  let targetRegionGeneration ← strongId
  let targetReplicaGeneration ← strongId
  let ownershipGeneration ← strongId
  let publishedVersion ← strongId
  let acknowledgementRequired ← boolean
  return { context, targetRegion, targetRegionGeneration, targetReplicaGeneration,
           ownershipGeneration, publishedVersion, acknowledgementRequired }

def decodeInvalidationAck : ByteReader InvalidationAck := do
  decHeader kRecordVersion
  let context ← decodeAuthorityContext
  let invalidation ← strongId
  let region ← strongId
  let regionGeneration ← strongId
  let replicaGeneration ← strongId
  let supersededVersion ← strongId
  return { context, invalidation, region, regionGeneration, replicaGeneration, supersededVersion }

def decodeSyncRequest : ByteReader SyncRequest := do
  decHeader kRecordVersion
  let context ← decodeAuthorityContext
  let kind ← decEnum
  let sourceRegion ← strongId
  let sourceRegionGeneration ← strongId
  let destinationRegion ← strongId
  let destinationRegionGeneration ← strongId
  let ownershipGeneration ← strongId
  let transport ← decText limits
  return { context, kind, sourceRegion, sourceRegionGeneration, destinationRegion,
           destinationRegionGeneration, ownershipGeneration, transport }

def decodeSyncComplete : ByteReader SyncCompleteRequest := do
  decHeader kRecordVersion
  let context ← decodeAuthorityContext
  let operation ← strongId
  let destinationRegion ← strongId
  let destinationRegionGeneration ← strongId
  let destinationNewVersion ← strongId
  let observedContent ← decodeFingerprint limits
  let contentMoved ← boolean
  return { context, operation, destinationRegion, destinationRegionGeneration,
           destinationNewVersion, observedContent, contentMoved }

def decodeSyncFail : ByteReader SyncFailRequest := do
  decHeader kRecordVersion
  let context ← decodeAuthorityContext
  let operation ← strongId
  let cause ← decCode
  let outcomeUnknown ← boolean
  let detail ← decText limits
  return { context, operation, cause, outcomeUnknown, detail }

def decodeRevalidateRequest : ByteReader RevalidateRequest := do
  decHeader kRecordVersion
  let context ← decodeAuthorityContext
  let region ← strongId
  let regionGeneration ← strongId
  let observedVersion ← strongId
  let content ← decodeFingerprint limits
  let byteCompared ← boolean
  return { context, region, regionGeneration, observedVersion, content, byteCompared }

def decodeRegionRegistration : ByteReader RegionRegistration := do
  decHeader kRecordVersion
  let context ← decodeAuthorityContext
  let domain ← strongId
  let requestedId ← strongId
  let name ← decText limits
  let memoryDomain ← decEnum
  let evidenceClass ← decEnum
  let offset ← u64
  let length ← u64
  let addressHint ← u64
  require false (length ≤ limits.maxObjectLength)
  let requestedReplica ← strongId
  let declaredWritable ← boolean
  let initialVersion ← strongId
  let content ← decodeFingerprint limits
  return { context, domain, requestedId, name, memoryDomain, evidenceClass, offset, length,
           addressHint, requestedReplica, declaredWritable, initialVersion, content }

end Decoders

/-! ### What is read back -/

open ByteReader

lemma reads_code : Reads decCode encCode fun _ => True := by
  refine ⟨fun {input v rest} => ?_⟩
  simp only [decCode, reads_u16.step, true_and]
  constructor
  · rintro ⟨raw, _, rfl, h⟩
    cases hraw : StatusCode.fromU16 raw with
    | none =>
      rw [hraw] at h
      cases h
    | some code =>
      rw [hraw] at h
      obtain ⟨rfl, rfl⟩ := pure_run_ok.mp h
      rw [encCode, StatusCode.toU16_of_fromU16 hraw]
  · rintro rfl
    refine ⟨v.toU16, rest, rfl, ?_⟩
    rw [StatusCode.fromU16_toU16]
    exact pure_run_ok.mpr ⟨rfl, rfl⟩

variable (limits : DecodeLimits)

instance : Field decCode encCode fun _ => True := ⟨reads_code⟩

instance : Field decodeAuthorityContext encodeAuthorityContext fun _ => True := by
  apply Field.record
  repeat' first | apply Builds.done | apply Builds.next _ fun _ => ?_
  all_goals simp

@[mk_iff]
structure EvidenceRecord.Within (limits : DecodeLimits) (value : EvidenceRecord) : Prop where
  note : value.note.length ≤ limits.maxText.toNat

instance : Field (decodeEvidence limits) encodeEvidence (EvidenceRecord.Within limits) := by
  apply Field.record (header ?_)
  repeat' first | apply Builds.done | apply Builds.next _ fun _ => ?_
  all_goals simp [EvidenceRecord.within_iff]

instance : Field decContext encContext fun _ => True := by
  apply Field.record
  repeat' first | apply Builds.done | apply Builds.next _ fun _ => ?_
  all_goals simp

@[mk_iff]
structure ReadDecision.Within (limits : DecodeLimits) (value : ReadDecision) : Prop where
  rationale : value.rationale.length ≤ limits.maxText.toNat

instance : Field (decodeReadDecision limits) encodeReadDecision (ReadDecision.Within limits) := by
  apply Field.record (header ?_)
  repeat' first | apply Builds.done | apply Builds.next _ fun _ => ?_
  all_goals simp [ReadDecision.within_iff]

@[mk_iff]
structure WriteGrant.Within (limits : DecodeLimits) (value : WriteGrant) : Prop where
  requiredInvalidations : value.requiredInvalidations.length ≤ limits.maxCollection.toNat ∧
    ∀ record ∈ value.requiredInvalidations, record.Within limits
  rationale : value.rationale.length ≤ limits.maxText.toNat

instance : Field (decodeWriteGrant limits) encodeWriteGrant (WriteGrant.Within limits) := by
  apply Field.record (header ?_)
  repeat' first | apply Builds.done | apply Builds.next _ fun _ => ?_
  all_goals simp [WriteGrant.within_iff]

@[mk_iff]
structure PublicationReceipt.Within (limits : DecodeLimits) (value : PublicationReceipt) :
    Prop where
  content : value.content.Within limits
  rationale : value.rationale.length ≤ limits.maxText.toNat

instance : Field (decodePublication limits) encodePublication
      (PublicationReceipt.Within limits) := by
  apply Field.record (header ?_)
  repeat' first | apply Builds.done | apply Builds.next _ fun _ => ?_
  all_goals simp [PublicationReceipt.within_iff]

@[mk_iff]
structure InvalidationOutcome.Within (limits : DecodeLimits) (value : InvalidationOutcome) :
    Prop where
  rationale : value.rationale.length ≤ limits.maxText.toNat

instance : Field (decodeInvalidationOutcome limits) encodeInvalidationOutcome
      (InvalidationOutcome.Within limits) := by
  apply Field.record (header ?_)
  repeat' first | apply Builds.done | apply Builds.next _ fun _ => ?_
  all_goals simp [InvalidationOutcome.within_iff]

@[mk_iff]
structure SyncOutcome.Within (limits : DecodeLimits) (value : SyncOutcome) : Prop where
  plan : value.plan.Within limits
  rationale : value.rationale.length ≤ limits.maxText.toNat

instance : Field (decodeSyncOutcome limits) encodeSyncOutcome (SyncOutcome.Within limits) := by
  apply Field.record (header ?_)
  repeat' first | apply Builds.done | apply Builds.next _ fun _ => ?_
  all_goals simp [SyncOutcome.within_iff]

@[mk_iff]
structure ReleaseOutcome.Within (limits : DecodeLimits) (value : ReleaseOutcome) : Prop where
  rationale : value.rationale.length ≤ limits.maxText.toNat

instance : Field (decodeReleaseOutcome limits) encodeReleaseOutcome
      (ReleaseOutcome.Within limits) := by
  apply Field.record (header ?_)
  repeat' first | apply Builds.done | apply Builds.next _ fun _ => ?_
  all_goals simp [ReleaseOutcome.within_iff]

instance : Field decodeReadRequest encodeReadRequest fun _ => True := by
  apply Field.record (header ?_)
  repeat' first | apply Builds.done | apply Builds.next _ fun _ => ?_
  all_goals simp

instance : Field decodeWriteRequest encodeWriteRequest fun _ => True := by
  apply Field.record (header ?_)
  repeat' first | apply Builds.done | apply Builds.next _ fun _ => ?_
  all_goals simp

@[mk_iff]
structure DirtyRequest.Within (limits : DecodeLimits) (value : DirtyRequest) : Prop where
  content : value.content.Within limits

instance : Field (decodeDirtyRequest limits) encodeDirtyRequest (DirtyRequest.Within limits) := by
  apply Field.record (header ?_)
  repeat' first | apply Builds.done | apply Builds.next _ fun _ => ?_
  all_goals simp [DirtyRequest.within_iff]

@[mk_iff]
structure PublishRequest.Within (limits : DecodeLimits) (value : PublishRequest) : Prop where
  content : value.content.Within limits

instance : Field (decodePublishRequest limits) encodePublishRequest
      (PublishRequest.Within limits) := by
  apply Field.record (header ?_)
  repeat' first | apply Builds.done | apply Builds.next _ fun _ => ?_
  all_goals simp [PublishRequest.within_iff]

instance : Field decodeReleaseRequest encodeReleaseRequest fun _ => True := by
  apply Field.record (header ?_)
  repeat' first | apply Builds.done | apply Builds.next _ fun _ => ?_
  all_goals simp

instance : Field decodeInvalidationRequest encodeInvalidationRequest fun _ => True := by
  apply Field.record (header ?_)
  repeat' first | apply Builds.done | apply Builds.next _ fun _ => ?_
  all_goals simp

instance : Field decodeInvalidationAck encodeInvalidationAck fun _ => True := by
  apply Field.record (header ?_)
  repeat' first | apply Builds.done | apply Builds.next _ fun _ => ?_
  all_goals simp

@[mk_iff]
structure SyncRequest.Within (limits : DecodeLimits) (value : SyncRequest) : Prop where
  transport : value.transport.length ≤ limits.maxText.toNat

instance : Field (decodeSyncRequest limits) encodeSyncRequest (SyncRequest.Within limits) := by
  apply Field.record (header ?_)
  repeat' first | apply Builds.done | apply Builds.next _ fun _ => ?_
  all_goals simp [SyncRequest.within_iff]

@[mk_iff]
structure SyncCompleteRequest.Within (limits : DecodeLimits) (value : SyncCompleteRequest) :
    Prop where
  observedContent : value.observedContent.Within limits

instance : Field (decodeSyncComplete limits) encodeSyncComplete
      (SyncCompleteRequest.Within limits) := by
  apply Field.record (header ?_)
  repeat' first | apply Builds.done | apply Builds.next _ fun _ => ?_
  all_goals simp [SyncCompleteRequest.within_iff]

@[mk_iff]
structure SyncFailRequest.Within (limits : DecodeLimits) (value : SyncFailRequest) : Prop where
  detail : value.detail.length ≤ limits.maxText.toNat

instance : Field (decodeSyncFail limits) encodeSyncFail (SyncFailRequest.Within limits) := by
  apply Field.record (header ?_)
  repeat' first | apply Builds.done | apply Builds.next _ fun _ => ?_
  all_goals simp [SyncFailRequest.within_iff]

@[mk_iff]
structure RevalidateRequest.Within (limits : DecodeLimits) (value : RevalidateRequest) : Prop where
  content : value.content.Within limits

instance : Field (decodeRevalidateRequest limits) encodeRevalidateRequest
      (RevalidateRequest.Within limits) := by
  apply Field.record (header ?_)
  repeat' first | apply Builds.done | apply Builds.next _ fun _ => ?_
  all_goals simp [RevalidateRequest.within_iff]

@[mk_iff]
structure RegionRegistration.Within (limits : DecodeLimits) (value : RegionRegistration) :
    Prop where
  name : value.name.length ≤ limits.maxText.toNat
  length : value.length ≤ limits.maxObjectLength
  content : value.content.Within limits

instance : Field (decodeRegionRegistration limits) encodeRegionRegistration
      (RegionRegistration.Within limits) := by
  apply Field.record (header ?_)
  repeat' first | apply Builds.done | apply Builds.next _ fun _ => ?_ |
    apply requires (fun b : RegionRegistration => b.length ≤ limits.maxObjectLength)
  all_goals simp [RegionRegistration.within_iff]

end CoherenceFabric
