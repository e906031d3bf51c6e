import CoherenceFabric.Status

/-!
The records of the fabric: domains, participants, objects, regions (replicas),
invalidations, synchronizations, pending publications and policies.
-/

namespace CoherenceFabric

/-! ### Policies -/

structure CoherencePolicy where
  id : PolicyId := .nil
  generation : PolicyGeneration := .nil
  name : Text := []
  consistency : ConsistencyModel := .unspecified
  writeOwnership : WriteOwnershipMode := .unspecified
  publicationDurability : PublicationDurability := .unspecified
  conflictBehavior : ConflictBehavior := .unspecified
  recoveryPolicy : RecoveryPolicy := .unspecified
  staleReadPolicy : StaleReadPolicy := .unspecified
  dirtyLossPolicy : DirtyLossPolicy := .unspecified
  staleReadBoundVersions : UInt64 := 0
  evidenceMaxAgeOperations : UInt64 := 0
  requireInvalidationAcksBeforePublication : Bool := true
  requireSyncCompletionForCurrentness : Bool := true
  allowedDomainsMask : UInt32 := 0xFFFFFFFF
  requireContentFingerprint : Bool := true

namespace CoherencePolicy

def allowsDomain (p : CoherencePolicy) (domain : MemoryDomain) : Bool :=
  p.allowedDomainsMask &&& (1 <<< (NameTable.code domain).toUInt32) != 0

/-- The first reason to reject a policy, or none. -/
def validate (p : CoherencePolicy) : Option (StatusCode × Text) :=
  if p.consistency = .unspecified then
    some (.invalidArgument, text "consistency model is unspecified")
  else if p.writeOwnership = .unspecified then
    some (.invalidArgument, text "write ownership mode is unspecified")
  else if p.publicationDurability = .unspecified then
    some (.invalidArgument, text "publication durability is unspecified")
  else if p.conflictBehavior = .unspecified then
    some (.invalidArgument, text "conflict behavior is unspecified")
  else if p.recoveryPolicy = .unspecified then
    some (.invalidArgument, text "recovery policy is unspecified")
  else if p.staleReadPolicy = .unspecified then
    some (.invalidArgument, text "stale read policy is unspecified")
  else if p.dirtyLossPolicy = .unspecified then
    some (.invalidArgument, text "dirty loss policy is unspecified")
  -- declared but unimplemented semantics fail closed
  else if p.writeOwnership = .multiWriterUnsupported then
    some (.unsupported,
      text ("multi-writer semantics are not implemented; two writers must never " ++
        "coexist for one object generation"))
  else if p.staleReadPolicy = .bounded ∧ p.staleReadBoundVersions = 0 then
    some (.invalidArgument,
      text "bounded stale reads require a non-zero stale_read_bound_versions")
  else if p.staleReadPolicy = .never ∧ p.consistency = .eventual then
    some (.invalidArgument,
      text ("eventual consistency with stale reads forbidden is contradictory; reads " ++
        "could never succeed"))
  else if p.allowedDomainsMask = 0 then
    some (.invalidArgument, text "allowed_domains_mask permits no memory domain")
  else if p.consistency = .strict ∧ p.staleReadPolicy ≠ .never then
    some (.invalidArgument, text "strict consistency requires stale_read_policy == never")
  else if p.requireContentFingerprint = false ∧ p.publicationDurability = .durableMetadata ∧
      p.consistency = .strict then
    some (.invalidArgument,
      text ("strict durable publication requires a content fingerprint so that " ++
        "synchronization can be verified"))
  else none

/-- `validate_policy`. -/
def validatePolicy (p : CoherencePolicy) : Status :=
  match p.validate with
  | none => .success
  | some (code, why) => ⟨code, text "policy rejected", why⟩

end CoherencePolicy

/-- `strict_policy`. -/
def strictPolicy (name : Text) : CoherencePolicy where
  name := name
  consistency := .strict
  writeOwnership := .singleWriterExclusive
  publicationDurability := .durableMetadata
  conflictBehavior := .invalidateReaders
  recoveryPolicy := .completeDurablePending
  staleReadPolicy := .never
  dirtyLossPolicy := .requireRecovery

/-! ### Records -/

structure ContentFingerprint where
  digest : ContentDigest := .nil
  crc32c : UInt32 := 0
  length : UInt64 := 0
  defined : Bool := false
  deriving DecidableEq

namespace ContentFingerprint

/-- The source's equality: two undefined fingerprints are the same. -/
def same (a b : ContentFingerprint) : Bool :=
  if a.defined != b.defined then false
  else if !a.defined then true
  else a.length == b.length && a.crc32c == b.crc32c && a.digest == b.digest

def toText (a : ContentFingerprint) : Text :=
  if !a.defined then text "undefined"
  else a.digest.toText ++ text ":crc32c=" ++ decimal a.crc32c.toNat ++ text ":len=" ++
    decimal a.length.toNat

end ContentFingerprint

structure DomainRecord where
  id : CoherenceDomainId := .nil
  name : Text := []
  generation : UInt64 := 1
  lifecycle : DomainLifecycle := .created
  createdEpoch : CoordinatorEpoch := .nil
  currentEpoch : CoordinatorEpoch := .nil

structure ParticipantRecord where
  id : ParticipantId := .nil
  name : Text := []
  boot : ParticipantBootId := .nil
  previousBoot : ParticipantBootId := .nil
  lifecycle : ParticipantLifecycle := .observed
  admittedEpoch : CoordinatorEpoch := .nil
  lastEpoch : CoordinatorEpoch := .nil
  session : SessionId := .nil
  lastSequence : OperationSequence := .nil
  live : Bool := false
  regionCount : UInt64 := 0
  nodeLabel : Text := []
  fenceReason : Text := []

structure ReadGrant where
  lease : LeaseId := .nil
  participant : ParticipantId := .nil
  boot : ParticipantBootId := .nil
  object : ObjectId := .nil
  objectGeneration : ObjectGeneration := .nil
  ownershipGeneration : OwnershipGeneration := .nil
  version : VersionId := .nil
  region : RegionId := .nil
  regionGeneration : RegionGeneration := .nil
  grantedSequence : OperationSequence := .nil
  released : Bool := false

structure RegionRecord where
  id : RegionId := .nil
  generation : RegionGeneration := .nil
  replica : ReplicaId := .nil
  replicaGeneration : ReplicaGeneration := .nil
  domain : CoherenceDomainId := .nil
  object : ObjectId := .nil
  objectGeneration : ObjectGeneration := .nil
  participant : ParticipantId := .nil
  boot : ParticipantBootId := .nil
  memoryDomain : MemoryDomain := .unknown
  evidenceClass : EvidenceClass := .unsupported
  name : Text := []
  offset : UInt64 := 0
  length : UInt64 := 0
  addressHint : UInt64 := 0
  declaredWritable : Bool := true
  lifecycle : RegionLifecycle := .registered
  state : CoherenceState := .unknown
  version : VersionId := .nil
  lastSyncedVersion : VersionId := .nil
  lastPublishedVersion : VersionId := .nil
  ownershipGeneration : OwnershipGeneration := .nil
  lastInvalidation : InvalidationId := .nil
  pendingInvalidation : InvalidationId := .nil
  pendingInvalidationTarget : RegionGeneration := .nil
  invalidationPending : Bool := false
  evidence : EvidenceId := .nil
  evidenceGeneration : EvidenceGeneration := .nil
  dirty : DirtyCondition := .clean
  dirtyBaseVersion : VersionId := .nil
  dirtyPublished : Bool := false
  content : ContentFingerprint := {}
  updatedSequence : OperationSequence := .nil
  note : Text := []

structure CompletedPublicationRequest where
  request : RequestId := .nil
  version : VersionId := .nil
  publication : PublicationId := .nil
  committedSequence : OperationSequence := .nil

structure ObjectRecord where
  id : ObjectId := .nil
  generation : ObjectGeneration := .nil
  domain : CoherenceDomainId := .nil
  name : Text := []
  length : UInt64 := 0
  policy : PolicyId := .nil
  policyGeneration : PolicyGeneration := .nil
  lifecycle : ObjectLifecycle := .created
  authority : AuthorityMode := .none
  writer : ParticipantId := .nil
  writerBoot : ParticipantBootId := .nil
  ownershipGeneration : OwnershipGeneration := .nil
  authoritativeVersion : VersionId := .nil
  publishedVersion : VersionId := .nil
  publication : PublicationId := .nil
  committedSequence : OperationSequence := .nil
  pendingPublication : PublicationId := .nil
  pendingVersion : VersionId := .nil
  publicationState : PublicationState := .none
  pendingContent : ContentFingerprint := {}
  replicas : List RegionId := []
  preferredCurrentReplica : RegionId := .nil
  reads : List ReadGrant := []
  outstandingInvalidations : List InvalidationId := []
  completedRequests : List CompletedPublicationRequest := []
  lastWriter : ParticipantId := .nil
  lastWriterBoot : ParticipantBootId := .nil
  hasUnpublishedDirty : Bool := false
  dirtyCondition : DirtyCondition := .clean
  updatedSequence : OperationSequence := .nil
  recoveryNote : Text := []

structure InvalidationRecord where
  id : InvalidationId := .nil
  object : ObjectId := .nil
  objectGeneration : ObjectGeneration := .nil
  region : RegionId := .nil
  regionGeneration : RegionGeneration := .nil
  replicaGeneration : ReplicaGeneration := .nil
  publishedVersion : VersionId := .nil
  supersededVersion : VersionId := .nil
  ownershipGeneration : OwnershipGeneration := .nil
  epoch : CoordinatorEpoch := .nil
  targetParticipant : ParticipantId := .nil
  targetBoot : ParticipantBootId := .nil
  state : InvalidationState := .requested
  acknowledgementRequired : Bool := true
  issuedSequence : OperationSequence := .nil
  settledSequence : OperationSequence := .nil
  rationale : Text := []

structure SyncRecord where
  id : SyncOperationId := .nil
  kind : SyncOperationKind := .copy
  object : ObjectId := .nil
  objectGeneration : ObjectGeneration := .nil
  sourceRegion : RegionId := .nil
  sourceRegionGeneration : RegionGeneration := .nil
  destinationRegion : RegionId := .nil
  destinationRegionGeneration : RegionGeneration := .nil
  sourceVersion : VersionId := .nil
  destinationPriorVersion : VersionId := .nil
  extentOffset : UInt64 := 0
  extentLength : UInt64 := 0
  expectedContent : ContentFingerprint := {}
  ownershipGeneration : OwnershipGeneration := .nil
  policy : PolicyId := .nil
  policyGeneration : PolicyGeneration := .nil
  epoch : CoordinatorEpoch := .nil
  destinationParticipant : ParticipantId := .nil
  destinationBoot : ParticipantBootId := .nil
  state : SyncState := .planned
  postcondition : Text := []
  transport : Text := []
  issuedSequence : OperationSequence := .nil
  settledSequence : OperationSequence := .nil
  failureReason : Text := []

structure PendingPublication where
  id : PublicationId := .nil
  object : ObjectId := .nil
  objectGeneration : ObjectGeneration := .nil
  version : VersionId := .nil
  priorVersion : VersionId := .nil
  ownershipGeneration : OwnershipGeneration := .nil
  epoch : CoordinatorEpoch := .nil
  writer : ParticipantId := .nil
  writerBoot : ParticipantBootId := .nil
  request : RequestId := .nil
  content : ContentFingerprint := {}
  sequence : OperationSequence := .nil
  durable : Bool := false

end CoherenceFabric
