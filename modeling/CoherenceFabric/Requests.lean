import CoherenceFabric.Journal

/-!
What callers send to the engine and what they get back: requests, decisions and the
evidence that a replica is current.
-/

namespace CoherenceFabric

structure EngineConfig where
  initialEpoch : CoordinatorEpoch := ⟨1⟩
  maxDomains : Nat := 64
  maxParticipants : Nat := 65536
  maxObjects : Nat := 1000000
  maxRegions : Nat := 4000000
  maxRegionsPerObject : Nat := 1000000
  maxReadsPerObject : Nat := 1000000
  maxObjectLength : UInt64 := 1099511627776
  maxInflightSyncs : Nat := 1000000
  maxRetainedRequestsPerObject : Nat := 64
  maxDecisionLog : Nat := 4096
  enableDecisionLog : Bool := true
  enableDurability : Bool := true

structure AuthorityContext where
  epoch : CoordinatorEpoch := .nil
  participant : ParticipantId := .nil
  boot : ParticipantBootId := .nil
  object : ObjectId := .nil
  objectGeneration : ObjectGeneration := .nil
  policyGeneration : PolicyGeneration := .nil
  request : RequestId := .nil

structure ReadRequest where
  context : AuthorityContext := {}
  region : RegionId := .nil
  regionGeneration : RegionGeneration := .nil
  snapshotVersion : VersionId := .nil
  /-- The engine does not read it; it only travels with the request. -/
  requireCurrent : Bool := true

structure WriteRequest where
  context : AuthorityContext := {}
  region : RegionId := .nil
  regionGeneration : RegionGeneration := .nil

structure DirtyRequest where
  context : AuthorityContext := {}
  region : RegionId := .nil
  regionGeneration : RegionGeneration := .nil
  ownershipGeneration : OwnershipGeneration := .nil
  baseVersion : VersionId := .nil
  content : ContentFingerprint := {}

structure PublishRequest where
  context : AuthorityContext := {}
  ownershipGeneration : OwnershipGeneration := .nil
  region : RegionId := .nil
  regionGeneration : RegionGeneration := .nil
  expectedBaseVersion : VersionId := .nil
  content : ContentFingerprint := {}
  allowWithoutDirty : Bool := false

structure ReleaseRequest where
  context : AuthorityContext := {}
  lease : LeaseId := .nil
  ownershipGeneration : OwnershipGeneration := .nil
  releaseWriteAuthority : Bool := false

structure InvalidationRequest where
  context : AuthorityContext := {}
  targetRegion : RegionId := .nil
  targetRegionGeneration : RegionGeneration := .nil
  targetReplicaGeneration : ReplicaGeneration := .nil
  ownershipGeneration : OwnershipGeneration := .nil
  publishedVersion : VersionId := .nil
  acknowledgementRequired : Bool := true

structure InvalidationAck where
  context : AuthorityContext := {}
  invalidation : InvalidationId := .nil
  region : RegionId := .nil
  regionGeneration : RegionGeneration := .nil
  replicaGeneration : ReplicaGeneration := .nil
  supersededVersion : VersionId := .nil

structure SyncRequest where
  context : AuthorityContext := {}
  kind : SyncOperationKind := .copy
  sourceRegion : RegionId := .nil
  sourceRegionGeneration : RegionGeneration := .nil
  destinationRegion : RegionId := .nil
  destinationRegionGeneration : RegionGeneration := .nil
  ownershipGeneration : OwnershipGeneration := .nil
  transport : Text := []

structure RevalidateRequest where
  context : AuthorityContext := {}
  region : RegionId := .nil
  regionGeneration : RegionGeneration := .nil
  observedVersion : VersionId := .nil
  content : ContentFingerprint := {}
  byteCompared : Bool := true

structure SyncCompleteRequest where
  context : AuthorityContext := {}
  operation : SyncOperationId := .nil
  destinationRegion : RegionId := .nil
  destinationRegionGeneration : RegionGeneration := .nil
  destinationNewVersion : VersionId := .nil
  observedContent : ContentFingerprint := {}
  contentMoved : Bool := true

structure SyncFailRequest where
  context : AuthorityContext := {}
  operation : SyncOperationId := .nil
  cause : StatusCode := .transportFailure
  outcomeUnknown : Bool := false
  detail : Text := []

structure RegionRegistration where
  context : AuthorityContext := {}
  domain : CoherenceDomainId := .nil
  requestedId : RegionId := .nil
  name : Text := []
  memoryDomain : MemoryDomain := .unknown
  evidenceClass : EvidenceClass := .unsupported
  offset : UInt64 := 0
  length : UInt64 := 0
  addressHint : UInt64 := 0
  requestedReplica : ReplicaId := .nil
  declaredWritable : Bool := true
  initialVersion : VersionId := .nil
  content : ContentFingerprint := {}

/-! ### Evidence -/

/-- One observation of a replica: who made it, under which authority, and what was seen. -/
structure EvidenceRecord where
  id : EvidenceId := .nil
  generation : EvidenceGeneration := .nil
  kind : EvidenceKind := .none
  evidenceClass : EvidenceClass := .unsupported
  participant : ParticipantId := .nil
  boot : ParticipantBootId := .nil
  epoch : CoordinatorEpoch := .nil
  ownershipGeneration : OwnershipGeneration := .nil
  object : ObjectId := .nil
  objectGeneration : ObjectGeneration := .nil
  region : RegionId := .nil
  regionGeneration : RegionGeneration := .nil
  observedVersion : VersionId := .nil
  observedDigest : ContentDigest := .nil
  observedCrc32c : UInt32 := 0
  sequence : OperationSequence := .nil
  processLocal : Bool := false
  note : Text := []

/-! ### Decisions -/

structure DecisionContext where
  decision : DecisionId := .nil
  epoch : CoordinatorEpoch := .nil
  policy : PolicyId := .nil
  policyGeneration : PolicyGeneration := .nil
  object : ObjectId := .nil
  objectGeneration : ObjectGeneration := .nil
  ownershipGeneration : OwnershipGeneration := .nil
  sequence : OperationSequence := .nil

structure DecisionRecord where
  kind : DecisionKind := .audit
  context : DecisionContext := {}
  code : StatusCode := .ok
  summary : Text := []

structure ReadDecision where
  context : DecisionContext := {}
  outcome : ReadOutcome := .unknown
  reason : StatusCode := .unknownObject
  region : RegionId := .nil
  regionGeneration : RegionGeneration := .nil
  regionState : CoherenceState := .unknown
  authoritativeVersion : VersionId := .nil
  regionVersion : VersionId := .nil
  staleness : UInt64 := 0
  stalenessKnown : Bool := false
  syncRequired : Bool := false
  staleAllowed : Bool := false
  evidenceFresh : Bool := false
  evidence : EvidenceId := .nil
  evidenceGeneration : EvidenceGeneration := .nil
  evidenceClass : EvidenceClass := .unsupported
  requiredSync : SyncOperationId := .nil
  lease : LeaseId := .nil
  rationale : Text := []

structure WriteGrant where
  context : DecisionContext := {}
  granted : Bool := false
  reason : StatusCode := .unknownObject
  writer : ParticipantId := .nil
  writerBoot : ParticipantBootId := .nil
  baseVersion : VersionId := .nil
  authoritativeVersion : VersionId := .nil
  writerRegion : RegionId := .nil
  writerRegionGeneration : RegionGeneration := .nil
  requiredInvalidations : List InvalidationRecord := []
  mayMutateNow : Bool := false
  rationale : Text := []

structure PublicationReceipt where
  context : DecisionContext := {}
  publication : PublicationId := .nil
  state : PublicationState := .none
  reason : StatusCode := .ok
  version : VersionId := .nil
  priorVersion : VersionId := .nil
  writer : ParticipantId := .nil
  writerBoot : ParticipantBootId := .nil
  content : ContentFingerprint := {}
  durability : PublicationDurability := .unspecified
  durable : Bool := false
  idempotentReplay : Bool := false
  completedByRecovery : Bool := false
  rationale : Text := []

structure InvalidationOutcome where
  context : DecisionContext := {}
  invalidation : InvalidationId := .nil
  state : InvalidationState := .unknown
  reason : StatusCode := .ok
  region : RegionId := .nil
  regionGeneration : RegionGeneration := .nil
  replicaGeneration : ReplicaGeneration := .nil
  idempotentReplay : Bool := false
  rationale : Text := []

structure SyncOutcome where
  context : DecisionContext := {}
  operation : SyncOperationId := .nil
  state : SyncState := .planned
  reason : StatusCode := .ok
  plan : SyncRecord := {}
  idempotentReplay : Bool := false
  rationale : Text := []

structure ReleaseOutcome where
  context : DecisionContext := {}
  reason : StatusCode := .ok
  lease : LeaseId := .nil
  participant : ParticipantId := .nil
  boot : ParticipantBootId := .nil
  version : VersionId := .nil
  alreadyReleased : Bool := false
  rationale : Text := []

structure RecoveryReport where
  performed : Bool := false
  previousEpoch : CoordinatorEpoch := .nil
  newEpoch : CoordinatorEpoch := .nil
  objectsRestored : Nat := 0
  regionsRestored : Nat := 0
  participantsRestored : Nat := 0
  regionsDowngraded : Nat := 0
  authorityRevoked : Nat := 0
  publicationsCompleted : Nat := 0
  publicationsRequiringOperator : Nat := 0
  syncsClassifiedUnknown : Nat := 0
  invalidationsSuperseded : Nat := 0
  journalRecordsReplayed : Nat := 0
  corruptRecordsSkipped : Nat := 0
  notes : List Text := []

end CoherenceFabric
