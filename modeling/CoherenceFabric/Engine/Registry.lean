import CoherenceFabric.Engine.Participants

/-!
Objects, policies and regions: registration, policy change, retirement, the operator's
resolution of recovery, and shutdown.
-/

namespace CoherenceFabric

variable {σ : Type}

/-- `checked_range`: the extent lies inside, and its end does not overflow. -/
def checkedRange (offset length extent : UInt64) : Bool :=
  offset.toNat + length.toNat < UInt64.size && offset.toNat + length.toNat ≤ extent.toNat

/-! ### What happens to a record -/

namespace ObjectRecord

variable (object : ObjectRecord)

/-- `std::lower_bound` insertion into the ascending replica list. -/
def insertReplica (replicas : List RegionId) (id : RegionId) : List RegionId :=
  replicas.takeWhile (fun other => other.value < id.value) ++ [id] ++
    replicas.dropWhile (fun other => other.value < id.value)

def addReplica (id : RegionId) (sequence : OperationSequence) : ObjectRecord :=
  { object with
    replicas :=
      if (object.replicas.getLast?).all fun last => last.value < id.value then
        object.replicas ++ [id]
      else insertReplica object.replicas id
    updatedSequence := sequence }

def setPolicy (policy : CoherencePolicy) (sequence : OperationSequence) : ObjectRecord :=
  { object with
    policy := policy.id
    policyGeneration := policy.generation
    updatedSequence := sequence }

/-- The operator's resolution: the unpublished modification is lost and the authoritative
version stands. -/
def resolveRecovery (note : Text) (sequence : OperationSequence) : ObjectRecord :=
  { object with
    lifecycle := .active
    hasUnpublishedDirty := false
    dirtyCondition := .dirtyLost
    pendingPublication := .nil
    pendingVersion := .nil
    pendingContent := {}
    publicationState := if object.publicationOpen then .aborted else object.publicationState
    recoveryNote :=
      if note.isEmpty then
        text ("operator resolved recovery: the unpublished " ++
          "modification was lost and the last authoritative " ++ "version stands")
      else note
    updatedSequence := sequence }

def retire (sequence : OperationSequence) : ObjectRecord :=
  { object with
    lifecycle := .retired
    authority := .none
    writer := .nil
    writerBoot := .nil
    pendingPublication := .nil
    pendingVersion := .nil
    publicationState := .none
    hasUnpublishedDirty := false
    reads := object.reads.map fun grant => { grant with released := true }
    updatedSequence := sequence }

def shutdown (sequence : OperationSequence) : ObjectRecord :=
  let object := { object with authority := .none, writer := .nil, writerBoot := .nil }
  let object := if object.publicationState = .pendingDurable then object.abortPending else object
  { object with
    reads := object.reads.map fun grant => { grant with released := true }
    updatedSequence := sequence }

end ObjectRecord

namespace SyncRecord

def cancel (sync : SyncRecord) (sequence : OperationSequence) : SyncRecord :=
  { sync with
    state := .cancelled
    settledSequence := sequence
    failureReason := text "coordinator shutdown" }

end SyncRecord

namespace InvalidationRecord

def abandon (record : InvalidationRecord) (sequence : OperationSequence) : InvalidationRecord :=
  { record with
    state := .unknown
    settledSequence := sequence
    rationale := text "coordinator shutdown before acknowledgement" }

end InvalidationRecord

namespace Impl

/-! ### Objects and policies -/

def registerObjectRefusal (s : Impl σ) (domain : CoherenceDomainId) (name : Text)
    (length : UInt64) (policy : CoherencePolicy) : Option Status :=
  if s.shuttingDown then
    some (.make .shuttingDown (text "the coherence engine is shutting down"))
  else if !s.domains.contains domain then
    some ⟨.unknownDomain, text "no such domain", domain.toText⟩
  else if name.isEmpty then
    some (.make .invalidArgument (text "object name must not be empty"))
  else if length = 0 ∨ s.config.maxObjectLength < length then
    some ⟨.invalidArgument, text "object length is out of range",
      decimal length.toNat ++ text " vs bound " ++ decimal s.config.maxObjectLength.toNat⟩
  else if !policy.validatePolicy.isOk then
    some ⟨policy.validatePolicy.code, text "policy rejected at object registration",
      policy.validatePolicy.toText⟩
  else if s.objectIndex.contains ⟨domain, name⟩ then
    some ⟨.duplicateIdentity, text "an object with this name already exists in the domain", name⟩
  else if s.config.maxObjects ≤ s.objects.size then
    some ⟨.capacityExceeded, text "object capacity reached", decimal s.config.maxObjects⟩
  else none

def newPolicy (s : Impl σ) (policy : CoherencePolicy) : CoherencePolicy :=
  { policy with
    id := ⟨s.nextPolicyId⟩
    generation := ⟨1⟩
    name := if policy.name.isEmpty then text "policy" else policy.name }

def newObject (s : Impl σ) (domain : CoherenceDomainId) (name : Text) (length : UInt64)
    (policy : CoherencePolicy) : ObjectRecord where
  id := ⟨s.nextObjectId⟩
  generation := ⟨1⟩
  domain := domain
  name := name
  length := length
  policy := policy.id
  policyGeneration := policy.generation
  lifecycle := .active
  authority := .none
  ownershipGeneration := ⟨1⟩
  updatedSequence := s.sequence

variable [DurableStore σ] (s : Impl σ)

def registerObject (domain : CoherenceDomainId) (name : Text) (length : UInt64)
    (policy : CoherencePolicy) : Result ObjectRecord × Impl σ :=
  match s.registerObjectRefusal domain name length policy with
  | some status => (.error status, s)
  | none =>
    let stored := s.newPolicy policy
    let record := s.newObject domain name length stored
    let s := s.withCounters { s.toCounters with
      nextPolicyId := s.nextPolicyId + 1
      nextObjectId := s.nextObjectId + 1 }
    let journalled := s.appendManyLocked
        [.upsertPolicy stored, .upsertObject (scrubObjectForPersistence record)]
    let s := journalled.2
    if !journalled.1.isOk then (.error journalled.1, s)
    else
      (.ok record,
        (s.withRecords { s.toRecords with
          policies := s.policies.insertIfNew stored.id stored
          objects := s.objects.insertIfNew record.id record
          objectIndex := s.objectIndex.insertIfNew ⟨domain, name⟩ record.id }).tick)

def setPolicyRefusal (id : ObjectId) (generation : ObjectGeneration)
    (expected : PolicyGeneration) (next : CoherencePolicy) : Result ObjectRecord :=
  if s.shuttingDown then
    .error (.make .shuttingDown (text "the coherence engine is shutting down"))
  else match s.objects[id]? with
    | none => .error ⟨.unknownObject, text "no such coherence object", id.toText⟩
    | some object =>
      if object.generation ≠ generation then
        .error ⟨.staleObjectGeneration,
          text "policy change references a stale object generation",
          staleDetail generation object.generation⟩
      else if object.policyGeneration ≠ expected then
        .error ⟨.stalePolicy, text "policy change references a stale policy generation",
          staleDetail expected object.policyGeneration⟩
      else if object.publicationState = .pendingDurable then
        .error (.make .invalidState
          (text "policy cannot change while a publication is pending durability"))
      else if !next.validatePolicy.isOk then
        .error ⟨next.validatePolicy.code, text "replacement policy rejected",
          next.validatePolicy.toText⟩
      else .ok object

/-- The policy `set_policy` stores: the next generation under the object's policy identity. -/
def replacementPolicy (object : ObjectRecord) (next : CoherencePolicy) : CoherencePolicy :=
  { next with
    id := object.policy
    generation := object.policyGeneration.next
    name :=
      if next.name.isEmpty then ((s.policies[object.policy]?).map (·.name)).getD (text "policy")
      else next.name }

def setPolicy (id : ObjectId) (generation : ObjectGeneration)
    (expected : PolicyGeneration) (next : CoherencePolicy) : Result ObjectRecord × Impl σ :=
  match s.setPolicyRefusal id generation expected next with
  | .error status => (.error status, s)
  | .ok object =>
    let stored := s.replacementPolicy object next
    let object := object.setPolicy stored s.sequence
    let s := s.setObject id object
    let journalled := s.appendManyLocked
        [.upsertPolicy stored, .upsertObject (scrubObjectForPersistence object)]
    let s := journalled.2
    if !journalled.1.isOk then (.error journalled.1, s)
    else
      let s := (s.withRecords { s.toRecords with
        policies := s.policies.insert stored.id stored }).tick
      let context := s.contextOf {} object.id object.generation object.ownershipGeneration
      (.ok object,
        s.takeDecisionId.recordDecision .policyChange context .ok
          (text "policy advanced to generation " ++ stored.generation.toText))

/-! ### Regions -/

variable (registration : RegionRegistration)

def declarationRefusal (object : ObjectRecord) : Option Status :=
  if registration.memoryDomain = .unknown then
    some (.make .invalidArgument (text "region memory domain must be declared explicitly"))
  else if registration.evidenceClass = .unsupported then
    some (.make .unsupported (text
      "the backend reports that it cannot produce evidence for this region"))
  else if registration.name.isEmpty then
    some (.make .invalidArgument (text "region name must not be empty"))
  else if registration.length = 0 then
    some (.make .invalidArgument (text "region length must be greater than zero"))
  else if !checkedRange registration.offset registration.length object.length then
    some ⟨.invalidArgument, text "region extent lies outside the object extent",
      text "offset=" ++ decimal registration.offset.toNat ++
        text " length=" ++ decimal registration.length.toNat ++
        text " object_length=" ++ decimal object.length.toNat⟩
  else if s.config.maxRegionsPerObject ≤ object.replicas.length then
    some ⟨.capacityExceeded, text "replica capacity reached for this object",
      decimal s.config.maxRegionsPerObject⟩
  else if s.config.maxRegions ≤ s.regions.size then
    some ⟨.capacityExceeded, text "region capacity reached", decimal s.config.maxRegions⟩
  else match s.policies[object.policy]? with
    | none => some (.make .unknownPolicy (text "the object references a missing policy"))
    | some policy =>
      if !policy.allowsDomain registration.memoryDomain then
        some ⟨.invalidArgument, text "the active policy does not permit this memory domain",
          NameTable.toToken registration.memoryDomain⟩
      else if registration.requestedId.defined ∧
          s.regions.contains registration.requestedId then
        some ⟨.duplicateIdentity, text "the requested region identity is already in use",
          registration.requestedId.toText⟩
      else none

def registerRegionRefusal : Result (ObjectRecord × ParticipantRecord) :=
  let ctx := registration.context
  if s.shuttingDown then
    .error (.make .shuttingDown (text "the coherence engine is shutting down"))
  else if ctx.epoch ≠ s.epoch then
    .error ⟨.staleEpoch, text "region registration carries a stale coordinator epoch",
      staleDetail ctx.epoch s.epoch⟩
  else match s.objects[ctx.object]? with
    | none => .error ⟨.unknownObject, text "no such coherence object", ctx.object.toText⟩
    | some object =>
      if object.generation ≠ ctx.objectGeneration then
        .error ⟨.staleObjectGeneration,
          text "region registration references a stale object generation",
          staleDetail ctx.objectGeneration object.generation⟩
      else if registration.domain.defined ∧ registration.domain ≠ object.domain then
        .error (.make .invalidArgument (text "region domain does not match the object domain"))
      else if object.lifecycle = .retired ∨ object.lifecycle = .recoveryRequired then
        .error (.make (if object.lifecycle = .retired then .retired else .recoveryRequired)
          (text "the object does not accept new replicas in its current lifecycle"))
      else match s.participants[ctx.participant]? with
        | none =>
          .error ⟨.unknownParticipant, text "no such participant", ctx.participant.toText⟩
        | some participant =>
          if participant.boot ≠ ctx.boot then
            .error ⟨.staleBoot,
              text "region registration references a boot identity that is not live",
              text "request=" ++ ctx.boot.toText ++ text " live=" ++ participant.boot.toText⟩
          else if participant.lifecycle = .fenced then
            .error ⟨.fenced, text "the participant has been fenced", participant.name⟩
          else match s.declarationRefusal registration object with
            | some status => .error status
            | none => .ok (object, participant)

/-- The record `register_region` builds. A new replica is never current: declared contents
are not evidence. -/
def newRegion (object : ObjectRecord) (participant : ParticipantRecord) : RegionRecord where
  id := if registration.requestedId.defined then registration.requestedId else ⟨s.nextRegionId⟩
  generation := ⟨1⟩
  replica :=
    if registration.requestedReplica.defined then registration.requestedReplica
    else ⟨s.nextReplicaId⟩
  replicaGeneration := ⟨1⟩
  domain := object.domain
  object := object.id
  objectGeneration := object.generation
  participant := participant.id
  boot := participant.boot
  memoryDomain := registration.memoryDomain
  evidenceClass := registration.evidenceClass
  name := registration.name
  offset := registration.offset
  length := registration.length
  addressHint := registration.addressHint
  declaredWritable := registration.declaredWritable
  lifecycle := .active
  state := if registration.initialVersion.defined then .revalidationRequired else .unknown
  version := registration.initialVersion
  ownershipGeneration := object.ownershipGeneration
  dirty := .clean
  content := registration.content
  updatedSequence := s.sequence
  note := text "registered; dynamic currentness requires revalidation"

/-- A counter after one allocation: the next value, or past the value the caller asked for. -/
def allocate {tag : IdTag} (requested : StrongId tag) (next : UInt64) : UInt64 :=
  if requested.defined then
    (if next ≤ requested.value then requested.value + 1 else next)
  else next + 1

def regionNameTaken (key : ScopedName .object) : Bool :=
  match s.regionIndex[key]? with
  | none => false
  | some holder => (s.regions[holder]?).any fun previous => previous.lifecycle != .retired

/-- The tail of `register_region`: the object lists the replica before the group is
journalled. -/
def enrolRegion (object : ObjectRecord)
    (participant : ParticipantRecord) (record : RegionRecord) : Result RegionRecord × Impl σ :=
  let ctx := registration.context
  let key : ScopedName .object := ⟨object.id, record.name⟩
  let object := object.addReplica record.id s.sequence
  let s := s.withRecords { s.toRecords with
    regionIndex := s.regionIndex.erase key
    objects := s.objects.insert ctx.object object }
  -- The source skips this where durability is off; the append then writes nothing either.
  let journalled := s.appendManyLocked
    [.upsertObject (scrubObjectForPersistence object), .upsertRegion record]
  let s := journalled.2
  if !journalled.1.isOk then (.error journalled.1, s)
  else
    (.ok record,
      (s.withRecords { s.toRecords with
        regions := s.regions.insertIfNew record.id record
        regionIndex := s.regionIndex.insert key record.id
        participants := s.participants.insert ctx.participant
          { participant with regionCount := participant.regionCount + 1 } }).tick)

/-- `register_region`. The counters move before the name is checked. -/
def registerRegion : Result RegionRecord × Impl σ :=
  match s.registerRegionRefusal registration with
  | .error status => (.error status, s)
  | .ok (object, participant) =>
    let record := s.newRegion registration object participant
    let s := s.withCounters { s.toCounters with
      nextRegionId := allocate registration.requestedId s.nextRegionId
      nextReplicaId := allocate registration.requestedReplica s.nextReplicaId }
    if s.regionNameTaken ⟨object.id, record.name⟩ then
      (.error ⟨.duplicateIdentity,
        text "a region with this name already exists for the object", record.name⟩, s)
    else s.enrolRegion registration object participant record

def retireRegionRefusal (id : RegionId) (generation : RegionGeneration)
    (epoch : CoordinatorEpoch) : Result RegionRecord :=
  if epoch ≠ s.epoch then
    .error ⟨.staleEpoch, text "region retirement carries a stale coordinator epoch",
      staleDetail epoch s.epoch⟩
  else match s.regions[id]? with
    | none => .error ⟨.unknownRegion, text "no such region", id.toText⟩
    | some region =>
      if region.generation ≠ generation then
        .error ⟨.staleRegionGeneration,
          text "region retirement references a stale region generation",
          staleDetail generation region.generation⟩
      -- retiring a retired region again is a success without effect
      else if region.lifecycle = .retired then .error .success
      else if !isLegalRegionTransition region.lifecycle .retired then
        .error ⟨.invalidTransition,
          text "region lifecycle does not permit retirement from its current state",
          NameTable.toToken region.lifecycle⟩
      else .ok region

/-- The object of a retired region: its read grants on the region are released and its
authority is recomputed. -/
def releaseRegionReads (region : RegionRecord) : Impl σ :=
  match s.objects[region.object]? with
  | none => s
  | some object =>
    let object := object.releaseReads fun grant => grant.region == region.id
    let s := s.setObject region.object object
    let recomputed := s.recomputeAuthorityLocked object
    let s := s.setObject region.object recomputed
    s.upsertDurableObjectLocked recomputed

def retireRegion (id : RegionId) (generation : RegionGeneration)
    (epoch : CoordinatorEpoch) : Status × Impl σ :=
  match s.retireRegionRefusal id generation epoch with
  | .error status => (status, s)
  | .ok region =>
    let s := s.tick
    let region := region.retireSettled s.sequence
    let s := s.setRegion id region
    let s := (s.releaseRegionNameLocked region).releaseRegionReads region
    let journalled := s.appendLocked (.upsertRegion region)
    let s := journalled.2
    if !journalled.1.isOk then (journalled.1, s) else (.success, s.tick)

/-! ### Recovery resolution and object retirement -/

def resolveRecoveryRefusal (id : ObjectId) (generation : ObjectGeneration)
    (epoch : CoordinatorEpoch) : Result ObjectRecord :=
  if epoch ≠ s.epoch then
    .error ⟨.staleEpoch, text "recovery resolution carries a stale coordinator epoch",
      staleDetail epoch s.epoch⟩
  else match s.objects[id]? with
    | none => .error ⟨.unknownObject, text "no such coherence object", id.toText⟩
    | some object =>
      if generation.defined ∧ object.generation ≠ generation then
        .error ⟨.staleObjectGeneration,
          text "recovery resolution references a stale object generation",
          staleDetail generation object.generation⟩
      else if object.lifecycle ≠ .recoveryRequired then
        .error ⟨.invalidState,
          text "the object does not require recovery in its current lifecycle",
          NameTable.toToken object.lifecycle⟩
      else if !isLegalObjectTransition object.lifecycle .active then
        .error (.make .invalidTransition
          (text "recovery resolution is not a legal lifecycle transition"))
      else .ok object

def resolveRecovery (id : ObjectId) (generation : ObjectGeneration)
    (epoch : CoordinatorEpoch) (note : Text) : Result ObjectRecord × Impl σ :=
  match s.resolveRecoveryRefusal id generation epoch with
  | .error status => (.error status, s)
  | .ok object =>
    let s := s.tick
    let object := object.resolveRecovery note s.sequence
    let s := s.setObject id object
    let journalled := s.appendLocked (.upsertObject (scrubObjectForPersistence object))
    let s := journalled.2
    if !journalled.1.isOk then (.error journalled.1, s)
    else
      let context := s.contextOf {} object.id object.generation object.ownershipGeneration
      (.ok object, s.takeDecisionId.recordDecision .recover context .ok object.recoveryNote)

def retireObjectRefusal (id : ObjectId) (generation : ObjectGeneration)
    (epoch : CoordinatorEpoch) : Result ObjectRecord :=
  if epoch ≠ s.epoch then
    .error ⟨.staleEpoch, text "object retirement carries a stale coordinator epoch",
      staleDetail epoch s.epoch⟩
  else match s.objects[id]? with
    | none => .error ⟨.unknownObject, text "no such coherence object", id.toText⟩
    | some object =>
      if object.generation ≠ generation then
        .error ⟨.staleObjectGeneration,
          text "object retirement references a stale object generation",
          staleDetail generation object.generation⟩
      else if object.lifecycle = .retired then .error .success
      else if !isLegalObjectTransition object.lifecycle .retired then
        .error ⟨.invalidTransition,
          text "object lifecycle does not permit retirement from its current state",
          NameTable.toToken object.lifecycle⟩
      else .ok object

def retireReplica (id : RegionId) : Impl σ :=
  match s.regions[id]? with
  | none => s
  | some region =>
    let region := region.retire s.sequence
    (s.setRegion id region).appendEach [.upsertRegion region]

def retireObject (id : ObjectId) (generation : ObjectGeneration)
    (epoch : CoordinatorEpoch) : Status × Impl σ :=
  match s.retireObjectRefusal id generation epoch with
  | .error status => (status, s)
  | .ok object =>
    let s := s.tick
    let object := object.retire s.sequence
    let s := s.setObject id object
    let journalled := s.appendLocked (.upsertObject (scrubObjectForPersistence object))
    let s := journalled.2
    if !journalled.1.isOk then (journalled.1, s)
    else (.success, (object.replicas.foldl retireReplica s).tick)

/-! ### Shutdown -/

def shutdownRecords : Records :=
  { s.toRecords with
    objects := s.objects.map fun _ object => object.shutdown s.sequence
    syncs := s.syncs.map fun _ sync => if sync.isSettled then sync else sync.cancel s.sequence
    invalidations := s.invalidations.map fun _ invalidation =>
      if invalidation.state = .requested then invalidation.abandon s.sequence
      else invalidation }

/-- What `begin_shutdown` journals, in the order of its loops. -/
def shutdownEntries : List JournalPayload :=
  (s.objects.toList.flatMap fun (_, object) =>
    (if object.publicationState = .pendingDurable then [.clearPendingPublication object.id]
      else []) ++
      [.upsertObject (scrubObjectForPersistence (object.shutdown s.sequence))]) ++
  (s.syncs.toList.flatMap fun (_, sync) =>
    if sync.isSettled then [] else [.upsertSync (sync.cancel s.sequence)]) ++
  (s.invalidations.toList.flatMap fun (_, invalidation) =>
    if invalidation.state = .requested then
      [.upsertInvalidation (invalidation.abandon s.sequence)]
    else [])

def beginShutdown (epoch : CoordinatorEpoch) : Status × Impl σ :=
  if epoch ≠ s.epoch then
    (⟨.staleEpoch, text "shutdown carries a stale coordinator epoch",
      staleDetail epoch s.epoch⟩, s)
  else if s.shuttingDown then (.success, s)
  else
    let s := s.tick.withShutdown true s.shutdownComplete
    let entries := s.shutdownEntries
    let s := (s.withRecords s.shutdownRecords).appendEach entries
    let context := s.contextOf {} .nil .nil .nil
    (.success,
      s.takeDecisionId.recordDecision .shutdown context .ok
        (text "shutdown initiated; authority revoked"))

def completeShutdown (epoch : CoordinatorEpoch) : Status × Impl σ :=
  if epoch ≠ s.epoch then
    (⟨.staleEpoch, text "shutdown carries a stale coordinator epoch",
      staleDetail epoch s.epoch⟩, s)
  else if !s.shuttingDown then
    (.make .invalidState (text "shutdown was never initiated"), s)
  else if s.shutdownComplete then (.success, s)
  else
    -- the image is compacted even while a publication is in flight
    let finish (store : σ) : σ :=
      (DurableStore.close
        (DurableStore.flush (DurableStore.compact store s.durable).2).2).2
    let store := if s.config.enableDurability then s.store.map finish else s.store
    (.success,
      (s.withPersistence { s.toPersistence with store := store }).withShutdown true true)

end Impl

end CoherenceFabric
