import CoherenceFabric.Engine.Resolve

/-!
Domains and participants: creation, admission, session close and fencing.
-/

namespace CoherenceFabric

variable {σ : Type}

/-! ### What happens to a record -/

namespace DirtyCondition

def lost : DirtyCondition → DirtyCondition
  | .dirtyUnpublished => .dirtyLost
  | dirty => dirty

lemma lost_ne (dirty : DirtyCondition) : dirty.lost ≠ .dirtyUnpublished := by
  cases dirty <;> decide

end DirtyCondition

namespace RegionRecord

variable (region : RegionRecord)

def retire (sequence : OperationSequence) : RegionRecord :=
  { region with
    lifecycle := .retired
    state := .retired
    dirty := region.dirty.lost
    evidence := .nil
    evidenceGeneration := .nil
    updatedSequence := sequence }

def retireSettled (sequence : OperationSequence) : RegionRecord :=
  { region.retire sequence with
    invalidationPending := false
    pendingInvalidation := .nil
    pendingInvalidationTarget := .nil }

def supersedeBoot (sequence : OperationSequence) : RegionRecord :=
  { region.retireSettled sequence with
    note := text
      "retired when the owning participant was re-admitted under a new boot identity" }

def fence (reason : Text) (sequence : OperationSequence) : RegionRecord :=
  { region with
    state := .fenced
    dirty := region.dirty.lost
    evidence := .nil
    evidenceGeneration := .nil
    note := text "owning participant was fenced: " ++ reason
    updatedSequence := sequence }

end RegionRecord

namespace ObjectRecord

variable (object : ObjectRecord)

def publicationOpen : Bool :=
  object.publicationState matches .pendingDurable | .recoveryRequired

def abortPending : ObjectRecord :=
  { object with
    publicationState := .aborted
    pendingPublication := .nil
    pendingVersion := .nil
    pendingContent := {} }

/-- The only dirty holder disappeared before publication. -/
def loseDirty (policy : DirtyLossPolicy) : ObjectRecord :=
  match policy with
  | .reportLost => { object with hasUnpublishedDirty := false, dirtyCondition := .dirtyLost }
  | .requireRecovery =>
    { object with
      hasUnpublishedDirty := false
      dirtyCondition := .dirtyUnknown
      lifecycle := .recoveryRequired
      recoveryNote := text
        ("dirty authority holder was fenced before publication; recoverable state is " ++
          "unknown") }
  | .reportUnknown | .unspecified =>
    { object with hasUnpublishedDirty := false, dirtyCondition := .dirtyUnknown }

/-- What fencing its writer does to an object. -/
def revokeWriter (policy : DirtyLossPolicy) (sequence : OperationSequence) : ObjectRecord :=
  let object := { object with authority := .none, writer := .nil, writerBoot := .nil }
  let object := if object.publicationOpen then object.abortPending else object
  let object := if object.hasUnpublishedDirty then object.loseDirty policy else object
  { object with updatedSequence := sequence }

section Revoke

variable (policy : DirtyLossPolicy) (sequence : OperationSequence)

@[simp] lemma revokeWriter_id : (object.revokeWriter policy sequence).id = object.id := by
  unfold revokeWriter loseDirty
  dsimp only
  repeat' split
  all_goals rfl

@[simp] lemma revokeWriter_authority : (object.revokeWriter policy sequence).authority = .none := by
  unfold revokeWriter loseDirty
  dsimp only
  repeat' split
  all_goals rfl

@[simp] lemma revokeWriter_writer : (object.revokeWriter policy sequence).writer = .nil := by
  unfold revokeWriter loseDirty
  dsimp only
  repeat' split
  all_goals rfl

end Revoke

end ObjectRecord

namespace SyncRecord

def fence (sync : SyncRecord) (sequence : OperationSequence) : SyncRecord :=
  { sync with
    state := .outcomeUnknown
    settledSequence := sequence
    failureReason := text
      "destination participant was fenced before synchronization completed" }

def isSettled (sync : SyncRecord) : Bool := sync.state matches .completed | .cancelled | .failed

end SyncRecord

namespace ParticipantRecord

variable (record : ParticipantRecord)

def reregister (epoch : CoordinatorEpoch) : ParticipantRecord :=
  { record with
    lastEpoch := epoch
    live := true
    lifecycle := if record.lifecycle matches .observed | .admitted then .active
      else record.lifecycle }

def reincarnate (boot : ParticipantBootId) (epoch : CoordinatorEpoch)
    (nodeLabel : Text) : ParticipantRecord :=
  { record with
    previousBoot := record.boot
    boot := boot
    lifecycle := .active
    live := true
    admittedEpoch := epoch
    lastEpoch := epoch
    session := .nil
    lastSequence := .nil
    fenceReason := text "superseded by a new participant boot identity"
    nodeLabel := nodeLabel }

def closeSession : ParticipantRecord :=
  { record with
    live := false
    lifecycle := if record.lifecycle = .active then .degraded else record.lifecycle }

def fence (reason : Text) (epoch : CoordinatorEpoch) : ParticipantRecord :=
  { record with lifecycle := .fenced, live := false, fenceReason := reason, lastEpoch := epoch }

end ParticipantRecord

namespace InvalidationRecord

/-- The record is settled without the target having acted on it. -/
def supersede (record : InvalidationRecord) (rationale : Text)
    (sequence : OperationSequence) : InvalidationRecord :=
  { record with state := .superseded, settledSequence := sequence, rationale := rationale }

end InvalidationRecord

namespace Impl

variable [DurableStore σ] (s : Impl σ)

/-! ### Domains -/

variable (name : Text)

def createDomainRefusal : Option Status :=
  if s.shuttingDown then
    some (.make .shuttingDown (text "the coherence engine is shutting down"))
  else if name.isEmpty then
    some (.make .invalidArgument (text "domain name must not be empty"))
  else if s.domainIndex.contains name then
    some ⟨.duplicateIdentity, text "a domain with this name already exists", name⟩
  else if s.config.maxDomains ≤ s.domains.size then
    some ⟨.capacityExceeded, text "domain capacity reached", decimal s.config.maxDomains⟩
  else none

def newDomain : DomainRecord where
  id := ⟨s.nextDomainId⟩
  name := name
  generation := 1
  lifecycle := .active
  createdEpoch := s.epoch
  currentEpoch := s.epoch

def createDomain : Result DomainRecord × Impl σ :=
  match s.createDomainRefusal name with
  | some status => (.error status, s)
  | none =>
    let record := s.newDomain name
    let s := s.withCounters { s.toCounters with nextDomainId := s.nextDomainId + 1 }
    let journalled := s.appendLocked (.upsertDomain record)
    let s := journalled.2
    if !journalled.1.isOk then (.error journalled.1, s)
    else
      (.ok record,
        (s.withRecords { s.toRecords with
          domains := s.domains.insertIfNew record.id record
          domainIndex := s.domainIndex.insertIfNew record.name record.id }).tick)

/-! ### Admission -/

def registerParticipantRefusal (boot : ParticipantBootId)
    (epoch : CoordinatorEpoch) : Option Status :=
  if s.shuttingDown then
    some (.make .shuttingDown (text "the coherence engine is shutting down"))
  else if name.isEmpty then
    some (.make .invalidArgument (text "participant name must not be empty"))
  else if !boot.defined then
    some (.make .invalidArgument (text
      "participant boot identity must be a live cryptographic identity, not a nil value"))
  else if epoch ≠ s.epoch then
    some ⟨.staleEpoch, text "participant admission carries a stale coordinator epoch",
      staleDetail epoch s.epoch⟩
  else if !s.participantIndex.contains name ∧
      s.config.maxParticipants ≤ s.participants.size then
    some ⟨.capacityExceeded, text "participant capacity reached",
      decimal s.config.maxParticipants⟩
  else none

def newParticipant (boot : ParticipantBootId)
    (epoch : CoordinatorEpoch) (nodeLabel : Text) : ParticipantRecord where
  id := ⟨s.nextParticipantId⟩
  name := name
  boot := boot
  lifecycle := .active
  admittedEpoch := epoch
  lastEpoch := epoch
  live := true
  nodeLabel := nodeLabel

def admitParticipant (record : ParticipantRecord) : Result ParticipantRecord × Impl σ :=
  let journalled := s.appendLocked (.upsertParticipant (scrubParticipantForPersistence record))
  let s := journalled.2
  if !journalled.1.isOk then (.error journalled.1, s)
  else
    (.ok record,
      (s.withRecords { s.toRecords with
        participants := s.participants.insert record.id record
        participantIndex := s.participantIndex.insert record.name record.id }).tick)

def retireSupersededRegions (participant : ParticipantId) (boot : ParticipantBootId) : Impl σ :=
  let superseded (region : RegionRecord) : Bool :=
    region.participant == participant && region.boot == boot && region.lifecycle != .retired
  let retire (region : RegionRecord) : RegionRecord :=
    if superseded region then region.supersedeBoot s.sequence else region
  let retired := (s.regions.toList.filter fun entry => superseded entry.2).map fun entry =>
    retire entry.2
  retired.foldl
    (fun s region => (s.releaseRegionNameLocked region).upsertDurableRegionLocked region)
    (s.withRecords { s.toRecords with regions := s.regions.map fun _ region => retire region })

/-- `register_participant`. An existing name under a new boot is a new incarnation: the
replicas of the old one are retired. -/
def registerParticipant (boot : ParticipantBootId)
    (epoch : CoordinatorEpoch) (nodeLabel : Text) : Result ParticipantRecord × Impl σ :=
  match s.registerParticipantRefusal name boot epoch with
  | some status => (.error status, s)
  | none =>
    match s.participantIndex[name]? with
    | some id =>
      -- `at`: every indexed participant has a record
      let record := (s.participants[id]?).getD {}
      if record.boot = boot ∧ record.lifecycle ≠ .retired then
        let record := record.reregister epoch
        let s := s.setParticipant record.id record
        (.ok record, (s.upsertDurableParticipantLocked record).tick)
      else if record.lifecycle = .retired then
        (.error ⟨.retired, text "the participant identity has been retired", name⟩, s)
      else
        (s.retireSupersededRegions record.id record.boot).admitParticipant
          (record.reincarnate boot epoch nodeLabel)
    | none =>
      admitParticipant
        (s.withCounters { s.toCounters with nextParticipantId := s.nextParticipantId + 1 })
        (s.newParticipant name boot epoch nodeLabel)

/-- `mark_session_closed`; its epoch argument is not read. -/
def markSessionClosed (id : ParticipantId) (boot : ParticipantBootId) :
    Result ParticipantRecord × Impl σ :=
  match s.participants[id]? with
  | none => (.error ⟨.unknownParticipant, text "no such participant", id.toText⟩, s)
  | some record =>
    if record.boot ≠ boot then
      (.error ⟨.staleBoot,
        text "session close carries a boot identity that is not the live one",
        text "request=" ++ boot.toText ++ text " live=" ++ record.boot.toText⟩, s)
    else
      let record := record.closeSession
      let s := s.setParticipant id record
      (.ok record, (s.upsertDurableParticipantLocked record).tick)

/-! ### Fencing -/

/-- The dirty-loss policy of an object; a missing policy reports unknown. -/
def dirtyLossPolicyOf (object : ObjectRecord) : DirtyLossPolicy :=
  match s.policies[object.policy]? with
  | some policy => policy.dirtyLossPolicy
  | none => .reportUnknown

def fencedTarget : Text :=
  text "target replica generation disappeared with the fenced participant"

/-- The live records after a fence: write authority, replicas, synchronizations and
invalidations of the incarnation. Read grants are released separately. -/
def fenceRecords (id : ParticipantId) (boot : ParticipantBootId) (reason : Text) : Records :=
  { s.toRecords with
    objects := s.objects.map fun _ object =>
      if object.writer = id ∧ object.writerBoot = boot then
        object.revokeWriter (s.dirtyLossPolicyOf object) s.sequence
      else object
    regions := s.regions.map fun _ region =>
      if region.participant = id ∧ region.boot = boot ∧ region.state ≠ .retired then
        region.fence reason s.sequence
      else region
    syncs := s.syncs.map fun _ sync =>
      if sync.destinationParticipant = id ∧ sync.destinationBoot = boot ∧ !sync.isSettled then
        sync.fence s.sequence
      else sync
    invalidations := s.invalidations.map fun _ invalidation =>
      if invalidation.targetParticipant = id ∧ invalidation.targetBoot = boot ∧
          invalidation.state = .requested then
        invalidation.supersede fencedTarget s.sequence
      else invalidation }

def fenceEntries (id : ParticipantId) (boot : ParticipantBootId)
    (reason : Text) : List JournalPayload :=
  (s.objects.toList.flatMap fun (_, object) =>
    if object.writer = id ∧ object.writerBoot = boot then
      (if object.publicationOpen then [.clearPendingPublication object.id] else []) ++
        [.upsertObject (scrubObjectForPersistence
          (object.revokeWriter (s.dirtyLossPolicyOf object) s.sequence))]
    else []) ++
  (s.regions.toList.flatMap fun (_, region) =>
    if region.participant = id ∧ region.boot = boot ∧ region.state ≠ .retired then
      [.upsertRegion (region.fence reason s.sequence)]
    else []) ++
  (s.syncs.toList.flatMap fun (_, sync) =>
    if sync.destinationParticipant = id ∧ sync.destinationBoot = boot ∧ !sync.isSettled then
      [.upsertSync (sync.fence s.sequence)]
    else []) ++
  (s.invalidations.toList.flatMap fun (_, invalidation) =>
    if invalidation.targetParticipant = id ∧ invalidation.targetBoot = boot ∧
        invalidation.state = .requested then
      [.upsertInvalidation (invalidation.supersede fencedTarget s.sequence)]
    else [])

def recomputeAllAuthorityLocked : Impl σ :=
  s.withRecords { s.toRecords with
    objects := s.objects.map fun _ object => s.recomputeAuthorityLocked object }

/-- `fence_participant`. The fence takes effect in memory even if the journal cannot be
written. -/
def fenceParticipant (id : ParticipantId) (epoch : CoordinatorEpoch)
    (reason : Text) : Result ParticipantRecord × Impl σ :=
  match s.participants[id]? with
  | none => (.error ⟨.unknownParticipant, text "no such participant", id.toText⟩, s)
  | some participant =>
    if epoch ≠ s.epoch then
      (.error ⟨.staleEpoch, text "fence request carries a stale coordinator epoch",
        staleDetail epoch s.epoch⟩, s)
    else if participant.lifecycle = .retired then
      (.error ⟨.retired, text "the participant is already retired", participant.name⟩, s)
    else
      let s := s.tick
      let entries := s.fenceEntries id participant.boot reason
      let s := s.withRecords (s.fenceRecords id participant.boot reason)
      let s := s.releaseReadsForParticipantLocked id participant.boot
      let s := s.recomputeAllAuthorityLocked
      let fenced := participant.fence reason epoch
      let s := s.setParticipant id fenced
      let journalled := s.appendManyLocked
          (entries ++ [.upsertParticipant (scrubParticipantForPersistence fenced)])
      let s := journalled.2
      if !journalled.1.isOk then (.error journalled.1, s) else (.ok fenced, s.tick)

end Impl

end CoherenceFabric
