import CoherenceFabric.Engine.Registry

/-!
Durable recovery: `attach_store` of an engine on what a store holds.

Dynamic authority and currentness never survive a restart. Every record of the image is
restored through its own function below, and the outcome is written back to the store.
-/

namespace CoherenceFabric

variable {σ : Type}

def raiseCounter {tag : IdTag} (counter : UInt64) (id : StrongId tag) : UInt64 :=
  if id.defined ∧ counter < id.value + 1 then id.value + 1 else counter

/-! ### What happens to a record -/

namespace DomainRecord

def restore (record : DomainRecord) (epoch : CoordinatorEpoch) : DomainRecord :=
  { record with
    currentEpoch := epoch
    lifecycle := if record.lifecycle = .quiescing then .recoveryRequired else record.lifecycle }

end DomainRecord

namespace ParticipantRecord

def restore (record : ParticipantRecord) : ParticipantRecord :=
  { record with
    live := false
    session := .nil
    lastSequence := .nil
    lifecycle := if record.lifecycle = .active then .degraded else record.lifecycle }

end ParticipantRecord

namespace InvalidationRecord

def restore (record : InvalidationRecord) (sequence : OperationSequence) : InvalidationRecord :=
  if record.state = .requested then
    { record with
      state := .unknown
      settledSequence := sequence
      rationale := text
        ("the coordinator restarted before the acknowledgement arrived; every replica was " ++
          "conservatively downgraded, which discharges the invalidation without claiming the " ++
          "acknowledgement was observed") }
  else record

end InvalidationRecord

namespace SyncRecord

def isOpen (record : SyncRecord) : Bool :=
  record.state matches .requested | .inProgress | .planned | .outcomeUnknown

def restore (record : SyncRecord) (sequence : OperationSequence) : SyncRecord :=
  if record.isOpen then
    { record with
      state := .outcomeUnknown
      settledSequence := sequence
      failureReason := text
        ("the coordinator restarted while the transfer was in flight; whether bytes moved is " ++
          "unknown and is reported as unknown") }
  else record

lemma restore_eq (record : SyncRecord) (sequence : OperationSequence) :
    ∃ state settled reason, record.restore sequence = { record with
      state := state, settledSequence := settled, failureReason := reason } := by
  unfold restore
  split <;> exact ⟨_, _, _, rfl⟩

end SyncRecord

namespace ObjectRecord

variable (object : ObjectRecord)

/-- Dynamic authority is not restored. -/
def dropAuthority (previous : UInt64) (epoch : CoordinatorEpoch)
    (sequence : OperationSequence) : ObjectRecord :=
  { object with
    authority := .revalidationRequired
    writer := .nil
    writerBoot := .nil
    reads := []
    outstandingInvalidations := []
    updatedSequence := sequence
    recoveryNote :=
      text "dynamic authority was not restored: the coordinator epoch advanced from " ++
        decimal previous.toNat ++ text " to " ++ epoch.toText }

/-- The durable record fixes the publication and its version, so recovery converges on it. -/
def completePending (pending : PendingPublication) (sequence : OperationSequence) : ObjectRecord :=
  { object with
    authoritativeVersion := pending.version
    publishedVersion := pending.version
    publication := pending.id
    publicationState := .committed
    committedSequence := sequence
    pendingPublication := .nil
    pendingVersion := .nil
    pendingContent := {}
    hasUnpublishedDirty := false
    dirtyCondition := .dirtyPublished
    lastWriter := pending.writer
    lastWriterBoot := pending.writerBoot
    completedRequests :=
      if pending.request.defined then
        object.completedRequests ++ [⟨pending.request, pending.version, pending.id, sequence⟩]
      else object.completedRequests
    recoveryNote := object.recoveryNote ++ text
      ("; the durable pending publication was completed under its original publication and " ++
        "version identity") }

def requireOperator : ObjectRecord :=
  { object with
    publicationState := .recoveryRequired
    lifecycle := .recoveryRequired
    recoveryNote := object.recoveryNote ++ text
      ("; a durable pending publication exists whose completion the active recovery policy " ++
        "does not authorise; an operator must resolve it") }

/-- What recovery does with the publication that was in flight. The durable record is looked
up under the publication the stored object names. -/
def restorePending (pending : Option PendingPublication)
    (policy : Option CoherencePolicy) (sequence : OperationSequence) : ObjectRecord :=
  match pending with
  | some pending =>
    if (policy.map (·.recoveryPolicy)).getD .conservative = .completeDurablePending then
      object.completePending pending sequence
    else object.requireOperator
  | none =>
    if object.publicationState = .pendingDurable then
      { object.abortPending with
        recoveryNote := object.recoveryNote ++ text
          ("; an in-flight publication had no durable record and was aborted rather than " ++
            "assumed to have committed") }
    else object

def restoreDirty (policy : DirtyLossPolicy) : ObjectRecord :=
  let object := { object with
    hasUnpublishedDirty := false
    recoveryNote := object.recoveryNote ++ text
      ("; an unpublished modification existed at restart and the runtime does not invent a " ++
        "successful publication for it") }
  match policy with
  | .reportLost => { object with dirtyCondition := .dirtyLost }
  | .requireRecovery =>
    { object with dirtyCondition := .dirtyUnknown, lifecycle := .recoveryRequired }
  | .reportUnknown | .unspecified => { object with dirtyCondition := .dirtyUnknown }

end ObjectRecord

namespace RegionRecord

def isTerminal (region : RegionRecord) : Bool :=
  region.state == .retired || region.lifecycle == .retired

/-- Currentness never survives a restart. A terminal replica gets no evidence; the dirty
mark stays as it was stored. -/
def restore (region : RegionRecord) (evidence : EvidenceId) (sequence : OperationSequence) :
    RegionRecord :=
  let restored : RegionRecord := { region with
    state :=
      if region.isTerminal then .retired
      else if region.state = .fenced then .fenced
      else .revalidationRequired
    invalidationPending := false
    pendingInvalidation := .nil
    pendingInvalidationTarget := .nil
    updatedSequence := sequence }
  if region.isTerminal then restored
  else
    { restored with
      evidence := evidence
      evidenceGeneration := ⟨1⟩
      note := text
        ("restored from durable metadata; currentness must be re-established by a new " ++
          "observation") }

section Restore

variable (region : RegionRecord) (evidence : EvidenceId) (sequence : OperationSequence)

@[simp] lemma restore_lifecycle :
    (region.restore evidence sequence).lifecycle = region.lifecycle := by
  unfold restore
  split <;> rfl

@[simp] lemma restore_dirty : (region.restore evidence sequence).dirty = region.dirty := by
  unfold restore
  split <;> rfl

@[simp] lemma restore_version : (region.restore evidence sequence).version = region.version := by
  unfold restore
  split <;> rfl

@[simp] lemma restore_state : (region.restore evidence sequence).state =
    if region.isTerminal then .retired else if region.state = .fenced then .fenced
    else .revalidationRequired := by
  unfold restore
  split <;> rfl

end Restore

end RegionRecord

/-! ### Restoring an image -/

namespace DurableImage

def durablePending (image : DurableImage) (object : ObjectRecord) : Option PendingPublication :=
  if object.pendingPublication.defined then
    image.pendingPublications[object.pendingPublication]?
  else none

/-- A policy whose key agrees with the identity it carries. -/
def policyOf (image : DurableImage) (id : PolicyId) : Option CoherencePolicy :=
  (image.policies[id]?).filter fun policy => policy.id == id

def restoreObject (image : DurableImage) (object : ObjectRecord) (previous : UInt64)
    (epoch : CoordinatorEpoch) (sequence : OperationSequence) : ObjectRecord :=
  let policy := image.policyOf object.policy
  let restored := (object.dropAuthority previous epoch sequence).restorePending
    (image.durablePending object) policy sequence
  let restored :=
    if restored.hasUnpublishedDirty then
      restored.restoreDirty ((policy.map (·.dirtyLossPolicy)).getD .reportUnknown)
    else restored
  if restored.lifecycle = .quiescing then { restored with lifecycle := .recoveryRequired }
  else restored

end DurableImage

/-- What recovery keeps of a stored object and what it drops. -/
structure ObjectRecord.Restored (object restored : ObjectRecord) : Prop where
  id : restored.id = object.id
  replicas : restored.replicas = object.replicas
  ownershipGeneration : restored.ownershipGeneration = object.ownershipGeneration
  authority : restored.authority = .revalidationRequired
  writer : restored.writer = .nil
  reads : restored.reads = []
  outstandingInvalidations : restored.outstandingInvalidations = []

namespace DurableImage

variable (image : DurableImage) (object : ObjectRecord) (previous : UInt64)
  (epoch : CoordinatorEpoch) (sequence : OperationSequence)

/-- After the publication in flight, recovery only looks at an unpublished modification and at the
lifecycle. -/
lemma restoreObject_eq : image.restoreObject object previous epoch sequence =
    let restored := image.restoreObject object previous epoch sequence
    { (object.dropAuthority previous epoch sequence).restorePending (image.durablePending object)
        (image.policyOf object.policy) sequence with
      hasUnpublishedDirty := false
      dirtyCondition := restored.dirtyCondition
      lifecycle := restored.lifecycle
      recoveryNote := restored.recoveryNote } := by
  unfold restoreObject
  dsimp only
  generalize (object.dropAuthority previous epoch sequence).restorePending _ _ _ = restored
  split
  · generalize ((image.policyOf object.policy).map (·.dirtyLossPolicy)).getD .reportUnknown = policy
    cases policy <;> by_cases hquiescing : restored.lifecycle = .quiescing <;>
      simp [ObjectRecord.restoreDirty, hquiescing]
  · rename_i hclean
    rw [← Bool.eq_false_iff.mpr hclean]
    by_cases hquiescing : restored.lifecycle = .quiescing <;> simp [hquiescing]

lemma restoreObject_restored :
    object.Restored (image.restoreObject object previous epoch sequence) := by
  rw [restoreObject_eq]
  unfold ObjectRecord.restorePending
  repeat' split
  all_goals exact ⟨rfl, rfl, rfl, rfl, rfl, rfl, rfl⟩

lemma restoreObject_writerBoot :
    (image.restoreObject object previous epoch sequence).writerBoot = .nil := by
  rw [restoreObject_eq]
  unfold ObjectRecord.restorePending
  repeat' split
  all_goals rfl

lemma restoreObject_clean :
    (image.restoreObject object previous epoch sequence).hasUnpublishedDirty = false := by
  rw [restoreObject_eq]

end DurableImage

def restoreMap {tag : IdTag} {α β : Type} (m : Map (StrongId tag) α) (idOf : α → StrongId tag)
    (restore : α → β) : Map (StrongId tag) β :=
  m.filterMap fun id record => if id = idOf record then some (restore record) else none

def mismatches {tag : IdTag} {α : Type} (m : Map (StrongId tag) α) (idOf : α → StrongId tag) :
    Nat :=
  m.toList.countP fun entry => entry.1 ≠ idOf entry.2

def buildIndex {κ : Type} [Ord κ] [Std.TransOrd κ] {tag : IdTag} {α : Type}
    (m : Map (StrongId tag) α) (nameOf : α → κ) (keep : α → Bool) : Map κ (StrongId tag) :=
  m.toList.foldl
    (fun index entry =>
      if keep entry.2 then index.insertIfNew (nameOf entry.2) entry.1 else index) ∅

def raiseAll {tag tag' : IdTag} {α : Type} (counter : UInt64) (m : Map (StrongId tag) α)
    (idOf : α → StrongId tag') : UInt64 :=
  m.toList.foldl (fun counter entry => raiseCounter counter (idOf entry.2)) counter

/-- The regions, in key order, with an evidence identity for each one that is not
terminal. -/
def restoreRegions (sequence : OperationSequence) :
    UInt64 → List (RegionId × RegionRecord) → UInt64 × Map RegionId RegionRecord
  | next, [] => (next, ∅)
  | next, (id, region) :: rest =>
    if id ≠ region.id then restoreRegions sequence next rest
    else
      let r := restoreRegions sequence (if region.isTerminal then next else next + 1) rest
      (r.1, r.2.insert id (region.restore ⟨next⟩ sequence))

namespace Impl

variable (s : Impl σ)

/-- The epoch always advances across a restart. -/
def nextEpoch (config : EngineConfig) (image : DurableImage) : CoordinatorEpoch :=
  let initial := if config.initialEpoch.defined then config.initialEpoch.value else 1
  ⟨max (image.epoch.value + 1) initial⟩

variable (image : DurableImage)

def restoreRecords : UInt64 × Records :=
  let regions := restoreRegions s.sequence s.nextEvidenceId image.regions.toList
  let domains := restoreMap image.domains (·.id) fun record => record.restore s.epoch
  let participants := restoreMap image.participants (·.id) ParticipantRecord.restore
  let objects := restoreMap image.objects (·.id) fun object =>
    image.restoreObject object image.epoch.value s.epoch s.sequence
  (regions.1,
    { domains := domains
      participants := participants
      objects := objects
      regions := regions.2
      invalidations := restoreMap image.invalidations (·.id) fun record =>
        record.restore s.sequence
      syncs := restoreMap image.syncs (·.id) fun record => record.restore s.sequence
      policies := restoreMap image.policies (·.id) id
      domainIndex := buildIndex domains (·.name) fun _ => true
      participantIndex := buildIndex participants (·.name) fun _ => true
      objectIndex := buildIndex objects
        (fun object => (⟨object.domain, object.name⟩ : ScopedName .coherenceDomain)) fun _ => true
      regionIndex := buildIndex regions.2
        (fun region => (⟨region.object, region.name⟩ : ScopedName .object))
        fun region => region.lifecycle != .retired })

/-- The identity counters raised past every restored identity. The counters of
publications, leases and evidence are not raised. -/
def raiseCounters : Impl σ :=
  (s.withCounters { s.toCounters with
    nextDomainId := raiseAll s.nextDomainId s.domains (·.id)
    nextParticipantId := raiseAll s.nextParticipantId s.participants (·.id)
    nextPolicyId := raiseAll s.nextPolicyId s.policies (·.id)
    nextInvalidationId := raiseAll s.nextInvalidationId s.invalidations (·.id)
    nextSyncId := raiseAll s.nextSyncId s.syncs (·.id)
    nextObjectId := raiseAll s.nextObjectId s.objects (·.id)
    nextRegionId := raiseAll s.nextRegionId s.regions (·.id)
    nextReplicaId := raiseAll s.nextReplicaId s.regions (·.replica) }).withPersistence
      { s.toPersistence with
        nextJournalSequence :=
          raiseCounter s.nextJournalSequence (⟨s.durable.sequence⟩ : OperationSequence) }

/-- The engine with every record of an image restored, before any of it is written back. -/
def restoreImage : Impl σ :=
  let s := s.withEpoch (nextEpoch s.config image)
  let restored := s.restoreRecords image
  let s := (s.withRecords restored.2).withCounters
    { s.toCounters with nextEvidenceId := restored.1 }
  let s := s.withPersistence { s.toPersistence with durable := { image with epoch := s.epoch } }
  s.raiseCounters.retotalParticipantRegionsLocked

def recoveryEntries : List JournalPayload :=
  [.setEpoch s.epoch] ++
    (s.participants.toList.map fun entry =>
      .upsertParticipant (scrubParticipantForPersistence entry.2)) ++
    (s.objects.toList.map fun entry => .upsertObject (scrubObjectForPersistence entry.2)) ++
    (s.regions.toList.map fun entry => .upsertRegion entry.2) ++
    (s.invalidations.toList.map fun entry => .upsertInvalidation entry.2) ++
    (s.syncs.toList.map fun entry => .upsertSync entry.2) ++
    (image.pendingPublications.toList.map fun entry => .clearPendingPublication entry.2.object)

def recoveryCounts (load : LoadReport) : RecoveryReport :=
  let restoredObjects := (image.objects.toList.filter fun entry => entry.1 = entry.2.id).map (·.2)
  let completes (object : ObjectRecord) : Bool :=
    ((image.policyOf object.policy).map (·.recoveryPolicy)).getD .conservative =
      .completeDurablePending
  { performed := true
    previousEpoch := image.epoch
    newEpoch := s.epoch
    objectsRestored := s.objects.size
    regionsRestored := s.regions.size
    participantsRestored := s.participants.size
    regionsDowngraded := image.regions.toList.countP fun entry =>
      entry.1 = entry.2.id && !entry.2.isTerminal && entry.2.state != .fenced &&
        entry.2.state != .revalidationRequired
    authorityRevoked := s.objects.size
    publicationsCompleted := restoredObjects.countP fun object =>
      (image.durablePending object).isSome && completes object
    publicationsRequiringOperator := restoredObjects.countP fun object =>
      (image.durablePending object).isSome && !completes object
    syncsClassifiedUnknown := image.syncs.toList.countP fun entry =>
      entry.1 = entry.2.id && entry.2.isOpen
    invalidationsSuperseded := image.invalidations.toList.countP fun entry =>
      entry.1 = entry.2.id && entry.2.state == .requested
    journalRecordsReplayed := load.journalRecordsReplayed
    corruptRecordsSkipped := load.corruptRecords }

def recoveryNotes (load : LoadReport) : List Text :=
  let ignored := mismatches image.domains (·.id) + mismatches image.participants (·.id) +
    mismatches image.policies (·.id)
  (if load.truncatedTail then
    [text ("the journal ended in an incomplete or corrupt record; replay stopped at that " ++
      "point and everything after it was ignored")]
  else []) ++
  (if ignored ≠ 0 then
    [decimal ignored ++
      text (" durable record(s) were ignored because their record key disagrees " ++
        "with the identity embedded in the record body")]
  else [])

variable [DurableStore σ]

/-- The outcome of recovery is written back, and the image compacted. -/
def writeBack (s : Impl σ) (image : DurableImage) : Status × Impl σ :=
  let journalled := s.appendManyLocked (s.recoveryEntries image)
  let s := journalled.2
  let s := if journalled.1.isOk then s
    else s.withPersistence { s.toPersistence with storeHealthy := false }
  (journalled.1, s.compactLocked)

def recoverFrom (s : Impl σ) (image : DurableImage) (load : LoadReport) : RecoveryReport × Impl σ :=
  let s := s.restoreImage image
  let counts := s.recoveryCounts image load
  let written := s.writeBack image
  let s := written.2.tick
  let report := { counts with
    notes := recoveryNotes image load ++
      (if written.1.isOk then []
      else [text "recovery state could not be written back durably: " ++ written.1.toText]) ++
      [text "coordinator epoch advanced from " ++ decimal image.epoch.value.toNat ++
          text " to " ++ s.epoch.toText,
        text ("every pre-restart session, boot incarnation and authority grant was " ++
          "invalidated; dynamic currentness was not restored")] }
  let context := s.contextOf {} .nil .nil .nil
  let s := s.takeDecisionId.withPersistence { s.toPersistence with
    recoveryPerformed := true, recoveryReport := report }
  (report,
    s.recordDecision .recover context .ok
      (text "durable recovery completed under epoch " ++ s.epoch.toText))

def attachStore (s : Impl σ) (store : σ) : Result RecoveryReport × Impl σ :=
  if s.store.isSome then
    (.error (.make .invalidState (text "a durable store is already attached")), s)
  else if !s.domains.isEmpty ∨ !s.objects.isEmpty ∨ !s.regions.isEmpty ∨
      !s.participants.isEmpty then
    (.error ⟨.invalidState,
      text "a durable store cannot be attached after coherence state has been created",
      text "domains=" ++ decimal s.domains.size ++ text " objects=" ++ decimal s.objects.size ++
        text " regions=" ++ decimal s.regions.size⟩, s)
  else match DurableStore.openStore store with
    | (.error status, _) => (.error status, s)
    | (.ok (load, image), store) =>
      let s := s.withPersistence { s.toPersistence with store := some store }
      let r := s.recoverFrom image load
      (.ok r.1, r.2)

end Impl

end CoherenceFabric
