import CoherenceFabric.Requests

/-!
The state of the engine and the helpers every operation is built from.

The state is kept in four groups, so that a helper visibly touches only one of them: the
live records, the identity counters, the persistence state (the durable image and the
store) and the decision log.
-/

namespace CoherenceFabric

open DurableStore

structure Records where
  domains : Map CoherenceDomainId DomainRecord := ∅
  participants : Map ParticipantId ParticipantRecord := ∅
  objects : Map ObjectId ObjectRecord := ∅
  regions : Map RegionId RegionRecord := ∅
  invalidations : Map InvalidationId InvalidationRecord := ∅
  syncs : Map SyncOperationId SyncRecord := ∅
  policies : Map PolicyId CoherencePolicy := ∅
  domainIndex : Map Text CoherenceDomainId := ∅
  participantIndex : Map Text ParticipantId := ∅
  objectIndex : Map (ScopedName .coherenceDomain) ObjectId := ∅
  regionIndex : Map (ScopedName .object) RegionId := ∅

structure Counters where
  nextDomainId : UInt64 := 1
  nextParticipantId : UInt64 := 1
  nextObjectId : UInt64 := 1
  nextRegionId : UInt64 := 1
  nextReplicaId : UInt64 := 1
  nextPublicationId : UInt64 := 1
  nextInvalidationId : UInt64 := 1
  nextSyncId : UInt64 := 1
  nextLeaseId : UInt64 := 1
  nextPolicyId : UInt64 := 1
  nextEvidenceId : UInt64 := 1
  nextDecisionId : UInt64 := 1

structure Persistence (σ : Type) where
  durable : DurableImage := {}
  store : Option σ := none
  nextJournalSequence : UInt64 := 1
  compactionThresholdBytes : Nat := 8388608
  storeHealthy : Bool := true
  recoveryPerformed : Bool := false
  recoveryReport : RecoveryReport := {}

structure Diagnostics where
  decisionLog : List DecisionRecord := []
  decisionsRecorded : UInt64 := 0

structure Impl (σ : Type) extends Records, Counters, Persistence σ, Diagnostics where
  config : EngineConfig
  epoch : CoordinatorEpoch := .nil
  sequence : OperationSequence := ⟨1⟩
  shuttingDown : Bool := false
  shutdownComplete : Bool := false
  inFlightPublications : Map PublicationId PendingPublication := ∅

variable {σ : Type}

/-- The constructor of the engine. The configured initial epoch is read by `attach_store`
only: a fresh engine is in epoch 1. -/
def coherenceEngine (σ : Type) (config : EngineConfig) : Impl σ where
  config := { config with
    maxDecisionLog := if config.maxDecisionLog = 0 then 1 else config.maxDecisionLog }
  epoch := ⟨1⟩
  durable := { epoch := ⟨1⟩ }

/-! ### Updates -/

namespace Records

variable (s : Records)

def setObject (id : ObjectId) (object : ObjectRecord) : Records :=
  { s with objects := s.objects.insert id object }

def setRegion (id : RegionId) (region : RegionRecord) : Records :=
  { s with regions := s.regions.insert id region }

def setInvalidation (id : InvalidationId) (record : InvalidationRecord) : Records :=
  { s with invalidations := s.invalidations.insert id record }

def setSync (id : SyncOperationId) (record : SyncRecord) : Records :=
  { s with syncs := s.syncs.insert id record }

def setParticipant (id : ParticipantId) (record : ParticipantRecord) : Records :=
  { s with participants := s.participants.insert id record }

end Records

namespace Impl

variable (s : Impl σ)

@[simps toRecords toCounters toPersistence toDiagnostics config epoch sequence shuttingDown
  shutdownComplete inFlightPublications]
def withRecords (records : Records) : Impl σ := { s with toRecords := records }

@[simps toRecords toCounters toPersistence toDiagnostics config epoch sequence shuttingDown
  shutdownComplete inFlightPublications]
def withPersistence (persistence : Persistence σ) : Impl σ :=
  { s with toPersistence := persistence }

@[simps toRecords toCounters toPersistence toDiagnostics config epoch sequence shuttingDown
  shutdownComplete inFlightPublications]
def withCounters (counters : Counters) : Impl σ := { s with toCounters := counters }

@[simps toRecords toCounters toPersistence toDiagnostics config epoch sequence shuttingDown
  shutdownComplete inFlightPublications]
def withInFlight (inFlight : Map PublicationId PendingPublication) : Impl σ :=
  { s with inFlightPublications := inFlight }

@[simps toRecords toCounters toPersistence toDiagnostics config epoch sequence shuttingDown
  shutdownComplete inFlightPublications]
def withEpoch (epoch : CoordinatorEpoch) : Impl σ := { s with epoch := epoch }

@[simps toRecords toCounters toPersistence toDiagnostics config epoch sequence shuttingDown
  shutdownComplete inFlightPublications]
def withShutdown (shuttingDown shutdownComplete : Bool) : Impl σ :=
  { s with shuttingDown := shuttingDown, shutdownComplete := shutdownComplete }

@[simps toRecords toCounters toPersistence toDiagnostics config epoch sequence shuttingDown
  shutdownComplete inFlightPublications]
def withDiagnostics (diagnostics : Diagnostics) : Impl σ :=
  { s with toDiagnostics := diagnostics }

@[simps toRecords toCounters toPersistence toDiagnostics config epoch sequence shuttingDown
  shutdownComplete inFlightPublications]
def tick : Impl σ := { s with sequence := s.sequence.next }

abbrev setObject (id : ObjectId) (object : ObjectRecord) : Impl σ :=
  s.withRecords (s.toRecords.setObject id object)

abbrev setRegion (id : RegionId) (region : RegionRecord) : Impl σ :=
  s.withRecords (s.toRecords.setRegion id region)

abbrev setInvalidation (id : InvalidationId) (record : InvalidationRecord) : Impl σ :=
  s.withRecords (s.toRecords.setInvalidation id record)

abbrev setSync (id : SyncOperationId) (record : SyncRecord) : Impl σ :=
  s.withRecords (s.toRecords.setSync id record)

abbrev setParticipant (id : ParticipantId) (record : ParticipantRecord) : Impl σ :=
  s.withRecords (s.toRecords.setParticipant id record)

end Impl

/-! ### Journalling -/

namespace Persistence

variable [DurableStore σ]

/-- Journal positions in order, starting at `position`. -/
def stamp (position : UInt64) : List JournalPayload → List JournalEntry
  | [] => []
  | payload :: rest => ⟨payload, position⟩ :: stamp (position + 1) rest

/-- Applies entries to an image up to the first one that is refused. -/
def applyAll (image : DurableImage) : List JournalEntry → Status × DurableImage
  | [] => (.success, image)
  | entry :: rest =>
    match applyJournalEntry image entry with
    | .error status => (status, image)
    | .ok image => applyAll image rest

/-- Writes stamped entries through `write`, then lets them influence the durable image. -/
def journal (p : Persistence σ) (store : σ) (entries : List JournalEntry)
    (write : σ → Status × σ) : Status × Persistence σ :=
  let p := { p with
    nextJournalSequence := p.nextJournalSequence + UInt64.ofNat entries.length }
  let written := write store
  let p := { p with store := some written.2 }
  if !written.1.isOk then (written.1, { p with storeHealthy := false })
  else
    let applied := applyAll p.durable entries
    (applied.1,
      { p with durable := applied.2, storeHealthy := p.storeHealthy && applied.1.isOk })

def append (p : Persistence σ) (enabled : Bool) (payload : JournalPayload) :
    Status × Persistence σ :=
  match p.store with
  | none => (.success, p)
  | some store =>
    if !enabled then (.success, p)
    else
      let entry : JournalEntry := ⟨payload, p.nextJournalSequence⟩
      p.journal store [entry] fun store => DurableStore.append store entry

/-- `append_many_locked` on the persistence state: every entry is handed to the store before
any of them is applied to the durable image. -/
def appendMany (p : Persistence σ) (enabled : Bool) (payloads : List JournalPayload) :
    Status × Persistence σ :=
  match p.store with
  | none => (.success, p)
  | some store =>
    if !enabled || payloads.isEmpty then (.success, p)
    else
      let entries := stamp p.nextJournalSequence payloads
      p.journal store entries fun store => appendBatch store entries

end Persistence

namespace Impl

variable [DurableStore σ] (s : Impl σ)

def appendLocked (payload : JournalPayload) : Status × Impl σ :=
  let r := s.toPersistence.append s.config.enableDurability payload
  (r.1, s.withPersistence r.2)

def appendManyLocked (payloads : List JournalPayload) : Status × Impl σ :=
  let r := s.toPersistence.appendMany s.config.enableDurability payloads
  (r.1, s.withPersistence r.2)

/-- Entries appended one by one, with what the appends report ignored. -/
def appendEach (payloads : List JournalPayload) : Impl σ :=
  payloads.foldl (fun s payload => (s.appendLocked payload).2) s

@[simp] lemma appendEach_toRecords (payloads : List JournalPayload) :
    ∀ s : Impl σ, (s.appendEach payloads).toRecords = s.toRecords := by
  induction payloads with
  | nil => exact fun _ => rfl
  | cons payload rest ih => exact fun s => ih (s.appendLocked payload).2

def upsertDurableObjectLocked (record : ObjectRecord) : Impl σ :=
  s.appendEach [.upsertObject (scrubObjectForPersistence record)]

def upsertDurableRegionLocked (record : RegionRecord) : Impl σ :=
  s.appendEach [.upsertRegion record]

def upsertDurableParticipantLocked (record : ParticipantRecord) : Impl σ :=
  s.appendEach [.upsertParticipant (scrubParticipantForPersistence record)]

/-- `maybe_compact_locked`: a compaction never runs while a publication reservation exists. -/
def maybeCompactLocked : Status × Impl σ :=
  match s.store with
  | none => (.success, s)
  | some store =>
    if !s.config.enableDurability || !s.inFlightPublications.isEmpty ||
        journalBytes store < s.compactionThresholdBytes then (.success, s)
    else
      let compacted := DurableStore.compact store s.durable
      (compacted.1,
        s.withPersistence { s.toPersistence with
          store := some compacted.2, storeHealthy := s.storeHealthy && compacted.1.isOk })

@[simp] lemma maybeCompactLocked_toRecords : s.maybeCompactLocked.2.toRecords = s.toRecords := by
  unfold maybeCompactLocked
  repeat' split
  all_goals rfl

@[simp] lemma maybeCompactLocked_inFlight :
    s.maybeCompactLocked.2.inFlightPublications = s.inFlightPublications := by
  unfold maybeCompactLocked
  repeat' split
  all_goals rfl

/-- `compact_locked`; what the store reports is ignored. -/
def compactLocked : Impl σ :=
  match s.store with
  | none => s
  | some store =>
    if !s.config.enableDurability || !s.inFlightPublications.isEmpty then s
    else s.withPersistence { s.toPersistence with
      store := some (DurableStore.compact store s.durable).2 }

end Impl

/-! ### Sequence and decision log -/

namespace Impl

variable (s : Impl σ)

/-- The decision context of a request, without taking a decision identity. -/
def contextOf (authority : AuthorityContext) (object : ObjectId)
    (generation : ObjectGeneration) (ownership : OwnershipGeneration) : DecisionContext :=
  let record := if object.defined then s.objects[object]? else none
  { decision := ⟨s.nextDecisionId⟩
    epoch := s.epoch
    policy := (record.map (·.policy)).getD .nil
    policyGeneration :=
      if authority.policyGeneration.defined then authority.policyGeneration
      else (record.map (·.policyGeneration)).getD .nil
    object := object
    objectGeneration := generation
    ownershipGeneration := ownership
    sequence := s.sequence }

/-- `make_context` takes the next decision identity. -/
abbrev takeDecisionId : Impl σ :=
  s.withCounters { s.toCounters with nextDecisionId := s.nextDecisionId + 1 }

/-- `make_evidence` takes the next evidence identity. -/
abbrev takeEvidenceId : Impl σ :=
  s.withCounters { s.toCounters with nextEvidenceId := s.nextEvidenceId + 1 }

abbrev takeInvalidationIds (count : Nat) : Impl σ :=
  s.withCounters { s.toCounters with
    nextInvalidationId := s.nextInvalidationId + UInt64.ofNat count }

/-- `record_decision`: the log is a ring of bounded length. -/
def recordDecision (kind : DecisionKind) (context : DecisionContext)
    (code : StatusCode) (summary : Text) : Impl σ :=
  if !s.config.enableDecisionLog then s
  else
    let log := s.decisionLog ++ [⟨kind, context, code, summary⟩]
    s.withDiagnostics
      { decisionLog := log.drop (log.length - s.config.maxDecisionLog)
        decisionsRecorded := s.decisionsRecorded + 1 }

section RecordDecision

variable (kind : DecisionKind) (context : DecisionContext) (code : StatusCode)
  (summary : Text)

@[simp] lemma recordDecision_toRecords :
    (s.recordDecision kind context code summary).toRecords = s.toRecords := by
  unfold recordDecision
  split <;> rfl

@[simp] lemma recordDecision_toCounters :
    (s.recordDecision kind context code summary).toCounters = s.toCounters := by
  unfold recordDecision
  split <;> rfl

@[simp] lemma recordDecision_toPersistence :
    (s.recordDecision kind context code summary).toPersistence = s.toPersistence := by
  unfold recordDecision
  split <;> rfl

@[simp] lemma recordDecision_inFlight :
    (s.recordDecision kind context code summary).inFlightPublications = s.inFlightPublications := by
  unfold recordDecision
  split <;> rfl

@[simp] lemma recordDecision_shuttingDown :
    (s.recordDecision kind context code summary).shuttingDown = s.shuttingDown := by
  unfold recordDecision
  split <;> rfl

@[simp] lemma recordDecision_config :
    (s.recordDecision kind context code summary).config = s.config := by
  unfold recordDecision
  split <;> rfl

@[simp] lemma recordDecision_epoch :
    (s.recordDecision kind context code summary).epoch = s.epoch := by
  unfold recordDecision
  split <;> rfl

end RecordDecision

end Impl

/-! ### Records reached from an object -/

namespace Records

/-- Any identity in the list whose invalidation is still requested. -/
def anyRequested (s : Records) (ids : List InvalidationId) : Bool :=
  ids.any fun id => (s.invalidations[id]?).any fun inv => inv.state == .requested

def hasOutstandingInvalidationsLocked (s : Records) (object : ObjectId) : Bool :=
  match s.objects[object]? with
  | none => false
  | some object => s.anyRequested object.outstandingInvalidations

end Records

namespace ObjectRecord

def anyLiveReads (object : ObjectRecord) : Bool := object.reads.any fun grant => !grant.released

/-- Releases the read grants `p` selects. -/
def releaseReads (object : ObjectRecord) (p : ReadGrant → Bool) : ObjectRecord :=
  { object with
    reads := object.reads.map fun grant =>
      if !grant.released && p grant then { grant with released := true } else grant }

end ObjectRecord

namespace RegionRecord

/-- What a commit does to another replica that was current. -/
def superseded (region : RegionRecord) (authoritative : VersionId) : RegionRecord :=
  { region with
    state := .stale
    note := text "superseded by authoritative version " ++ authoritative.toText
    evidence := .nil
    evidenceGeneration := .nil }

end RegionRecord

namespace Impl

/-- `recompute_authority_locked`, as the value the object's authority gets. -/
def recomputeAuthorityLocked (s : Impl σ) (object : ObjectRecord) : ObjectRecord :=
  match object.authority with
  | .exclusiveWriter => object
  -- dynamic authority was lost; recomputing does not downgrade that to a normal state
  | .revalidationRequired => object
  | .transferPending =>
    if s.hasOutstandingInvalidationsLocked object.id then object
    else { object with authority := .exclusiveWriter }
  | .none | .sharedReaders =>
    { object with authority := if object.anyLiveReads then .sharedReaders else .none }

/-- The release of a replica's name; the retired record itself is preserved. -/
def releaseRegionNameLocked (s : Impl σ) (record : RegionRecord) : Impl σ :=
  let key : ScopedName .object := ⟨record.object, record.name⟩
  if s.regionIndex[key]? = some record.id then
    s.withRecords { s.toRecords with regionIndex := s.regionIndex.erase key }
  else s

def retotalParticipantRegionsLocked (s : Impl σ) : Impl σ :=
  let count (id : ParticipantId) :=
    s.regions.toList.countP fun entry => entry.2.participant = id
  s.withRecords { s.toRecords with
    participants := s.participants.map fun id participant =>
      { participant with regionCount := UInt64.ofNat (count id) } }

variable [DurableStore σ]

def markRegionStale (authoritative : VersionId) (exceptRegion : RegionId) (s : Impl σ)
    (id : RegionId) : Impl σ :=
  if id = exceptRegion then s
  else match s.regions[id]? with
    | none => s
    | some region =>
      if region.state = .current then
        let region := region.superseded authoritative
        (s.setRegion id region).upsertDurableRegionLocked region
      else s

/-- `mark_regions_stale_locked`: only replicas that are current change. -/
def markRegionsStaleLocked (s : Impl σ) (object : ObjectId) (authoritative : VersionId)
    (exceptRegion : RegionId) : Impl σ :=
  match s.objects[object]? with
  | none => s
  | some object => object.replicas.foldl (markRegionStale authoritative exceptRegion) s

@[simp] lemma foldl_upsertDurableObjectLocked_toRecords (objects : List ObjectRecord) :
    ∀ s : Impl σ, (objects.foldl upsertDurableObjectLocked s).toRecords = s.toRecords := by
  induction objects with
  | nil => exact fun _ => rfl
  | cons object rest ih => exact fun s => (ih _).trans (appendEach_toRecords ..)

def releaseReadsForParticipantLocked (s : Impl σ) (participant : ParticipantId)
    (boot : ParticipantBootId) : Impl σ :=
  let mine (grant : ReadGrant) : Bool :=
    grant.participant == participant && !(boot.defined && grant.boot != boot)
  let changes (object : ObjectRecord) : Bool :=
    object.reads.any fun grant => !grant.released && mine grant
  let release (object : ObjectRecord) : ObjectRecord :=
    if changes object then
      { object.releaseReads mine with updatedSequence := s.sequence }
    else object
  let changed := (s.objects.toList.filter fun entry => changes entry.2).map fun entry =>
    release entry.2
  changed.foldl upsertDurableObjectLocked
    (s.withRecords { s.toRecords with objects := s.objects.map fun _ object => release object })

end Impl

end CoherenceFabric
