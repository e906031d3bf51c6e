import CoherenceFabric.Effects.Commit

/-!
What a step leaves of the objects, the replicas, the invalidations and the synchronizations.

There is one constructor for each way an operation can end, with what it has checked before.
Invariants that tie records of different kinds to each other are proved by cases on this relation.
-/

namespace CoherenceFabric

variable {σ : Type}

/-- The records that the operations on an object write. -/
structure Ledger where
  objects : Map ObjectId ObjectRecord
  regions : Map RegionId RegionRecord
  invalidations : Map InvalidationId InvalidationRecord
  syncs : Map SyncOperationId SyncRecord

namespace Ledger

variable (l : Ledger)

def setObject (id : ObjectId) (object : ObjectRecord) : Ledger :=
  { l with objects := l.objects.insert id object }

def setRegion (id : RegionId) (region : RegionRecord) : Ledger :=
  { l with regions := l.regions.insert id region }

def setInvalidation (id : InvalidationId) (record : InvalidationRecord) : Ledger :=
  { l with invalidations := l.invalidations.insert id record }

def setSync (id : SyncOperationId) (record : SyncRecord) : Ledger :=
  { l with syncs := l.syncs.insert id record }

lemma setObject_setObject (id : ObjectId) (object object' : ObjectRecord) :
    (l.setObject id object).setObject id object' = l.setObject id object' := by
  simp [setObject, FiniteMap.insert_insert]

lemma setObject_setRegion (id : RegionId) (region : RegionRecord) (key : ObjectId)
    (object : ObjectRecord) : (l.setRegion id region).setObject key object =
      (l.setObject key object).setRegion id region := rfl

lemma setObject_withRegions (regions : Map RegionId RegionRecord) (key : ObjectId)
    (object : ObjectRecord) : ({ l with regions := regions } : Ledger).setObject key object =
      { l.setObject key object with regions := regions } := rfl

end Ledger

def Records.ledger (r : Records) : Ledger := ⟨r.objects, r.regions, r.invalidations, r.syncs⟩

/-! ### What an operation does to every record of a kind -/

def ObjectRecord.cutOff (object : ObjectRecord) (id : ParticipantId) (boot : ParticipantBootId)
    (policy : DirtyLossPolicy) (sequence : OperationSequence) : ObjectRecord :=
  let object :=
    if object.writer = id ∧ object.writerBoot = boot then object.revokeWriter policy sequence
    else object
  let mine (grant : ReadGrant) : Bool :=
    grant.participant == id && !(boot.defined && grant.boot != boot)
  if object.reads.any fun grant => !grant.released && mine grant then
    { object.releaseReads mine with updatedSequence := sequence }
  else object

abbrev ObjectRecord.passOutstanding (object : ObjectRecord) (id : InvalidationId)
    (sequence : OperationSequence) : ObjectRecord :=
  (object.addOutstanding id sequence).dropOutstanding id

def RegionRecord.cutOff (region : RegionRecord) (id : ParticipantId) (boot : ParticipantBootId)
    (reason : Text) (sequence : OperationSequence) : RegionRecord :=
  if region.participant = id ∧ region.boot = boot ∧ region.state ≠ .retired then
    region.fence reason sequence
  else region

def SyncRecord.cutOff (sync : SyncRecord) (id : ParticipantId) (boot : ParticipantBootId)
    (sequence : OperationSequence) : SyncRecord :=
  if sync.destinationParticipant = id ∧ sync.destinationBoot = boot ∧ !sync.isSettled then
    sync.fence sequence
  else sync

def InvalidationRecord.cutOff (record : InvalidationRecord) (id : ParticipantId)
    (boot : ParticipantBootId) (sequence : OperationSequence) : InvalidationRecord :=
  if record.targetParticipant = id ∧ record.targetBoot = boot ∧ record.state = .requested then
    record.supersede Impl.fencedTarget sequence
  else record

def RegionRecord.leaveBoot (region : RegionRecord) (id : ParticipantId)
    (boot : ParticipantBootId) (sequence : OperationSequence) : RegionRecord :=
  if region.participant == id && region.boot == boot && region.lifecycle != .retired then
    region.supersedeBoot sequence
  else region

def RegionRecord.afterCommit (region : RegionRecord) (key : RegionId) (frame : PublishFrame)
    (replicas : List RegionId) (evidence : EvidenceId) (sequence : OperationSequence) :
    RegionRecord :=
  if key = frame.region then
    region.publish frame.pending frame.pending.ownershipGeneration evidence sequence
  else if key ∈ replicas ∧ region.state = .current then
    region.superseded frame.pending.version
  else region

def RegionRecord.afterRelease (region : RegionRecord) (key : RegionId) (object : ObjectRecord)
    (sequence : OperationSequence) : RegionRecord :=
  if object.hasUnpublishedDirty ∧ key ∈ object.replicas ∧ region.dirty = .dirtyUnpublished then
    region.discardDirty sequence
  else region

/-! ### The ways a step can end -/

section Outcome

variable (s : Sys σ)

/-- What the completion of a synchronization writes to the record and to the destination. -/
inductive SyncEnd (request : SyncCompleteRequest) (record : SyncRecord) (object : ObjectRecord)
    (destination : RegionRecord) : SyncRecord → RegionRecord → Prop
  | stale {seq} (differs : object.authoritativeVersion ≠ record.sourceVersion) :
      SyncEnd request record object destination
        (record.settle .failed Impl.advancedReason seq)
        (destination.refuseSync .stale
          (text "synchronization completed against a superseded version " ++
            record.sourceVersion.toText) seq)
  | unmoved {seq} (version : object.authoritativeVersion = record.sourceVersion) :
      SyncEnd request record object destination
        (record.settle .failed Impl.unmovedReason seq)
        (destination.refuseSync .syncRequired Impl.unmovedReason seq)
  | mismatch {seq} (version : object.authoritativeVersion = record.sourceVersion) :
      SyncEnd request record object destination
        (record.settle .failed (Impl.mismatchReason request record) seq)
        (destination.refuseSync .revalidationRequired (Impl.mismatchReason request record) seq)
  | current {seq} (version : object.authoritativeVersion = record.sourceVersion)
      (content : (s.engine.policyLocked object).any (fun policy =>
          policy.requireContentFingerprint) → record.expectedContent.defined →
        request.observedContent.same record.expectedContent) :
      SyncEnd request record object destination (record.complete seq)
        (destination.completeSync (record.complete seq) object.ownershipGeneration
          request.observedContent ⟨s.engine.nextEvidenceId⟩ seq)

/-- The synchronization that a completion report is applied to. -/
structure Completes (request : SyncCompleteRequest) (record : SyncRecord) (object : ObjectRecord)
    (destination : RegionRecord) : Prop where
  planned : s.engine.syncs[request.operation]? = some record
  granted : ∃ participant, s.engine.resolveLocked request.context = .granted object participant
  object : object.id = record.object
  running : record.state ≠ .completed
  allowed : Impl.completeSyncRefusal request record = none
  found : s.engine.regions[record.destinationRegion]? = some destination

structure Fails (request : SyncFailRequest) (record : SyncRecord) : Prop where
  planned : s.engine.syncs[request.operation]? = some record
  running : record.state ≠ .completed
  caller : record.destinationParticipant = request.context.participant ∧
    record.destinationBoot = request.context.boot

structure Acknowledges (ack : InvalidationAck) (record : InvalidationRecord)
    (object : ObjectRecord) : Prop where
  issued : s.engine.invalidations[ack.invalidation]? = some record
  granted : ∃ participant, s.engine.resolveLocked ack.context = .granted object participant
  allowed : Impl.acknowledgeRefusal ack record object = none
  unsettled : record.state ≠ .acknowledged ∧ record.state ≠ .superseded

structure Invalidates (request : InvalidationRequest) (object : ObjectRecord)
    (region : RegionRecord) : Prop where
  resolved : s.engine.resolveInternalLocked request.context = .ok object
  allowed : s.engine.invalidateRefusal request object = .ok region

/-- The invalidation is issued: the target is not inert and none is outstanding for it. -/
structure Issues (request : InvalidationRequest) (object : ObjectRecord)
    (region : RegionRecord) : Prop extends Invalidates s request object region where
  live : ¬ (region.lifecycle = .retired ∨ region.state = .retired ∨ region.state = .fenced)
  alone : s.engine.outstandingFor object region = none

/-- A write transfer is granted to the caller. -/
structure Transfers (request : WriteRequest) (object : ObjectRecord)
    (participant : ParticipantRecord) : Prop where
  granted : s.engine.resolveLocked request.context = .granted object participant
  idle : object.authority ≠ .exclusiveWriter ∧ object.authority ≠ .transferPending
  settled : object.publicationState ≠ .pendingDurable
  clean : object.hasUnpublishedDirty = false

/-- The ledger after a step, and whether the store is healthy then. Most operations write
the same records whether or not the journal accepts them; where they differ, the store is
not healthy after the group was refused. -/
inductive Outcome : Action → Bool → Ledger → Prop
  | idle {healthy a} : Outcome a healthy s.engine.ledger
  | rejoin {healthy name boot epoch label seq} {id : ParticipantId} {record : ParticipantRecord}
      (known : s.engine.participantIndex[name]? = some id)
      (found : record = (s.engine.participants[id]?).getD {})
      (differs : ¬ (record.boot = boot ∧ record.lifecycle ≠ .retired)) :
      Outcome (.registerParticipant name boot epoch label) healthy
        { s.engine.ledger with
          regions := s.engine.regions.map fun _ region =>
            region.leaveBoot record.id record.boot seq }
  | fence {healthy id epoch reason participant seq} (e : Impl σ) (current : epoch = s.engine.epoch)
      (known : s.engine.participants[id]? = some participant)
      (live : participant.lifecycle ≠ .retired)
      (stage : e.ledger =
        { objects := s.engine.objects.map fun _ object =>
            object.cutOff id participant.boot (s.engine.dirtyLossPolicyOf object) seq
          regions := s.engine.regions.map fun _ region =>
            region.cutOff id participant.boot reason seq
          invalidations := s.engine.invalidations.map fun _ record =>
            record.cutOff id participant.boot seq
          syncs := s.engine.syncs.map fun _ sync => sync.cutOff id participant.boot seq }) :
      Outcome (.fenceParticipant id epoch reason) healthy
        { e.ledger with
          objects := e.objects.map fun _ object => e.recomputeAuthorityLocked object }
  | registerObject {healthy domain name length policy}
      (allowed : s.engine.registerObjectRefusal domain name length policy = none) :
      Outcome (.registerObject domain name length policy) healthy
        { s.engine.ledger with
          objects := s.engine.objects.insertIfNew
            (s.engine.newObject domain name length (s.engine.newPolicy policy)).id
            (s.engine.newObject domain name length (s.engine.newPolicy policy)) }
  | setPolicy {healthy id generation expected next object seq}
      (allowed : s.engine.setPolicyRefusal id generation expected next = .ok object) :
      Outcome (.setPolicy id generation expected next) healthy
        (s.engine.ledger.setObject id
          (object.setPolicy (s.engine.replacementPolicy object next) seq))
  | enrolFailed {registration object participant seq}
      (allowed : s.engine.registerRegionRefusal registration = .ok (object, participant)) :
      Outcome (.registerRegion registration) false
        (s.engine.ledger.setObject registration.context.object
          (object.addReplica (s.engine.newRegion registration object participant).id seq))
  | enrol {healthy registration object participant seq}
      (allowed : s.engine.registerRegionRefusal registration = .ok (object, participant)) :
      Outcome (.registerRegion registration) healthy
        { s.engine.ledger.setObject registration.context.object
            (object.addReplica (s.engine.newRegion registration object participant).id seq) with
          regions := s.engine.regions.insertIfNew
            (s.engine.newRegion registration object participant).id
            (s.engine.newRegion registration object participant) }
  | retireOrphan {healthy id generation epoch region seq}
      (allowed : s.engine.retireRegionRefusal id generation epoch = .ok region)
      (absent : s.engine.objects[region.object]? = none) :
      Outcome (.retireRegion id generation epoch) healthy
        (s.engine.ledger.setRegion id (region.retireSettled seq))
  | retireRegion {healthy id generation epoch region object seq} (e : Impl σ)
      (allowed : s.engine.retireRegionRefusal id generation epoch = .ok region)
      (found : s.engine.objects[region.object]? = some object)
      (stage : e.ledger = (s.engine.ledger.setRegion id (region.retireSettled seq)).setObject
        region.object (object.releaseReads fun grant => grant.region == region.id)) :
      Outcome (.retireRegion id generation epoch) healthy
        (e.ledger.setObject region.object (e.recomputeAuthorityLocked
          (object.releaseReads fun grant => grant.region == region.id)))
  | prefer {healthy a object participant id} {request : ReadRequest}
      (reads : a = .acquireRead request ∨ a = .explainRead request)
      (granted : s.engine.resolveLocked request.context = .granted object participant) :
      Outcome a healthy (s.engine.ledger.setObject request.context.object
        { object with preferredCurrentReplica := id })
  | grantRead {healthy request object participant id region lease} {selected : RegionId}
      (e : Impl σ)
      (granted : s.engine.resolveLocked request.context = .granted object participant)
      (found : s.engine.regions[selected]? = some region) (belongs : region.object = object.id)
      (current : region.state = .current) :
      Outcome (.acquireRead request) healthy (s.engine.ledger.setObject request.context.object
        (e.addReadGrantLocked { object with preferredCurrentReplica := id } region
          request.context lease))
  | transferFailed {request object participant required seq}
      (transfers : Transfers s request object participant) :
      Outcome (.acquireWrite request) false (s.engine.ledger.setObject request.context.object
        (object.grantWrite request.context.participant participant.boot required
          seq).rollbackWrite)
  | transfer {healthy request object participant seq} {replica : RegionId} (e : Impl σ)
      (transfers : Transfers s request object participant)
      (records : e.toRecords = s.engine.toRecords)
      (next : e.nextInvalidationId = s.engine.nextInvalidationId)
      (required : List InvalidationRecord)
      (conflicts : required = e.transferInvalidations object object.ownershipGeneration.next
        e.nextInvalidationId (e.conflictingRegions object replica)) :
      Outcome (.acquireWrite request) healthy
        (required.foldl (Impl.issueInvalidation seq) (s.engine.toRecords.setObject
          request.context.object (object.grantWrite request.context.participant participant.boot
            required seq))).ledger
  | promote {healthy request object participant}
      (granted : s.engine.resolveLocked request.context = .granted object participant)
      (pending : object.authority = .transferPending)
      (settled : s.engine.hasOutstandingInvalidationsLocked object.id = false) :
      Outcome (.acquireWrite request) healthy (s.engine.ledger.setObject request.context.object
        { object with authority := .exclusiveWriter })
  | markDirty {healthy request object participant region seq}
      (granted : s.engine.resolveLocked request.context = .granted object participant)
      (allowed : s.engine.markDirtyRefusal request object = .ok region) :
      Outcome (.markDirty request) healthy
        ((s.engine.ledger.setObject request.context.object (object.markDirty seq)).setRegion
          request.region (region.markDirty request object.ownershipGeneration seq))
  | reserve {healthy request object participant policy region receipt seq}
      (reserves : Reserves s.engine request object participant policy region receipt)
      (pending : PendingPublication)
      (made : pending = (s.engine.reservation request policy object receipt).1.pending) :
      Outcome (.publishReserve request) healthy (s.engine.ledger.setObject request.context.object
        (object.reserve pending seq))
  | abort {healthy index frame object} (ready : s.ready index = some frame)
      (found : s.engine.objects[frame.pending.object]? = some object)
      (lost : s.engine.commitTarget frame = none) :
      Outcome (.publishCommit index) healthy
        (s.engine.ledger.setObject frame.pending.object object.abortPending)
  | commit {healthy index frame object bound seq} (ready : s.ready index = some frame)
      (target : s.engine.commitTarget frame = some object) :
      Outcome (.publishCommit index) healthy
        { s.engine.ledger.setObject frame.pending.object
            (object.commit frame.pending frame.pending.writer frame.pending.writerBoot bound
              seq) with
          regions := s.engine.regions.map fun key region =>
            region.afterCommit key frame object.replicas ⟨s.engine.nextEvidenceId⟩ seq }
  | releaseLease {healthy request object participant index seq} (e : Impl σ)
      (granted : s.engine.resolveLocked request.context = .granted object participant)
      (stage : e.ledger = s.engine.ledger.setObject request.context.object
        (object.releaseAt index)) :
      Outcome (.release request) healthy (e.ledger.setObject request.context.object
        { e.recomputeAuthorityLocked (object.releaseAt index) with updatedSequence := seq })
  | releaseAuthority {healthy request object participant seq} (e : Impl σ)
      (granted : s.engine.resolveLocked request.context = .granted object participant)
      (writer : object.writer = request.context.participant ∧
        object.writerBoot = request.context.boot)
      (ownership : request.ownershipGeneration = object.ownershipGeneration)
      (stage : e.ledger =
        { s.engine.ledger.setObject request.context.object (s.engine.relinquish object) with
          regions := s.engine.regions.map fun key region =>
            region.afterRelease key object seq }) :
      Outcome (.release request) healthy (e.ledger.setObject request.context.object
        { e.recomputeAuthorityLocked (s.engine.relinquish object) with updatedSequence := seq })
  | invalidateInert {healthy request object region} (e : Impl σ)
      (invalidates : Invalidates s request object region)
      (next : e.nextInvalidationId = s.engine.nextInvalidationId)
      (inert : region.lifecycle = .retired ∨ region.state = .retired ∨ region.state = .fenced) :
      Outcome (.invalidate request) healthy (s.engine.ledger.setInvalidation
        ⟨s.engine.nextInvalidationId⟩ (e.inertInvalidation request object region))
  | invalidateNowFailed {request object region seq} (e : Impl σ)
      (issues : Issues s request object region)
      (settled : request.acknowledgementRequired = false)
      (stage : e.ledger = (s.engine.ledger.setObject request.context.object
        (object.passOutstanding ⟨s.engine.nextInvalidationId⟩ seq)).setRegion
          request.targetRegion (region.invalidate ⟨s.engine.nextInvalidationId⟩ seq)) :
      Outcome (.invalidate request) false (e.ledger.setObject request.context.object
        (e.recomputeAuthorityLocked
          (object.passOutstanding ⟨s.engine.nextInvalidationId⟩ seq)))
  | invalidateNow {healthy request object region seq} (e e' : Impl σ)
      (issues : Issues s request object region)
      (settled : request.acknowledgementRequired = false)
      (next : e'.nextInvalidationId = s.engine.nextInvalidationId)
      (stage : e.ledger = (s.engine.ledger.setObject request.context.object
        (object.passOutstanding ⟨s.engine.nextInvalidationId⟩ seq)).setRegion
          request.targetRegion (region.invalidate ⟨s.engine.nextInvalidationId⟩ seq)) :
      Outcome (.invalidate request) healthy ((e.ledger.setObject request.context.object
        (e.recomputeAuthorityLocked
          (object.passOutstanding ⟨s.engine.nextInvalidationId⟩ seq))).setInvalidation
            ⟨s.engine.nextInvalidationId⟩ (e'.settledInvalidation request object region))
  | invalidateLaterFailed {request object region seq}
      (issues : Issues s request object region)
      (awaits : request.acknowledgementRequired = true) :
      Outcome (.invalidate request) false ((s.engine.ledger.setObject request.context.object
        (object.addOutstanding ⟨s.engine.nextInvalidationId⟩ seq)).setRegion
          request.targetRegion (region.awaitInvalidation ⟨s.engine.nextInvalidationId⟩ seq))
  | invalidateLater {healthy request object region seq} (e : Impl σ)
      (issues : Issues s request object region)
      (awaits : request.acknowledgementRequired = true)
      (next : e.nextInvalidationId = s.engine.nextInvalidationId) :
      Outcome (.invalidate request) healthy (((s.engine.ledger.setObject request.context.object
        (object.addOutstanding ⟨s.engine.nextInvalidationId⟩ seq)).setRegion
          request.targetRegion (region.awaitInvalidation ⟨s.engine.nextInvalidationId⟩
            seq)).setInvalidation ⟨s.engine.nextInvalidationId⟩
              (e.newInvalidation request object region))
  | acknowledgeMissing {healthy ack record object seq} (e : Impl σ)
      (acknowledges : Acknowledges s ack record object)
      (absent : s.engine.regions[record.region]? = none)
      (stage : e.ledger = (s.engine.ledger.setInvalidation ack.invalidation
        (record.supersede Impl.missingTarget seq)).setObject ack.context.object
          (object.dropOutstanding record.id)) :
      Outcome (.acknowledgeInvalidation ack) healthy (e.ledger.setObject ack.context.object
        (e.recomputeAuthorityLocked (object.dropOutstanding record.id)))
  | acknowledgeReplaced {healthy ack record object region seq} (e : Impl σ)
      (acknowledges : Acknowledges s ack record object)
      (found : s.engine.regions[record.region]? = some region)
      (differs : region.generation ≠ record.regionGeneration ∨
        region.replicaGeneration ≠ record.replicaGeneration ∨
        region.generation ≠ ack.regionGeneration ∨
        region.replicaGeneration ≠ ack.replicaGeneration)
      (stage : e.ledger = (s.engine.ledger.setInvalidation ack.invalidation
        (record.supersede Impl.replacedTarget seq)).setObject ack.context.object
          (object.dropOutstanding record.id)) :
      Outcome (.acknowledgeInvalidation ack) healthy (e.ledger.setObject ack.context.object
        (e.recomputeAuthorityLocked (object.dropOutstanding record.id)))
  | acknowledge {healthy ack record object region version seq} (e : Impl σ)
      (acknowledges : Acknowledges s ack record object)
      (found : s.engine.regions[record.region]? = some region)
      (agrees : region.generation = record.regionGeneration ∧
        region.replicaGeneration = record.replicaGeneration ∧
        region.generation = ack.regionGeneration ∧
        region.replicaGeneration = ack.replicaGeneration)
      (stage : e.ledger = ((s.engine.ledger.setRegion record.region
        (region.invalidate record.id seq)).setInvalidation ack.invalidation
          (record.acknowledge version seq)).setObject ack.context.object
            (object.dropOutstanding record.id)) :
      Outcome (.acknowledgeInvalidation ack) healthy (e.ledger.setObject ack.context.object
        { e.recomputeAuthorityLocked (object.dropOutstanding record.id) with
          updatedSequence := seq })
  | beginSyncFailed {request object participant source destination seq}
      (granted : s.engine.resolveLocked request.context = .granted object participant)
      (allowed : s.engine.beginSyncRefusal request object = .ok (source, destination)) :
      Outcome (.beginSync request) false (s.engine.ledger.setRegion request.destinationRegion
        (destination.requestSync ⟨s.engine.nextSyncId⟩ source.id seq))
  | beginSync {healthy request object participant source destination seq} (e : Impl σ)
      (granted : s.engine.resolveLocked request.context = .granted object participant)
      (allowed : s.engine.beginSyncRefusal request object = .ok (source, destination))
      (next : e.nextSyncId = s.engine.nextSyncId) :
      Outcome (.beginSync request) healthy ((s.engine.ledger.setRegion request.destinationRegion
        (destination.requestSync ⟨s.engine.nextSyncId⟩ source.id seq)).setSync
          ⟨s.engine.nextSyncId⟩ (e.newSync request object source destination))
  | completeRetired {healthy request record object destination seq}
      (completes : Completes s request record object destination)
      (retired : destination.lifecycle = .retired ∨ destination.state = .retired) :
      Outcome (.completeSync request) healthy (s.engine.ledger.setSync request.operation
        (record.settle .cancelled Impl.retiredReason seq))
  | completeSync {healthy request record object destination record' destination'}
      (completes : Completes s request record object destination)
      (live : destination.lifecycle ≠ .retired ∧ destination.state ≠ .retired)
      (ends : SyncEnd s request record object destination record' destination') :
      Outcome (.completeSync request) healthy ((s.engine.ledger.setSync request.operation
        record').setRegion record.destinationRegion destination')
  | failMissing {healthy request record seq} {state : SyncState} (fails : Fails s request record)
      (absent : s.engine.regions[record.destinationRegion]? = none) :
      Outcome (.failSync request) healthy (s.engine.ledger.setSync request.operation
        (record.settle state (Impl.failureReason request) seq))
  | failSync {healthy request record destination seq} {state : SyncState}
      (fails : Fails s request record)
      (found : s.engine.regions[record.destinationRegion]? = some destination) :
      Outcome (.failSync request) healthy ((s.engine.ledger.setSync request.operation
        (record.settle state (Impl.failureReason request) seq)).setRegion
          record.destinationRegion (destination.refuseSync (Impl.failedDestination request).1
            (Impl.failedDestination request).2 seq))
  | revalidate {healthy request object participant region seq}
      (granted : s.engine.resolveLocked request.context = .granted object participant)
      (allowed : s.engine.revalidateRefusal request object = .ok region) :
      Outcome (.revalidateRegion request) healthy (s.engine.ledger.setRegion request.region
        (region.revalidate request object.authoritativeVersion object.ownershipGeneration
          ⟨s.engine.nextEvidenceId⟩ seq))
  | resolveRecovery {healthy id generation epoch note object seq}
      (allowed : s.engine.resolveRecoveryRefusal id generation epoch = .ok object) :
      Outcome (.resolveRecovery id generation epoch note) healthy
        (s.engine.ledger.setObject id (object.resolveRecovery note seq))
  | retireObjectFailed {id generation epoch object seq}
      (allowed : s.engine.retireObjectRefusal id generation epoch = .ok object) :
      Outcome (.retireObject id generation epoch) false
        (s.engine.ledger.setObject id (object.retire seq))
  | retireObject {healthy id generation epoch object seq}
      (allowed : s.engine.retireObjectRefusal id generation epoch = .ok object) :
      Outcome (.retireObject id generation epoch) healthy
        { s.engine.ledger.setObject id (object.retire seq) with
          regions := s.engine.regions.map fun key region =>
            if key ∈ object.replicas then region.retire seq else region }
  | shutdown {healthy epoch seq} (current : epoch = s.engine.epoch)
      (running : s.engine.shuttingDown = false) :
      Outcome (.beginShutdown epoch) healthy
        { s.engine.ledger with
          objects := s.engine.objects.map fun _ object => object.shutdown seq
          invalidations := s.engine.invalidations.map fun _ record =>
            if record.state = .requested then record.abandon seq else record
          syncs := s.engine.syncs.map fun _ sync =>
            if sync.isSettled then sync else sync.cancel seq }

end Outcome

lemma Invalidates.found {s : Sys σ} {request object region}
    (h : Invalidates s request object region) :
    s.engine.objects[request.context.object]? = some object :=
  (resolveInternalLocked_ok h.resolved).2.2.1

end CoherenceFabric
