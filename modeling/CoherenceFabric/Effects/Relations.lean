import CoherenceFabric.System
import CoherenceFabric.Lib.Evolve
import CoherenceFabric.Lib.Run

/-!
What one step of the system can do to a record, and to what is persisted.

There is one relation for each kind of record. Each constructor names a step, the function
that writes the record in it, and what the operation has checked before it writes. Every
invariant of a record is proved by cases on its relation.
-/

namespace CoherenceFabric

open FiniteMap Relation

variable {σ : Type}

/-! ### The replicas that three of the operations write without looking at their lifecycle -/

def Impl.acknowledgedRegion (s : Impl σ) (ack : InvalidationAck) : Option RegionRecord :=
  match s.invalidations[ack.invalidation]?, s.resolveLocked ack.context with
  | some record, .granted object _ =>
    if (acknowledgeRefusal ack record object).isSome ∨ record.state = .acknowledged ∨
        record.state = .superseded then none
    else (s.regions[record.region]?).filter fun region =>
      region.generation == record.regionGeneration &&
        region.replicaGeneration == record.replicaGeneration &&
        region.generation == ack.regionGeneration &&
        region.replicaGeneration == ack.replicaGeneration
  | _, _ => none

def Impl.failedRegion (s : Impl σ) (request : SyncFailRequest) : Option RegionRecord :=
  match s.syncs[request.operation]? with
  | none => none
  | some record =>
    if record.state = .completed ∨ record.destinationParticipant ≠ request.context.participant ∨
        record.destinationBoot ≠ request.context.boot then none
    else s.regions[record.destinationRegion]?

/-- The object a publish call in flight would commit to now, if its reservation stands. -/
def Impl.commitTarget (s : Impl σ) (frame : PublishFrame) : Option ObjectRecord :=
  if (frame.durableStatus.getD .success).isOk then
    (s.objects[frame.pending.object]?).filter fun object => object.holds frame.pending
  else none

def Impl.replicaCount (s : Impl σ) (object : ObjectId) : Nat :=
  ((s.objects[object]?).map (·.replicas.length)).getD 0

namespace Sys

/-- The call in flight at a position that is ready for phase 3. -/
def ready (s : Sys σ) (index : Nat) : Option PublishFrame :=
  (s.frames[index]?).filter fun frame => frame.durableStatus.isSome

/-- The source replica of a publication that phase 3 commits. -/
def committedRegion (s : Sys σ) (index : Nat) : Option RegionRecord :=
  match s.ready index with
  | none => none
  | some frame =>
    if (s.engine.commitTarget frame).isSome then s.engine.regions[frame.region]? else none

end Sys

/-! ### Changes of a record -/

/-- What a step can do to a replica. -/
inductive RegionStep (s : Sys σ) : Action → RegionRecord → RegionRecord → Prop
  | supersedeBoot {name boot epoch label region seq} (live : region.lifecycle ≠ .retired) :
      RegionStep s (.registerParticipant name boot epoch label) region (region.supersedeBoot seq)
  | fence {id epoch reason region seq} (live : region.state ≠ .retired) :
      RegionStep s (.fenceParticipant id epoch reason) region (region.fence reason seq)
  | retireSettled {id generation epoch region seq} :
      RegionStep s (.retireRegion id generation epoch) region (region.retireSettled seq)
  | retire {id generation epoch region seq} :
      RegionStep s (.retireObject id generation epoch) region (region.retire seq)
  | await {a region id seq} : RegionStep s a region (region.awaitInvalidation id seq)
  | markDirty {request object participant region seq}
      (granted : s.engine.resolveLocked request.context = .granted object participant)
      (allowed : s.engine.markDirtyRefusal request object = .ok region) :
      RegionStep s (.markDirty request) region
        (region.markDirty request object.ownershipGeneration seq)
  | discard {request region seq} (dirty : region.dirty = .dirtyUnpublished) :
      RegionStep s (.release request) region (region.discardDirty seq)
  | invalidate {request region id seq}
      (found : s.engine.regions[request.targetRegion]? = some region)
      (live : region.lifecycle ≠ .retired) (settled : request.acknowledgementRequired = false) :
      RegionStep s (.invalidate request) region (region.invalidate id seq)
  | acknowledge {ack region id seq} (applied : s.engine.acknowledgedRegion ack = some region) :
      RegionStep s (.acknowledgeInvalidation ack) region (region.invalidate id seq)
  | publish {index frame region evidence seq} (ready : s.ready index = some frame)
      (committed : s.committedRegion index = some region) :
      RegionStep s (.publishCommit index) region
        (region.publish frame.pending frame.pending.ownershipGeneration evidence seq)
  | supersede {index region version} (current : region.state = .current) :
      RegionStep s (.publishCommit index) region (region.superseded version)
  | requestSync {request region sync source seq}
      (found : s.engine.regions[request.destinationRegion]? = some region)
      (live : region.lifecycle ≠ .retired) :
      RegionStep s (.beginSync request) region (region.requestSync sync source seq)
  | completeStale {request region seq} {version : VersionId}
      (found : s.engine.regions[request.destinationRegion]? = some region)
      (live : region.lifecycle ≠ .retired) :
      RegionStep s (.completeSync request) region (region.refuseSync .stale
        (text "synchronization completed against a superseded version " ++ version.toText) seq)
  | completeUnmoved {request region seq}
      (found : s.engine.regions[request.destinationRegion]? = some region)
      (live : region.lifecycle ≠ .retired) :
      RegionStep s (.completeSync request) region
        (region.refuseSync .syncRequired Impl.unmovedReason seq)
  | completeMismatch {request region record seq}
      (found : s.engine.regions[request.destinationRegion]? = some region)
      (live : region.lifecycle ≠ .retired) :
      RegionStep s (.completeSync request) region
        (region.refuseSync .revalidationRequired (Impl.mismatchReason request record) seq)
  | completeSync {request region sync ownership evidence seq}
      (found : s.engine.regions[request.destinationRegion]? = some region)
      (live : region.lifecycle ≠ .retired) :
      RegionStep s (.completeSync request) region
        (region.completeSync sync ownership request.observedContent evidence seq)
  | failSync {request region seq} (applied : s.engine.failedRegion request = some region) :
      RegionStep s (.failSync request) region
        (region.refuseSync (Impl.failedDestination request).1
          (Impl.failedDestination request).2 seq)
  | revalidate {request region authoritative ownership evidence seq}
      (live : region.lifecycle ≠ .retired) :
      RegionStep s (.revalidateRegion request) region
        (region.revalidate request authoritative ownership evidence seq)

inductive NewRegion (s : Sys σ) : Action → RegionId → RegionRecord → Prop
  | register {registration object participant}
      (allowed : s.engine.registerRegionRefusal registration = .ok (object, participant)) :
      NewRegion s (.registerRegion registration)
        (s.engine.newRegion registration object participant).id
        (s.engine.newRegion registration object participant)

inductive NewObject (s : Sys σ) : Action → ObjectId → ObjectRecord → Prop
  | register {domain name length policy}
      (allowed : s.engine.registerObjectRefusal domain name length policy = none) :
      NewObject s (.registerObject domain name length policy)
        (s.engine.newObject domain name length (s.engine.newPolicy policy)).id
        (s.engine.newObject domain name length (s.engine.newPolicy policy))

inductive NewInvalidation (s : Sys σ) : Action → InvalidationId → InvalidationRecord → Prop
  | transfer {request object ownership region} {id : RegionId} (e : Impl σ) (index : Nat)
      (bounded : index < s.engine.replicaCount request.context.object)
      (records : e.toRecords = s.engine.toRecords)
      (found : s.engine.regions[id]? = some region) :
      NewInvalidation s (.acquireWrite request)
        ⟨s.engine.nextInvalidationId + UInt64.ofNat index⟩
        (e.transferInvalidation object ownership
          ⟨s.engine.nextInvalidationId + UInt64.ofNat index⟩ region)
  | requested {request object region} (e : Impl σ)
      (next : e.nextInvalidationId = s.engine.nextInvalidationId)
      (found : s.engine.regions[request.targetRegion]? = some region) :
      NewInvalidation s (.invalidate request) ⟨e.nextInvalidationId⟩
        (e.newInvalidation request object region)
  | settled {request object region} (e : Impl σ)
      (next : e.nextInvalidationId = s.engine.nextInvalidationId)
      (found : s.engine.regions[request.targetRegion]? = some region) :
      NewInvalidation s (.invalidate request) ⟨e.nextInvalidationId⟩
        (e.settledInvalidation request object region)
  | inert {request object region} (e : Impl σ)
      (next : e.nextInvalidationId = s.engine.nextInvalidationId)
      (found : s.engine.regions[request.targetRegion]? = some region) :
      NewInvalidation s (.invalidate request) ⟨e.nextInvalidationId⟩
        (e.inertInvalidation request object region)

/-- What a step can do to an invalidation. A step that issues one writes it over whatever
its identity named before. -/
inductive InvalidationStep (s : Sys σ) :
    Action → InvalidationId → InvalidationRecord → InvalidationRecord → Prop
  | fence {id epoch reason participant key record seq} (current : epoch = s.engine.epoch)
      (known : s.engine.participants[id]? = some participant)
      (live : participant.lifecycle ≠ .retired)
      (target : record.targetParticipant = id ∧ record.targetBoot = participant.boot)
      (requested : record.state = .requested) :
      InvalidationStep s (.fenceParticipant id epoch reason) key record
        (record.supersede Impl.fencedTarget seq)
  | missing {ack record seq} (absent : s.engine.regions[record.region]? = none) :
      InvalidationStep s (.acknowledgeInvalidation ack) ack.invalidation record
        (record.supersede Impl.missingTarget seq)
  | replaced {ack record region seq} (found : s.engine.regions[record.region]? = some region)
      (differs : region.generation ≠ record.regionGeneration ∨
        region.replicaGeneration ≠ record.replicaGeneration ∨
        region.generation ≠ ack.regionGeneration ∨
        region.replicaGeneration ≠ ack.replicaGeneration) :
      InvalidationStep s (.acknowledgeInvalidation ack) ack.invalidation record
        (record.supersede Impl.replacedTarget seq)
  | acknowledge {ack record region version seq}
      (found : s.engine.regions[record.region]? = some region)
      (applied : s.engine.acknowledgedRegion ack = some region) :
      InvalidationStep s (.acknowledgeInvalidation ack) ack.invalidation record
        (record.acknowledge version seq)
  | abandon {epoch key record seq} (requested : record.state = .requested) :
      InvalidationStep s (.beginShutdown epoch) key record (record.abandon seq)
  | replace {a id record record'} (new : NewInvalidation s a id record') :
      InvalidationStep s a id record record'

/-- What a step can do to an object. The authority is only recomputed in a state whose
invalidations are those of the step and that holds the object itself. -/
inductive ObjectStep (s : Sys σ) : Action → ObjectId → ObjectRecord → ObjectRecord → Prop
  | recompute {a key object} (e : Impl σ) (running : ∀ epoch, a ≠ .beginShutdown epoch)
      (stored : e.objects[key]? = some object)
      (settled : Evolves (InvalidationStep s a) (NewInvalidation s a) s.engine.invalidations
        e.invalidations) :
      ObjectStep s a key object (e.recomputeAuthorityLocked object)
  | touch {a key object seq} : ObjectStep s a key object { object with updatedSequence := seq }
  | setReads {a key object reads} : ObjectStep s a key object { object with reads := reads }
  | prefer {a key object id} :
      ObjectStep s a key object { object with preferredCurrentReplica := id }
  | addReadGrant {request key object region lease} (e : Impl σ) :
      ObjectStep s (.acquireRead request) key object
        (e.addReadGrantLocked object region request.context lease)
  | revokeWriter {id epoch reason key object policy seq} (writer : object.writer = id) :
      ObjectStep s (.fenceParticipant id epoch reason) key object (object.revokeWriter policy seq)
  | setPolicy {id generation expected next key object policy seq}
      (settled : object.publicationState ≠ .pendingDurable) :
      ObjectStep s (.setPolicy id generation expected next) key object
        (object.setPolicy policy seq)
  | addReplica {registration key object id seq} :
      ObjectStep s (.registerRegion registration) key object (object.addReplica id seq)
  | resolveRecovery {id generation epoch note key object seq} :
      ObjectStep s (.resolveRecovery id generation epoch note) key object
        (object.resolveRecovery note seq)
  | retire {id generation epoch key object seq} :
      ObjectStep s (.retireObject id generation epoch) key object (object.retire seq)
  | shutdown {epoch key object seq} :
      ObjectStep s (.beginShutdown epoch) key object (object.shutdown seq)
  | grantWrite {request key object boot required seq}
      (found : s.engine.objects[key]? = some object)
      (idle : object.authority ≠ .transferPending)
      (settled : object.publicationState ≠ .pendingDurable) :
      ObjectStep s (.acquireWrite request) key object
        (object.grantWrite request.context.participant boot required seq)
  | rollbackWrite {request key object} :
      ObjectStep s (.acquireWrite request) key object object.rollbackWrite
  | promote {request key object} (found : s.engine.objects[key]? = some object)
      (settled : s.engine.hasOutstandingInvalidationsLocked object.id = false) :
      ObjectStep s (.acquireWrite request) key object
        { object with authority := .exclusiveWriter }
  | markDirty {request key object seq} :
      ObjectStep s (.markDirty request) key object (object.markDirty seq)
  | releaseWriter {request key object} :
      ObjectStep s (.release request) key object object.releaseWriter
  | releaseDirty {request key object policy} :
      ObjectStep s (.release request) key object (object.releaseDirty policy)
  | addOutstanding {request key object id seq} :
      ObjectStep s (.invalidate request) key object (object.addOutstanding id seq)
  | dropIssued {request key object id record}
      (new : NewInvalidation s (.invalidate request) id record) :
      ObjectStep s (.invalidate request) key object (object.dropOutstanding id)
  | dropSettled {ack key object record record'}
      (found : s.engine.invalidations[ack.invalidation]? = some record)
      (settles :
        InvalidationStep s (.acknowledgeInvalidation ack) ack.invalidation record record') :
      ObjectStep s (.acknowledgeInvalidation ack) key object (object.dropOutstanding record'.id)
  | reserve {request key object seq} {pending : PendingPublication}
      (id : pending.id = ⟨s.engine.nextPublicationId⟩) :
      ObjectStep s (.publishReserve request) key object (object.reserve pending seq)
  | abort {index key object} : ObjectStep s (.publishCommit index) key object object.abortPending
  | commit {index frame key object bound seq} (ready : s.ready index = some frame)
      (target : s.engine.commitTarget frame = some object) :
      ObjectStep s (.publishCommit index) key object
        (object.commit frame.pending frame.pending.writer frame.pending.writerBoot bound seq)

inductive NewSync (s : Sys σ) : Action → SyncOperationId → SyncRecord → Prop
  | begin {request object participant source destination} (e : Impl σ)
      (granted : s.engine.resolveLocked request.context = .granted object participant)
      (allowed : s.engine.beginSyncRefusal request object = .ok (source, destination))
      (next : e.nextSyncId = s.engine.nextSyncId) :
      NewSync s (.beginSync request) (e.newSync request object source destination).id
        (e.newSync request object source destination)

inductive SyncStep (s : Sys σ) : Action → SyncOperationId → SyncRecord → SyncRecord → Prop
  | fence {id epoch reason key record seq} (target : record.destinationParticipant = id) :
      SyncStep s (.fenceParticipant id epoch reason) key record (record.fence seq)
  | cancel {epoch key record seq} :
      SyncStep s (.beginShutdown epoch) key record (record.cancel seq)
  | settle {request key record seq} {state : SyncState} {reason : Text}
      (fixed : reason = Impl.retiredReason ∨ reason = Impl.advancedReason ∨
        reason = Impl.unmovedReason ∨ reason = Impl.mismatchReason request record) :
      SyncStep s (.completeSync request) key record (record.settle state reason seq)
  | complete {request key record seq} :
      SyncStep s (.completeSync request) key record (record.complete seq)
  | fail {request key record seq} {state : SyncState} :
      SyncStep s (.failSync request) key record
        (record.settle state (Impl.failureReason request) seq)
  | replace {a id record record'} (new : NewSync s a id record') :
      SyncStep s a id record record'

/-- The participant a step admits, under a new name or as a new incarnation of one that is
known. -/
inductive NewParticipant (s : Sys σ) : Action → ParticipantId → ParticipantRecord → Prop
  | fresh {name boot epoch label}
      (allowed : s.engine.registerParticipantRefusal name boot epoch = none)
      (unknown : s.engine.participantIndex[name]? = none) :
      NewParticipant s (.registerParticipant name boot epoch label)
        (s.engine.newParticipant name boot epoch label).id
        (s.engine.newParticipant name boot epoch label)
  | reregister {name boot epoch label} {id : ParticipantId} {record : ParticipantRecord}
      (allowed : s.engine.registerParticipantRefusal name boot epoch = none)
      (indexed : s.engine.participantIndex[name]? = some id)
      (known : record = (s.engine.participants[id]?).getD {})
      (same : record.boot = boot ∧ record.lifecycle ≠ .retired) :
      NewParticipant s (.registerParticipant name boot epoch label) record.id
        (record.reregister epoch)
  | reincarnate {name boot epoch label} {id : ParticipantId} {record : ParticipantRecord}
      (allowed : s.engine.registerParticipantRefusal name boot epoch = none)
      (indexed : s.engine.participantIndex[name]? = some id)
      (known : record = (s.engine.participants[id]?).getD {})
      (differs : record.boot ≠ boot) (live : record.lifecycle ≠ .retired) :
      NewParticipant s (.registerParticipant name boot epoch label) record.id
        (record.reincarnate boot epoch label)

inductive ParticipantStep (s : Sys σ) :
    Action → ParticipantId → ParticipantRecord → ParticipantRecord → Prop
  | closeSession {id boot record} :
      ParticipantStep s (.markSessionClosed id boot) id record record.closeSession
  | fence {id epoch reason record} (current : epoch = s.engine.epoch)
      (known : s.engine.participants[id]? = some record) (live : record.lifecycle ≠ .retired) :
      ParticipantStep s (.fenceParticipant id epoch reason) id record
        (record.fence reason epoch)
  | count {registration key record count} :
      ParticipantStep s (.registerRegion registration) key record
        { record with regionCount := count }
  | replace {a id record record'} (new : NewParticipant s a id record') :
      ParticipantStep s a id record record'

inductive NewPolicy (s : Sys σ) : Action → PolicyId → CoherencePolicy → Prop
  | register {domain name length policy}
      (allowed : s.engine.registerObjectRefusal domain name length policy = none) :
      NewPolicy s (.registerObject domain name length policy) (s.engine.newPolicy policy).id
        (s.engine.newPolicy policy)
  | replacement {id generation expected next object}
      (allowed : s.engine.setPolicyRefusal id generation expected next = .ok object) :
      NewPolicy s (.setPolicy id generation expected next)
        (s.engine.replacementPolicy object next).id (s.engine.replacementPolicy object next)

inductive PolicyStep (s : Sys σ) : Action → PolicyId → CoherencePolicy → CoherencePolicy → Prop
  | replace {a id policy policy'} (new : NewPolicy s a id policy') :
      PolicyStep s a id policy policy'

inductive NewDomain (s : Sys σ) : Action → CoherenceDomainId → DomainRecord → Prop
  | create {name} (allowed : s.engine.createDomainRefusal name = none) :
      NewDomain s (.createDomain name) (s.engine.newDomain name).id (s.engine.newDomain name)

/-! ### Where a record after the step comes from -/

abbrev ParticipantDerives (s : Sys σ) (a : Action) : ParticipantId → ParticipantRecord → Prop :=
  Derives (ParticipantStep s a) (NewParticipant s a) s.engine.participants

abbrev ObjectDerives (s : Sys σ) (a : Action) : ObjectId → ObjectRecord → Prop :=
  Derives (ObjectStep s a) (NewObject s a) s.engine.objects

abbrev RegionDerives (s : Sys σ) (a : Action) : RegionId → RegionRecord → Prop :=
  Derives (fun _ => RegionStep s a) (NewRegion s a) s.engine.regions

abbrev InvalidationDerives (s : Sys σ) (a : Action) : InvalidationId → InvalidationRecord → Prop :=
  Derives (InvalidationStep s a) (NewInvalidation s a) s.engine.invalidations

abbrev SyncDerives (s : Sys σ) (a : Action) : SyncOperationId → SyncRecord → Prop :=
  Derives (SyncStep s a) (NewSync s a) s.engine.syncs

section Derives

variable {s : Sys σ} {a : Action}

lemma NewParticipant.derives {id record} (h : NewParticipant s a id record) :
    ParticipantDerives s a id record :=
  .of_new h fun _ => .replace h

lemma NewPolicy.derives {id policy} (h : NewPolicy s a id policy) :
    Derives (PolicyStep s a) (NewPolicy s a) s.engine.policies id policy :=
  .of_new h fun _ => .replace h

lemma NewInvalidation.derives {id record} (h : NewInvalidation s a id record) :
    InvalidationDerives s a id record :=
  .of_new h fun _ => .replace h

lemma NewSync.derives {id record} (h : NewSync s a id record) : SyncDerives s a id record :=
  .of_new h fun _ => .replace h

end Derives

/-! ### What is persisted -/

/-- The objects whose pending publication a step clears. -/
inductive Cleared (s : Sys σ) : Action → ObjectId → Prop
  | fence {id epoch reason participant object} {key : ObjectId} (current : epoch = s.engine.epoch)
      (known : s.engine.participants[id]? = some participant)
      (live : participant.lifecycle ≠ .retired)
      (found : s.engine.objects[key]? = some object)
      (writer : object.writer = id ∧ object.writerBoot = participant.boot)
      (pending : object.publicationOpen) :
      Cleared s (.fenceParticipant id epoch reason) object.id
  | shutdown {epoch object} {key : ObjectId} (current : epoch = s.engine.epoch)
      (running : s.engine.shuttingDown = false)
      (found : s.engine.objects[key]? = some object)
      (pending : object.publicationState = .pendingDurable) :
      Cleared s (.beginShutdown epoch) object.id
  | commit {index frame object} (ready : s.ready index = some frame)
      (found : s.engine.objects[frame.pending.object]? = some object) :
      Cleared s (.publishCommit index) object.id

/-- The payloads a step journals: every record is one the step leaves behind, without its
dynamic authority. -/
inductive Journalled (s : Sys σ) (a : Action) : JournalPayload → Prop
  | domain {id record} (new : NewDomain s a id record) : Journalled s a (.upsertDomain record)
  | participant {id record} (derived : ParticipantDerives s a id record) :
      Journalled s a (.upsertParticipant (scrubParticipantForPersistence record))
  | object {id record} (derived : ObjectDerives s a id record) :
      Journalled s a (.upsertObject (scrubObjectForPersistence record))
  | newObject {id record} (new : NewObject s a id record) :
      Journalled s a (.upsertObject (scrubObjectForPersistence record))
  | region {id record} (derived : RegionDerives s a id record) :
      Journalled s a (.upsertRegion record)
  | newRegion {id record} (new : NewRegion s a id record) : Journalled s a (.upsertRegion record)
  | invalidation {id record} (derived : InvalidationDerives s a id record) :
      Journalled s a (.upsertInvalidation record)
  | sync {id record} (derived : SyncDerives s a id record) : Journalled s a (.upsertSync record)
  | policy {id policy} (new : NewPolicy s a id policy) : Journalled s a (.upsertPolicy policy)
  | pending {index : Nat} {frame} (phase : a = .publishAppend index ∨ a = .publishCommit index)
      (found : s.frames[index]? = some frame) :
      Journalled s a (.setPendingPublication frame.pending)
  | clear {id} (cleared : Cleared s a id) : Journalled s a (.clearPendingPublication id)

/-- The payloads about publications in flight. -/
def JournalPayload.isPending : JournalPayload → Bool
  | .setPendingPublication _ | .clearPendingPublication _ => true
  | _ => false

/-- The payloads a step writes. An engine without durability writes at most those of the
publications in flight. -/
structure Written (s : Sys σ) (a : Action) (payload : JournalPayload) : Prop where
  journalled : Journalled s a payload
  enabled : payload.isPending = true ∨ s.engine.config.enableDurability = true

def Compacts (s : Sys σ) : Action → Prop
  | .acquireRead _ => s.engine.inFlightPublications.isEmpty
  | .publishCommit index => ∃ frame, s.ready index = some frame ∧
      (s.engine.inFlightPublications.erase frame.pending.id).isEmpty
  | .completeShutdown _ => s.engine.shuttingDown
  | _ => False

/-- One access to the durable image or the store, for payloads that satisfy `Q` and
compactions only if `C`. -/
inductive PersistMove [DurableStore σ] (Q : JournalPayload → Prop) (C : Prop) :
    Persistence σ → Persistence σ → Prop
  | write {p p' store} (entry : JournalEntry) (allowed : Q entry.payload)
      (store_before : p.store = some store)
      (store_after : p'.store = some (DurableStore.append store entry).2)
      (image : p'.durable = p.durable) : PersistMove Q C p p'
  | apply {p p'} (payload : JournalPayload) (position : UInt64) (allowed : Q payload)
      (store_after : p'.store = p.store)
      (image : p'.durable = { payload.apply p.durable with sequence := position }) :
      PersistMove Q C p p'
  | compact {p p' store} (allowed : C) (store_before : p.store = some store)
      (store_after : p'.store = some (DurableStore.compact store p.durable).2)
      (image : p'.durable = p.durable) : PersistMove Q C p p'
  | flush {p p' store} (store_before : p.store = some store)
      (store_after : p'.store = some (DurableStore.flush store).2)
      (image : p'.durable = p.durable) : PersistMove Q C p p'
  | close {p p' store} (store_before : p.store = some store)
      (store_after : p'.store = some (DurableStore.close store).2)
      (image : p'.durable = p.durable) : PersistMove Q C p p'
  | idle {p p'} (store_after : p'.store = p.store) (image : p'.durable = p.durable) :
      PersistMove Q C p p'

abbrev Persist [DurableStore σ] (Q : JournalPayload → Prop) (C : Prop) :
    Persistence σ → Persistence σ → Prop :=
  ReflTransGen (PersistMove Q C)

/-- One access to the durable image and the store that keeps the two in step: what is written is
applied to the image as well, and a compaction writes the image. -/
inductive LockMove [DurableStore σ] (Q : JournalPayload → Prop) (C : Prop) :
    Persistence σ → Persistence σ → Prop
  | journal {p store write} (entries : List JournalEntry)
      (allowed : ∀ entry ∈ entries, Q entry.payload) (store_before : p.store = some store)
      (writes : (∃ entry, entries = [entry] ∧ write = (DurableStore.append · entry)) ∨
        write = (DurableStore.appendBatch · entries)) :
      LockMove Q C p (p.journal store entries write).2
  | compact {p p' store} (allowed : C) (store_before : p.store = some store)
      (store_after : p'.store = some (DurableStore.compact store p.durable).2)
      (image : p'.durable = p.durable) : LockMove Q C p p'
  | flush {p p' store} (store_before : p.store = some store)
      (store_after : p'.store = some (DurableStore.flush store).2)
      (image : p'.durable = p.durable) : LockMove Q C p p'
  | idle {p p'} (store_after : p'.store = p.store) (image : p'.durable = p.durable) :
      LockMove Q C p p'

abbrev Lockstep [DurableStore σ] (Q : JournalPayload → Prop) (C : Prop) :
    Persistence σ → Persistence σ → Prop :=
  ReflTransGen (LockMove Q C)

/-! ### What only particular steps change -/

def Action.issues : Action → Bool
  | .acquireWrite _ | .invalidate _ => true
  | _ => false

def Action.reserves : Action → Bool
  | .publishReserve _ => true
  | _ => false

def Action.commits : Action → Bool
  | .publishCommit _ => true
  | _ => false

/-- The steps that write to the store or to the durable image alone. -/
def Action.outOfStep : Action → Bool
  | .publishAppend _ | .publishCommit _ | .completeShutdown _ => true
  | _ => false

def Action.shutsDown : Action → Bool
  | .beginShutdown _ => true
  | _ => false

/-- The step is not a restart: it is made by the running engine. -/
@[simp] abbrev Action.Runs (a : Action) : Prop := ∀ config, a ≠ .restart config

def Action.restarts : Action → Bool
  | .restart _ => true
  | _ => false

def Action.admits : Action → Bool
  | .registerParticipant .. => true
  | _ => false

lemma Action.ne_restart {a : Action} (h : a.restarts = false) : a.Runs := by
  rintro config rfl
  cases h

/-- The identity counters that only particular steps advance. -/
structure Advances (a : Action) (c c' : Counters) : Prop where
  invalidation : a.issues ∨ c'.nextInvalidationId = c.nextInvalidationId
  publication : a.reserves ∨ c'.nextPublicationId = c.nextPublicationId

/-- The parts of the engine that most steps leave alone. -/
structure Untouched (a : Action) (e e' : Impl σ) : Prop where
  counters : Advances a e.toCounters e'.toCounters
  inFlight : a.reserves ∨ a.commits ∨ e'.inFlightPublications = e.inFlightPublications
  shuttingDown : a.shutsDown ∨ e'.shuttingDown = e.shuttingDown
  config : e'.config = e.config

/-! ### A step as a whole -/

/-- The records of `r` come from the state before the step. -/
structure RecordsEvolve (s : Sys σ) (a : Action) (r : Records) : Prop where
  domains : Evolves (fun _ _ _ => False) (NewDomain s a) s.engine.domains r.domains
  participants :
    Evolves (ParticipantStep s a) (NewParticipant s a) s.engine.participants r.participants
  objects : Evolves (ObjectStep s a) (NewObject s a) s.engine.objects r.objects
  regions : Evolves (fun _ => RegionStep s a) (NewRegion s a) s.engine.regions r.regions
  invalidations :
    Evolves (InvalidationStep s a) (NewInvalidation s a) s.engine.invalidations r.invalidations
  syncs : Evolves (SyncStep s a) (NewSync s a) s.engine.syncs r.syncs
  policies : Evolves (PolicyStep s a) (NewPolicy s a) s.engine.policies r.policies
  participantIndex : a.admits ∨ r.participantIndex = s.engine.participantIndex

/-- The engine state `e` comes from the state before the step: its records, everything the
step persisted, and what the step leaves alone. -/
structure Evolved [DurableStore σ] (s : Sys σ) (a : Action) (e : Impl σ) : Prop where
  records : RecordsEvolve s a e.toRecords
  persist : Persist (Written s a) (Compacts s a) s.engine.toPersistence e.toPersistence
  lockstep : a.outOfStep = true ∨
    Lockstep (Written s a) (Compacts s a) s.engine.toPersistence e.toPersistence
  frame : Untouched a s.engine e

/-! ### What the checks of an operation have shown about a request they let through -/

section Checks

open Impl

variable {e : Impl σ} {object : ObjectRecord} {region : RegionRecord} {epoch : CoordinatorEpoch}

lemma registerParticipantRefusal_none {name boot}
    (h : e.registerParticipantRefusal name boot epoch = none) : boot.defined = true := by
  unfold registerParticipantRefusal at h
  repeat' split at h
  all_goals cases h
  simpa using ‹¬(!boot.defined) = true›

lemma setPolicyRefusal_ok {id generation expected next}
    (h : e.setPolicyRefusal id generation expected next = .ok object) :
    e.objects[id]? = some object ∧ object.publicationState ≠ .pendingDurable ∧
      next.validatePolicy.isOk := by
  unfold setPolicyRefusal at h
  repeat' split at h
  all_goals cases h
  exact ⟨‹_›, ‹_›, by simpa using ‹¬(!next.validatePolicy.isOk) = true›⟩

lemma registerRegionRefusal_ok {registration participant}
    (h : e.registerRegionRefusal registration = .ok (object, participant)) :
    e.objects[registration.context.object]? = some object ∧
      e.participants[registration.context.participant]? = some participant ∧
      participant.lifecycle ≠ .fenced ∧
      (registration.requestedId.defined → e.regions[registration.requestedId]? = none) := by
  unfold registerRegionRefusal at h
  dsimp only at h
  repeat' split at h
  all_goals cases h
  refine ⟨‹_›, ‹_›, ‹_›, fun hrequested => ?_⟩
  have hdeclared : e.declarationRefusal registration object = none := ‹_›
  unfold declarationRefusal at hdeclared
  repeat' split at hdeclared
  all_goals cases hdeclared
  rename_i hunused
  simpa [hrequested] using hunused

lemma retireRegionRefusal_ok {id generation}
    (h : e.retireRegionRefusal id generation epoch = .ok region) :
    e.regions[id]? = some region := by
  unfold retireRegionRefusal at h
  repeat' split at h
  all_goals cases h
  assumption

lemma resolveRecoveryRefusal_ok {id generation}
    (h : e.resolveRecoveryRefusal id generation epoch = .ok object) :
    e.objects[id]? = some object ∧ object.lifecycle = .recoveryRequired := by
  unfold resolveRecoveryRefusal at h
  repeat' split at h
  all_goals cases h
  exact ⟨‹_›, not_not.mp ‹¬ object.lifecycle ≠ .recoveryRequired›⟩

lemma retireObjectRefusal_ok {id generation}
    (h : e.retireObjectRefusal id generation epoch = .ok object) :
    e.objects[id]? = some object := by
  unfold retireObjectRefusal at h
  repeat' split at h
  all_goals cases h
  assumption

lemma writeRefusal_none {policy} (h : writeRefusal policy object = none) :
    object.publicationState ≠ .pendingDurable ∧ object.hasUnpublishedDirty = false := by
  unfold writeRefusal at h
  repeat' split at h
  all_goals cases h
  exact ⟨‹_›, by simpa using ‹¬object.hasUnpublishedDirty = true›⟩

lemma writeRefusal_dirty {policy rationale}
    (h : writeRefusal policy object = some (.dirtyUnpublished, rationale)) :
    object.hasUnpublishedDirty = true := by
  unfold writeRefusal at h
  repeat' split at h
  all_goals first | assumption | cases h

lemma markDirtyRefusal_ok {request} (h : e.markDirtyRefusal request object = .ok region) :
    e.regions[request.region]? = some region ∧ region.object = object.id ∧
      request.baseVersion = object.authoritativeVersion ∧
      (region.state = .current ∨ region.state = .dirty) ∧
      region.participant = request.context.participant ∧
      (object.writer = request.context.participant ∧ object.writerBoot = request.context.boot) ∧
      request.ownershipGeneration = object.ownershipGeneration := by
  unfold markDirtyRefusal at h
  dsimp only at h
  repeat' split at h
  all_goals cases h
  obtain ⟨hfound, hobject⟩ := resolveRegionLocked_ok ‹_›
  rename_i hwriter hownership hbase _ _ hparticipant _ _
  push Not at hwriter hownership hbase hparticipant
  exact ⟨hfound, hobject, hbase, by grind, hparticipant, hwriter, hownership⟩

lemma invalidateRefusal_ok {request} (h : e.invalidateRefusal request object = .ok region) :
    e.regions[request.targetRegion]? = some region ∧ region.object = object.id := by
  unfold invalidateRefusal at h
  repeat' split at h
  all_goals cases h
  exact ⟨‹_›, not_not.mp ‹_›⟩

lemma acknowledgeRefusal_none {ack record} (h : acknowledgeRefusal ack record object = none) :
    object.id = record.object ∧ record.targetParticipant = ack.context.participant := by
  unfold acknowledgeRefusal at h
  dsimp only at h
  repeat' split at h
  all_goals cases h
  rename_i hobject htarget
  push Not at hobject htarget
  exact ⟨hobject, htarget.1⟩

lemma beginSyncRefusal_ok {request source destination}
    (h : e.beginSyncRefusal request object = .ok (source, destination)) :
    e.regions[request.destinationRegion]? = some destination ∧
      destination.lifecycle ≠ .retired ∧ destination.object = object.id ∧
      e.syncSource request object destination = .ok source := by
  unfold beginSyncRefusal at h
  dsimp only at h
  repeat' split at h
  all_goals cases h
  obtain ⟨hfound, hobject⟩ := resolveRegionLocked_ok ‹_›
  exact ⟨hfound, ‹_›, hobject, ‹_›⟩

lemma completeSyncRefusal_none {request record} (h : completeSyncRefusal request record = none) :
    record.state ≠ .cancelled ∧ record.state ≠ .failed ∧
      record.destinationParticipant = request.context.participant ∧
      record.destinationBoot = request.context.boot ∧
      request.destinationRegion = record.destinationRegion ∧
      request.destinationNewVersion = record.sourceVersion := by
  unfold completeSyncRefusal at h
  dsimp only at h
  repeat' split at h
  all_goals cases h
  rename_i hsettled hparticipant hboot hregion hversion
  push Not at hsettled hparticipant hboot hregion hversion
  exact ⟨hsettled.1, hsettled.2, hparticipant, hboot, hregion.1, hversion⟩

lemma revalidateRefusal_ok {request} (h : e.revalidateRefusal request object = .ok region) :
    e.regions[request.region]? = some region ∧ region.lifecycle ≠ .retired ∧
      region.object = object.id ∧ request.observedVersion ≠ .nil ∧
      region.participant = request.context.participant ∧
      ∃ policy, e.policyLocked object = some policy ∧
        (policy.requireContentFingerprint → request.content.defined) := by
  unfold revalidateRefusal at h
  dsimp only at h
  repeat' split at h
  all_goals cases h
  obtain ⟨hfound, hobject⟩ := resolveRegionLocked_ok ‹_›
  have howner : ¬ (region.participant ≠ _ ∨ _) := ‹_›
  have hversion : ¬ (!request.observedVersion.defined) = true := ‹_›
  push Not at howner
  exact ⟨hfound, ‹_›, hobject, by simpa using hversion, howner.1, _, ‹_›, by grind⟩

end Checks

end CoherenceFabric
