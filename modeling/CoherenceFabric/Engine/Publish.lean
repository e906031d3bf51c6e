import CoherenceFabric.Engine.Writes

/-!
Publication, in its three phases.

Phase 1 validates the request and reserves a version under the state lock. Phase 2 appends
the pending record with the lock released, so other operations may run before and after it.
Phase 3 takes the lock again and either commits the version or gives the reservation up.
A call between two phases is a `PublishFrame`: the local variables of the call.
-/

namespace CoherenceFabric

variable {σ : Type}

/-! ### What happens to a record -/

namespace ObjectRecord

/-- The reservation of a publication. The journal does not hear of it from the object. -/
def reserve (object : ObjectRecord) (pending : PendingPublication)
    (sequence : OperationSequence) : ObjectRecord :=
  { object with
    publicationState := .pendingDurable
    pendingPublication := pending.id
    pendingVersion := pending.version
    pendingContent := pending.content
    updatedSequence := sequence }

def retainRequests (bound : Nat) (requests : List CompletedPublicationRequest) :
    List CompletedPublicationRequest :=
  requests.drop (requests.length - bound)

def commit (object : ObjectRecord) (pending : PendingPublication) (writer : ParticipantId)
    (boot : ParticipantBootId) (bound : Nat) (sequence : OperationSequence) : ObjectRecord :=
  { object with
    authoritativeVersion := pending.version
    publishedVersion := pending.version
    publication := pending.id
    publicationState := .committed
    committedSequence := sequence
    pendingPublication := .nil
    pendingVersion := .nil
    pendingContent := {}
    hasUnpublishedDirty := false
    dirtyCondition := .dirtyPublished
    lastWriter := writer
    lastWriterBoot := boot
    updatedSequence := sequence
    recoveryNote := []
    completedRequests :=
      if pending.request.defined then
        retainRequests bound (object.completedRequests ++
          [⟨pending.request, pending.version, pending.id, sequence⟩])
      else object.completedRequests }

/-- The reservation of a publication still stands: nothing cancelled or replaced it. -/
def holds (object : ObjectRecord) (pending : PendingPublication) : Bool :=
  object.pendingPublication == pending.id &&
    object.ownershipGeneration == pending.ownershipGeneration &&
    object.authoritativeVersion == pending.priorVersion

end ObjectRecord

namespace RegionRecord

/-- The source replica of a committed publication; its lifecycle is not looked at. -/
def publish (region : RegionRecord) (pending : PendingPublication)
    (ownership : OwnershipGeneration) (evidence : EvidenceId) (sequence : OperationSequence) :
    RegionRecord :=
  { region with
    state := .current
    version := pending.version
    lastPublishedVersion := pending.version
    ownershipGeneration := ownership
    dirty := .dirtyPublished
    dirtyPublished := true
    evidence := evidence
    evidenceGeneration := ⟨1⟩
    content := if pending.content.defined then pending.content else region.content
    updatedSequence := sequence
    note := text "authoritative version " ++ pending.version.toText ++
      text " published from this replica" }

end RegionRecord

/-- A publish call whose reservation stands, before phase 3. -/
structure PublishFrame where
  region : RegionId
  receipt : PublicationReceipt
  pending : PendingPublication
  position : UInt64
  durableRequired : Bool
  /-- What phase 2 reported; none before phase 2. -/
  durableStatus : Option Status := none

namespace Impl

/-! ### Phase 1 -/

def publishSourceRefusal (request : PublishRequest) (base : VersionId) (region : RegionRecord) :
    Option (StatusCode × Text) :=
  if region.participant ≠ request.context.participant then
    some (.notWriteAuthorized, text "the caller does not own the region being published")
  else if !request.allowWithoutDirty then
    -- the dirty path looks at the dirty mark and its base, not at the replica's state
    if region.dirty ≠ .dirtyUnpublished then
      some (.dirtyUnpublished, text
        ("publication without a dirty replica is only permitted for the explicit initial " ++
          "establishment path"))
    else if region.dirtyBaseVersion ≠ base then
      some (.stalePublication,
        text "the dirty replica diverged from a different base version")
    else none
  else if region.state ≠ .current ∧ region.state ≠ .dirty then
    some (.syncRequired,
      text "initial establishment requires a replica that is current or dirty")
  else if base.defined ∧ region.version ≠ base then
    some (.stalePublication, text
      "initial establishment is only permitted before an authoritative version exists")
  else none

def publishRefusal (s : Impl σ) (request : PublishRequest) (policy : CoherencePolicy)
    (object : ObjectRecord) : Except (StatusCode × Text) RegionRecord :=
  let ctx := request.context
  let base := object.authoritativeVersion
  if object.authority ≠ .exclusiveWriter then
    .error (if object.authority = .transferPending then .invalidationOutstanding
      else .notWriteAuthorized,
      text "the caller does not hold exclusive write authority for this object generation")
  else if object.writer ≠ ctx.participant ∨ object.writerBoot ≠ ctx.boot then
    .error (.notWriteAuthorized,
      text "the caller is not the holder of write authority for this object")
  else if request.ownershipGeneration ≠ object.ownershipGeneration then
    .error (.staleOwnership, text "publication carries a stale ownership generation")
  else if request.expectedBaseVersion ≠ base then
    .error (.stalePublication, text "publication carries a stale base version")
  else if policy.requireInvalidationAcksBeforePublication ∧
      s.hasOutstandingInvalidationsLocked object.id then
    .error (.invalidationOutstanding, text
      "a mandatory invalidation has not been acknowledged; publication may not commit")
  else if policy.requireContentFingerprint ∧ !request.content.defined then
    .error (.evidenceMissing, text
      "the active policy requires a content fingerprint for publication and none was supplied")
  else match s.resolveRegionLocked object request.region request.regionGeneration with
    | .error status => .error (status.code, status.toText)
    | .ok region =>
      match publishSourceRefusal request base region with
      | some refusal => .error refusal
      | none => .ok region

def newPending (s : Impl σ) (request : PublishRequest) (object : ObjectRecord)
    (boot : ParticipantBootId) : PendingPublication :=
  let base := object.authoritativeVersion
  { id := ⟨s.nextPublicationId⟩
    object := object.id
    objectGeneration := object.generation
    version := if base.defined then base.next else ⟨1⟩
    priorVersion := base
    ownershipGeneration := object.ownershipGeneration
    epoch := s.epoch
    writer := request.context.participant
    writerBoot := boot
    request := request.context.request
    content := request.content
    sequence := s.sequence }

/-- What phase 1 of a publish call does: it returns a final result, or a frame. -/
inductive Reservation where
  | done (result : Result PublicationReceipt)
  | reserved (frame : PublishFrame)

def Reservation.frame? : Reservation → Option PublishFrame
  | .done _ => none
  | .reserved frame => some frame

lemma Reservation.eq_reserved {reservation : Reservation} {frame}
    (h : reservation.frame? = some frame) : reservation = .reserved frame := by
  cases reservation <;> cases h
  rfl

def reservePublication (s : Impl σ) (request : PublishRequest) (policy : CoherencePolicy)
    (object : ObjectRecord) (receipt : PublicationReceipt) : PublishFrame × Impl σ :=
  let s := s.tick
  let pending := s.newPending request object receipt.writerBoot
  let frame : PublishFrame :=
    { region := request.region
      receipt := { receipt with publication := pending.id, version := pending.version }
      pending := pending
      position := s.nextJournalSequence
      durableRequired :=
        policy.publicationDurability == .durableMetadata && s.config.enableDurability &&
          s.store.isSome }
  let s := s.setObject request.context.object (object.reserve pending s.sequence)
  let s := s.withInFlight (s.inFlightPublications.insert pending.id pending)
  let s := s.withCounters { s.toCounters with nextPublicationId := s.nextPublicationId + 1 }
  (frame, s.withPersistence { s.toPersistence with
    nextJournalSequence := s.nextJournalSequence + 1 })

def publishReserve (s : Impl σ) (request : PublishRequest) : Reservation × Impl σ :=
  let ctx := request.context
  let resolution := s.resolveLocked ctx
  let context := s.contextOf ctx ctx.object ctx.objectGeneration resolution.ownership
  let s := s.takeDecisionId
  match resolution with
  | .refused authority _ =>
    (.done (.error authority),
      s.recordDecision .publish context authority.code authority.toText)
  | .granted object participant =>
    match s.policyLocked object with
    | none =>
      (.done (.error (.make .unknownPolicy
        (text "the object references a policy that is not present"))), s)
    | some policy =>
      let receipt : PublicationReceipt :=
        { context := context, durability := policy.publicationDurability,
          priorVersion := object.authoritativeVersion, writer := ctx.participant,
          writerBoot := participant.boot, content := request.content }
      match (if ctx.request.defined then
          object.completedRequests.find? fun completed => completed.request == ctx.request
        else none) with
      | some completed =>
        let receipt := { receipt with
          publication := completed.publication
          version := completed.version
          state := .committed
          reason := .ok
          durable := policy.publicationDurability == .durableMetadata
          idempotentReplay := true
          rationale := text
            ("this request identity already committed; the original publication and version " ++
              "are returned and no second version is created") }
        (.done (.ok receipt), s.recordDecision .publish context .ok receipt.rationale)
      | none =>
        match s.publishRefusal request policy object with
        | .error (reason, rationale) =>
          (.done (.ok { receipt with state := .none, reason := reason, rationale := rationale }),
            s.recordDecision .publish context reason rationale)
        | .ok _ =>
          let r := s.reservePublication request policy object receipt
          (.reserved r.1, r.2)

/-! ### Phase 2 -/

variable [DurableStore σ] (s : Impl σ) (frame : PublishFrame)

/-- Phase 2 of `publish`: the pending record, under the journal position reserved for it. -/
def publishAppend : PublishFrame × Impl σ :=
  match s.store with
  | none => ({ frame with durableStatus := some .success }, s)
  | some store =>
    if !frame.durableRequired then ({ frame with durableStatus := some .success }, s)
    else
      let appended := DurableStore.append store
        ⟨.setPendingPublication frame.pending, frame.position⟩
      ({ frame with durableStatus := some appended.1 },
        s.withPersistence { s.toPersistence with
          store := some appended.2, storeHealthy := s.storeHealthy && appended.1.isOk })

/-! ### Phase 3 -/

def applyDurable (entry : JournalEntry) : Status × Impl σ :=
  match applyJournalEntry s.durable entry with
  | .ok durable => (.success, s.withPersistence { s.toPersistence with durable := durable })
  | .error status => (status, s)

def applyPending : Impl σ :=
  let applied := s.applyDurable ⟨.setPendingPublication frame.pending, frame.position⟩
  applied.2.withPersistence { applied.2.toPersistence with
    storeHealthy := applied.2.storeHealthy && applied.1.isOk }

/-- The pending record of a given-up reservation is cleared; what the append reports is
ignored and the clear is applied to the image in either case. -/
def clearPending (object : ObjectId) : Impl σ :=
  match s.store with
  | none => s
  | some store =>
    if !frame.durableRequired then s
    else
      let entry : JournalEntry := ⟨.clearPendingPublication object, s.nextJournalSequence⟩
      let s := s.withPersistence { s.toPersistence with
        nextJournalSequence := s.nextJournalSequence + 1
        store := some (DurableStore.append store entry).2 }
      (s.applyDurable entry).2

def publishRegion : Impl σ :=
  match s.regions[frame.region]? with
  | none => s
  | some region =>
    let region := region.publish frame.pending frame.pending.ownershipGeneration
      ⟨s.nextEvidenceId⟩ s.sequence
    s.takeEvidenceId.setRegion frame.region region

/-- The commit markers: the object, the clear of the pending record, the source replica and
then every other replica. -/
def commitEntries (object : ObjectRecord) : List JournalPayload :=
  [.upsertObject (scrubObjectForPersistence object), .clearPendingPublication object.id] ++
    ((s.regions[frame.region]?).toList.map .upsertRegion) ++
    ((object.replicas.filter (· != frame.region)).filterMap fun id => s.regions[id]?).map
      .upsertRegion

def commitPublication (object : ObjectRecord) : Result PublicationReceipt × Impl σ :=
  let pending := frame.pending
  let s := s.tick
  let bound := if s.config.maxRetainedRequestsPerObject = 0 then 1
    else s.config.maxRetainedRequestsPerObject
  let object := object.commit pending pending.writer pending.writerBoot bound s.sequence
  let s := (s.setObject pending.object object).publishRegion frame
  let s := s.markRegionsStaleLocked object.id pending.version frame.region
  let journalled := s.appendManyLocked (s.commitEntries frame object)
  let s := journalled.2
  let receipt := { frame.receipt with
    state := .committed
    reason := .ok
    durable := frame.durableRequired
    rationale :=
      if !journalled.1.isOk then text
        ("publication committed; the commit marker could not be appended, but the durable " ++
          "pending record fixes the exact version so recovery converges on the same outcome")
      else text
        "publication committed as the authoritative version after its durable record was written" }
  let s := s.recordDecision .publish receipt.context .ok receipt.rationale
  (.ok receipt, s.maybeCompactLocked.2)

def publishCommit : Result PublicationReceipt × Impl σ :=
  let pending := frame.pending
  let status := frame.durableStatus.getD .success
  let s := s.withInFlight (s.inFlightPublications.erase pending.id)
  match s.objects[pending.object]? with
  | none =>
    (.error (.make .unknownObject
      (text "the object disappeared while the publication was being made durable")), s)
  | some object =>
    if !status.isOk then
      let receipt := { frame.receipt with
        state := .aborted
        reason := status.code
        rationale := text
          ("publication aborted because its durable record could not be committed; no version " ++
            "became authoritative") }
      let s := s.setObject pending.object object.abortPending
      (.error status, s.recordDecision .publish receipt.context receipt.reason receipt.rationale)
    else
      let s :=
        if frame.durableRequired then s.applyPending frame else s
      if !object.holds pending then
        let receipt := { frame.receipt with
          state := .aborted
          reason := .outcomeUnknown
          rationale := text
            ("the publication reservation was superseded while its durable record was being " ++
              "written; no version became authoritative") }
        let s := s.setObject pending.object object.abortPending
        let s := s.clearPending frame object.id
        (.ok receipt, s.recordDecision .publish receipt.context receipt.reason receipt.rationale)
      else s.commitPublication frame object

def publish (request : PublishRequest) : Result PublicationReceipt × Impl σ :=
  let reserved := s.publishReserve request
  match reserved.1 with
  | .done result => (result, reserved.2)
  | .reserved frame =>
    let appended := reserved.2.publishAppend frame
    appended.2.publishCommit appended.1

end Impl

end CoherenceFabric
