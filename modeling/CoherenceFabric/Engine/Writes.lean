import CoherenceFabric.Engine.Participants

/-!
Write authority: acquisition, the dirty mark and release.

A write transfer first invalidates every other live replica. Until each of these
invalidations is settled the object is `transferPending` and the writer may not mutate.
-/

namespace CoherenceFabric

variable {σ : Type} {tag : IdTag}

/-! ### What happens to a record -/

def sortIds {tag : IdTag} (ids : List (StrongId tag)) : List (StrongId tag) :=
  ids.insertionSort fun a b => a.value ≤ b.value

@[simp] lemma mem_sortIds {id} {ids : List (StrongId tag)} : id ∈ sortIds ids ↔ id ∈ ids :=
  List.mem_insertionSort _

lemma sortIds_sorted (ids : List (StrongId tag)) :
    (sortIds ids).Pairwise fun a b => a.value ≤ b.value := by
  have htotal : Std.Total fun a b : StrongId tag => a.value ≤ b.value :=
    ⟨fun a b => UInt64.le_total a.value b.value⟩
  have htrans : IsTrans (StrongId tag) fun a b => a.value ≤ b.value :=
    ⟨fun _ _ _ hab hbc => UInt64.le_trans hab hbc⟩
  exact List.pairwise_insertionSort _ ids

namespace ObjectRecord

variable (object : ObjectRecord)

def grantWrite (writer : ParticipantId) (boot : ParticipantBootId)
    (required : List InvalidationRecord) (sequence : OperationSequence) : ObjectRecord :=
  { object with
    ownershipGeneration := object.ownershipGeneration.next
    writer := writer
    writerBoot := boot
    authority := if required.isEmpty then .exclusiveWriter else .transferPending
    updatedSequence := sequence
    reads := object.reads.map fun grant => { grant with released := true }
    outstandingInvalidations :=
      sortIds (object.outstandingInvalidations ++ required.map (·.id)) }

def rollbackWrite : ObjectRecord :=
  { object with
    ownershipGeneration := ⟨object.ownershipGeneration.value - 1⟩
    authority := .none
    writer := .nil
    writerBoot := .nil
    outstandingInvalidations := [] }

def markDirty (sequence : OperationSequence) : ObjectRecord :=
  { object with
    hasUnpublishedDirty := true
    dirtyCondition := .dirtyUnpublished
    updatedSequence := sequence }

/-- What the release of write authority reports about an unpublished modification. -/
def releaseDirty (policy : DirtyLossPolicy) : ObjectRecord :=
  match policy with
  | .reportLost => { object with hasUnpublishedDirty := false, dirtyCondition := .dirtyLost }
  | .requireRecovery =>
    { object with
      hasUnpublishedDirty := false
      dirtyCondition := .dirtyUnknown
      lifecycle := .recoveryRequired
      recoveryNote := text
        ("write authority released with an unpublished modification; the newest state was " ++
          "never published and recovery must resolve the outcome") }
  | .reportUnknown | .unspecified =>
    { object with hasUnpublishedDirty := false, dirtyCondition := .dirtyUnknown }

def releaseAt (index : Nat) : ObjectRecord :=
  { object with
    reads := object.reads.set index
      { (object.reads[index]?).getD {} with released := true } }

/-- The ownership generation advances, so the previous one can never write again. -/
def releaseWriter : ObjectRecord :=
  { object with
    ownershipGeneration := object.ownershipGeneration.next
    writer := .nil
    writerBoot := .nil
    authority := .none }

end ObjectRecord

namespace RegionRecord

def awaitInvalidation (region : RegionRecord) (id : InvalidationId)
    (sequence : OperationSequence) : RegionRecord :=
  { region with
    invalidationPending := true
    pendingInvalidation := id
    pendingInvalidationTarget := region.generation
    updatedSequence := sequence }

def markDirty (region : RegionRecord) (request : DirtyRequest)
    (ownership : OwnershipGeneration) (sequence : OperationSequence) : RegionRecord :=
  { region with
    dirty := .dirtyUnpublished
    dirtyBaseVersion := request.baseVersion
    dirtyPublished := false
    state := .dirty
    ownershipGeneration := ownership
    updatedSequence := sequence
    note := text "unpublished modification based on version " ++ request.baseVersion.toText
    content := if request.content.defined then request.content else region.content }

def discardDirty (region : RegionRecord) (sequence : OperationSequence) : RegionRecord :=
  { region with
    dirty := .dirtyLost
    state := .stale
    note := text "unpublished modification was never published"
    updatedSequence := sequence }

end RegionRecord

namespace Impl

/-! ### Acquisition -/

def writerRegion (s : Impl σ) (object : ObjectRecord) (request : WriteRequest) :
    Result (Option RegionRecord) :=
  if !request.region.defined then .ok none
  else match s.resolveRegionLocked object request.region request.regionGeneration with
    | .error status => .error status
    | .ok region => .ok (some region)

/-- Replicas that a write transfer has to invalidate first. -/
def conflictingRegions (s : Impl σ) (object : ObjectRecord) (writerRegion : RegionId) :
    List RegionRecord :=
  (object.replicas.filterMap fun id => s.regions[id]?).filter fun region =>
    region.id != writerRegion && region.state.isLive && region.state != .revalidationRequired

/-- The invalidation of one conflicting replica. The target is looked up under the identity
the replica's record carries. -/
def transferInvalidation (s : Impl σ) (object : ObjectRecord)
    (ownership : OwnershipGeneration) (id : InvalidationId) (region : RegionRecord) :
    InvalidationRecord :=
  let target := s.regions[region.id]?
  { id := id
    object := object.id
    objectGeneration := object.generation
    region := region.id
    regionGeneration := region.generation
    replicaGeneration := region.replicaGeneration
    publishedVersion := object.authoritativeVersion
    supersededVersion := (target.map (·.version)).getD .nil
    ownershipGeneration := ownership
    epoch := s.epoch
    targetParticipant := (target.map (·.participant)).getD .nil
    targetBoot := (target.map (·.boot)).getD .nil
    state := .requested
    acknowledgementRequired := true
    issuedSequence := s.sequence
    rationale := text "superseded by a write transfer" }

def transferInvalidations (s : Impl σ) (object : ObjectRecord)
    (ownership : OwnershipGeneration) : UInt64 → List RegionRecord → List InvalidationRecord
  | _, [] => []
  | next, region :: rest =>
    s.transferInvalidation object ownership ⟨next⟩ region ::
      s.transferInvalidations object ownership (next + 1) rest

def issueInvalidation (sequence : OperationSequence) (s : Records)
    (invalidation : InvalidationRecord) : Records :=
  let s := s.setInvalidation invalidation.id invalidation
  match s.regions[invalidation.region]? with
  | none => s
  | some region =>
    s.setRegion invalidation.region (region.awaitInvalidation invalidation.id sequence)

def writeRefusal (policy : CoherencePolicy) (object : ObjectRecord) : Option (StatusCode × Text) :=
  if policy.writeOwnership = .readOnlyObject then
    some (.notWriteAuthorized, text "the active policy declares this object read-only")
  else if policy.writeOwnership ≠ .singleWriterExclusive then
    some (.unsupported,
      text "the active policy does not declare single-writer exclusive authority")
  else if object.publicationState = .pendingDurable then
    some (.writeConflict, text "a publication for this object is pending durability")
  else if object.hasUnpublishedDirty then
    some (.dirtyUnpublished, text
      ("the object carries an unpublished modification; the outcome of the previous writer " ++
        "must be resolved before new write authority is granted"))
  else none

def exclusiveConflict : Text := text
  ("another participant holds exclusive write authority for this object generation; " ++
    "single-writer policy forbids two concurrent writers")

variable [DurableStore σ] (s : Impl σ)

/-- The caller is the writer of a pending transfer: it takes effect once nothing is
outstanding. -/
def resumeTransfer (ctx : AuthorityContext) (context : DecisionContext)
    (object : ObjectRecord) (grant : WriteGrant) : Result WriteGrant × Impl σ :=
  if s.hasOutstandingInvalidationsLocked object.id then
    let grant := { grant with
      granted := true
      mayMutateNow := false
      reason := .invalidationOutstanding
      rationale := text "mandatory invalidations are still outstanding for this write transfer"
      requiredInvalidations := (object.outstandingInvalidations.filterMap fun id =>
        s.invalidations[id]?).filter fun record => record.state == .requested }
    (.ok grant, s.recordDecision .writeAcquire context grant.reason grant.rationale)
  else
    let object := { object with authority := .exclusiveWriter }
    let s := s.setObject ctx.object object
    let journalled := s.appendLocked (.upsertObject (scrubObjectForPersistence object))
    let s := journalled.2
    if !journalled.1.isOk then (.error journalled.1, s)
    else
      let grant := { grant with
        granted := true
        mayMutateNow := true
        reason := .ok
        rationale := text
          "write authority is now effective: every mandatory invalidation settled" }
      (.ok grant, s.recordDecision .writeAcquire context .ok grant.rationale)

/-- A new grant. The reservation is journalled as a group and rolled back if that fails. -/
def transferWrite (ctx : AuthorityContext) (context : DecisionContext)
    (object : ObjectRecord) (boot : ParticipantBootId) (conflicting : List RegionRecord)
    (grant : WriteGrant) : Result WriteGrant × Impl σ :=
  let s := s.tick
  let ownership := object.ownershipGeneration.next
  let required := s.transferInvalidations object ownership s.nextInvalidationId conflicting
  let object := object.grantWrite ctx.participant boot required s.sequence
  let s := (s.takeInvalidationIds required.length).setObject ctx.object object
  let journalled := s.appendManyLocked
      (.upsertObject (scrubObjectForPersistence object) :: required.map .upsertInvalidation)
  let s := journalled.2
  if !journalled.1.isOk then
    (.error journalled.1, s.setObject ctx.object object.rollbackWrite)
  else
    let s := s.withRecords (required.foldl (issueInvalidation s.sequence) s.toRecords)
    let grant := { grant with
      context := { grant.context with ownershipGeneration := ownership }
      granted := true
      mayMutateNow := required.isEmpty
      baseVersion := object.authoritativeVersion
      requiredInvalidations := required
      reason := if required.isEmpty then .ok else .invalidationOutstanding
      rationale :=
        if required.isEmpty then
          text "exclusive write authority granted; no incompatible replicas were present"
        else
          text "write authority reserved pending " ++ decimal required.length ++
            text " mandatory invalidation acknowledgement(s)" }
    (.ok grant, s.recordDecision .writeAcquire context grant.reason grant.rationale)

def acquireWriteAuthority (request : WriteRequest) (context : DecisionContext)
    (policy : CoherencePolicy) (object : ObjectRecord) (participant : ParticipantRecord)
    (region : Option RegionRecord) (grant : WriteGrant) : Result WriteGrant × Impl σ :=
  let ctx := request.context
  let deny (reason : StatusCode) (rationale : Text) : Result WriteGrant × Impl σ :=
    (.ok { grant with reason := reason, rationale := rationale },
      s.recordDecision .writeAcquire context reason rationale)
  let sameWriter := object.writer = ctx.participant ∧ object.writerBoot = ctx.boot
  if object.authority = .exclusiveWriter ∧ sameWriter then
    let grant := { grant with
      granted := true
      mayMutateNow := true
      rationale := text
        "the caller already holds exclusive write authority for this generation" }
    (.ok grant, s.recordDecision .writeAcquire context .ok grant.rationale)
  else if object.authority = .transferPending then
    if sameWriter then s.resumeTransfer ctx context object grant
    else deny .exclusiveWriterConflict exclusiveConflict
  else if object.authority = .exclusiveWriter then
    deny .exclusiveWriterConflict exclusiveConflict
  else match region.filter fun region => !region.state.isWritable with
    | some region =>
      deny
        (if region.state = .revalidationRequired then .revalidationRequired else .syncRequired)
        (text "the writer's replica is not current: state=" ++ NameTable.toToken region.state ++
          text "; revalidate or synchronize the replica before acquiring write authority")
    | none =>
      let conflicting := s.conflictingRegions object grant.writerRegion
      if !conflicting.isEmpty ∧ policy.conflictBehavior = .reject then
        deny .writeConflict (text
          "incompatible replicas exist and the policy forbids invalidating them automatically")
      else s.transferWrite ctx context object participant.boot conflicting grant

def acquireWrite (request : WriteRequest) : Result WriteGrant × Impl σ :=
  let ctx := request.context
  let resolution := s.resolveLocked ctx
  let context := s.contextOf ctx ctx.object ctx.objectGeneration resolution.ownership
  let s := s.takeDecisionId
  match resolution with
  | .refused authority _ =>
    (.error authority, s.recordDecision .writeAcquire context authority.code authority.toText)
  | .granted object participant =>
    let grant : WriteGrant :=
      { context := context, reason := .ok, writer := ctx.participant,
        writerBoot := participant.boot, baseVersion := object.authoritativeVersion,
        authoritativeVersion := object.authoritativeVersion }
    let deny (reason : StatusCode) (rationale : Text) : Result WriteGrant × Impl σ :=
      (.ok { grant with reason := reason, rationale := rationale },
        s.recordDecision .writeAcquire context reason rationale)
    match s.policyLocked object with
    | none =>
      (.error (.make .unknownPolicy (text "the object references a policy that is not present")),
        s)
    | some policy =>
      match writeRefusal policy object with
      | some (reason, rationale) => deny reason rationale
      | none =>
        match s.writerRegion object request with
        | .error status => deny status.code status.toText
        | .ok none => s.acquireWriteAuthority request context policy object participant none grant
        | .ok (some region) =>
          if region.participant ≠ ctx.participant then
            deny .notWriteAuthorized
              (text "the writer does not own the region it intends to mutate")
          else
            s.acquireWriteAuthority request context policy object participant (some region)
              { grant with
                writerRegion := region.id
                writerRegionGeneration := region.generation }

/-! ### The dirty mark -/

def markDirtyRefusal (request : DirtyRequest) (object : ObjectRecord) : Result RegionRecord :=
  let ctx := request.context
  if object.authority ≠ .exclusiveWriter then
    .error (if object.authority = .transferPending then
      .make .invalidationOutstanding
        (text "mandatory invalidations are still outstanding for this write transfer")
    else
      .make .notWriteAuthorized (text "the caller does not hold exclusive write authority"))
  else if object.writer ≠ ctx.participant ∨ object.writerBoot ≠ ctx.boot then
    .error ⟨.notWriteAuthorized,
      text "the caller is not the holder of write authority for this object",
      text "writer=" ++ object.writer.toText⟩
  else if request.ownershipGeneration ≠ object.ownershipGeneration then
    .error ⟨.staleOwnership, text "request carries a stale ownership generation",
      staleDetail request.ownershipGeneration object.ownershipGeneration⟩
  else if request.baseVersion ≠ object.authoritativeVersion then
    .error ⟨.stalePublication, text "mark-dirty carries a stale base version",
      staleDetail request.baseVersion object.authoritativeVersion⟩
  else match s.resolveRegionLocked object request.region request.regionGeneration with
    | .error status => .error status
    | .ok region =>
      if region.participant ≠ ctx.participant then
        .error (.make .notWriteAuthorized
          (text "the caller does not own the region it is marking dirty"))
      else if region.state ≠ .current ∧ region.state ≠ .dirty then
        .error ⟨.syncRequired,
          text "a replica that is not current cannot become the source of a new version",
          NameTable.toToken region.state⟩
      else if !isLegalCoherenceTransition region.state .dirty then
        .error ⟨.invalidTransition, text "illegal coherence transition to dirty",
          NameTable.toToken region.state⟩
      else .ok region

def markDirty (request : DirtyRequest) : Result DirtyCondition × Impl σ :=
  let ctx := request.context
  let resolution := s.resolveLocked ctx
  let context := s.contextOf ctx ctx.object ctx.objectGeneration resolution.ownership
  let s := s.takeDecisionId
  match resolution with
  | .refused authority _ =>
    (.error authority, s.recordDecision .markDirty context authority.code authority.toText)
  | .granted object _ =>
    match s.markDirtyRefusal request object with
    | .error failure =>
      (.error failure, s.recordDecision .markDirty context failure.code failure.toText)
    | .ok region =>
      let s := s.tick
      let region := region.markDirty request object.ownershipGeneration s.sequence
      let object := object.markDirty s.sequence
      let s := (s.setObject ctx.object object).setRegion request.region region
      let journalled := s.appendManyLocked
          [.upsertObject (scrubObjectForPersistence object), .upsertRegion region]
      let s := journalled.2
      if !journalled.1.isOk then (.error journalled.1, s)
      else
        (.ok .dirtyUnpublished,
          s.recordDecision .markDirty context .ok
            (text "replica marked dirty against base version " ++ request.baseVersion.toText))

/-! ### Release -/

/-- The release of a read lease: the first grant with the lease, if it is the caller's. -/
def releaseLease (request : ReleaseRequest) (object : ObjectRecord)
    (outcome : ReleaseOutcome) : Result ReleaseOutcome × Impl σ :=
  let ctx := request.context
  match object.reads.findIdx? fun grant => grant.lease == request.lease with
  | none =>
    (.error ⟨.unknownRequest, text "no such read lease", request.lease.toText⟩, s)
  | some index =>
    let grant := (object.reads[index]?).getD {}
    if grant.participant ≠ ctx.participant ∨ grant.boot ≠ ctx.boot then
      (.error ⟨.notWriteAuthorized,
        text "the read lease belongs to a different participant incarnation",
        request.lease.toText⟩, s)
    else
      let object := object.releaseAt index
      let s := s.setObject ctx.object object
      let object := { s.recomputeAuthorityLocked object with updatedSequence := s.sequence }
      let s := s.setObject ctx.object object
      let journalled := s.appendManyLocked [.upsertObject (scrubObjectForPersistence object)]
      let s := journalled.2
      if !journalled.1.isOk then (.error journalled.1, s)
      else
        let outcome := { outcome with
          lease := request.lease
          alreadyReleased := grant.released
          version := grant.version
          reason := .ok
          rationale :=
            if grant.released then
              text "the read lease had already been released; the release is idempotent"
            else text "read lease released" }
        (.ok outcome, s.tick.recordDecision .release outcome.context .ok outcome.rationale)

def discardReplica (acc : List JournalPayload × Records) (sequence : OperationSequence)
    (id : RegionId) : List JournalPayload × Records :=
  match acc.2.regions[id]? with
  | none => acc
  | some region =>
    if region.dirty ≠ .dirtyUnpublished then acc
    else
      let region := region.discardDirty sequence
      (acc.1 ++ [.upsertRegion region], acc.2.setRegion id region)

/-- The replicas of an object whose writer releases authority, and what is journalled for
the ones whose modification is given up. -/
def discardReplicas (object : ObjectRecord) : List JournalPayload × Records :=
  if object.hasUnpublishedDirty then
    object.replicas.foldl (fun acc id => discardReplica acc s.sequence id) ([], s.toRecords)
  else ([], s.toRecords)

def relinquish (object : ObjectRecord) : ObjectRecord :=
  let released := object.releaseWriter
  if object.hasUnpublishedDirty then released.releaseDirty (s.dirtyLossPolicyOf released)
  else released

def releaseAuthority (request : ReleaseRequest) (object : ObjectRecord)
    (outcome : ReleaseOutcome) : Result ReleaseOutcome × Impl σ :=
  let ctx := request.context
  let s := s.tick
  let discarded := s.discardReplicas object
  let object := s.relinquish object
  let s := s.withRecords (discarded.2.setObject ctx.object object)
  let object := { s.recomputeAuthorityLocked object with updatedSequence := s.sequence }
  let s := s.setObject ctx.object object
  let journalled := s.appendManyLocked
      (discarded.1 ++ [.upsertObject (scrubObjectForPersistence object)])
  let s := journalled.2
  if !journalled.1.isOk then (.error journalled.1, s)
  else
    let outcome := { outcome with
      reason := .ok
      rationale := text "write authority released and the ownership generation advanced" }
    (.ok outcome, s.recordDecision .release outcome.context .ok outcome.rationale)

/-- `release`. The decision identity is taken only once the object is found. -/
def release (request : ReleaseRequest) : Result ReleaseOutcome × Impl σ :=
  let ctx := request.context
  match s.resolveLocked ctx with
  | .refused authority none => (.error authority, s)
  | .refused authority (some _) => (.error authority, s.takeDecisionId)
  | .granted object _ =>
    let outcome : ReleaseOutcome :=
      { context := s.contextOf ctx ctx.object ctx.objectGeneration object.ownershipGeneration
        participant := ctx.participant
        boot := ctx.boot }
    let s := s.takeDecisionId
    if request.lease.defined then s.releaseLease request object outcome
    else if !request.releaseWriteAuthority then
      (.error (.make .invalidArgument
        (text "release must name either a read lease or write authority")), s)
    else if object.writer ≠ ctx.participant ∨ object.writerBoot ≠ ctx.boot then
      (.error (.make .notWriteAuthorized
        (text "the caller does not hold write authority for this object")), s)
    else if request.ownershipGeneration ≠ object.ownershipGeneration then
      (.error (.make .staleOwnership (text "release carries a stale ownership generation")), s)
    else s.releaseAuthority request object outcome

end Impl

end CoherenceFabric
