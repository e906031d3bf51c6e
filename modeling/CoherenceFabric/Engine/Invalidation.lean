import CoherenceFabric.Engine.Writes

/-!
Explicit invalidation of a replica, and its acknowledgement by the targeted participant.
-/

namespace CoherenceFabric

variable {σ : Type}

/-! ### What happens to a record -/

namespace ObjectRecord

def addOutstanding (object : ObjectRecord) (id : InvalidationId)
    (sequence : OperationSequence) : ObjectRecord :=
  { object with
    outstandingInvalidations := sortIds (object.outstandingInvalidations ++ [id])
    updatedSequence := sequence }

def dropOutstanding (object : ObjectRecord) (id : InvalidationId) : ObjectRecord :=
  { object with
    outstandingInvalidations := object.outstandingInvalidations.filter fun other => other != id }

end ObjectRecord

namespace RegionRecord

/-- The replica may hold bytes, but they are no longer a source of truth. -/
def invalidate (region : RegionRecord) (id : InvalidationId) (sequence : OperationSequence) :
    RegionRecord :=
  { region with
    state := if region.version.defined then .stale else .invalid
    evidence := .nil
    evidenceGeneration := .nil
    invalidationPending := false
    pendingInvalidation := .nil
    pendingInvalidationTarget := .nil
    updatedSequence := sequence
    note := text "invalidated by " ++ id.toText }

end RegionRecord

namespace InvalidationRecord

def acknowledge (record : InvalidationRecord) (superseded : VersionId)
    (sequence : OperationSequence) : InvalidationRecord :=
  { record with
    state := .acknowledged
    settledSequence := sequence
    supersededVersion := superseded }

end InvalidationRecord

namespace Impl

/-! ### Invalidation -/

def invalidateRefusal (s : Impl σ) (request : InvalidationRequest) (object : ObjectRecord) :
    Result RegionRecord :=
  if request.ownershipGeneration ≠ object.ownershipGeneration then
    .error ⟨.staleOwnership, text "invalidation carries a stale ownership generation",
      staleDetail request.ownershipGeneration object.ownershipGeneration⟩
  else match s.regions[request.targetRegion]? with
    | none => .error ⟨.unknownRegion, text "no such region", request.targetRegion.toText⟩
    | some region =>
      if region.object ≠ object.id then
        .error (.make .invalidArgument
          (text "the invalidation target does not belong to the object"))
      -- an invalidation of one generation never touches a replacement replica
      else if region.generation ≠ request.targetRegionGeneration ∨
          region.replicaGeneration ≠ request.targetReplicaGeneration then
        .error ⟨.staleRegionGeneration,
          text "the invalidation target generation no longer matches the live replica",
          text "request_region_generation=" ++ request.targetRegionGeneration.toText ++
            text " live_region_generation=" ++ region.generation.toText ++
            text " request_replica_generation=" ++ request.targetReplicaGeneration.toText ++
            text " live_replica_generation=" ++ region.replicaGeneration.toText⟩
      else .ok region

def newInvalidation (s : Impl σ) (request : InvalidationRequest) (object : ObjectRecord)
    (region : RegionRecord) : InvalidationRecord where
  id := ⟨s.nextInvalidationId⟩
  object := object.id
  objectGeneration := object.generation
  region := region.id
  regionGeneration := region.generation
  replicaGeneration := region.replicaGeneration
  publishedVersion :=
    if request.publishedVersion.defined then request.publishedVersion
    else object.authoritativeVersion
  supersededVersion := region.version
  ownershipGeneration := object.ownershipGeneration
  epoch := s.epoch
  targetParticipant := region.participant
  targetBoot := region.boot
  state := .requested
  acknowledgementRequired := request.acknowledgementRequired
  issuedSequence := s.sequence
  rationale := text "explicit generation-bound invalidation"

def settledInvalidation (s : Impl σ) (request : InvalidationRequest) (object : ObjectRecord)
    (region : RegionRecord) : InvalidationRecord :=
  { s.newInvalidation request object region with
    state := .acknowledged
    settledSequence := s.sequence }

def inertRationale (region : RegionRecord) : Text :=
  text "the targeted replica is inert (" ++ NameTable.toToken region.state ++
    text ("); the invalidation is satisfied vacuously and is not applied to any " ++
      "replacement")

def inertInvalidation (s : Impl σ) (request : InvalidationRequest) (object : ObjectRecord)
    (region : RegionRecord) : InvalidationRecord :=
  { s.newInvalidation request object region with
    acknowledgementRequired := false
    settledSequence := s.sequence
    state := .superseded
    rationale := inertRationale region }

def regionOutcome (context : DecisionContext) (id : InvalidationId) (state : InvalidationState)
    (region : RegionRecord) (replay : Bool) (rationale : Text) : InvalidationOutcome :=
  { context := context, invalidation := id, state := state, reason := .ok,
    region := region.id, regionGeneration := region.generation,
    replicaGeneration := region.replicaGeneration, idempotentReplay := replay,
    rationale := rationale }

def outstandingFor (s : Impl σ) (object : ObjectRecord) (region : RegionRecord) :
    Option (InvalidationId × InvalidationRecord) :=
  (object.outstandingInvalidations.filterMap fun id =>
    (s.invalidations[id]?).map fun record => (id, record)).find? fun entry =>
      entry.2.region == region.id && entry.2.regionGeneration == region.generation &&
        entry.2.replicaGeneration == region.replicaGeneration

variable [DurableStore σ] (s : Impl σ)

/-- An inert replica is not a source of truth; its invalidation is satisfied vacuously. -/
def invalidateInert (request : InvalidationRequest) (context : DecisionContext)
    (object : ObjectRecord) (region : RegionRecord) : Result InvalidationOutcome × Impl σ :=
  let s := s.tick
  let record := s.inertInvalidation request object region
  let journalled := (s.takeInvalidationIds 1).appendLocked (.upsertInvalidation record)
  let s := journalled.2
  if !journalled.1.isOk then (.error journalled.1, s)
  else
    (.ok (regionOutcome context record.id record.state region true record.rationale),
      (s.setInvalidation record.id record).recordDecision .invalidate context .ok record.rationale)

/-- No acknowledgement is required: the invalidation is applied and settled at once. -/
def invalidateNow (request : InvalidationRequest) (context : DecisionContext)
    (object : ObjectRecord) (region : RegionRecord) : Result InvalidationOutcome × Impl σ :=
  let s := s.tick
  let requested := s.newInvalidation request object region
  let record := s.settledInvalidation request object region
  let region' := region.invalidate record.id s.sequence
  let object := (object.addOutstanding record.id s.sequence).dropOutstanding record.id
  let s := ((s.takeInvalidationIds 1).setObject request.context.object object).setRegion
    request.targetRegion region'
  let object := s.recomputeAuthorityLocked object
  let s := s.setObject request.context.object object
  let journalled := s.appendManyLocked
      [.upsertInvalidation requested, .upsertInvalidation record, .upsertRegion region',
        .upsertObject (scrubObjectForPersistence object)]
  let s := journalled.2
  if !journalled.1.isOk then (.error journalled.1, s)
  else
    let rationale := text "invalidation applied and settled without acknowledgement"
    (.ok (regionOutcome context record.id record.state region' false rationale),
      (s.setInvalidation record.id record).recordDecision .invalidate context .ok rationale)

def invalidateLater (request : InvalidationRequest) (context : DecisionContext)
    (object : ObjectRecord) (region : RegionRecord) : Result InvalidationOutcome × Impl σ :=
  let s := s.tick
  let record := s.newInvalidation request object region
  let region := region.awaitInvalidation record.id s.sequence
  let object := object.addOutstanding record.id s.sequence
  let s := ((s.takeInvalidationIds 1).setObject request.context.object object).setRegion
    request.targetRegion region
  let journalled := s.appendManyLocked
      [.upsertInvalidation record, .upsertRegion region,
        .upsertObject (scrubObjectForPersistence object)]
  let s := journalled.2
  if !journalled.1.isOk then (.error journalled.1, s)
  else
    let rationale := text "invalidation issued and awaiting acknowledgement"
    (.ok (regionOutcome context record.id record.state region false rationale),
      (s.setInvalidation record.id record).recordDecision .invalidate context .ok rationale)

def invalidate (request : InvalidationRequest) : Result InvalidationOutcome × Impl σ :=
  let ctx := request.context
  match s.resolveInternalLocked ctx with
  | .error authority => (.error authority, s)
  | .ok object =>
    let context := s.contextOf ctx ctx.object ctx.objectGeneration object.ownershipGeneration
    let s := s.takeDecisionId
    match s.invalidateRefusal request object with
    | .error failure => (.error failure, s)
    | .ok region =>
      if region.lifecycle = .retired ∨ region.state = .retired ∨ region.state = .fenced then
        s.invalidateInert request context object region
      else match s.outstandingFor object region with
        | some (id, record) =>
          (.ok (regionOutcome context id record.state region true
            (text "an identical invalidation is already outstanding or acknowledged")), s)
        | none =>
          if request.acknowledgementRequired then s.invalidateLater request context object region
          else s.invalidateNow request context object region

/-! ### Acknowledgement -/

variable (acknowledgement : InvalidationAck)

def acknowledgeRefusal (record : InvalidationRecord) (object : ObjectRecord) : Option Status :=
  let ctx := acknowledgement.context
  if object.id ≠ record.object then
    some (.make .invalidArgument
      (text "the acknowledgement names an invalidation for a different object"))
  else if record.targetParticipant ≠ ctx.participant ∨ record.targetBoot ≠ ctx.boot then
    some ⟨.notWriteAuthorized,
      text "the acknowledgement does not come from the participant the invalidation targeted",
      text "target=" ++ record.targetParticipant.toText ++
        text " caller=" ++ ctx.participant.toText⟩
  else none

/-- The record leaves the object's outstanding list and the authority is recomputed. -/
def settleInvalidation
    (record : InvalidationRecord) (object : ObjectRecord) : ObjectRecord × Impl σ :=
  let object := object.dropOutstanding record.id
  let s := (s.setInvalidation acknowledgement.invalidation record).setObject
    acknowledgement.context.object object
  let object := s.recomputeAuthorityLocked object
  (object, s.setObject acknowledgement.context.object object)

def missingTarget : Text := text "target replica no longer exists"

def replacedTarget : Text :=
  text "the targeted replica generation was replaced before the acknowledgement arrived"

/-- The replica disappeared: the invalidation is satisfied vacuously. -/
def acknowledgeMissing
    (record : InvalidationRecord) (object : ObjectRecord) (outcome : InvalidationOutcome) :
    Result InvalidationOutcome × Impl σ :=
  let record := record.supersede missingTarget s.sequence
  let settled := s.settleInvalidation acknowledgement record object
  let journalled := settled.2.appendLocked (.upsertInvalidation record)
  let s := journalled.2
  if !journalled.1.isOk then (.error journalled.1, s)
  else
    (.ok { outcome with state := record.state, reason := .ok, rationale := record.rationale },
      s)

/-- A generation does not match: the record is superseded and the replica is left alone. -/
def acknowledgeReplaced
    (record : InvalidationRecord) (object : ObjectRecord) (outcome : InvalidationOutcome) :
    Result InvalidationOutcome × Impl σ :=
  let record := record.supersede replacedTarget s.sequence
  let settled := s.settleInvalidation acknowledgement record object
  let journalled := settled.2.appendManyLocked
      [.upsertInvalidation record, .upsertObject (scrubObjectForPersistence settled.1)]
  let s := journalled.2
  if !journalled.1.isOk then (.error journalled.1, s)
  else
    (.ok { outcome with state := record.state, reason := .ok, rationale := record.rationale },
      s)

def acknowledgeApplied (record : InvalidationRecord) (object : ObjectRecord) (region : RegionRecord)
    (outcome : InvalidationOutcome) : Result InvalidationOutcome × Impl σ :=
  let s := s.tick
  let record' := record.acknowledge
    (if acknowledgement.supersededVersion.defined then acknowledgement.supersededVersion
      else region.version) s.sequence
  let region := region.invalidate record.id s.sequence
  let s := s.setRegion record.region region
  let settled := s.settleInvalidation acknowledgement record' object
  let object := { settled.1 with updatedSequence := s.sequence }
  let s := settled.2.setObject acknowledgement.context.object object
  let journalled := s.appendManyLocked
      [.upsertInvalidation record', .upsertRegion region,
        .upsertObject (scrubObjectForPersistence object)]
  let s := journalled.2
  if !journalled.1.isOk then (.error journalled.1, s)
  else
    let outcome := { outcome with
      state := record'.state
      reason := .ok
      rationale := text
        "invalidation acknowledged and applied to the targeted replica generation" }
    (.ok outcome, s.recordDecision .invalidate outcome.context .ok outcome.rationale)

def acknowledgeInvalidation : Result InvalidationOutcome × Impl σ :=
  let ctx := acknowledgement.context
  match s.invalidations[acknowledgement.invalidation]? with
  | none =>
    (.error ⟨.unknownInvalidation, text "no such invalidation",
      acknowledgement.invalidation.toText⟩, s)
  | some record =>
    let resolution := s.resolveLocked ctx
    let outcome : InvalidationOutcome :=
      { context := s.contextOf ctx record.object record.objectGeneration
          record.ownershipGeneration
        invalidation := record.id
        region := record.region
        regionGeneration := record.regionGeneration
        replicaGeneration := record.replicaGeneration }
    let s := s.takeDecisionId
    match resolution with
    | .refused authority _ => (.error authority, s)
    | .granted object _ =>
      match acknowledgeRefusal acknowledgement record object with
      | some failure => (.error failure, s)
      | none =>
        if record.state = .acknowledged then
          (.ok { outcome with
            state := record.state
            reason := .ok
            idempotentReplay := true
            rationale := text
              "the invalidation was already acknowledged; no second effect is applied" }, s)
        else if record.state = .superseded then
          (.ok { outcome with
            state := record.state
            reason := .staleInvalidation
            rationale := text
              "the invalidation was superseded; the acknowledgement has no effect" }, s)
        else match s.regions[record.region]? with
          | none => s.acknowledgeMissing acknowledgement record object outcome
          | some region =>
            if region.generation ≠ record.regionGeneration ∨
                region.replicaGeneration ≠ record.replicaGeneration ∨
                region.generation ≠ acknowledgement.regionGeneration ∨
                region.replicaGeneration ≠ acknowledgement.replicaGeneration then
              s.acknowledgeReplaced acknowledgement record object outcome
            else s.acknowledgeApplied acknowledgement record object region outcome

end Impl

end CoherenceFabric
