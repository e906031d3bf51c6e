import CoherenceFabric.Engine.Participants

/-!
Synchronization of a replica from a current one, and revalidation by direct observation.
-/

namespace CoherenceFabric

variable {σ : Type}

/-! ### What happens to a record -/

namespace RegionRecord

variable (region : RegionRecord)

def requestSync (sync : SyncOperationId) (source : RegionId)
    (sequence : OperationSequence) : RegionRecord :=
  { region with
    -- a replica that needs revalidation keeps saying so
    state := if region.state matches .revalidationRequired | .retired | .fenced then region.state
      else .syncRequired
    note := text "synchronization " ++ sync.toText ++ text " requested from " ++ source.toText
    updatedSequence := sequence }

def refuseSync (state : CoherenceState) (note : Text)
    (sequence : OperationSequence) : RegionRecord :=
  { region with state := state, note := note, updatedSequence := sequence }

def completeSync (sync : SyncRecord) (ownership : OwnershipGeneration)
    (observed : ContentFingerprint) (evidence : EvidenceId) (sequence : OperationSequence) :
    RegionRecord :=
  { region with
    state := .current
    version := sync.sourceVersion
    lastSyncedVersion := sync.sourceVersion
    ownershipGeneration := ownership
    dirty := .clean
    dirtyPublished := false
    content := if observed.defined then observed else region.content
    evidence := evidence
    evidenceGeneration := ⟨1⟩
    note := text "synchronized to version " ++ sync.sourceVersion.toText ++
      text " from region " ++ sync.sourceRegion.toText
    updatedSequence := sequence }

def revalidate (request : RevalidateRequest)
    (authoritative : VersionId) (ownership : OwnershipGeneration) (evidence : EvidenceId)
    (sequence : OperationSequence) : RegionRecord :=
  let observed := request.observedVersion
  let region : RegionRecord := { region with
    version := observed
    ownershipGeneration := ownership
    evidence := evidence
    evidenceGeneration := ⟨1⟩
    updatedSequence := sequence
    content := if request.content.defined then request.content else region.content
    dirty := if region.dirty = .dirtyUnpublished then .dirtyPublished else region.dirty
    dirtyPublished := if region.dirty = .dirtyUnpublished then true else region.dirtyPublished }
  if (authoritative.defined ∧ observed = authoritative) ∨ !authoritative.defined then
    { region with
      state := .current
      lastSyncedVersion := observed
      note := text "revalidated by direct observation at version " ++ observed.toText }
  else
    { region with
      state := .stale
      note := text "revalidation observed version " ++ observed.toText ++
        text " which is not the authoritative version " ++ authoritative.toText }

section Revalidate

variable (request : RevalidateRequest) (authoritative : VersionId)
  (ownership : OwnershipGeneration) (evidence : EvidenceId) (sequence : OperationSequence)

@[simp] lemma revalidate_lifecycle :
    (region.revalidate request authoritative ownership evidence sequence).lifecycle =
      region.lifecycle := by
  unfold revalidate
  dsimp only
  split <;> rfl

lemma revalidate_dirty :
    (region.revalidate request authoritative ownership evidence sequence).dirty =
      if region.dirty = .dirtyUnpublished then .dirtyPublished else region.dirty := by
  unfold revalidate
  dsimp only
  split <;> rfl

lemma revalidate_current_iff :
    (region.revalidate request authoritative ownership evidence sequence).state = .current ↔
      (authoritative.defined = true → request.observedVersion = authoritative) := by
  unfold revalidate
  dsimp only
  cases hdefined : authoritative.defined
  · simp
  · by_cases hsame : request.observedVersion = authoritative <;> simp [hsame]

lemma revalidate_ownership :
    (region.revalidate request authoritative ownership evidence sequence).ownershipGeneration =
      ownership := by
  unfold revalidate
  dsimp only
  split <;> rfl

end Revalidate

end RegionRecord

namespace SyncRecord

def settle (sync : SyncRecord) (state : SyncState) (reason : Text)
    (sequence : OperationSequence) : SyncRecord :=
  { sync with state := state, settledSequence := sequence, failureReason := reason }

def complete (sync : SyncRecord) (sequence : OperationSequence) : SyncRecord :=
  { sync with state := .completed, settledSequence := sequence }

end SyncRecord

namespace Impl

/-! ### Begin -/

/-- The replica a synchronization copies from: the nominated one if it is current, else the
first replica that is current at the authoritative version. -/
def syncSource (s : Impl σ) (request : SyncRequest) (object : ObjectRecord)
    (destination : RegionRecord) : Result RegionRecord :=
  let nothing : Status := .make .notAuthoritative (text
    ("no replica currently holds the authoritative version, so there is nothing to " ++
      "synchronize from"))
  if request.sourceRegion.defined then
    match s.regions[request.sourceRegion]? with
    | none =>
      .error ⟨.unknownRegion, text "no such source region", request.sourceRegion.toText⟩
    | some source =>
      if request.sourceRegionGeneration.defined ∧
          source.generation ≠ request.sourceRegionGeneration then
        .error ⟨.staleRegionGeneration,
          text "the nominated source region generation is not the live one",
          text "request=" ++ request.sourceRegionGeneration.toText ++
            text " live=" ++ source.generation.toText⟩
      else if source.object ≠ object.id then
        .error (.make .invalidArgument
          (text "the source region does not belong to this object"))
      else if source.state ≠ .current then
        .error ⟨.readNotCurrent,
          text "the nominated source replica is not current and cannot be a source of truth",
          NameTable.toToken source.state⟩
      else .ok source
  else
    let candidate (id : RegionId) : Bool :=
      id != destination.id && (s.regions[id]?).any fun region =>
        region.state == .current &&
          !(object.authoritativeVersion.defined &&
            region.version != object.authoritativeVersion)
    match object.replicas.find? candidate with
    | none => .error nothing
    | some id =>
      if !id.defined then .error nothing
      else match s.regions[id]? with
        | none => .error nothing
        | some source => .ok source

def beginSyncRefusal (s : Impl σ) (request : SyncRequest) (object : ObjectRecord) :
    Result (RegionRecord × RegionRecord) :=
  let ctx := request.context
  if (s.policyLocked object).isNone then
    .error (.make .unknownPolicy (text "the object references a policy that is not present"))
  else if s.config.maxInflightSyncs ≤ s.syncs.size then
    .error (.make .capacityExceeded (text "in-flight synchronization capacity reached"))
  else match s.resolveRegionLocked object request.destinationRegion
      request.destinationRegionGeneration with
    | .error status => .error status
    | .ok destination =>
      if destination.participant ≠ ctx.participant ∨ destination.boot ≠ ctx.boot then
        .error (.make .notWriteAuthorized (text
          ("only the owning participant incarnation may synchronize a replica into its own " ++
            "region")))
      else if destination.lifecycle = .retired then
        .error (.make .retired (text "the destination replica is retired"))
      else match s.syncSource request object destination with
        | .error status => .error status
        | .ok source => .ok (source, destination)

def newSync (s : Impl σ) (request : SyncRequest) (object : ObjectRecord)
    (source destination : RegionRecord) : SyncRecord :=
  let version :=
    if object.authoritativeVersion.defined then object.authoritativeVersion else source.version
  { id := ⟨s.nextSyncId⟩
    kind := request.kind
    object := object.id
    objectGeneration := object.generation
    sourceRegion := source.id
    sourceRegionGeneration := source.generation
    destinationRegion := destination.id
    destinationRegionGeneration := destination.generation
    sourceVersion := version
    destinationPriorVersion := destination.version
    extentOffset := source.offset
    extentLength := source.length
    expectedContent := source.content
    ownershipGeneration := object.ownershipGeneration
    policy := object.policy
    policyGeneration := object.policyGeneration
    epoch := s.epoch
    destinationParticipant := destination.participant
    destinationBoot := destination.boot
    state := .requested
    transport := if request.transport.isEmpty then text "delegated" else request.transport
    postcondition :=
      text "destination replica holds version " ++ version.toText ++
        text " with fingerprint " ++ source.content.toText ++
        text " and becomes current under ownership generation " ++
        object.ownershipGeneration.toText
    issuedSequence := s.sequence }

abbrev takeSyncId (s : Impl σ) : Impl σ :=
  s.withCounters { s.toCounters with nextSyncId := s.nextSyncId + 1 }

variable [DurableStore σ] (s : Impl σ)

def beginSync (request : SyncRequest) : Result SyncOutcome × Impl σ :=
  let ctx := request.context
  match s.resolveLocked ctx with
  | .refused authority none => (.error authority, s)
  | .refused authority (some _) => (.error authority, s.takeDecisionId)
  | .granted object _ =>
    let context := s.contextOf ctx ctx.object ctx.objectGeneration object.ownershipGeneration
    let s := s.takeDecisionId
    match s.beginSyncRefusal request object with
    | .error failure => (.error failure, s)
    | .ok (source, destination) =>
      let s := s.tick
      let record := s.newSync request object source destination
      let destination := destination.requestSync record.id source.id s.sequence
      let s := s.takeSyncId.setRegion request.destinationRegion destination
      let journalled := s.appendManyLocked [.upsertSync record, .upsertRegion destination]
      let s := journalled.2
      if !journalled.1.isOk then (.error journalled.1, s)
      else
        let outcome : SyncOutcome :=
          { context := context, operation := record.id, state := record.state,
            plan := record, reason := .ok,
            rationale := text "synchronization plan issued; a plan is not a completion" }
        (.ok outcome,
          (s.setSync record.id record).recordDecision .syncBegin context .ok outcome.rationale)

/-! ### Completion -/

variable (request : SyncCompleteRequest)

def completeSyncRefusal (record : SyncRecord) : Option Status :=
  let ctx := request.context
  if record.state = .cancelled ∨ record.state = .failed then
    some ⟨.invalidTransition, text "the synchronization is already settled",
      NameTable.toToken record.state⟩
  else if record.destinationParticipant ≠ ctx.participant then
    some (.make .notWriteAuthorized
      (text "the completion does not come from the destination participant"))
  else if record.destinationBoot ≠ ctx.boot then
    some ⟨.staleBoot,
      text "the completion carries a boot identity that is not the boot the plan was issued to",
      text "plan_boot=" ++ record.destinationBoot.toText ++
        text " caller_boot=" ++ ctx.boot.toText⟩
  else if request.destinationRegion ≠ record.destinationRegion ∨
      request.destinationRegionGeneration ≠ record.destinationRegionGeneration then
    some ⟨.staleRegionGeneration,
      text "the completion targets a different region generation than the plan was issued for",
      text "plan_region=" ++ record.destinationRegion.toText ++
        text " plan_generation=" ++ record.destinationRegionGeneration.toText ++
        text " caller_region=" ++ request.destinationRegion.toText ++
        text " caller_generation=" ++ request.destinationRegionGeneration.toText⟩
  else if request.destinationNewVersion ≠ record.sourceVersion then
    some ⟨.staleSyncOperation,
      text "the completion names a different version than the plan required",
      text "plan_version=" ++ record.sourceVersion.toText ++
        text " reported_version=" ++ request.destinationNewVersion.toText⟩
  else none

def settleSync (record : SyncRecord) (destination : RegionRecord) : Status × Impl σ :=
  ((s.setSync request.operation record).setRegion record.destinationRegion
    destination).appendManyLocked [.upsertSync record, .upsertRegion destination]

def retiredReason : Text :=
  text "the destination replica was retired before the transfer completed"

def advancedReason : Text :=
  text "the authoritative version advanced while the transfer was in flight"

/-- The destination was retired: the transfer is cancelled and the replica is left alone. -/
def completeRetired (record : SyncRecord) (outcome : SyncOutcome) : Result SyncOutcome × Impl σ :=
  let s := s.tick
  let record := record.settle .cancelled retiredReason s.sequence
  let s := s.setSync request.operation record
  let journalled := s.appendManyLocked [.upsertSync record]
  let s := journalled.2
  if !journalled.1.isOk then (.error journalled.1, s)
  else
    let outcome := { outcome with
      state := record.state
      plan := record
      reason := .retired
      rationale := record.failureReason }
    (.ok outcome,
      s.recordDecision .syncComplete outcome.context outcome.reason outcome.rationale)

/-- The authoritative version advanced underneath the transfer. -/
def completeStale (record : SyncRecord)
    (destination : RegionRecord) (outcome : SyncOutcome) : Result SyncOutcome × Impl σ :=
  let s := s.tick
  let record := record.settle .failed advancedReason s.sequence
  let destination := destination.refuseSync .stale
    (text "synchronization completed against a superseded version " ++
      record.sourceVersion.toText) s.sequence
  let journalled := s.settleSync request record destination
  let s := journalled.2
  if !journalled.1.isOk then (.error journalled.1, s)
  else
    let outcome := { outcome with
      state := record.state
      reason := .stalePublication
      rationale := record.failureReason }
    (.ok outcome,
      s.recordDecision .syncComplete outcome.context outcome.reason outcome.rationale)

def unmovedReason : Text := text "the caller reported that no bytes were moved"

/-- No bytes were moved; what the journal reports is ignored and no decision is recorded. -/
def completeUnmoved (record : SyncRecord)
    (destination : RegionRecord) (outcome : SyncOutcome) : Result SyncOutcome × Impl σ :=
  let s := s.tick
  let record := record.settle .failed unmovedReason s.sequence
  let destination := destination.refuseSync .syncRequired unmovedReason s.sequence
  (.ok { outcome with
      state := record.state
      reason := .contentMismatch
      rationale := record.failureReason },
    (s.settleSync request record destination).2)

def mismatchReason (record : SyncRecord) : Text :=
  text "the destination fingerprint does not match the published content fingerprint: expected " ++
    record.expectedContent.toText ++ text " observed " ++ request.observedContent.toText

def completeMismatch (record : SyncRecord)
    (destination : RegionRecord) (outcome : SyncOutcome) : Result SyncOutcome × Impl σ :=
  let s := s.tick
  let reason := mismatchReason request record
  let record := record.settle .failed reason s.sequence
  let destination := destination.refuseSync .revalidationRequired reason s.sequence
  let journalled := s.settleSync request record destination
  let s := journalled.2
  if !journalled.1.isOk then (.error journalled.1, s)
  else
    let outcome := { outcome with
      state := record.state
      reason := .contentMismatch
      rationale := record.failureReason }
    (.ok outcome,
      s.recordDecision .syncComplete outcome.context outcome.reason outcome.rationale)

/-- The destination becomes current at the version of the plan. -/
def completeCurrent (record : SyncRecord)
    (object : ObjectRecord) (destination : RegionRecord) (outcome : SyncOutcome) :
    Result SyncOutcome × Impl σ :=
  let s := s.tick
  let record := record.complete s.sequence
  let destination := destination.completeSync record object.ownershipGeneration
    request.observedContent ⟨s.nextEvidenceId⟩ s.sequence
  let s := s.takeEvidenceId
  let journalled := s.settleSync request record destination
  let s := journalled.2
  if !journalled.1.isOk then (.error journalled.1, s)
  else
    let outcome := { outcome with
      state := record.state
      plan := record
      reason := .ok
      rationale := text
        ("synchronization completed: the destination replica is current at the published " ++
          "version and carries evidence produced by an actual byte comparison") }
    (.ok outcome, s.recordDecision .syncComplete outcome.context .ok outcome.rationale)

def completeSync : Result SyncOutcome × Impl σ :=
  let ctx := request.context
  match s.syncs[request.operation]? with
  | none =>
    (.error ⟨.unknownSyncOperation, text "no such synchronization operation",
      request.operation.toText⟩, s)
  | some record =>
    let resolution := s.resolveLocked ctx
    let outcome : SyncOutcome :=
      { context := s.contextOf ctx record.object record.objectGeneration
          record.ownershipGeneration
        operation := record.id
        plan := record }
    let s := s.takeDecisionId
    match resolution with
    | .refused authority _ => (.error authority, s)
    | .granted object _ =>
      if object.id ≠ record.object then
        (.error (.make .invalidArgument
          (text "the completion names a synchronization for another object")), s)
      else if record.state = .completed then
        (.ok { outcome with
          state := record.state
          reason := .ok
          idempotentReplay := true
          rationale := text
            "the synchronization was already completed; no second effect is applied" }, s)
      else match completeSyncRefusal request record with
        | some failure => (.error failure, s)
        | none =>
          match s.regions[record.destinationRegion]? with
          | none =>
            (.error (.make .unknownRegion (text "the destination replica no longer exists")), s)
          | some destination =>
            if destination.lifecycle = .retired ∨ destination.state = .retired then
              s.completeRetired request record outcome
            else if object.authoritativeVersion ≠ record.sourceVersion then
              s.completeStale request record destination outcome
            else if (s.policyLocked object).any (fun policy => policy.requireContentFingerprint) ∧
                record.expectedContent.defined ∧ !request.contentMoved then
              s.completeUnmoved request record destination outcome
            else if (s.policyLocked object).any (fun policy => policy.requireContentFingerprint) ∧
                record.expectedContent.defined ∧
                !request.observedContent.same record.expectedContent then
              s.completeMismatch request record destination outcome
            else s.completeCurrent request record object destination outcome

/-! ### Failure -/

def failureReason (request : SyncFailRequest) : Text :=
  if request.detail.isEmpty then request.cause.name else request.detail

def failedDestination (request : SyncFailRequest) : CoherenceState × Text :=
  let reason := failureReason request
  if request.outcomeUnknown then
    (.syncRequired, text "synchronization outcome unknown: " ++ reason)
  else if request.cause = .contentMismatch then
    (.revalidationRequired, text "content mismatch during synchronization: " ++ reason)
  else (.invalid, text "synchronization failed: " ++ reason)

def recordSyncFailure (request : SyncFailRequest) (record : SyncRecord) : Status × Impl σ :=
  let s := s.setSync request.operation record
  match s.regions[record.destinationRegion]? with
  | some destination =>
    let failed := failedDestination request
    let destination := destination.refuseSync failed.1 failed.2 s.sequence
    (s.setRegion record.destinationRegion destination).appendManyLocked
      [.upsertSync record, .upsertRegion destination]
  | none => s.appendManyLocked [.upsertSync record]

/-- `fail_sync`. The request's context is compared with the plan only; it is not resolved. -/
def failSync (request : SyncFailRequest) : Result SyncOutcome × Impl σ :=
  let ctx := request.context
  match s.syncs[request.operation]? with
  | none =>
    (.error ⟨.unknownSyncOperation, text "no such synchronization operation",
      request.operation.toText⟩, s)
  | some record =>
    let outcome : SyncOutcome :=
      { context := s.contextOf ctx record.object record.objectGeneration
          record.ownershipGeneration
        operation := record.id }
    let s := s.takeDecisionId
    if record.state = .completed then
      (.ok { outcome with
        state := record.state
        plan := record
        reason := .invalidTransition
        rationale := text
          "the synchronization already completed; a failure report cannot undo it" }, s)
    else if record.destinationParticipant ≠ ctx.participant ∨
        record.destinationBoot ≠ ctx.boot then
      (.error (.make .notWriteAuthorized
        (text "the failure report does not come from the destination participant incarnation")),
        s)
    else
      let s := s.tick
      let record := record.settle (if request.outcomeUnknown then .outcomeUnknown else .failed)
        (failureReason request) s.sequence
      let journalled := s.recordSyncFailure request record
      let s := journalled.2
      if !journalled.1.isOk then (.error journalled.1, s)
      else
        let outcome := { outcome with
          state := record.state
          plan := record
          reason := .ok
          rationale :=
            if request.outcomeUnknown then text
              ("synchronization outcome recorded as unknown; the replica is not " ++
                "current and will require re-synchronization")
            else text "synchronization failure recorded" }
        (.ok outcome, s.recordDecision .syncComplete outcome.context .ok outcome.rationale)

/-! ### Revalidation -/

def revalidateRefusal (request : RevalidateRequest) (object : ObjectRecord) : Result RegionRecord :=
  let ctx := request.context
  match s.resolveRegionLocked object request.region request.regionGeneration with
  | .error status => .error status
  | .ok region =>
    if region.participant ≠ ctx.participant ∨ region.boot ≠ ctx.boot then
      .error (.make .notWriteAuthorized
        (text "only the owning participant incarnation may revalidate a replica"))
    else if region.lifecycle = .retired then
      .error (.make .retired (text "a retired replica cannot be revalidated"))
    else match s.policyLocked object with
      | none =>
        .error (.make .unknownPolicy
          (text "the object references a policy that is not present"))
      | some policy =>
        if policy.requireContentFingerprint ∧ !request.content.defined then
          .error (.make .evidenceMissing
            (text "the active policy requires a content fingerprint to revalidate a replica"))
        else if !request.byteCompared ∧ policy.requireContentFingerprint then
          .error (.make .evidenceMissing (text
            ("an assertion without a byte comparison cannot revalidate a replica under this " ++
              "policy")))
        else if !request.observedVersion.defined then
          .error (.make .invalidArgument
            (text "revalidation must name the version actually observed"))
        else .ok region

def revalidateRegion (request : RevalidateRequest) : Result RegionRecord × Impl σ :=
  let ctx := request.context
  match s.resolveLocked ctx with
  | .refused authority _ => (.error authority, s)
  | .granted object _ =>
    match s.revalidateRefusal request object with
    | .error failure => (.error failure, s)
    | .ok region =>
      let s := s.tick
      let region := region.revalidate request object.authoritativeVersion
        object.ownershipGeneration ⟨s.nextEvidenceId⟩ s.sequence
      let s := s.takeEvidenceId.setRegion request.region region
      let journalled := s.appendLocked (.upsertRegion region)
      let s := journalled.2
      if !journalled.1.isOk then (.error journalled.1, s)
      else
        let context := s.contextOf ctx object.id object.generation object.ownershipGeneration
        (.ok region, s.takeDecisionId.recordDecision .revalidate context .ok region.note)

end Impl

end CoherenceFabric
