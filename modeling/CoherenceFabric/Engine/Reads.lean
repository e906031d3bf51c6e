import CoherenceFabric.Engine.Resolve

/-!
Read authority: evidence of currentness, the choice of a replica and the read decision.
-/

namespace CoherenceFabric

variable {σ : Type}

/-! ### Evidence -/

inductive FreshnessVerdict where
  | fresh | stale | missing | unsupported | requiresRevalidation
  deriving DecidableEq

structure EvidenceContext where
  currentEpoch : CoordinatorEpoch
  liveBoot : ParticipantBootId
  currentSequence : OperationSequence
  maxAgeOperations : UInt64
  syntheticDomain : Bool

structure FreshnessAssessment where
  verdict : FreshnessVerdict
  reason : StatusCode
  rationale : Text

def FreshnessAssessment.fresh (a : FreshnessAssessment) : Bool := a.verdict == .fresh

def formatId (kind : String) (value : UInt64) : Text :=
  text kind ++ text "#" ++ decimal value.toNat

def assessEvidence (record : EvidenceRecord) (context : EvidenceContext) : FreshnessAssessment :=
  if record.kind = .none ∨ record.id.isNil then
    ⟨.missing, .evidenceMissing, text "no evidence record is attached to the claim"⟩
  else if record.evidenceClass = .unsupported then
    ⟨.unsupported, .unsupported,
      text "the owning backend reports that it cannot produce evidence"⟩
  else if record.evidenceClass = .synthetic ∧ !context.syntheticDomain then
    ⟨.unsupported, .unsupported,
      text "synthetic evidence cannot support a claim over a real memory domain"⟩
  else if record.kind = .persistedMetadata then
    ⟨.requiresRevalidation, .revalidationRequired, text
      ("persisted metadata evidence does not establish dynamic currentness; " ++
        "revalidation required")⟩
  else if record.epoch ≠ context.currentEpoch then
    ⟨.stale, .staleEpoch,
      text "evidence was produced under coordinator epoch " ++
        formatId "epoch" record.epoch.value ++ text " but the current epoch is " ++
        formatId "epoch" context.currentEpoch.value⟩
  else if record.processLocal ∧
      (record.boot.isNil ∨ context.liveBoot.isNil ∨ record.boot ≠ context.liveBoot) then
    ⟨.stale, .staleBoot, text
      "process-local evidence was produced under a participant boot that is no longer live"⟩
  else if context.currentSequence.value < record.sequence.value then
    ⟨.stale, .internalInvariantViolation,
      text "evidence carries an observation sequence from the future"⟩
  else
    let age := context.currentSequence.value - record.sequence.value
    if context.maxAgeOperations ≠ 0 ∧ context.maxAgeOperations < age then
      ⟨.stale, .evidenceStale,
        text "evidence age " ++ decimal age.toNat ++ text " exceeds the policy bound of " ++
          decimal context.maxAgeOperations.toNat ++ text " operations"⟩
    else ⟨.fresh, .ok, text "evidence is current under the active epoch and boot"⟩

def isSyntheticDomain (domain : MemoryDomain) : Bool := domain matches .synthetic | .cxlClass

namespace Impl

variable (s : Impl σ)

def assessRegionLocked (policy : CoherencePolicy) (region : RegionRecord) : FreshnessAssessment :=
  let context : EvidenceContext :=
    { currentEpoch := s.epoch
      liveBoot := ((s.participants[region.participant]?).map (·.boot)).getD .nil
      currentSequence := s.sequence
      maxAgeOperations := policy.evidenceMaxAgeOperations
      syntheticDomain := isSyntheticDomain region.memoryDomain }
  let record : EvidenceRecord :=
    if region.evidence.defined then
      { id := region.evidence, generation := region.evidenceGeneration,
        kind := .byteComparison, evidenceClass := region.evidenceClass,
        participant := region.participant, boot := region.boot, epoch := s.epoch,
        region := region.id, regionGeneration := region.generation,
        observedVersion := region.version, observedDigest := region.content.digest,
        observedCrc32c := region.content.crc32c, sequence := region.updatedSequence,
        processLocal := true }
    else {}
  assessEvidence record context

/-! ### The replica that serves a read -/

def firstReplica (replicas : List RegionId) (p : CoherenceState → Bool) : RegionId :=
  (replicas.find? fun id => (s.regions[id]?).any fun region => p region.state && id.defined).getD
    .nil

/-- `select_read_region_locked`; the object remembers the current replica it found. -/
def selectReadRegionLocked (object : ObjectRecord) (requested : RegionId) :
    RegionId × ObjectRecord :=
  if requested.defined then (requested, object)
  else
    let cached := object.preferredCurrentReplica
    if cached.defined ∧ (s.regions[cached]?).any (fun region => region.state.isCurrent) then
      (cached, object)
    else
      let object := { object with preferredCurrentReplica := .nil }
      let bestCurrent := s.firstReplica object.replicas CoherenceState.isCurrent
      if bestCurrent.defined then
        (bestCurrent, { object with preferredCurrentReplica := bestCurrent })
      else (s.firstReplica object.replicas CoherenceState.isReadable, object)

def isGrantOf (ctx : AuthorityContext) (region : RegionRecord) (grant : ReadGrant) : Bool :=
  !grant.released && grant.participant == ctx.participant && grant.boot == ctx.boot &&
    grant.region == region.id && grant.version == region.version

/-- `add_read_grant_locked`. No lease is issued next to an exclusive writer. -/
def addReadGrantLocked (object : ObjectRecord) (region : RegionRecord)
    (ctx : AuthorityContext) (lease : LeaseId) : ObjectRecord :=
  if object.reads.any (isGrantOf ctx region) then object
  else if object.authority = .exclusiveWriter ∨ object.authority = .transferPending then object
  else if s.config.maxReadsPerObject ≤ object.reads.length then object
  else
    let grant : ReadGrant :=
      { lease := lease, participant := ctx.participant, boot := ctx.boot, object := object.id,
        objectGeneration := object.generation,
        ownershipGeneration := object.ownershipGeneration, version := region.version,
        region := region.id, regionGeneration := region.generation,
        grantedSequence := s.sequence }
    { object with
      reads := object.reads ++ [grant]
      authority := if object.authority = .none then .sharedReaders else object.authority }

/-! ### The read decision -/

def describeRegion (decision : ReadDecision) (region : RegionRecord)
    (freshness : FreshnessAssessment) : ReadDecision :=
  let known := decision.authoritativeVersion.defined && region.version.defined &&
    region.version.value ≤ decision.authoritativeVersion.value
  { decision with
    regionGeneration := region.generation
    regionState := region.state
    regionVersion := region.version
    evidenceClass := region.evidenceClass
    evidence := region.evidence
    evidenceGeneration := region.evidenceGeneration
    stalenessKnown := known
    staleness :=
      if known then decision.authoritativeVersion.value - region.version.value else 0
    evidenceFresh := freshness.fresh }

/-- A snapshot read binds to an explicit version. -/
def decideSnapshotRead (request : ReadRequest) (object : ObjectRecord) (region : RegionRecord)
    (decision : ReadDecision) : ReadDecision :=
  let snapshot := request.snapshotVersion
  if !snapshot.defined then
    { decision with
      outcome := .readBlocked
      reason := .invalidArgument
      rationale := text
        "snapshot consistency requires an explicit snapshot version in the read request" }
  else if object.authoritativeVersion.value < snapshot.value then
    { decision with
      outcome := .readBlocked
      reason := .stalePublication
      rationale := text
        ("the requested snapshot version has not been published; a snapshot cannot bind to a " ++
          "version that never became authoritative") }
  else if region.version.defined ∧ snapshot.value ≤ region.version.value ∧
      (region.state.isCurrent ∨ region.state = .stale) then
    { decision with
      outcome := .readCurrent
      authoritativeVersion := snapshot
      reason := .ok
      staleness := region.version.value - snapshot.value
      stalenessKnown := true
      rationale :=
        text "replica version " ++ region.version.toText ++
          text " satisfies snapshot version " ++ snapshot.toText ++
          text ("; the authoritative version reported is the snapshot, not the newest " ++
            "version") }
  else
    { decision with
      outcome := .readAfterSync
      syncRequired := true
      reason := .syncRequired
      rationale := text
        "replica predates the requested snapshot version; synchronization is required" }

/-- The policy's tolerance of a replica that is not current. -/
def staleReadPermitted (policy : CoherencePolicy) (decision : ReadDecision) : Bool :=
  match policy.staleReadPolicy with
  | .always => true
  | .bounded =>
    decision.stalenessKnown && decision.staleness ≤ policy.staleReadBoundVersions
  | .never | .unspecified => false

/-- Another replica that is current, found through the cached one first; the object then
remembers the replica a scan found. -/
def recoverableSource (object : ObjectRecord) (region : RegionRecord) : Bool × ObjectRecord :=
  let cached := object.preferredCurrentReplica
  let isSource (id : RegionId) : Bool :=
    (s.regions[id]?).any fun other => other.state == .current
  if cached.defined && cached != region.id && isSource cached then (true, object)
  else
    match object.replicas.find? fun id => id != region.id && id != cached && isSource id with
    | some id => (true, { object with preferredCurrentReplica := id })
    | none => (false, object)

def decideBlockedRead (region : RegionRecord) (freshness : FreshnessAssessment)
    (recoverable : Bool) (decision : ReadDecision) : ReadDecision :=
  if recoverable then
    { decision with
      outcome := .readAfterSync
      syncRequired := true
      reason := if freshness.fresh then .syncRequired else freshness.reason
      rationale :=
        text "the replica cannot satisfy a current read: state=" ++
          NameTable.toToken region.state ++ text "; " ++ freshness.rationale ++
          text ("; a current source replica exists, so an explicit synchronization can " ++
            "establish currentness") }
  else
    { decision with
      outcome := .readBlocked
      reason := if freshness.fresh then .readNotCurrent else freshness.reason
      rationale :=
        text "the read is blocked: replica state=" ++ NameTable.toToken region.state ++
          text ", version=" ++ region.version.toText ++ text ", authoritative version=" ++
          decision.authoritativeVersion.toText ++ text "; " ++ freshness.rationale }

/-- The decision of `compute_read_locked` on the selected replica. -/
def decideRead (request : ReadRequest) (object : ObjectRecord)
    (policy : CoherencePolicy) (region : RegionRecord) (createLease : Bool)
    (decision : ReadDecision) : ReadDecision × Impl σ :=
  let freshness := s.assessRegionLocked policy region
  let decision := describeRegion decision region freshness
  let currentByVersion :=
    !decision.authoritativeVersion.defined || region.version == decision.authoritativeVersion
  if policy.consistency = .snapshot then (decideSnapshotRead request object region decision, s)
  else if region.state.isCurrent && currentByVersion && freshness.fresh then
    let decision := { decision with
      outcome := .readCurrent
      reason := .ok
      rationale := text
        ("replica matches the authoritative version and carries live evidence under the " ++
          "current coordinator epoch and participant boot") }
    if !createLease then (decision, s)
    else
      let s := s.tick
      let object := s.addReadGrantLocked object region request.context ⟨s.nextLeaseId⟩
      let lease := ((object.reads.find? (isGrantOf request.context region)).map (·.lease)).getD
        .nil
      ({ decision with lease := lease },
        (s.withCounters { s.toCounters with nextLeaseId := s.nextLeaseId + 1 }).setObject
          request.context.object object)
  else if staleReadPermitted policy decision && region.state.isReadable then
    ({ decision with
        outcome := .readStaleAllowed
        staleAllowed := true
        reason := .readNotCurrent
        rationale :=
          text "policy permits stale reads: region version " ++ region.version.toText ++
            text " is the latest known value, authoritative version is " ++
            decision.authoritativeVersion.toText ++
            (if decision.stalenessKnown then
              text " (staleness " ++ decimal decision.staleness.toNat ++ text ")"
            else text " (staleness unknown)") }, s)
  else if region.state = .retired then
    ({ decision with
        outcome := .readBlocked
        reason := .retired
        rationale := text
          "the selected replica has been retired and holds no current contents" }, s)
  else if region.state = .fenced then
    ({ decision with
        outcome := .readBlocked
        reason := .fenced
        rationale := text
          "the selected replica belongs to a fenced participant incarnation" }, s)
  else if freshness.verdict = .unsupported then
    ({ decision with
        outcome := .unsupported
        reason := .unsupported
        rationale := freshness.rationale }, s)
  else
    let source := s.recoverableSource object region
    (decideBlockedRead region freshness source.1 decision,
      s.setObject request.context.object source.2)

def computeReadLocked (request : ReadRequest) (createLease : Bool) : Result ReadDecision × Impl σ :=
  let ctx := request.context
  let resolution := s.resolveLocked ctx
  let context := s.contextOf ctx ctx.object ctx.objectGeneration resolution.ownership
  let s := s.takeDecisionId
  let decision : ReadDecision := { context := context }
  let finish (s : Impl σ) (decision : ReadDecision) : Result ReadDecision × Impl σ :=
    (.ok decision, s.recordDecision .readAcquire context decision.reason decision.rationale)
  match resolution with
  | .refused authority _ =>
    finish s { decision with
      outcome := if authority.code = .unknownObject then .unknown else .readBlocked
      reason := authority.code
      rationale := authority.toText }
  | .granted object _ =>
    match s.policyLocked object with
    | none =>
      let rationale := text "the object references a policy that is not present"
      (.error (.make .unknownPolicy rationale),
        s.recordDecision .readAcquire context .unknownPolicy rationale)
    | some policy =>
      if policy.writeOwnership = .unspecified ∨ policy.consistency = .unspecified then
        finish s { decision with
          outcome := .unsupported
          reason := .unsupported
          rationale := text "the active policy does not define enforceable read semantics" }
      else
        let selection := s.selectReadRegionLocked object request.region
        let selected := selection.1
        let object := selection.2
        let s := s.setObject ctx.object object
        let decision := { decision with
          authoritativeVersion := object.authoritativeVersion
          region := selected }
        if !object.authoritativeVersion.defined then
          finish s { decision with
            outcome := .readBlocked
            reason := .notAuthoritative
            rationale := text
              ("the object has no authoritative version yet, so no replica can be " ++
                "certified as current; an authoritative version must be published first") }
        else if !selected.defined then
          finish s { decision with
            outcome := .readBlocked
            reason := .unknownRegion
            rationale := text "the object has no replica that can supply contents" }
        else match s.resolveRegionLocked object selected request.regionGeneration with
          | .error status =>
            finish s { decision with
              outcome := .readBlocked
              reason := status.code
              rationale := status.toText }
          | .ok region =>
            let r := s.decideRead request object policy region createLease decision
            finish r.2 r.1

/-- What the decision on a replica rests on. -/
structure Weighs (s : Impl σ) (request : ReadRequest) (object : ObjectRecord)
    (policy : CoherencePolicy) (region : RegionRecord) : Prop where
  granted : ∃ participant, s.resolveLocked request.context = .granted object participant
  governed : s.policyLocked object = some policy
  enforceable : ¬(policy.writeOwnership = .unspecified ∨ policy.consistency = .unspecified)
  published : object.authoritativeVersion.defined
  selects : (s.selectReadRegionLocked object request.region).1.defined
  allowed : s.resolveRegionLocked object (s.selectReadRegionLocked object request.region).1
    request.regionGeneration = .ok region

def weigh (request : ReadRequest) (object : ObjectRecord)
    (policy : CoherencePolicy) (region : RegionRecord) (createLease : Bool) : ReadDecision :=
  let ctx := request.context
  let selection := s.selectReadRegionLocked object request.region
  ((s.takeDecisionId.setObject ctx.object selection.2).decideRead request selection.2 policy
    region createLease
    { context := s.contextOf ctx ctx.object ctx.objectGeneration object.ownershipGeneration
      authoritativeVersion := object.authoritativeVersion
      region := selection.1 }).1

section Weigh

lemma takeDecisionId_selects (object : ObjectRecord) (requested : RegionId) :
    s.takeDecisionId.selectReadRegionLocked object requested =
      s.selectReadRegionLocked object requested := rfl

variable {s : Impl σ} {request : ReadRequest} {object : ObjectRecord} {policy : CoherencePolicy}
  {region : RegionRecord} {createLease : Bool} {decision : ReadDecision}

lemma selectReadRegionLocked_object (object : ObjectRecord) (requested : RegionId) :
    ∃ id, (s.selectReadRegionLocked object requested).2 =
      { object with preferredCurrentReplica := id } := by
  unfold selectReadRegionLocked
  dsimp only
  repeat' split
  all_goals exact ⟨_, rfl⟩

lemma decideRead_describes :
    (s.decideRead request object policy region createLease decision).1.region = decision.region ∧
      (s.decideRead request object policy region createLease decision).1.evidenceFresh =
        (s.assessRegionLocked policy region).fresh := by
  unfold decideRead decideSnapshotRead decideBlockedRead
  dsimp only
  repeat' split
  all_goals exact ⟨rfl, rfl⟩

lemma Weighs.computed (h : s.Weighs request object policy region) (createLease : Bool) :
    (s.computeReadLocked request createLease).1 =
      .ok (s.weigh request object policy region createLease) := by
  obtain ⟨⟨participant, hgranted⟩, hgoverned, henforceable, hpublished, hselects, hallowed⟩ := h
  obtain ⟨id, hid⟩ := selectReadRegionLocked_object (s := s) object request.region
  have hpolicy : s.takeDecisionId.policyLocked object = some policy := hgoverned
  unfold computeReadLocked weigh
  simp only [hgranted, hpolicy, if_neg henforceable, takeDecisionId_selects, hid, hpublished,
    hselects, Bool.not_true, Bool.false_eq_true, if_false]
  have hregion : (s.takeDecisionId.setObject request.context.object
      { object with preferredCurrentReplica := id }).resolveRegionLocked
        { object with preferredCurrentReplica := id }
          (s.selectReadRegionLocked object request.region).1 request.regionGeneration =
      .ok region := hallowed
  rw [hregion]
  rfl

lemma Weighs.found (h : s.Weighs request object policy region) :
    s.regions[(s.weigh request object policy region createLease).region]? = some region := by
  rw [weigh, decideRead_describes.1]
  exact (resolveRegionLocked_ok h.allowed).1

lemma computeReadLocked_ok (h : (s.computeReadLocked request createLease).1 = .ok decision) :
    (decision.evidenceFresh = false ∧ (decision.outcome = .readBlocked ∨
      decision.outcome = .unsupported ∨ decision.outcome = .unknown)) ∨
    ∃ object policy region, s.Weighs request object policy region ∧
      decision = s.weigh request object policy region createLease := by
  have hok := h
  unfold computeReadLocked at h
  dsimp only at h
  split at h
  · cases h
    refine .inl ⟨rfl, ?_⟩
    split <;> simp
  rename_i object participant hgranted
  split at h
  · cases h
  rename_i policy hgoverned
  split at h
  · cases h
    exact .inl ⟨rfl, by simp⟩
  rename_i henforceable
  obtain ⟨id, hid⟩ := selectReadRegionLocked_object (s := s) object request.region
  simp only [takeDecisionId_selects, hid] at h
  split at h
  · cases h
    exact .inl ⟨rfl, by simp⟩
  rename_i hpublished
  split at h
  · cases h
    exact .inl ⟨rfl, by simp⟩
  rename_i hselects
  split at h
  · cases h
    exact .inl ⟨rfl, by simp⟩
  rename_i region hallowed
  have hweighs : s.Weighs request object policy region :=
    ⟨⟨participant, hgranted⟩, hgoverned, henforceable, by simpa using hpublished,
      by simpa using hselects, hallowed⟩
  exact .inr ⟨object, policy, region, hweighs, Except.ok.inj (hok.symm.trans (hweighs.computed _))⟩

end Weigh

variable [DurableStore σ]

def acquireRead (s : Impl σ) (request : ReadRequest) : Result ReadDecision × Impl σ :=
  let read := s.computeReadLocked request true
  match read.1 with
  | .ok decision => (.ok decision, read.2.maybeCompactLocked.2)
  | .error status => (.error status, read.2)

lemma acquireRead_fst (s : Impl σ) (request : ReadRequest) :
    (s.acquireRead request).1 = (s.computeReadLocked request true).1 := by
  unfold acquireRead
  dsimp only
  split <;> simp_all

/-- `explain_read` takes no lease, but it records a decision and may cache a replica. -/
def explainRead (s : Impl σ) (request : ReadRequest) : Result ReadDecision × Impl σ :=
  s.computeReadLocked request false

lemma exists_computed {s : Impl σ} {request decision}
    (h : (s.acquireRead request).1 = .ok decision ∨
    (s.explainRead request).1 = .ok decision) :
    ∃ createLease, (s.computeReadLocked request createLease).1 = .ok decision := by
  rcases h with hacquired | hexplained
  · exact ⟨true, by rwa [acquireRead_fst] at hacquired⟩
  · exact ⟨false, hexplained⟩

end Impl

end CoherenceFabric
