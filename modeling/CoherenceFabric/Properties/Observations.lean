import CoherenceFabric.Properties.Rollback
import CoherenceFabric.Properties.SyncCompletion

/-!
Observations of a replica, and the reads that rest on them.

A replica becomes current by an observation only: a publication is committed from it, a
synchronization into it is completed, or it is revalidated. An invalidation that is acknowledged
takes that back, so a read that needs evidence never returns what was invalidated since. The age of
evidence is another matter: it is counted from the last write to the replica's record, and a
pending invalidation writes there as well.
-/

namespace CoherenceFabric

open FiniteMap Transition Impl InvalidationRecord

variable {σ : Type} {policy : CoherencePolicy} {e : Impl σ} {object : ObjectRecord}
  {region' : RegionRecord} {config : EngineConfig} {store : Option σ}

/-! ### Fresh evidence -/

/-- What the record of a replica shows when its evidence is assessed as fresh. -/
structure Impl.Fresh (e : Impl σ) (policy : CoherencePolicy) (region : RegionRecord) : Prop where
  evidence : region.evidence ≠ .nil
  supported : region.evidenceClass ≠ .unsupported
  genuine : region.evidenceClass = .synthetic → isSyntheticDomain region.memoryDomain = true
  boot : region.boot ≠ .nil
  live : ∃ participant ∈ e.participants[region.participant]?, participant.boot = region.boot
  past : region.updatedSequence.value ≤ e.sequence.value
  age : policy.evidenceMaxAgeOperations ≠ 0 →
    e.sequence.value - region.updatedSequence.value ≤ policy.evidenceMaxAgeOperations

lemma assessEvidence_fresh {record context} (h : (assessEvidence record context).fresh = true) :
    record.id ≠ .nil ∧ record.evidenceClass ≠ .unsupported ∧
      (record.evidenceClass = .synthetic → context.syntheticDomain = true) ∧
      (record.processLocal = true → record.boot ≠ .nil ∧ record.boot = context.liveBoot) ∧
      record.sequence.value ≤ context.currentSequence.value ∧ (context.maxAgeOperations ≠ 0 →
        context.currentSequence.value - record.sequence.value ≤ context.maxAgeOperations) := by
  unfold assessEvidence at h
  dsimp only at h
  repeat' split at h
  all_goals try cases h
  rename_i hmissing hunsupported hsynthetic _ _ hboot hfuture hage
  refine ⟨?_, hunsupported, ?_, ?_, UInt64.not_lt.mp hfuture, ?_⟩
  · simpa using (not_or.mp hmissing).2
  · simpa using hsynthetic
  · intro hlocal
    simp only [hlocal, true_and, not_or, not_not, ne_eq] at hboot
    exact ⟨fun hnil => hboot.1 (by rw [hnil]; rfl), hboot.2.2⟩
  · intro hbound
    exact UInt64.not_lt.mp fun hlt => hage ⟨hbound, hlt⟩

lemma assessRegionLocked_fresh {region}
    (h : (e.assessRegionLocked policy region).fresh = true) : e.Fresh policy region := by
  unfold assessRegionLocked at h
  by_cases hevidence : region.evidence.defined = true
  · rw [if_pos hevidence] at h
    obtain ⟨-, hsupported, hgenuine, hlocal, hpast, hage⟩ := assessEvidence_fresh h
    obtain ⟨hboot, hlive⟩ := hlocal rfl
    refine ⟨by simpa using hevidence, hsupported, hgenuine, hboot, ?_, hpast, hage⟩
    cases hfound : e.participants[region.participant]? with
    | none =>
      rw [hfound] at hlive
      exact absurd hlive hboot
    | some participant =>
      rw [hfound] at hlive
      exact ⟨participant, rfl, hlive.symm⟩
  · rw [if_neg hevidence] at h
    exact absurd rfl (assessEvidence_fresh h).1

/-! ### Current reads -/

/-- What a read decision of `read_current` rests on. -/
structure Impl.CurrentRead (e : Impl σ) (request : ReadRequest) (decision : ReadDecision)
    (object : ObjectRecord) (policy : CoherencePolicy) (region : RegionRecord) : Prop where
  subject : e.objects[request.context.object]? = some object
  governed : e.policyLocked object = some policy
  found : e.regions[decision.region]? = some region
  certified : policy.consistency = .snapshot ∨
    region.state = .current ∧ decision.evidenceFresh = true ∧ e.Fresh policy region

namespace Impl

variable {e : Impl σ} {request : ReadRequest} {decision : ReadDecision} {createLease : Bool}

lemma decideRead_current {region}
    (h : (e.decideRead request object policy region createLease decision).1.outcome =
      .readCurrent) : policy.consistency = .snapshot ∨
      region.state = .current ∧ (e.assessRegionLocked policy region).fresh = true := by
  unfold decideRead at h
  dsimp only at h
  split at h
  · exact .inl ‹_›
  split at h
  · rename_i hcurrent
    simp only [Bool.and_eq_true] at hcurrent
    refine .inr ⟨?_, hcurrent.2⟩
    have hstate := hcurrent.1.1
    revert hstate
    cases region.state <;> simp [CoherenceState.isCurrent]
  exfalso
  revert h
  unfold decideBlockedRead
  repeat' split
  all_goals simp

lemma computeReadLocked_current (hread : (e.computeReadLocked request createLease).1 = .ok decision)
    (houtcome : decision.outcome = .readCurrent) :
    ∃ object policy region, e.CurrentRead request decision object policy region := by
  rcases computeReadLocked_ok hread with ⟨-, hother⟩ | ⟨object, policy, region, h, rfl⟩
  · rw [houtcome] at hother
    simp at hother
  · obtain ⟨participant, hgranted⟩ := h.granted
    exact ⟨object, policy, region, (resolveLocked_found hgranted), h.governed,
      h.found, (decideRead_current houtcome).imp_right fun h =>
        ⟨h.1, decideRead_describes.2.trans h.2, assessRegionLocked_fresh h.2⟩⟩

end Impl

/-! ### The marks of a write transfer -/

section Transfer

variable {e : Impl σ} {key : RegionId}

lemma issueAll_region {required : List InvalidationRecord} {seq} :
    ∀ {r : Records}, (∀ record ∈ required, record.region ≠ key) →
      (required.foldl (issueInvalidation seq) r).regions[key]? = r.regions[key]? := by
  induction required with
  | nil => exact fun _ => rfl
  | cons first rest ih =>
    intro r hother
    rw [List.foldl_cons, ih fun record hmem => hother record (List.mem_cons_of_mem _ hmem)]
    unfold issueInvalidation
    dsimp only
    split
    · rfl
    · exact getElem?_insert_ne (hother first List.mem_cons_self)

variable [DurableStore σ] {request : WriteRequest} {object : ObjectRecord}

lemma transferWrite_region {conflicting : List RegionRecord}
    (h : ∀ region ∈ conflicting, region.id ≠ key) (ctx : AuthorityContext)
    (context : DecisionContext) (boot : ParticipantBootId) (grant : WriteGrant) :
    (e.transferWrite ctx context object boot conflicting grant).2.regions[key]? =
      e.regions[key]? := by
  unfold transferWrite
  dsimp only
  split
  · rfl
  rw [recordDecision_toRecords]
  refine issueAll_region fun record hmem => ?_
  obtain ⟨index, -, region, hregion, rfl⟩ := mem_transferInvalidations hmem
  exact h region hregion

lemma resumeTransfer_region (ctx : AuthorityContext) (context : DecisionContext)
    (grant : WriteGrant) : (e.resumeTransfer ctx context object grant).2.regions = e.regions := by
  unfold resumeTransfer
  dsimp only
  split
  · rw [recordDecision_toRecords]
  split
  · rfl
  · rw [recordDecision_toRecords]
    rfl

lemma acquireWriteAuthority_region {grant}
    (h : ∀ region ∈ e.conflictingRegions object grant.writerRegion, region.id ≠ key)
    (context : DecisionContext) (policy : CoherencePolicy) (participant : ParticipantRecord)
    (region : Option RegionRecord) :
    (e.acquireWriteAuthority request context policy object participant region
      grant).2.regions[key]? = e.regions[key]? := by
  unfold acquireWriteAuthority
  dsimp only
  split
  · rw [recordDecision_toRecords]
  split
  · split
    · rw [resumeTransfer_region]
    · rw [recordDecision_toRecords]
  split
  · rw [recordDecision_toRecords]
  split
  · rw [recordDecision_toRecords]
  · split
    · rw [recordDecision_toRecords]
    · exact transferWrite_region h _ _ _ _

omit [DurableStore σ] in
lemma writerRegion_ok (hkeyed : All (fun id region => region.id = id) e.regions)
    {found} (h : e.writerRegion object request = .ok found) :
    (found.map (·.id)).getD .nil = request.region := by
  unfold writerRegion at h
  split at h
  · rename_i hnone
    cases h
    symm
    simpa using hnone
  split at h
  · cases h
  · rename_i region hregion
    cases h
    exact hkeyed _ _ (resolveRegionLocked_ok hregion).1

lemma acquireWrite_region (hkeyed : All (fun id region => region.id = id) e.regions)
    (h : ∀ object ∈ e.objects[request.context.object]?,
      ∀ region ∈ e.conflictingRegions object request.region, region.id ≠ key) :
    (e.acquireWrite request).2.regions[key]? = e.regions[key]? := by
  unfold acquireWrite
  dsimp only
  split
  · rw [recordDecision_toRecords]
    rfl
  rename_i object participant hgranted
  have hother := h object (resolveLocked_found hgranted)
  split
  · rfl
  split
  · rw [recordDecision_toRecords]
    rfl
  split
  · rw [recordDecision_toRecords]
    rfl
  · rename_i hnone
    have hwriter := writerRegion_ok hkeyed hnone
    rw [← hwriter] at hother
    refine (acquireWriteAuthority_region ?_ _ _ _ _).trans rfl
    exact hother
  rename_i region hregion
  have hwriter := writerRegion_ok hkeyed hregion
  rw [← hwriter] at hother
  split
  · rw [recordDecision_toRecords]
    rfl
  · refine (acquireWriteAuthority_region ?_ _ _ _ _).trans rfl
    exact hother

end Transfer

/-! ### The history of a replica -/

/-- What a run has noted of a replica: the logical sequence of its last observation, and whether an
invalidation of it was acknowledged since. -/
structure Observation where
  sequence : Option OperationSequence := none
  acknowledged : Bool := false
  deriving DecidableEq

deriving instance DecidableEq for InvalidationRecord

section History

variable [StoreMedium σ]

/-- The step observes the replica: it commits a publication from it, completes a synchronization
into it or revalidates it. -/
def Sys.Observes (s : Sys σ) (key : RegionId) : Action → Prop
  | .publishCommit index =>
    ∃ frame ∈ s.ready index, frame.region = key ∧ (s.engine.commitTarget frame).isSome = true
  | .completeSync request => ∃ record ∈ s.engine.syncs[request.operation]?,
    record.destinationRegion = key ∧ record.state ≠ .completed ∧
      ∃ settled ∈ (s.engine.completeSync request).2.syncs[request.operation]?,
        settled.state = .completed
  | .revalidateRegion request =>
    request.region = key ∧ (s.engine.revalidateRegion request).1.isOk = true
  | _ => False

/-- The step settles an invalidation of the replica as acknowledged. -/
def Sys.SettlesOn (s : Sys σ) (key : RegionId) (a : Action) : Prop :=
  ¬ All (fun id record => record.region = key → record.state = .acknowledged →
    s.engine.invalidations[id]? = some record) (s.step a).engine.invalidations

instance (s : Sys σ) (key : RegionId) (a : Action) : Decidable (s.Observes key a) := by
  apply Action.casesOn (motive := fun a => Decidable (s.Observes key a)) a <;> intros <;>
    dsimp only [Sys.Observes] <;> infer_instance

instance (s : Sys σ) (key : RegionId) (a : Action) : Decidable (s.SettlesOn key a) :=
  inferInstanceAs (Decidable (¬ _))

/-- What is noted of each replica after a step. -/
def Sys.observations (s : Sys σ) (a : Action) (seen : RegionId → Observation) (key : RegionId) :
    Observation :=
  if s.Observes key a then { sequence := some s.engine.tick.sequence }
  else if s.SettlesOn key a then { seen key with acknowledged := true }
  else seen key

/-- The step puts a pending invalidation on the replica. -/
def Sys.Defers (s : Sys σ) (key : RegionId) : Action → Prop
  | .acquireWrite request => ∃ object ∈ s.engine.objects[request.context.object]?,
    ∃ region ∈ s.engine.conflictingRegions object request.region, region.id = key
  | .invalidate request => request.acknowledgementRequired = true ∧ request.targetRegion = key
  | _ => False

/-- A revalidation that passes its checks is journalled. -/
def RecordsRevalidation (s : Sys σ) : Action → Prop
  | .revalidateRegion request => ¬ AppendFails s.engine (s.engine.revalidateRegion request)
  | _ => True

instance (s : Sys σ) (key : RegionId) (a : Action) : Decidable (s.Defers key a) := by
  apply Action.casesOn (motive := fun a => Decidable (s.Defers key a)) a <;> intros <;>
    dsimp only [Sys.Defers] <;> infer_instance

instance (s : Sys σ) (a : Action) : Decidable (RecordsRevalidation s a) := by
  apply Action.casesOn (motive := fun a => Decidable (RecordsRevalidation s a)) a <;> intros <;>
    dsimp only [RecordsRevalidation] <;> infer_instance

end History

/-! ### One step -/

section Unseen

variable {s : Sys σ} {a : Action} {key : RegionId}

/-- What a step leaves of a replica that it does not observe: the replica gathers no evidence and
does not become current. -/
structure Unseen (s : Sys σ) (a : Action) (key : RegionId) (region region' : RegionRecord) :
    Prop where
  holder : region'.participant = region.participant ∧ region'.boot = region.boot
  credentials : region'.evidenceClass = region.evidenceClass ∧
    region'.memoryDomain = region.memoryDomain
  evidence : region'.evidence = region.evidence ∨ region'.evidence = .nil
  current : region'.state = .current → region.state = .current ∧
    (region' = region ∨ s.Defers key a)

lemma Unseen.same {region} : Unseen s a key region region where
  holder := ⟨rfl, rfl⟩
  credentials := ⟨rfl, rfl⟩
  evidence := .inl rfl
  current h := ⟨h, .inl rfl⟩

lemma Unseen.lowered {region} (hstate : region'.state ≠ .current)
    (holder : region'.participant = region.participant ∧ region'.boot = region.boot)
    (credentials : region'.evidenceClass = region.evidenceClass ∧
      region'.memoryDomain = region.memoryDomain)
    (evidence : region'.evidence = region.evidence ∨ region'.evidence = .nil) :
    Unseen s a key region region' :=
  ⟨holder, credentials, evidence, fun h => absurd h hstate⟩

lemma Unseen.refused {region state note sequence} (hstate : state ≠ .current) :
    Unseen s a key region (region.refuseSync state note sequence) :=
  .lowered hstate ⟨rfl, rfl⟩ ⟨rfl, rfl⟩ (.inl rfl)

end Unseen

section Step

variable [ReplayStore σ] {s : Sys σ} {a : Action} {key : RegionId}

lemma RegionRecord.invalidate_state (region : RegionRecord) (id : InvalidationId)
    (sequence : OperationSequence) : (region.invalidate id sequence).state ≠ .current := by
  unfold RegionRecord.invalidate
  split <;> simp

lemma acknowledged_before (ha : a.Runs) (hinvalidate : ∀ request, a ≠ .invalidate request)
    (hacknowledge : ∀ ack, a ≠ .acknowledgeInvalidation ack) {id : InvalidationId} {record}
    (hafter : (s.step a).engine.invalidations[id]? = some record)
    (hstate : record.state = .acknowledged) : s.engine.invalidations[id]? = some record := by
  have hnew : ∀ record, NewInvalidation s a id record → record.state ≠ .acknowledged := by
    intro record hnew
    cases hnew with
    | transfer e => simp [transferInvalidation]
    | requested | settled | inert => exact absurd rfl (hinvalidate _)
  refine ((step_evolved a ha).records.invalidations.origin id record hafter).induction
    (P := fun record => record.state = .acknowledged → s.engine.invalidations[id]? = some record)
    (fun _ hfound _ => hfound) (fun record h hstate => absurd hstate (hnew record h))
    (fun record record' _ hstep hstate => ?_) hstate
  cases hstep with
  | fence => simp [supersede] at hstate
  | abandon => simp [abandon] at hstate
  | replace new => exact absurd hstate (hnew _ new)
  | missing | replaced | acknowledge => exact absurd rfl (hacknowledge _)

section Settle

variable {healthy : Bool} {l : Ledger} {id : InvalidationId} {record : InvalidationRecord}
  {region' : RegionRecord}

omit [ReplayStore σ] in
lemma Outcome.settled_invalidate {request} (h : Outcome s (.invalidate request) healthy l)
    (hkeyed : All (fun id region => region.id = id) s.engine.regions)
    (hafter : l.invalidations[id]? = some record) (hstate : record.state = .acknowledged)
    (hnew : s.engine.invalidations[id]? ≠ some record)
    (hregion' : l.regions[record.region]? = some region') : region'.state ≠ .current := by
  cases h with
  | prefer reads => exact absurd reads (by simp)
  | invalidateInert e =>
    rcases insert_cases hafter with ⟨-, rfl⟩ | ⟨-, hold⟩
    · simp [inertInvalidation] at hstate
    · exact absurd hold hnew
  | invalidateNowFailed e _ _ stage =>
    rw [stage] at hafter
    exact absurd hafter hnew
  | @invalidateNow _ _ object region _ e e' issues _ _ stage =>
    rw [stage] at hafter hregion'
    rcases insert_cases hafter with ⟨-, rfl⟩ | ⟨-, hold⟩
    · have htarget := hkeyed _ _ (invalidateRefusal_ok issues.allowed).1
      change (s.engine.regions.insert request.targetRegion _)[region.id]? = some region' at hregion'
      rw [htarget, getElem?_insert_self] at hregion'
      cases hregion'
      exact region.invalidate_state _ _
    · exact absurd hold hnew
  | idle | invalidateLaterFailed => exact absurd hafter hnew
  | invalidateLater e =>
    rcases insert_cases hafter with ⟨-, rfl⟩ | ⟨-, hold⟩
    · simp [newInvalidation] at hstate
    · exact absurd hold hnew

omit [ReplayStore σ] in
lemma Outcome.settled_acknowledge {ack} (h : Outcome s (.acknowledgeInvalidation ack) healthy l)
    (hafter : l.invalidations[id]? = some record) (hstate : record.state = .acknowledged)
    (hnew : s.engine.invalidations[id]? ≠ some record)
    (hregion' : l.regions[record.region]? = some region') : region'.state ≠ .current := by
  cases h with
  | idle => exact absurd hafter hnew
  | prefer reads => exact absurd reads (by simp)
  | acknowledgeMissing e _ _ stage | acknowledgeReplaced e _ _ _ stage =>
    rw [stage] at hafter
    rcases insert_cases hafter with ⟨-, rfl⟩ | ⟨-, hold⟩
    · simp [supersede] at hstate
    · exact absurd hold hnew
  | @acknowledge _ _ issued _ region _ _ e _ _ _ stage =>
    rw [stage] at hafter hregion'
    rcases insert_cases hafter with ⟨-, rfl⟩ | ⟨-, hold⟩
    · change (s.engine.regions.insert issued.region _)[issued.region]? = some region' at hregion'
      rw [getElem?_insert_self] at hregion'
      cases hregion'
      exact region.invalidate_state _ _
    · exact absurd hold hnew

end Settle

lemma settlesOn_lowers (hkeyed : LiveKeyed s) (ha : a.Runs)
    (hsettles : s.SettlesOn key a) (hregion' : (s.step a).engine.regions[key]? = some region') :
    region'.state ≠ .current := by
  unfold Sys.SettlesOn All at hsettles
  push Not at hsettles
  obtain ⟨id, record, hafter, rfl, hstate, hnew⟩ := hsettles
  have houtcome := step_outcome hkeyed.live.objects a ha
  by_cases hinvalidate : ∃ request, a = .invalidate request
  · obtain ⟨request, rfl⟩ := hinvalidate
    exact houtcome.settled_invalidate hkeyed.live.regions hafter hstate hnew hregion'
  by_cases hacknowledge : ∃ ack, a = .acknowledgeInvalidation ack
  · obtain ⟨ack, rfl⟩ := hacknowledge
    exact houtcome.settled_acknowledge hafter hstate hnew hregion'
  · exact absurd (acknowledged_before ha (not_exists.mp hinvalidate)
      (not_exists.mp hacknowledge) hafter hstate) hnew

/-! #### Observations -/

omit [ReplayStore σ] in
lemma settling_sequence (frame : PublishFrame) : (e.settling frame).sequence = e.sequence := by
  unfold settling applyPending applyDurable
  dsimp only
  repeat' split
  all_goals rfl

lemma publishCommit_dated {index frame} (hkeyed : LiveKeyed s)
    (hready : s.ready index = some frame) (htarget : s.engine.commitTarget frame = some object)
    (hafter : (s.step (.publishCommit index)).engine.regions[frame.region]? = some region') :
    region'.updatedSequence = s.engine.tick.sequence := by
  have hid := hkeyed.live.objects _ _ (commitTarget_some htarget).2.1
  obtain ⟨context, rationale, heq⟩ :=
    commitPublication_engine (e := s.engine.settling frame) frame object
  change (s.commit index).engine.regions[frame.region]? = _ at hafter
  rw [commit_engine hready, publishCommit_target htarget, heq, maybeCompactLocked_toRecords,
    recordDecision_toRecords] at hafter
  change ((s.engine.settling frame).marked frame object).ledger.regions[frame.region]? = _ at hafter
  rw [marked_ledger hid] at hafter
  rw [getElem?_map] at hafter
  obtain ⟨region, -, rfl⟩ := Option.map_eq_some_iff.mp hafter
  rw [RegionRecord.afterCommit, if_pos rfl]
  exact congrArg StrongId.next (settling_sequence frame)

omit [ReplayStore σ] in
lemma appendLocked_failed [DurableStore σ] {payload} (h : (e.appendLocked payload).1.isOk = false) :
    (e.appendLocked payload).2.nextJournalSequence ≠ e.nextJournalSequence := by
  have hnext : e.nextJournalSequence + UInt64.ofNat 1 ≠ e.nextJournalSequence := by
    simp
  revert h
  unfold appendLocked Persistence.append
  split
  · intro h
    cases h
  split
  · intro h
    cases h
  · unfold Persistence.journal
    dsimp only [List.length_singleton]
    split <;> exact fun _ => hnext

lemma RegionRecord.revalidate_sequence (region : RegionRecord) (request : RevalidateRequest)
    (authoritative : VersionId) (ownership : OwnershipGeneration) (evidence : EvidenceId)
    (sequence : OperationSequence) :
    (region.revalidate request authoritative ownership evidence sequence).updatedSequence =
      sequence := by
  unfold RegionRecord.revalidate
  dsimp only
  split <;> rfl

lemma revalidateRegion_isOk {request participant} {region}
    (hgranted : s.engine.resolveLocked request.context = .granted object participant)
    (hallowed : s.engine.revalidateRefusal request object = .ok region)
    (hrecorded : ¬ AppendFails s.engine (s.engine.revalidateRegion request)) :
    (s.engine.revalidateRegion request).1.isOk = true := by
  revert hrecorded
  unfold revalidateRegion
  simp only [hgranted, hallowed]
  split
  · rename_i hfailed
    intro hrecorded
    refine absurd ⟨rfl, appendLocked_failed ?_⟩ hrecorded
    simpa using hfailed
  · exact fun _ => rfl

lemma revalidateRegion_dated {request} (hok : (s.engine.revalidateRegion request).1.isOk = true)
    (hafter : (s.engine.revalidateRegion request).2.regions[request.region]? = some region') :
    region'.updatedSequence = s.engine.tick.sequence := by
  unfold revalidateRegion at hok hafter
  dsimp only at hok hafter
  split at hok
  · cases hok
  split at hok
  · cases hok
  split at hok
  · cases hok
  rename_i object participant hgranted _ region hallowed hwritten
  simp only [hgranted, hallowed, if_neg hwritten] at hafter
  rw [recordDecision_toRecords] at hafter
  change (s.engine.regions.insert request.region _)[request.region]? = some region' at hafter
  rw [getElem?_insert_self] at hafter
  cases hafter
  exact region.revalidate_sequence ..

lemma observes_dated (hkeyed : LiveKeyed s) (hseen : s.Observes key a)
    (hafter : (s.step a).engine.regions[key]? = some region') :
    region'.updatedSequence = s.engine.tick.sequence := by
  cases a
  case publishCommit index =>
    obtain ⟨frame, hready, rfl, htarget⟩ := hseen
    obtain ⟨object, htarget⟩ := Option.isSome_iff_exists.mp htarget
    exact publishCommit_dated hkeyed hready htarget hafter
  case completeSync request =>
    obtain ⟨record, hplanned, rfl, hrunning, settled, hsettled, hcompleted⟩ := hseen
    have hfinished :
        ¬ s.engine.Uncompleted (s.engine.completeSync request).2 request.operation := by
      intro hopen
      cases (hopen settled hsettled hcompleted).symm.trans hplanned
      exact hrunning hcompleted
    cases completeSync_effect s.engine request with
    | kept _ unfinished | stale _ _ _ unfinished | unmoved _ _ _ _ _ unfinished =>
      exact absurd unfinished hfinished
    | mismatch _ _ _ _ _ _ unfinished => exact absurd unfinished hfinished
    | current reports _ _ writes =>
      cases reports.planned.symm.trans hplanned
      obtain ⟨written, -, hdated, hregions, -⟩ := writes
      change (s.engine.completeSync request).2.regions[record.destinationRegion]? = _ at hafter
      rw [hregions, getElem?_insert_self] at hafter
      cases hafter
      exact hdated
  case revalidateRegion request =>
    obtain ⟨rfl, hok⟩ := hseen
    exact revalidateRegion_dated hok hafter
  all_goals cases hseen

lemma completeSync_after {request record}
    (hplanned : s.engine.syncs[request.operation]? = some record) {region}
    (hbefore : s.engine.regions[record.destinationRegion]? = some region)
    (hafter : (s.engine.completeSync request).2.regions[record.destinationRegion]? = some region') :
    s.Observes record.destinationRegion (.completeSync request) ∨
      Unseen s (.completeSync request) record.destinationRegion region region' := by
  have hwritten : ∀ {written : RegionRecord}, (s.engine.completeSync request).2.regions =
      s.engine.regions.insert record.destinationRegion written → written = region' := by
    intro written hregions
    rw [hregions, getElem?_insert_self] at hafter
    exact Option.some_inj.mp hafter
  cases completeSync_effect s.engine request with
  | kept same =>
    rw [same] at hafter
    cases hbefore.symm.trans hafter
    exact .inr .same
  | stale reports _ writes | unmoved reports _ _ _ writes | mismatch reports _ _ _ _ writes =>
    cases reports.planned.symm.trans hplanned
    cases reports.found.symm.trans hbefore
    obtain ⟨_, _, hregions⟩ := writes
    exact .inr (hwritten hregions ▸ .refused (by simp))
  | current reports _ _ writes =>
    cases reports.planned.symm.trans hplanned
    obtain ⟨-, -, -, -, hcompleted⟩ := writes
    exact .inl ⟨record, hplanned, rfl, reports.running, _, hcompleted, rfl⟩

lemma RegionChange.unseen (hkeyed : LiveKeyed s) (hrecords : RecordsRevalidation s a)
    {region} (h : RegionChange s a key region region')
    (hbefore : s.engine.regions[key]? = some region)
    (hafter : (s.step a).engine.regions[key]? = some region') :
    s.Observes key a ∨ Unseen s a key region region' := by
  cases h with
  | same => exact .inr .same
  | rejoin | fence | supersede | retire | retireObject =>
    exact .inr (.lowered nofun ⟨rfl, rfl⟩ ⟨rfl, rfl⟩ (.inr rfl))
  | @transfer request _ _ _ _ _ _ transfers =>
    refine .inr ⟨⟨rfl, rfl⟩, ⟨rfl, rfl⟩, .inl rfl, fun hcurrent => ⟨hcurrent, ?_⟩⟩
    by_cases hdefers : s.Defers key (.acquireWrite request)
    · exact .inr hdefers
    · have hsame : (s.engine.acquireWrite request).2.regions[key]? = s.engine.regions[key]? := by
        refine acquireWrite_region hkeyed.live.regions fun object hobject region hregion hid => ?_
        exact hdefers ⟨object, hobject, region, hregion, hid⟩
      exact .inl (Option.some_inj.mp (hafter.symm.trans (hsame.trans hbefore)))
  | markDirty | release => exact .inr (.lowered nofun ⟨rfl, rfl⟩ ⟨rfl, rfl⟩ (.inl rfl))
  | @publish index frame object _ _ ready target =>
    refine .inl ⟨frame, ready, rfl, ?_⟩
    rw [target]
    rfl
  | invalidateLater issues awaits =>
    exact .inr ⟨⟨rfl, rfl⟩, ⟨rfl, rfl⟩, .inl rfl, fun hcurrent => ⟨hcurrent, .inr ⟨awaits, rfl⟩⟩⟩
  | invalidateNow | acknowledge =>
    exact .inr (.lowered (region.invalidate_state _ _) ⟨rfl, rfl⟩ ⟨rfl, rfl⟩ (.inr rfl))
  | requestSync =>
    exact .inr (.lowered (region.requestSync_lowered _ _ _).state ⟨rfl, rfl⟩ ⟨rfl, rfl⟩ (.inl rfl))
  | completeSync completes => exact completeSync_after completes.planned hbefore hafter
  | failSync => exact .inr (.refused (failedDestination_state _))
  | revalidate granted allowed => exact .inl ⟨rfl, revalidateRegion_isOk granted allowed hrecords⟩

lemma region_after (hkeyed : LiveKeyed s) (ha : a.Runs)
    (hrecords : RecordsRevalidation s a) (hafter : (s.step a).engine.regions[key]? = some region') :
    s.Observes key a ∨
      (∃ region, s.engine.regions[key]? = some region ∧ Unseen s a key region region') ∨
      region'.evidence = .nil ∧ region'.state ≠ .current := by
  rcases (step_changes hkeyed ha).regions.origin hafter with ⟨region, hbefore, hchange⟩ | ⟨-, hnew⟩
  · rcases hchange.unseen hkeyed hrecords hbefore hafter with hseen | hunseen
    · exact .inl hseen
    · exact .inr (.inl ⟨region, hbefore, hunseen⟩)
  · cases hnew
    refine .inr (.inr ⟨rfl, ?_⟩)
    simp only [newRegion]
    split <;> simp

lemma current_after (hkeyed : LiveKeyed s) (ha : a.Runs)
    (hrecords : RecordsRevalidation s a) (hafter : (s.step a).engine.regions[key]? = some region')
    (hcurrent : region'.state = .current) : s.Observes key a ∨
      ∃ region, s.engine.regions[key]? = some region ∧ region.state = .current ∧
        (region' = region ∨ s.Defers key a) := by
  rcases region_after hkeyed ha hrecords hafter with
    hseen | ⟨region, hbefore, hunseen⟩ | ⟨-, hnew⟩
  · exact .inl hseen
  · exact .inr ⟨region, hbefore, hunseen.current hcurrent⟩
  · exact absurd hcurrent hnew

end Step

/-! ### Evidence and invalidation -/

section Run

variable [ReplayStore σ] {a : Action} {p : Sys σ × (RegionId → Observation)}

/-- No invalidation of a current replica was acknowledged since its last observation. -/
structure Certified (p : Sys σ × (RegionId → Observation)) : Prop where
  keyed : LiveKeyed p.1
  standing : All (fun key region => region.state = .current → (p.2 key).acknowledged = false)
    p.1.engine.regions

lemma Certified.boot {seen} : Certified (Sys.boot config store, seen) :=
  ⟨LiveKeyed.boot, fun key region hregion hcurrent =>
    absurd hcurrent (boot_not_current key region hregion)⟩

lemma Certified.step (h : Certified p) (ha : a.Runs)
    (hrecords : RecordsRevalidation p.1 a) : Certified (noting Sys.step Sys.observations p a) := by
  refine ⟨h.keyed.step, fun key region' hafter hcurrent => ?_⟩
  change (p.1.observations a p.2 key).acknowledged = false
  unfold Sys.observations
  split
  · rfl
  rename_i hunseen
  split
  · rename_i hsettles
    exact absurd hcurrent (settlesOn_lowers h.keyed ha hsettles hafter)
  · rcases current_after h.keyed ha hrecords hafter hcurrent with
      hseen | ⟨region, hbefore, hstate, -⟩
    · exact absurd hseen hunseen
    · exact h.standing key region hbefore hstate

/-- **A missing proof never becomes a current read**: in every run whose revalidations are
journalled, a decision of `read_current` under a policy other than a snapshot one reports fresh
evidence, and no invalidation of the replica was acknowledged since it was last observed. -/
theorem current_read_certified (config : EngineConfig) (store : Option σ) (as : List Action)
    (hrun : RunOk Sys.step RecordsRevalidation (Sys.boot config store) as)
    (request : ReadRequest) (decision : ReadDecision) :
    let p := as.foldl (noting Sys.step Sys.observations) (Sys.boot config store, fun _ => {})
    (p.1.engine.acquireRead request).1 = .ok decision → decision.outcome = .readCurrent →
      (∀ object ∈ p.1.engine.objects[request.context.object]?,
        ∀ policy ∈ p.1.engine.policyLocked object, policy.consistency ≠ .snapshot) →
      decision.evidenceFresh = true ∧ (p.2 decision.region).acknowledged = false := by
  intro p hread houtcome hmodel
  have hcertified : Certified p := by
    refine history_invariant ?_ Certified.boot hrun
    intro p a hrecords h
    rcases a.restart_or with ⟨config, rfl⟩ | ha
    · exact Certified.boot
    · exact h.step ha hrecords
  rw [Impl.acquireRead_fst] at hread
  obtain ⟨object, policy, region, hcurrent⟩ := Impl.computeReadLocked_current hread houtcome
  obtain ⟨hstate, hfresh, -⟩ := hcurrent.certified.resolve_left
    (hmodel object hcurrent.subject policy hcurrent.governed)
  exact ⟨hfresh, hcertified.standing _ region hcurrent.found hstate⟩

end Run

namespace Duo

def invalidateOther (awaits : Bool) : Action :=
  .invalidate
    { context := context 1, ownershipGeneration := ⟨2⟩, targetRegion := ⟨2⟩,
      targetRegionGeneration := ⟨1⟩, targetReplicaGeneration := ⟨1⟩,
      acknowledgementRequired := awaits }

def readOther : ReadRequest := { context := context 2, region := ⟨2⟩ }

def govern (consistency : ConsistencyModel) (age : UInt64) : Action :=
  .setPolicy ⟨1⟩ ⟨1⟩ ⟨1⟩
    { strictPolicy [2] with consistency := consistency, evidenceMaxAgeOperations := age }

def dated : List Action := publishedOnce ++ [govern .strict 2, observe 2]

end Duo

lemma Result.of_toOption {α} {result : Result α} {value}
    (h : result.toOption = some value) : result = .ok value := by
  cases result with
  | error => cases h
  | ok => exact congrArg Except.ok (Option.some_inj.mp h)

theorem current_read_certified_observed :
    let p := (Duo.publishedOnce ++ [Duo.observe 2, Duo.invalidateOther false, Duo.observe 2]).foldl
      (noting Sys.step Sys.observations) (Duo.start, fun _ => {})
    ∃ decision, (p.1.engine.acquireRead Duo.readOther).1 = .ok decision ∧
      decision.outcome = .readCurrent ∧ decision.evidenceFresh = true ∧
      (p.2 decision.region).acknowledged = false := by
  intro p
  have hread : (p.1.engine.acquireRead Duo.readOther).1.toOption.map (·.outcome) =
      some .readCurrent := by
    decide +kernel
  obtain ⟨decision, hdecision, houtcome⟩ := Option.map_eq_some_iff.mp hread
  have hok := Result.of_toOption hdecision
  exact ⟨decision, hok, houtcome, current_read_certified {} (some ({} : LogStore)) _
    (by decide +kernel) Duo.readOther decision hok houtcome (by decide +kernel)⟩

/-- Under a snapshot policy a replica serves a current read without evidence, after an invalidation
of it was acknowledged. -/
theorem snapshot_read_without_evidence :
    let p := (Duo.publishedOnce ++ [Duo.govern .snapshot 0, Duo.observe 2,
      Duo.invalidateOther false]).foldl (noting Sys.step Sys.observations) (Duo.start, fun _ => {})
    (p.1.engine.acquireRead { Duo.readOther with snapshotVersion := ⟨1⟩ }).1.toOption.map
      (fun decision => (decision.outcome, decision.evidenceFresh,
        (p.2 decision.region).acknowledged)) = some (.readCurrent, false, true) := by
  decide +kernel

/-! ### The age of evidence -/

section Run

variable [ReplayStore σ] {a : Action} {p : Sys σ × (RegionId → Observation)}

/-- The revalidations are journalled, and no pending invalidation is put on a current replica. -/
def KeepsDates (s : Sys σ) (a : Action) : Prop :=
  RecordsRevalidation s a ∧
    All (fun key region => region.state = .current → ¬ s.Defers key a) s.engine.regions

instance (s : Sys σ) (a : Action) : Decidable (KeepsDates s a) :=
  inferInstanceAs (Decidable (_ ∧ All _ _))

/-- The record of a current replica was last written when the replica was last observed. -/
structure Dated (p : Sys σ × (RegionId → Observation)) : Prop where
  keyed : LiveKeyed p.1
  dated : All (fun key region => region.state = .current →
    (p.2 key).sequence = some region.updatedSequence) p.1.engine.regions

lemma Dated.boot {seen} : Dated (Sys.boot config store, seen) :=
  ⟨LiveKeyed.boot, fun key region hregion hcurrent =>
    absurd hcurrent (boot_not_current key region hregion)⟩

lemma Dated.step (h : Dated p) (ha : a.Runs)
    (hkeeps : KeepsDates p.1 a) : Dated (noting Sys.step Sys.observations p a) := by
  refine ⟨h.keyed.step, fun key region' hafter hcurrent => ?_⟩
  change (p.1.observations a p.2 key).sequence = some region'.updatedSequence
  unfold Sys.observations
  split
  · rename_i hseen
    exact congrArg some (observes_dated h.keyed hseen hafter).symm
  rename_i hunseen
  obtain ⟨region, hbefore, hstate, hsame⟩ :=
    (current_after h.keyed ha hkeeps.1 hafter hcurrent).resolve_left hunseen
  obtain rfl := hsame.resolve_right (hkeeps.2 key region hbefore hstate)
  have hdated := h.dated key region' hbefore hstate
  split <;> exact hdated

/-- **The age of evidence is counted from the observation**: in every run that puts no pending
invalidation on a current replica and journals its revalidations, a replica that serves a current
read under a policy that bounds the age of evidence was observed within the bound. -/
theorem evidence_age_observed (config : EngineConfig) (store : Option σ) (as : List Action)
    (hrun : RunOk Sys.step KeepsDates (Sys.boot config store) as) (request : ReadRequest)
    (decision : ReadDecision) :
    let p := as.foldl (noting Sys.step Sys.observations) (Sys.boot config store, fun _ => {})
    (p.1.engine.acquireRead request).1 = .ok decision → decision.outcome = .readCurrent →
      ∀ object ∈ p.1.engine.objects[request.context.object]?,
        ∀ policy ∈ p.1.engine.policyLocked object, policy.consistency ≠ .snapshot →
          policy.evidenceMaxAgeOperations ≠ 0 →
            ∃ observed ∈ (p.2 decision.region).sequence,
              observed.value.toNat ≤ p.1.engine.sequence.value.toNat ∧
                p.1.engine.sequence.value.toNat ≤
                  observed.value.toNat + policy.evidenceMaxAgeOperations.toNat := by
  intro p hread houtcome object hobject policy hpolicy hmodel hbound
  have hdated : Dated p := by
    refine history_invariant ?_ Dated.boot hrun
    intro p a hkeeps h
    rcases a.restart_or with ⟨config, rfl⟩ | ha
    · exact Dated.boot
    · exact h.step ha hkeeps
  rw [Impl.acquireRead_fst] at hread
  obtain ⟨object', policy', region, hcurrent⟩ := Impl.computeReadLocked_current hread houtcome
  cases hcurrent.subject.symm.trans hobject
  cases hcurrent.governed.symm.trans hpolicy
  obtain ⟨hstate, -, hfresh⟩ := hcurrent.certified.resolve_left hmodel
  have hpast := UInt64.le_iff_toNat_le.mp hfresh.past
  have hage := UInt64.le_iff_toNat_le.mp (hfresh.age hbound)
  rw [UInt64.toNat_sub_of_le _ _ hfresh.past] at hage
  exact ⟨_, hdated.dated _ region hcurrent.found hstate, hpast, by omega⟩

end Run

theorem evidence_age_observed_once :
    let p := Duo.dated.foldl (noting Sys.step Sys.observations) (Duo.start, fun _ => {})
    ∃ decision, (p.1.engine.acquireRead Duo.readOther).1 = .ok decision ∧
      decision.outcome = .readCurrent ∧ ∃ observed ∈ (p.2 decision.region).sequence,
        observed.value.toNat ≤ p.1.engine.sequence.value.toNat ∧
          p.1.engine.sequence.value.toNat ≤ observed.value.toNat + (2 : UInt64).toNat := by
  have hrun : RunOk Sys.step KeepsDates (Sys.boot {} (some ({} : LogStore))) Duo.dated := by
    decide +kernel
  have hstate :
      let p := Duo.dated.foldl (noting Sys.step Sys.observations) (Duo.start, fun _ => {})
      (p.1.engine.acquireRead Duo.readOther).1.toOption.map (·.outcome) = some .readCurrent ∧
        ((p.1.engine.objects[Duo.readOther.context.object]?).bind fun object =>
          (p.1.engine.policyLocked object).map fun policy =>
            (policy.consistency, policy.evidenceMaxAgeOperations)) = some (.strict, 2) := by
    decide +kernel
  have hage := evidence_age_observed {} (some ({} : LogStore)) Duo.dated hrun Duo.readOther
  -- the run has been evaluated; from here on only what is known of its last state is needed
  generalize Duo.dated.foldl (noting Sys.step Sys.observations) (Duo.start, fun _ => {}) = p
    at hstate hage ⊢
  obtain ⟨hread, hgoverned⟩ := hstate
  obtain ⟨decision, hdecision, houtcome⟩ := Option.map_eq_some_iff.mp hread
  obtain ⟨object, hobject, hgoverned⟩ := Option.bind_eq_some_iff.mp hgoverned
  obtain ⟨policy, hpolicy, hfields⟩ := Option.map_eq_some_iff.mp hgoverned
  obtain ⟨hmodel, hbound⟩ := Prod.mk.inj hfields
  have hok := Result.of_toOption hdecision
  rw [← hbound]
  exact ⟨decision, hok, houtcome, hage decision hok houtcome object hobject policy hpolicy
    (by simp [hmodel]) (by simp [hbound])⟩

/-- Evidence that has expired is fresh again once a pending invalidation is put on the replica. -/
theorem pending_invalidation_refreshes :
    let p := (Duo.dated ++ [Duo.observe 1, Duo.observe 1, Duo.observe 1]).foldl
      (noting Sys.step Sys.observations) (Duo.start, fun _ => {})
    let p' := noting Sys.step Sys.observations p (Duo.invalidateOther true)
    (p.1.engine.acquireRead Duo.readOther).1.toOption.map (·.outcome) = some .readAfterSync ∧
      (p'.1.engine.acquireRead Duo.readOther).1.toOption.map (·.outcome) = some .readCurrent ∧
      (p'.2 ⟨2⟩).sequence = some ⟨14⟩ ∧ p'.1.engine.sequence = ⟨18⟩ := by
  decide +kernel

end CoherenceFabric
