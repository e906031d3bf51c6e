import CoherenceFabric.Deployment
import CoherenceFabric.Effects.Boot

/-!
Fencing of old incarnations.

Every participant-bound request names an epoch and a boot. All of them but a failure report
are resolved against the current ones before anything happens, so a stale request does
nothing. A failure report is compared with the synchronization it names only.

A participant that is admitted again under a new boot loses its replicas; the authority the
old boot held over objects is not looked at.
-/

namespace CoherenceFabric

open Impl

variable {σ : Type} {s : Impl σ} {status : Status} {ctx : AuthorityContext}

/-! ### Stale requests -/

/-- A request to an operation that acts for a participant. -/
inductive Call where
  | acquireRead (request : ReadRequest)
  | acquireWrite (request : WriteRequest)
  | markDirty (request : DirtyRequest)
  | publish (request : PublishRequest)
  | release (request : ReleaseRequest)
  | acknowledgeInvalidation (acknowledgement : InvalidationAck)
  | beginSync (request : SyncRequest)
  | completeSync (request : SyncCompleteRequest)
  | failSync (request : SyncFailRequest)
  | revalidateRegion (request : RevalidateRequest)

def Call.context : Call → AuthorityContext
  | .acquireRead request => request.context
  | .acquireWrite request => request.context
  | .markDirty request => request.context
  | .publish request => request.context
  | .release request => request.context
  | .acknowledgeInvalidation acknowledgement => acknowledgement.context
  | .beginSync request => request.context
  | .completeSync request => request.context
  | .failSync request => request.context
  | .revalidateRegion request => request.context

def reported {α : Type} (reason : α → StatusCode) : Result α → StatusCode
  | .ok outcome => reason outcome
  | .error status => status.code

namespace Impl

/-- A call: the code it reports and the state after it. A marked or revalidated replica is
returned without a code. -/
def perform [DurableStore σ] (s : Impl σ) : Call → StatusCode × Impl σ
  | .acquireRead request => (s.acquireRead request).map (reported (·.reason)) id
  | .acquireWrite request => (s.acquireWrite request).map (reported (·.reason)) id
  | .markDirty request => (s.markDirty request).map (reported fun _ => .ok) id
  | .publish request => (s.publish request).map (reported (·.reason)) id
  | .release request => (s.release request).map (reported (·.reason)) id
  | .acknowledgeInvalidation ack =>
    (s.acknowledgeInvalidation ack).map (reported (·.reason)) id
  | .beginSync request => (s.beginSync request).map (reported (·.reason)) id
  | .completeSync request => (s.completeSync request).map (reported (·.reason)) id
  | .failSync request => (s.failSync request).map (reported (·.reason)) id
  | .revalidateRegion request => (s.revalidateRegion request).map (reported fun _ => .ok) id

/-- The context names another epoch, a boot that is not the recorded one, or a participant
that is fenced or retired. -/
def StaleContext (s : Impl σ) (ctx : AuthorityContext) : Prop :=
  ctx.epoch ≠ s.epoch ∨ (s.participants[ctx.participant]?).map (·.boot) ≠ some ctx.boot ∨
    (s.participants[ctx.participant]?).map (·.lifecycle) = some .fenced ∨
    (s.participants[ctx.participant]?).map (·.lifecycle) = some .retired

end Impl

/-- The call changed no object, replica, invalidation or synchronization, and does not report
success. -/
structure Inert (s : Impl σ) (r : StatusCode × Impl σ) : Prop where
  objects : r.2.objects = s.objects
  regions : r.2.regions = s.regions
  invalidations : r.2.invalidations = s.invalidations
  syncs : r.2.syncs = s.syncs
  refused : r.1 ≠ .ok

lemma Inert.of_toRecords {r} (h : r.2.toRecords = s.toRecords) (hcode : r.1 ≠ .ok) : Inert s r :=
  ⟨by rw [h], by rw [h], by rw [h], by rw [h], hcode⟩

lemma checkObject_code {object} (h : checkObject ctx object = some status) : status.code ≠ .ok := by
  unfold checkObject at h
  repeat' split at h
  all_goals cases h
  all_goals exact nofun

lemma checkParticipant_code {participant}
    (h : checkParticipant ctx participant = some status) : status.code ≠ .ok := by
  unfold checkParticipant at h
  repeat' split at h
  all_goals cases h
  all_goals exact nofun

lemma resolveLocked_refused {object}
    (h : s.resolveLocked ctx = .refused status object) : status.code ≠ .ok := by
  unfold resolveLocked at h
  split at h
  · cases h; exact nofun
  split at h
  · cases h; exact nofun
  split at h
  · cases h; exact nofun
  split at h
  · cases h; exact nofun
  split at h
  · cases h; exact checkObject_code ‹_›
  split at h
  · cases h; exact nofun
  split at h
  · cases h; exact checkParticipant_code ‹_›
  · cases h

lemma Impl.StaleContext.refused {s : Impl σ} {ctx} (h : s.StaleContext ctx) :
    ∃ status object, s.resolveLocked ctx = .refused status object ∧ status.code ≠ .ok := by
  cases hresolve : s.resolveLocked ctx with
  | refused status object => exact ⟨status, object, rfl, resolveLocked_refused hresolve⟩
  | granted object participant =>
    have hauth := resolveLocked_granted hresolve
    obtain ⟨hfenced, hretired⟩ := hauth.participant_live
    rcases h with h | h | h | h
    · exact absurd hauth.epoch h
    · simp [hauth.participant_found, hauth.boot] at h
    · simp [hauth.participant_found, hfenced] at h
    · simp [hauth.participant_found, hretired] at h

variable [DurableStore σ] {s : Impl σ}

lemma perform_refused {call object}
    (hresolve : s.resolveLocked call.context = .refused status object) (hcode : status.code ≠ .ok)
    (hcall : ∀ request, call ≠ .failSync request) : Inert s (s.perform call) := by
  cases call with
  | acquireRead request =>
    change s.resolveLocked request.context = _ at hresolve
    refine .of_toRecords ?_ ?_
    · simp [perform, acquireRead, computeReadLocked, hresolve]
    · simpa [perform, acquireRead, computeReadLocked, hresolve, reported] using hcode
  | acquireWrite request =>
    change s.resolveLocked request.context = _ at hresolve
    refine .of_toRecords ?_ ?_
    · simp [perform, acquireWrite, hresolve]
    · simpa [perform, acquireWrite, hresolve, reported] using hcode
  | markDirty request =>
    change s.resolveLocked request.context = _ at hresolve
    refine .of_toRecords ?_ ?_
    · simp [perform, markDirty, hresolve]
    · simpa [perform, markDirty, hresolve, reported] using hcode
  | publish request =>
    change s.resolveLocked request.context = _ at hresolve
    refine .of_toRecords ?_ ?_
    · simp [perform, publish, publishReserve, hresolve]
    · simpa [perform, publish, publishReserve, hresolve, reported] using hcode
  | release request =>
    change s.resolveLocked request.context = _ at hresolve
    refine .of_toRecords ?_ ?_ <;> cases object
    · simp [perform, release, hresolve]
    · simp [perform, release, hresolve]
    · simpa [perform, release, hresolve, reported] using hcode
    · simpa [perform, release, hresolve, reported] using hcode
  | acknowledgeInvalidation ack =>
    change s.resolveLocked ack.context = _ at hresolve
    refine .of_toRecords ?_ ?_ <;> cases hfound : s.invalidations[ack.invalidation]?
    · simp [perform, acknowledgeInvalidation, hfound]
    · simp [perform, acknowledgeInvalidation, hfound, hresolve]
    · simp [perform, acknowledgeInvalidation, hfound, reported]
    · simpa [perform, acknowledgeInvalidation, hfound, hresolve, reported] using hcode
  | beginSync request =>
    change s.resolveLocked request.context = _ at hresolve
    refine .of_toRecords ?_ ?_ <;> cases object
    · simp [perform, beginSync, hresolve]
    · simp [perform, beginSync, hresolve]
    · simpa [perform, beginSync, hresolve, reported] using hcode
    · simpa [perform, beginSync, hresolve, reported] using hcode
  | completeSync request =>
    change s.resolveLocked request.context = _ at hresolve
    refine .of_toRecords ?_ ?_ <;> cases hfound : s.syncs[request.operation]?
    · simp [perform, completeSync, hfound]
    · simp [perform, completeSync, hfound, hresolve]
    · simp [perform, completeSync, hfound, reported]
    · simpa [perform, completeSync, hfound, hresolve, reported] using hcode
  | failSync request => exact absurd rfl (hcall request)
  | revalidateRegion request =>
    change s.resolveLocked request.context = _ at hresolve
    refine .of_toRecords ?_ ?_
    · simp [perform, revalidateRegion, hresolve]
    · simpa [perform, revalidateRegion, hresolve, reported] using hcode

/-! ### Failure reports -/

namespace Impl

def failedSync (s : Impl σ) (request : SyncFailRequest) : Option SyncRecord :=
  (s.syncs[request.operation]?).filter fun record =>
    record.state != .completed &&
      record.destinationParticipant == request.context.participant &&
      record.destinationBoot == request.context.boot

def settledFailure (s : Impl σ) (request : SyncFailRequest) (record : SyncRecord) : SyncRecord :=
  record.settle (if request.outcomeUnknown then .outcomeUnknown else .failed)
    (failureReason request) s.sequence.next

def refusedDestination (s : Impl σ) (request : SyncFailRequest) (region : RegionRecord) :
    RegionRecord :=
  region.refuseSync (failedDestination request).1 (failedDestination request).2 s.sequence.next

/-- The report repeats what the synchronization and its destination say already, down to the
sequence number, and the store refuses to hear it again. -/
structure RepeatsFailure (s : Impl σ) (request : SyncFailRequest) (record : SyncRecord) :
    Prop where
  same : s.settledFailure request record = record
  destination : ∀ region, s.regions[record.destinationRegion]? = some region →
    s.refusedDestination request region = region
  unheard : (s.appendManyLocked (.upsertSync record ::
    (s.regions[record.destinationRegion]?).toList.map .upsertRegion)).1.isOk = false

end Impl

lemma insert_eq_self {κ α} [Ord κ] [Std.TransOrd κ] [Std.LawfulEqOrd κ]
    {m : Std.ExtTreeMap κ α} {k a b} (ha : m[k]? = some a) : m.insert k b = m ↔ b = a := by
  constructor
  · intro h
    have hk : (m.insert k b)[k]? = some b := Std.ExtTreeMap.getElem?_insert_self
    rw [h, ha] at hk
    exact (Option.some.inj hk).symm
  rintro rfl
  refine Std.ExtTreeMap.ext_getElem? fun k' => ?_
  rw [Std.ExtTreeMap.getElem?_insert]
  split
  · rename_i hk
    rw [← Std.LawfulEqOrd.eq_of_compare hk, ha]
  · rfl

lemma failSync_unapplied {request} (h : s.failedSync request = none) :
    Inert s (s.perform (.failSync request)) := by
  change Inert s ((s.failSync request).map (reported (·.reason)) id)
  unfold failSync
  split
  · exact .of_toRecords rfl nofun
  rename_i record hfound
  split
  · exact .of_toRecords rfl nofun
  rename_i hstate
  simp only [failedSync, hfound, Option.filter_eq_none_iff, Option.some.injEq,
    forall_eq', Bool.and_eq_true, bne_iff_ne, beq_iff_eq] at h
  rw [if_pos (by tauto)]
  exact .of_toRecords rfl nofun

/-- What an applied failure report writes, and what the journal says to it. -/
structure FailureWritten (s : Impl σ) (request : SyncFailRequest) (record : SyncRecord)
    (r : Status × Impl σ) : Prop where
  objects : r.2.objects = s.objects
  invalidations : r.2.invalidations = s.invalidations
  syncs : r.2.syncs = s.syncs.insert request.operation (s.settledFailure request record)
  regions : r.2.regions = match s.regions[record.destinationRegion]? with
    | some region => s.regions.insert record.destinationRegion
        (s.refusedDestination request region)
    | none => s.regions
  status : r.1 = (s.appendManyLocked (.upsertSync (s.settledFailure request record) ::
    (s.regions[record.destinationRegion]?).toList.map fun region =>
      .upsertRegion (s.refusedDestination request region))).1

lemma recordSyncFailure_written (request : SyncFailRequest) (record : SyncRecord) :
    FailureWritten s request record
      (s.takeDecisionId.tick.recordSyncFailure request (s.settledFailure request record)) := by
  have hsame : (s.takeDecisionId.tick.setSync request.operation
      (s.settledFailure request record)).regions[(s.settledFailure request
        record).destinationRegion]? = s.regions[record.destinationRegion]? := rfl
  unfold recordSyncFailure
  dsimp only
  rw [hsame]
  cases hregion : s.regions[record.destinationRegion]? with
  | none => exact ⟨rfl, rfl, rfl, by rw [hregion]; rfl, by rw [hregion]; rfl⟩
  | some region => exact ⟨rfl, rfl, rfl, by rw [hregion]; rfl, by rw [hregion]; rfl⟩

lemma FailureWritten.repeats {request} {record : SyncRecord}
    {r} (h : FailureWritten s request record r)
    (hfound : s.syncs[request.operation]? = some record) :
    (r.2.syncs = s.syncs ∧ r.2.regions = s.regions ∧ r.1.isOk = false) ↔
      s.RepeatsFailure request record := by
  rw [h.syncs, h.regions, h.status, insert_eq_self hfound]
  cases hregion : s.regions[record.destinationRegion]? with
  | none =>
    constructor
    · rintro ⟨hsame, -, hstatus⟩
      exact ⟨hsame, by simp [hregion], by simpa [hregion, hsame] using hstatus⟩
    · rintro ⟨hsame, -, hstatus⟩
      exact ⟨hsame, rfl, by simpa [hregion, hsame] using hstatus⟩
  | some region =>
    simp only [insert_eq_self hregion]
    constructor
    · rintro ⟨hsame, hdestination, hstatus⟩
      refine ⟨hsame, ?_, by simpa [hregion, hsame, hdestination] using hstatus⟩
      rintro _ hother
      cases hregion.symm.trans hother
      exact hdestination
    · rintro ⟨hsame, hdestination, hstatus⟩
      have hdestination := hdestination region hregion
      exact ⟨hsame, hdestination, by simpa [hregion, hsame, hdestination] using hstatus⟩

lemma failSync_applied {request record} (h : s.failedSync request = some record) :
    Inert s (s.perform (.failSync request)) ↔ s.RepeatsFailure request record := by
  obtain ⟨hfound, hpass⟩ := Option.filter_eq_some_iff.mp h
  simp only [Bool.and_eq_true, bne_iff_ne, beq_iff_eq] at hpass
  obtain ⟨⟨hstate, hparticipant⟩, hboot⟩ := hpass
  have hwritten := recordSyncFailure_written (s := s) request record
  rw [← hwritten.repeats hfound]
  change Inert s ((s.failSync request).map (reported (·.reason)) id) ↔ _
  unfold failSync
  simp only [hfound]
  rw [if_neg hstate, if_neg (by simp [hparticipant, hboot])]
  have hsettled : record.settle (if request.outcomeUnknown then .outcomeUnknown else .failed)
      (failureReason request) s.takeDecisionId.tick.sequence =
        s.settledFailure request record := rfl
  rw [hsettled]
  generalize s.takeDecisionId.tick.recordSyncFailure request (s.settledFailure request record) = r
    at hwritten ⊢
  cases hstatus : r.1.isOk with
  | true =>
    simp only [Bool.not_true, Bool.false_eq_true, if_false]
    exact iff_of_false (fun hinert => hinert.refused rfl) nofun
  | false =>
    simp only [Bool.not_false, if_true]
    constructor
    · exact fun hinert => ⟨hinert.syncs, hinert.regions, trivial⟩
    · rintro ⟨hsyncs, hregions, -⟩
      exact ⟨hwritten.objects, hregions, hwritten.invalidations, hsyncs, by
        simpa [reported, Status.isOk] using hstatus⟩

/-- **A stale request is inert**, unless it is a failure report of a synchronization that has
not completed and is destined to the incarnation the request names. -/
theorem stale_call_inert_iff (call : Call) (hstale : s.StaleContext call.context) :
    Inert s (s.perform call) ↔ ∀ request record, call = .failSync request →
      s.failedSync request = some record → s.RepeatsFailure request record := by
  by_cases hcall : ∀ request, call ≠ .failSync request
  · obtain ⟨status, object, hresolve, hcode⟩ := hstale.refused
    exact iff_of_true (perform_refused hresolve hcode hcall)
      fun request _ heq => absurd heq (hcall request)
  push Not at hcall
  obtain ⟨request, rfl⟩ := hcall
  cases hfailed : s.failedSync request with
  | none =>
    refine iff_of_true (failSync_unapplied hfailed) ?_
    rintro _ record ⟨⟩ hsome
    cases hfailed.symm.trans hsome
  | some record =>
    rw [failSync_applied hfailed]
    constructor
    · rintro hrepeats _ other ⟨⟩ hsome
      cases hfailed.symm.trans hsome
      exact hrepeats
    · exact fun h => h request record rfl hfailed

def Duo.otherBoot : AuthorityContext := { Duo.context 1 with boot := Duo.bootOf 3 }

theorem stale_call_inert_other_boot : (Duo.start.run Duo.owned).engine.StaleContext Duo.otherBoot ∧
      Inert (Duo.start.run Duo.owned).engine ((Duo.start.run Duo.owned).engine.perform
        (.release { context := Duo.otherBoot, releaseWriteAuthority := true })) := by
  have hstale : (Duo.start.run Duo.owned).engine.StaleContext Duo.otherBoot :=
    .inr (.inl (by decide +kernel))
  generalize (Duo.start.run Duo.owned).engine = s at hstale ⊢
  refine ⟨hstale, (stale_call_inert_iff (.release _) hstale).mpr fun _ _ h => ?_⟩
  cases h

def Duo.syncing : List Action :=
  Duo.owned ++ [.publishReserve Duo.publishRequest, .publishAppend 0, .publishCommit 0,
    .beginSync { context := Duo.context 2, sourceRegion := ⟨1⟩, destinationRegion := ⟨2⟩ }]

/-- A fenced participant reports a failure: the call succeeds and its replica leaves the state
the fence put it in. -/
theorem failSync_after_fence :
    let s := (Duo.start.run (Duo.syncing ++ [.fenceParticipant ⟨2⟩ ⟨1⟩ [1]])).engine
    let r := s.perform (.failSync { context := Duo.context 2, operation := ⟨1⟩ })
    (s.participants[(⟨2⟩ : ParticipantId)]?).map (·.lifecycle) = some .fenced ∧ r.1 = .ok ∧
      (s.regions[(⟨2⟩ : RegionId)]?).map (·.state) = some .fenced ∧
      (r.2.regions[(⟨2⟩ : RegionId)]?).map (·.state) = some .invalid := by
  decide +kernel

/-! ### Re-admission -/

/-- No object, read grant, requested invalidation or open synchronization is bound to an
incarnation of a participant. -/
structure Revoked (r : Records) (participant : ParticipantId) (boot : ParticipantBootId) :
    Prop where
  writer : ∀ (id : ObjectId) object, r.objects[id]? = some object →
    ¬ (object.writer = participant ∧ object.writerBoot = boot)
  reads : ∀ (id : ObjectId) object, r.objects[id]? = some object →
    ∀ grant ∈ object.reads, grant.released = false → grant.boot ≠ boot
  invalidations : ∀ (id : InvalidationId) record, r.invalidations[id]? = some record →
    record.state = .requested → record.targetBoot ≠ boot
  syncs : ∀ (id : SyncOperationId) record, r.syncs[id]? = some record →
    record.state = .planned ∨ record.state = .requested ∨ record.state = .inProgress →
      record.destinationBoot ≠ boot

structure SameAuthority (r r' : Records) : Prop where
  objects : r'.objects = r.objects
  invalidations : r'.invalidations = r.invalidations
  syncs : r'.syncs = r.syncs

lemma SameAuthority.revoked_iff {r r'} (h : SameAuthority r r')
    (participant : ParticipantId) (boot : ParticipantBootId) :
    Revoked r' participant boot ↔ Revoked r participant boot := by
  constructor
  · rintro ⟨hwriter, hreads, hinvalidations, hsyncs⟩
    rw [h.objects] at hwriter hreads
    rw [h.invalidations] at hinvalidations
    rw [h.syncs] at hsyncs
    exact ⟨hwriter, hreads, hinvalidations, hsyncs⟩
  rintro ⟨hwriter, hreads, hinvalidations, hsyncs⟩
  rw [← h.objects] at hwriter hreads
  rw [← h.invalidations] at hinvalidations
  rw [← h.syncs] at hsyncs
  exact ⟨hwriter, hreads, hinvalidations, hsyncs⟩

omit [DurableStore σ] in
lemma releaseRegionNameLocked_sameAuthority {r} {e : Impl σ}
    (h : SameAuthority r e.toRecords) (region : RegionRecord) :
    SameAuthority r (e.releaseRegionNameLocked region).toRecords := by
  unfold releaseRegionNameLocked
  dsimp only
  split
  · exact ⟨h.objects, h.invalidations, h.syncs⟩
  · exact h

lemma retireSupersededRegions_sameAuthority (participant : ParticipantId)
    (boot : ParticipantBootId) :
    SameAuthority s.toRecords (s.retireSupersededRegions participant boot).toRecords := by
  unfold retireSupersededRegions
  refine List.foldlRecOn (motive := fun e : Impl σ => SameAuthority s.toRecords e.toRecords) _ _
    ⟨rfl, rfl, rfl⟩ fun e h region _ => ?_
  exact releaseRegionNameLocked_sameAuthority h region

lemma admitParticipant_sameAuthority {r} (h : SameAuthority r s.toRecords)
    (record : ParticipantRecord) : SameAuthority r (s.admitParticipant record).2.toRecords := by
  unfold admitParticipant
  dsimp only
  split
  · exact h
  · exact ⟨h.objects, h.invalidations, h.syncs⟩

lemma registerParticipant_sameAuthority (name : Text) (boot : ParticipantBootId)
    (epoch : CoordinatorEpoch) (label : Text) :
    SameAuthority s.toRecords (s.registerParticipant name boot epoch label).2.toRecords := by
  unfold registerParticipant
  split
  · exact ⟨rfl, rfl, rfl⟩
  split
  · dsimp only
    split
    · exact ⟨rfl, rfl, rfl⟩
    split
    · exact ⟨rfl, rfl, rfl⟩
    · exact admitParticipant_sameAuthority (retireSupersededRegions_sameAuthority _ _) _
  · have hcounters : ∀ counters, SameAuthority s.toRecords (s.withCounters counters).toRecords :=
      fun _ => ⟨rfl, rfl, rfl⟩
    exact admitParticipant_sameAuthority (hcounters _) _

/-- **Re-admission revokes nothing**: whatever the call, the old incarnation holds nothing
afterwards if and only if it held nothing before. -/
theorem readmission_revoked_iff (name : Text) (boot : ParticipantBootId)
    (epoch : CoordinatorEpoch) (label : Text) (participant : ParticipantId)
    (old : ParticipantBootId) :
    Revoked (s.registerParticipant name boot epoch label).2.toRecords participant old ↔
      Revoked s.toRecords participant old :=
  (registerParticipant_sameAuthority name boot epoch label).revoked_iff participant old

/-- The writer is admitted again under a new boot, and the old boot is the writer still. -/
theorem readmission_keeps_writer :
    let s := (Duo.start.run Duo.owned).engine
    let r := s.registerParticipant [1] (Duo.bootOf 3) ⟨1⟩ []
    (s.participants[(⟨1⟩ : ParticipantId)]?).map (fun p => (p.name, p.boot)) =
        some ([1], Duo.bootOf 1) ∧
      r.1.toOption.map (fun p => (p.id, p.boot)) = some (⟨1⟩, Duo.bootOf 3) ∧
      (r.2.objects[(⟨1⟩ : ObjectId)]?).map (fun object => (object.writer, object.writerBoot)) =
        some (⟨1⟩, Duo.bootOf 1) := by
  decide +kernel

end CoherenceFabric
