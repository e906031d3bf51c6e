import CoherenceFabric.Deployment
import CoherenceFabric.Effects.Fields

/-!
The completion of a synchronization.

A plan names a destination replica, the incarnation that owns it and the version it has to reach.
Only the report of that incarnation makes the destination current, only while the version of the
plan is the authoritative one, and only once.
-/

namespace CoherenceFabric

open FiniteMap Transition Impl

variable {σ : Type}

/-- The replica becomes current: it is current after the step, by a record that the step wrote. -/
def Impl.Refreshes (e e' : Impl σ) (key : RegionId) : Prop :=
  ∃ region, e'.regions[key]? = some region ∧ region.state = .current ∧
    e.regions[key]? ≠ some region

namespace Impl.Refreshes

variable {e e' : Impl σ} {key id : RegionId} {region : RegionRecord}

lemma not_same (h : e.Refreshes e' key) (hsame : e'.regions = e.regions) : False := by
  obtain ⟨region, hafter, -, hnew⟩ := h
  exact hnew (hsame ▸ hafter)

lemma of_insert (h : e.Refreshes e' key) (hwrites : e'.regions = e.regions.insert id region) :
    key = id ∧ region.state = .current := by
  obtain ⟨region', hafter, hcurrent, hnew⟩ := h
  rw [hwrites] at hafter
  rcases insert_cases hafter with ⟨rfl, rfl⟩ | ⟨-, hold⟩
  · exact ⟨rfl, hcurrent⟩
  · exact absurd hold hnew

lemma of_state (hbefore : (e.regions[key]?).map (·.state) ≠ some .current)
    (hafter : (e'.regions[key]?).map (·.state) = some .current) : e.Refreshes e' key := by
  obtain ⟨region, hfound, hcurrent⟩ := Option.map_eq_some_iff.mp hafter
  refine ⟨region, hfound, hcurrent, fun hold => hbefore ?_⟩
  rw [hold]
  exact congrArg some hcurrent

end Impl.Refreshes

/-! ### Reports -/

/-- The policy of the object asks for the fingerprint that the plan has. -/
def Impl.ChecksContent (e : Impl σ) (object : ObjectRecord) (record : SyncRecord) : Prop :=
  (e.policyLocked object).any (fun policy => policy.requireContentFingerprint) = true ∧
    record.expectedContent.defined = true

/-- The report of a completion passes its checks. -/
structure Reports (e : Impl σ) (request : SyncCompleteRequest) (record : SyncRecord)
    (object : ObjectRecord) (participant : ParticipantRecord) (destination : RegionRecord) :
    Prop where
  planned : e.syncs[request.operation]? = some record
  granted : e.resolveLocked request.context = .granted object participant
  subject : object.id = record.object
  running : record.state ≠ .completed
  allowed : Impl.completeSyncRefusal request record = none
  found : e.regions[record.destinationRegion]? = some destination
  standing : destination.lifecycle ≠ .retired ∧ destination.state ≠ .retired

def Impl.Uncompleted (e e' : Impl σ) (id : SyncOperationId) : Prop :=
  ∀ record, e'.syncs[id]? = some record → record.state = .completed → e.syncs[id]? = some record

lemma Impl.Uncompleted.of_insert {e e' : Impl σ} {id} (record : SyncRecord)
    (hwrites : e'.syncs = e.syncs.insert id record) (hstate : record.state ≠ .completed) :
    e.Uncompleted e' id := by
  intro record' hafter hcompleted
  rw [hwrites, getElem?_insert_self] at hafter
  cases hafter
  exact absurd hcompleted hstate

inductive CompleteSyncEffect (e : Impl σ) (request : SyncCompleteRequest) (e' : Impl σ) : Prop
  | kept (same : e'.regions = e.regions) (unfinished : e.Uncompleted e' request.operation)
  | stale {record object participant destination}
      (reports : Reports e request record object participant destination)
      (superseded : object.authoritativeVersion ≠ record.sourceVersion)
      (writes : ∃ note seq, e'.regions = e.regions.insert record.destinationRegion
        (destination.refuseSync .stale note seq))
      (unfinished : e.Uncompleted e' request.operation)
  | unmoved {record object participant destination}
      (reports : Reports e request record object participant destination)
      (version : object.authoritativeVersion = record.sourceVersion)
      (checks : e.ChecksContent object record) (idle : request.contentMoved = false)
      (writes : ∃ note seq, e'.regions = e.regions.insert record.destinationRegion
        (destination.refuseSync .syncRequired note seq))
      (unfinished : e.Uncompleted e' request.operation)
  | mismatch {record object participant destination}
      (reports : Reports e request record object participant destination)
      (version : object.authoritativeVersion = record.sourceVersion)
      (checks : e.ChecksContent object record) (moved : request.contentMoved = true)
      (differs : request.observedContent.same record.expectedContent = false)
      (writes : ∃ note seq, e'.regions = e.regions.insert record.destinationRegion
        (destination.refuseSync .revalidationRequired note seq))
      (unfinished : e.Uncompleted e' request.operation)
  | current {record object participant destination}
      (reports : Reports e request record object participant destination)
      (version : object.authoritativeVersion = record.sourceVersion)
      (content : e.ChecksContent object record → request.contentMoved = true ∧
        request.observedContent.same record.expectedContent = true)
      (writes : ∃ region, region.state = .current ∧
        region.updatedSequence = e.tick.sequence ∧
        e'.regions = e.regions.insert record.destinationRegion region ∧
        e'.syncs[request.operation]? = some (record.complete e.tick.sequence))

section Engine

variable [DurableStore σ] {e : Impl σ} {key : RegionId}

section Ends

variable {request : SyncCompleteRequest} {record : SyncRecord} {object : ObjectRecord}
  {destination : RegionRecord} {outcome : SyncOutcome}

lemma completeRetired_regions :
    (e.completeRetired request record outcome).2.regions = e.regions := by
  unfold completeRetired
  dsimp only
  split
  · rfl
  · rw [recordDecision_toRecords]
    rfl

lemma completeRetired_unfinished :
    e.Uncompleted (e.completeRetired request record outcome).2 request.operation := by
  refine .of_insert (record.settle .cancelled retiredReason e.tick.sequence) ?_
    (by simp [SyncRecord.settle])
  unfold completeRetired
  dsimp only
  split
  · rfl
  · rw [recordDecision_toRecords]
    rfl

lemma completeStale_unfinished :
    e.Uncompleted (e.completeStale request record destination outcome).2 request.operation := by
  refine .of_insert (record.settle .failed advancedReason e.tick.sequence) ?_
    (by simp [SyncRecord.settle])
  unfold completeStale
  dsimp only
  split
  · rfl
  · rw [recordDecision_toRecords]
    rfl

lemma completeUnmoved_unfinished :
    e.Uncompleted (e.completeUnmoved request record destination outcome).2 request.operation :=
  .of_insert (record.settle .failed unmovedReason e.tick.sequence) rfl
    (by simp [SyncRecord.settle])

lemma completeMismatch_unfinished :
    e.Uncompleted (e.completeMismatch request record destination outcome).2 request.operation := by
  refine .of_insert (record.settle .failed (mismatchReason request record)
    e.tick.sequence) ?_ (by simp [SyncRecord.settle])
  unfold completeMismatch
  dsimp only
  split
  · rfl
  · rw [recordDecision_toRecords]
    rfl

lemma completeStale_regions : ∃ note seq,
    (e.completeStale request record destination outcome).2.regions =
      e.regions.insert record.destinationRegion (destination.refuseSync .stale note seq) := by
  unfold completeStale
  dsimp only
  split
  · exact ⟨_, _, rfl⟩
  · exact ⟨_, _, congrArg Records.regions (recordDecision_toRecords ..)⟩

lemma completeMismatch_regions : ∃ note seq,
    (e.completeMismatch request record destination outcome).2.regions =
      e.regions.insert record.destinationRegion
        (destination.refuseSync .revalidationRequired note seq) := by
  unfold completeMismatch
  dsimp only
  split
  · exact ⟨_, _, rfl⟩
  · exact ⟨_, _, congrArg Records.regions (recordDecision_toRecords ..)⟩

lemma completeCurrent_writes : ∃ region, region.state = .current ∧
    region.updatedSequence = e.tick.sequence ∧
    (e.completeCurrent request record object destination outcome).2.regions =
      e.regions.insert record.destinationRegion region ∧
    (e.completeCurrent request record object destination outcome).2.syncs[request.operation]? =
      some (record.complete e.tick.sequence) := by
  unfold completeCurrent
  dsimp only
  split
  · exact ⟨destination.completeSync _ _ _ _ _, rfl, rfl, rfl,
      getElem?_insert_self⟩
  · rw [recordDecision_toRecords]
    exact ⟨destination.completeSync _ _ _ _ _, rfl, rfl, rfl,
      getElem?_insert_self⟩

end Ends

theorem completeSync_effect (e : Impl σ) (request : SyncCompleteRequest) :
    CompleteSyncEffect e request (e.completeSync request).2 := by
  have hopen : e.Uncompleted e request.operation := fun _ hafter _ => hafter
  unfold completeSync
  dsimp only
  split
  · exact .kept rfl hopen
  rename_i record hplanned
  split
  · exact .kept rfl hopen
  rename_i object participant hgranted
  split
  · exact .kept rfl hopen
  split
  · exact .kept rfl hopen
  split
  · exact .kept rfl hopen
  split
  · exact .kept rfl hopen
  rename_i hsubject hrunning _ hallowed _ destination hfound
  split
  · exact .kept completeRetired_regions completeRetired_unfinished
  rename_i hstanding
  have hreports : Reports e request record object participant destination :=
    ⟨hplanned, hgranted, not_not.mp hsubject, hrunning, hallowed, hfound,
      not_or.mp hstanding⟩
  split
  · rename_i hsuperseded
    exact .stale hreports hsuperseded completeStale_regions
      completeStale_unfinished
  rename_i hversion
  have hversion := not_not.mp hversion
  split
  · rename_i hunmoved
    exact .unmoved hreports hversion ⟨hunmoved.1, hunmoved.2.1⟩
      (by simpa using hunmoved.2.2) ⟨_, _, rfl⟩ completeUnmoved_unfinished
  rename_i hmoved
  have hmoved (hchecks : e.ChecksContent object record) :
      request.contentMoved = true := by
    by_contra hnot
    exact hmoved ⟨hchecks.1, hchecks.2, by simpa using hnot⟩
  split
  · rename_i hdiffers
    exact .mismatch hreports hversion ⟨hdiffers.1, hdiffers.2.1⟩
      (hmoved ⟨hdiffers.1, hdiffers.2.1⟩) (by simpa using hdiffers.2.2)
      completeMismatch_regions completeMismatch_unfinished
  rename_i hsame
  have hcontent (hchecks : e.ChecksContent object record) :
      request.observedContent.same record.expectedContent = true := by
    by_contra hnot
    exact hsame ⟨hchecks.1, hchecks.2, by simpa using hnot⟩
  obtain ⟨region, hcurrent, hdated, hregions, hsyncs⟩ :=
    completeCurrent_writes (e := e.takeDecisionId)
  exact .current hreports hversion
    (fun hchecks => ⟨hmoved hchecks, hcontent hchecks⟩)
    ⟨region, hcurrent, hdated, hregions, hsyncs⟩

/-! ### What makes a replica current -/

/-- What a completion report has shown when it makes a replica current. -/
structure SoundCompletion (e : Impl σ) (request : SyncCompleteRequest) (key : RegionId)
    (record : SyncRecord) (object : ObjectRecord) (participant : ParticipantRecord)
    (destination : RegionRecord) : Prop where
  planned : e.syncs[request.operation]? = some record
  target : record.destinationRegion = key
  caller : request.context.participant = record.destinationParticipant
  known : e.participants[request.context.participant]? = some participant
  boot : request.context.boot = record.destinationBoot ∧ participant.boot = request.context.boot
  live : participant.lifecycle ≠ .fenced ∧ participant.lifecycle ≠ .retired
  unsettled : record.state ≠ .completed ∧ record.state ≠ .failed ∧ record.state ≠ .cancelled
  subject : e.objects[record.object]? = some object
  version : record.sourceVersion = object.authoritativeVersion ∧
    request.destinationNewVersion = object.authoritativeVersion
  found : e.regions[key]? = some destination
  standing : destination.lifecycle ≠ .retired ∧ destination.state ≠ .retired
  content : ∀ policy ∈ e.policyLocked object, policy.requireContentFingerprint = true →
    record.expectedContent.defined = true →
      request.contentMoved = true ∧ request.observedContent.same record.expectedContent = true

lemma completeSync_refreshes {request} (hkeyed : All (fun id object => object.id = id) e.objects)
    (h : e.Refreshes (e.completeSync request).2 key) : ∃ record object participant destination,
      SoundCompletion e request key record object participant destination ∧
        ∃ seq, (e.completeSync request).2.syncs[request.operation]? =
          some (record.complete seq) := by
  cases completeSync_effect e request with
  | kept same => exact (h.not_same same).elim
  | stale _ _ writes _ | unmoved _ _ _ _ writes _ | mismatch _ _ _ _ _ writes _ =>
    obtain ⟨_, _, hregions⟩ := writes
    cases (h.of_insert hregions).2
  | @current record object participant destination reports version content writes =>
    obtain ⟨region, -, -, hregions, hcompleted⟩ := writes
    have hauthorized := resolveLocked_granted reports.granted
    obtain ⟨hcancelled, hfailed, hcaller, hboot, -, hreported⟩ :=
      completeSyncRefusal_none reports.allowed
    have hkey := (h.of_insert hregions).1
    refine ⟨record, object, participant, destination, ?_, _, hcompleted⟩
    exact
      { planned := reports.planned
        target := hkey.symm
        caller := hcaller.symm
        known := hauthorized.participant_found
        boot := ⟨hboot.symm, hauthorized.boot⟩
        live := hauthorized.participant_live
        unsettled := ⟨reports.running, hfailed, hcancelled⟩
        subject := by
          rw [← reports.subject, hkeyed _ _ hauthorized.object_found]
          exact hauthorized.object_found
        version := ⟨version.symm, hreported.trans version.symm⟩
        found := hkey ▸ reports.found
        standing := reports.standing
        content := by
          intro policy hpolicy hrequired hdefined
          refine content ⟨?_, hdefined⟩
          rw [Option.mem_def.mp hpolicy]
          exact hrequired }

lemma recordSyncFailure_spares {request record} :
    ¬ e.Refreshes (e.recordSyncFailure request record).2 key := by
  unfold recordSyncFailure
  dsimp only
  split
  · exact fun h => failedDestination_state request (h.of_insert rfl).2
  · exact fun h => h.not_same rfl

lemma failSync_spares {request} : ¬ e.Refreshes (e.failSync request).2 key := by
  unfold failSync
  dsimp only
  split
  · exact fun h => h.not_same rfl
  rename_i record _
  generalize record.settle _ _ _ = settled
  have hspares := @recordSyncFailure_spares _ _ e.takeDecisionId.tick key request settled
  split
  · exact fun h => h.not_same rfl
  split
  · exact fun h => h.not_same rfl
  split
  · exact hspares
  · unfold Impl.Refreshes
    rw [recordDecision_toRecords]
    exact hspares

lemma beginSync_spares {request} : ¬ e.Refreshes (e.beginSync request).2 key := by
  unfold beginSync
  dsimp only
  split
  · exact fun h => h.not_same rfl
  · exact fun h => h.not_same rfl
  split
  · exact fun h => h.not_same rfl
  rename_i source destination _
  split
  · exact fun h => (destination.requestSync_lowered _ _ _).state (h.of_insert rfl).2
  · exact fun h => (destination.requestSync_lowered _ _ _).state
      (h.of_insert (congrArg Records.regions (recordDecision_toRecords ..))).2

end Engine

/-! ### At most once -/

section Run

variable [ReplayStore σ] {s : Sys σ} {a : Action} {id : SyncOperationId}

def Sys.Completed (s : Sys σ) (id : SyncOperationId) : Prop :=
  ∃ record, s.engine.syncs[id]? = some record ∧ record.state = .completed

/-- The step belongs to the engine's lifetime, and plans no synchronization under the identity. -/
structure KeepsPlan (id : SyncOperationId) (s : Sys σ) (a : Action) : Prop where
  lifetime : ∀ config, a ≠ .restart config
  kept : ∀ record, ¬ NewSync s a id record

lemma Sys.Completed.step (h : s.Completed id) (hkeyed : LiveKeyed s) (hkeeps : KeepsPlan id s a) :
    (s.step a).Completed id := by
  obtain ⟨record, hfound, hcompleted⟩ := h
  obtain ⟨record', hafter, hchange⟩ := (step_changes hkeyed hkeeps.lifetime).syncs.forward hfound
  refine ⟨record', hafter, ?_⟩
  cases hchange with
  | same => exact hcompleted
  | settle unsettled =>
    exfalso
    rcases unsettled with hunsettled | ⟨request, -, -, hfails⟩
    · simp [SyncRecord.isSettled, hcompleted] at hunsettled
    · exact hfails.running hcompleted
  | replace planned => exact absurd planned (hkeeps.kept _)

/-- A completion report that makes a replica current has shown what it has to show, and no later
report on the same plan makes any replica current. No other report on a synchronization and no
plan makes a replica current. -/
theorem sync_completion_sound (config : EngineConfig) (store : Option σ) (as : List Action) :
    let s := (Sys.boot config store).run as
    (∀ request key, s.engine.Refreshes (s.step (.completeSync request)).engine key →
      (∃ record object participant destination,
        SoundCompletion s.engine request key record object participant destination) ∧
      ∀ between, RunOk Sys.step (KeepsPlan request.operation) (s.step (.completeSync request))
          between →
        let t := (s.step (.completeSync request)).run between
        ∀ again key', again.operation = request.operation →
          ¬ t.engine.Refreshes (t.step (.completeSync again)).engine key') ∧
    (∀ request key, ¬ s.engine.Refreshes (s.step (.failSync request)).engine key) ∧
    ∀ request key, ¬ s.engine.Refreshes (s.step (.beginSync request)).engine key := by
  intro s
  have hkeyed : LiveKeyed s := foldl_invariant (fun _ _ h => h.step) LiveKeyed.boot
  refine ⟨fun request key h => ?_, fun _ _ => failSync_spares, fun _ _ => beginSync_spares⟩
  obtain ⟨record, object, participant, destination, hsound, seq, hsync⟩ :=
    completeSync_refreshes hkeyed.live.objects h
  refine ⟨⟨record, object, participant, destination, hsound⟩, fun between hrun => ?_⟩
  intro t again key' hsame hagain
  have hcompleted : (s.step (.completeSync request)).Completed request.operation :=
    ⟨_, hsync, rfl⟩
  -- the plan is completed from here on
  obtain ⟨hlater, hkeyed'⟩ : t.Completed request.operation ∧ LiveKeyed t :=
    run_invariant (I := fun t => t.Completed request.operation ∧ LiveKeyed t)
      (fun _ _ hok h => ⟨h.1.step h.2 hok, h.2.step⟩) ⟨hcompleted, hkeyed.step⟩ hrun
  obtain ⟨record', hfound, hdone⟩ := hlater
  obtain ⟨record'', _, _, _, hsound', -⟩ := completeSync_refreshes hkeyed'.live.objects hagain
  have hplanned := hsound'.planned
  rw [hsame, hfound] at hplanned
  cases hplanned
  exact hsound'.unsettled.1 hdone

end Run

namespace Duo

/-- The first participant reports that its replica holds the version of the plan. -/
def completion : SyncCompleteRequest :=
  { context := context 1, operation := ⟨1⟩, destinationRegion := ⟨1⟩,
    destinationRegionGeneration := ⟨1⟩, destinationNewVersion := ⟨1⟩,
    observedContent := content }

end Duo

theorem sync_completion_sound_repeated :
    let s := Duo.start.run Duo.planned
    let t := s.step (.completeSync Duo.completion)
    s.engine.Refreshes t.engine ⟨1⟩ ∧
      ¬ t.engine.Refreshes (t.step (.completeSync Duo.completion)).engine ⟨1⟩ := by
  intro s t
  have hbefore : (s.engine.regions[(⟨1⟩ : RegionId)]?).map (·.state) ≠ some .current := by
    decide +kernel
  have hafter : (t.engine.regions[(⟨1⟩ : RegionId)]?).map (·.state) = some .current := by
    decide +kernel
  have hrefreshes := Impl.Refreshes.of_state hbefore hafter
  exact ⟨hrefreshes, ((sync_completion_sound {} (some ({} : LogStore)) Duo.planned).1
    Duo.completion ⟨1⟩ hrefreshes).2 [] trivial Duo.completion ⟨1⟩ rfl⟩

end CoherenceFabric
