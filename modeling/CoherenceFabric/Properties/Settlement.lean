import CoherenceFabric.Deployment
import CoherenceFabric.Effects.Fields

/-!
Late reports about invalidations and synchronizations that are settled.

An acknowledgement is not applied to an invalidation that was acknowledged or superseded, and a
completion report is not applied to a synchronization that was completed, failed or cancelled. Two
reports are applied all the same. An invalidation that a restart has discharged is settled as
unknown, and an acknowledgement still invalidates its target. And a failure report looks only for a
completed synchronization, so a repeated one takes down whatever the destination holds by then.
-/

namespace CoherenceFabric

open FiniteMap Transition SyncRecord

variable {σ : Type} {e : Impl σ}

/-! ### Invalidations -/

def Sys.issueBound (s : Sys σ) : Action → Nat
  | .acquireWrite request => s.engine.replicaCount request.context.object
  | .invalidate _ => 1
  | _ => 0

def Sys.MayIssue (s : Sys σ) (a : Action) (id : InvalidationId) : Prop :=
  ∃ index < s.issueBound a, id = ⟨s.engine.nextInvalidationId + UInt64.ofNat index⟩

instance (s : Sys σ) (a : Action) (id : InvalidationId) : Decidable (s.MayIssue a id) :=
  inferInstanceAs (Decidable (∃ index < _, _))

section Invalidation

variable {s : Sys σ} {a : Action} {id : InvalidationId}

lemma NewInvalidation.mayIssue {record} (h : NewInvalidation s a id record) : s.MayIssue a id := by
  have hone : ∀ {e : Impl σ}, e.nextInvalidationId = s.engine.nextInvalidationId →
      (⟨e.nextInvalidationId⟩ : InvalidationId) =
        ⟨s.engine.nextInvalidationId + UInt64.ofNat 0⟩ := by
    intro e next
    simp [next]
  cases h with
  | transfer e index bounded => exact ⟨index, bounded, rfl⟩
  | requested e next | settled e next | inert e next => exact ⟨0, Nat.one_pos, hone next⟩

/-- The identity names no invalidation that awaits an acknowledgement. -/
def Sys.Discharged (s : Sys σ) (id : InvalidationId) : Prop :=
  ∀ record, s.engine.invalidations[id]? = some record → record.state ≠ .requested

variable [ReplayStore σ]

lemma boot_discharged (config : EngineConfig) (store : Option σ) (id : InvalidationId) :
    (Sys.boot config store).Discharged id := by
  intro record hrecord
  obtain ⟨image, epoch, sequence, -, hrestored⟩ :=
    boot_image config (P := fun _ => True) trivial fun st (_ : store = some st) => trivial
  rw [hrestored.invalidations] at hrecord
  obtain ⟨kept, -, -, rfl⟩ := restoreMap_origin hrecord
  unfold InvalidationRecord.restore
  split
  · nofun
  · assumption

lemma Sys.Discharged.step (h : s.Discharged id) (hsame : ¬ s.MayIssue a id) :
    (s.step a).Discharged id := by
  rcases a.restart_or with ⟨config, rfl⟩ | ha
  · exact boot_discharged config _ id
  intro record' hrecord'
  refine ((step_evolved a ha).records.invalidations.origin id record'
    hrecord').induction (fun record found => h record found) (fun record hnew => ?_)
    fun record record' _ hstep => ?_
  · exact absurd hnew.mayIssue hsame
  · cases hstep with
    | replace new => exact absurd new.mayIssue hsame
    | _ => nofun

omit [ReplayStore σ] in
lemma acknowledgeInvalidation_settled [DurableStore σ] {ack}
    (h : ∀ record, e.invalidations[ack.invalidation]? = some record →
      record.state = .acknowledged ∨ record.state = .superseded) :
    (e.acknowledgeInvalidation ack).2.toRecords = e.toRecords := by
  unfold Impl.acknowledgeInvalidation
  dsimp only
  split
  · rfl
  rename_i record hrecord
  split
  · rfl
  split
  · rfl
  rcases h record hrecord with hstate | hstate
  · rw [if_pos hstate]
    rfl
  · rw [if_neg (by rw [hstate]; nofun), if_pos hstate]
    rfl

/-- **A settled invalidation has no further effect**: whatever happens after it left the state
requested, restarts included, an acknowledgement of it changes no record, unless a restart or a
shutdown has settled it as unknown. -/
theorem settled_invalidation_inert (config : EngineConfig) (store : Option σ) (as bs : List Action)
    (ack : InvalidationAck) (record : InvalidationRecord)
    (hrecord : ((Sys.boot config store).run as).engine.invalidations[ack.invalidation]? =
      some record) (hsettled : record.state ≠ .requested)
    (hsame : RunOk Sys.step (fun s a => ¬ s.MayIssue a ack.invalidation)
      ((Sys.boot config store).run as) bs)
    (hknown : ∀ late ∈ ((Sys.boot config store).run (as ++ bs)).engine.invalidations[
      ack.invalidation]?, late.state ≠ .unknown) :
    let s := (Sys.boot config store).run (as ++ bs)
    let s' := s.step (.acknowledgeInvalidation ack)
    s'.engine.objects = s.engine.objects ∧ s'.engine.regions = s.engine.regions ∧
      s'.engine.invalidations = s.engine.invalidations := by
  intro s s'
  have hfirst : ((Sys.boot config store).run as).Discharged ack.invalidation := by
    intro record' hrecord'
    cases hrecord.symm.trans hrecord'
    exact hsettled
  have hlast : s.Discharged ack.invalidation := by
    have hrun := run_invariant (I := fun s => s.Discharged ack.invalidation)
      (fun s a hok h => h.step hok) hfirst hsame
    rwa [← Sys.run, ← Sys.run_append] at hrun
  have hrecords : s'.engine.toRecords = s.engine.toRecords := by
    refine acknowledgeInvalidation_settled fun late hlate => ?_
    have hrequested := hlast late hlate
    have hunknown := hknown late hlate
    revert hrequested hunknown
    cases late.state <;> simp
  exact ⟨congrArg Records.objects hrecords, congrArg Records.regions hrecords,
    congrArg Records.invalidations hrecords⟩

end Invalidation

namespace Duo

def acknowledge (epoch : UInt64) : InvalidationAck :=
  { context := { context 2 with epoch := ⟨epoch⟩ }, invalidation := ⟨1⟩, regionGeneration := ⟨1⟩,
    replicaGeneration := ⟨1⟩ }

def acknowledged : List Action := contested ++ [.acknowledgeInvalidation (acknowledge 1)]

end Duo

theorem settled_invalidation_inert_acknowledged :
    let s : Sys LogStore := (Sys.boot {} (some {})).run (Duo.acknowledged ++ [Duo.observe 2])
    ((s.engine.regions[(⟨2⟩ : RegionId)]?).map (·.state)) = some .current ∧
      (s.step (.acknowledgeInvalidation (Duo.acknowledge 1))).engine.regions =
        s.engine.regions := by
  have hstate : (((Sys.boot {} (some ({} : LogStore))).run Duo.acknowledged).engine.invalidations[
      (Duo.acknowledge 1).invalidation]?).map (·.state) = some .acknowledged := by decide +kernel
  obtain ⟨record, hrecord, hacknowledged⟩ := Option.map_eq_some_iff.mp hstate
  have hinert := settled_invalidation_inert {} (some ({} : LogStore)) Duo.acknowledged
    [Duo.observe 2] (Duo.acknowledge 1) record hrecord (by rw [hacknowledged]; nofun)
    (by decide +kernel) (by decide +kernel)
  exact ⟨by decide +kernel, hinert.2.1⟩

/-- After a restart the invalidation is discharged; its acknowledgement still takes down a replica
that was observed since. -/
theorem discharged_invalidation_applied :
    let s := Duo.start.run (Duo.contested ++ [.restart {}] ++
      [.revalidateRegion
        { context := { Duo.context 2 with epoch := ⟨2⟩ }, region := ⟨2⟩, observedVersion := ⟨1⟩,
          content := Duo.content }])
    let s' := s.step (.acknowledgeInvalidation (Duo.acknowledge 2))
    ((s.engine.invalidations[(⟨1⟩ : InvalidationId)]?).map (·.state)) = some .unknown ∧
      ((s.engine.regions[(⟨2⟩ : RegionId)]?).map (·.state)) = some .current ∧
      ((s'.engine.regions[(⟨2⟩ : RegionId)]?).map (·.state)) = some .stale := by
  decide +kernel

/-! ### Synchronizations -/

def Action.reports : Action → Option SyncOperationId
  | .completeSync request => some request.operation
  | .failSync request => some request.operation
  | _ => none

def Sys.MayPlan (s : Sys σ) (a : Action) (id : SyncOperationId) : Prop :=
  (match a with
  | .beginSync _ => id == ⟨s.engine.nextSyncId⟩
  | _ => false) = true

/-- No failure report of a synchronization that failed or was cancelled comes from its destination
incarnation, and a restart finds open in the store only what is open in the engine. -/
def SettlesOnce [ReplayStore σ] (s : Sys σ) (a : Action) : Prop :=
  (match a with
  | .failSync request => decide (∀ record ∈ s.engine.syncs[request.operation]?,
      record.state = .failed ∨ record.state = .cancelled →
        ¬ (record.destinationParticipant = request.context.participant ∧
          record.destinationBoot = request.context.boot))
  | .restart _ => decide (∀ store ∈ s.medium, All (fun id kept => kept.isSettled = true ∨
      ∃ live ∈ s.engine.syncs[id]?, live.isSettled = false) (stored store).syncs)
  | _ => true) = true

instance [ReplayStore σ] (s : Sys σ) (a : Action) : Decidable (SettlesOnce s a) :=
  inferInstanceAs (Decidable (_ = true))

section Sync

variable {s : Sys σ} {a : Action} {record : SyncRecord} {id : SyncOperationId}

lemma NewSync.mayPlan (h : NewSync s a id record) : s.MayPlan a id := by
  obtain ⟨e, -, -, next⟩ := h
  simp [Sys.MayPlan, Impl.newSync, next]

lemma SyncRecord.isSettled_iff : record.isSettled = true ↔
    record.state = .completed ∨ record.state = .cancelled ∨ record.state = .failed := by
  unfold isSettled
  cases record.state <;> simp

/-- The identity names no synchronization that is still open. -/
def Sys.Closed (s : Sys σ) (id : SyncOperationId) : Prop :=
  ∀ record, s.engine.syncs[id]? = some record → record.isSettled = true

variable [ReplayStore σ]

omit [ReplayStore σ] in
lemma Fails.unsettled {request} (h : Fails s request record)
    (hok : ∀ record ∈ s.engine.syncs[request.operation]?,
      record.state = .failed ∨ record.state = .cancelled →
        ¬ (record.destinationParticipant = request.context.participant ∧
          record.destinationBoot = request.context.boot)) : record.isSettled = false := by
  by_contra hsettled
  rcases isSettled_iff.mp (Bool.eq_true_of_not_eq_false hsettled) with
    hstate | hstate | hstate
  · exact h.running hstate
  · exact hok record h.planned (.inr hstate) h.caller
  · exact hok record h.planned (.inl hstate) h.caller

lemma Sys.Closed.step (h : s.Closed id) (hkeyed : LiveKeyed s) (hsame : ¬ s.MayPlan a id)
    (hok : SettlesOnce s a) : (s.step a).Closed id := by
  rcases a.restart_or with ⟨config, rfl⟩ | ha
  · intro record hrecord
    obtain ⟨image, epoch, sequence, hknown, hrestored⟩ :=
      restart_image config (P := fun image => ∀ kept ∈ image.syncs[id]?, kept.isSettled ∨
        ∃ live ∈ s.engine.syncs[id]?, live.isSettled = false) (by simp)
        fun store hstore => of_decide_eq_true hok store hstore id
    obtain ⟨kept, hkept, -, rfl⟩ :=
      restoreMap_origin (hrestored.syncs ▸ show _ = some record from hrecord)
    rcases hknown kept hkept with hsettled | ⟨live, hlive, hopen⟩
    · have hclosed : kept.isOpen = false := by
        unfold isOpen
        rcases isSettled_iff.mp hsettled with hstate | hstate | hstate <;> rw [hstate]
      rw [restore, if_neg (by simp [hclosed])]
      exact hsettled
    · exact nomatch (h live hlive).symm.trans hopen
  intro record' hrecord'
  rcases (step_changes hkeyed ha).syncs.origin hrecord' with
    ⟨record, hrecord, hchange⟩ | ⟨-, hnew⟩
  · cases hchange with
    | same => exact h _ hrecord
    | settle unsettled =>
      have hopen : record.isSettled = false := by
        rcases unsettled with hopen | ⟨request, rfl, -, hfails⟩
        · exact hopen
        · exact hfails.unsettled (of_decide_eq_true hok)
      exact nomatch (h record hrecord).symm.trans hopen
    | replace planned => exact absurd planned.mayPlan hsame
  · exact absurd hnew.mayPlan hsame

omit [ReplayStore σ] in
lemma completeSync_settled [DurableStore σ] {request}
    (h : ∀ record, e.syncs[request.operation]? = some record → record.isSettled = true) :
    (e.completeSync request).2.toRecords = e.toRecords := by
  unfold Impl.completeSync
  dsimp only
  split
  · rfl
  rename_i record hrecord
  split
  · rfl
  split
  · rfl
  rcases isSettled_iff.mp (h record hrecord) with hstate | hstate | hstate
  · rw [if_pos hstate]
    rfl
  · have hrefused : Impl.completeSyncRefusal request record = some
        ⟨.invalidTransition, text "the synchronization is already settled",
          NameTable.toToken record.state⟩ := by
      simp [Impl.completeSyncRefusal, hstate]
    rw [if_neg (by simp [hstate]), hrefused]
    rfl
  have hrefused : Impl.completeSyncRefusal request record = some
      ⟨.invalidTransition, text "the synchronization is already settled",
        NameTable.toToken record.state⟩ := by
    simp [Impl.completeSyncRefusal, hstate]
  rw [if_neg (by simp [hstate]), hrefused]
  rfl

omit [ReplayStore σ] in
lemma failSync_settled [DurableStore σ] {request}
    (h : ∀ record, e.syncs[request.operation]? = some record → record.state = .completed ∨
      ¬ (record.destinationParticipant = request.context.participant ∧
        record.destinationBoot = request.context.boot)) :
    (e.failSync request).2.toRecords = e.toRecords := by
  unfold Impl.failSync
  split
  · rfl
  rename_i record hrecord
  split
  · rfl
  rename_i hrunning
  have hcaller := (h record hrecord).resolve_left hrunning
  rw [if_pos (not_and_or.mp hcaller)]
  rfl

/-- **Synchronization settlement is final**: whatever happens after it, restarts included, a later
report of a settled synchronization changes neither a synchronization nor a replica, as long as
failure reports of failed or cancelled ones do not come from their destination. -/
theorem settled_sync_final (config : EngineConfig) (store : Option σ) (as bs : List Action)
    (a : Action) (id : SyncOperationId) (record : SyncRecord)
    (hrecord : ((Sys.boot config store).run as).engine.syncs[id]? = some record)
    (hsettled : record.isSettled = true) (hreports : a.reports = some id)
    (hsame : RunOk Sys.step (fun s a => ¬ s.MayPlan a id) ((Sys.boot config store).run as) bs)
    (hok : RunOk Sys.step SettlesOnce ((Sys.boot config store).run as) (bs ++ [a])) :
    let s := (Sys.boot config store).run (as ++ bs)
    (s.step a).engine.syncs = s.engine.syncs ∧ (s.step a).engine.regions = s.engine.regions := by
  intro s
  have hkeyed : LiveKeyed ((Sys.boot config store).run as) :=
    foldl_invariant (fun s a h => h.step) LiveKeyed.boot
  have hfirst : ((Sys.boot config store).run as).Closed id := by
    intro record' hrecord'
    cases hrecord.symm.trans hrecord'
    exact hsettled
  obtain ⟨hbetween, hlast⟩ := runOk_append.mp hok
  rw [← Sys.run, ← Sys.run_append] at hlast
  have hclosed : s.Closed id := by
    have hrun := run_invariant (I := fun s => LiveKeyed s ∧ s.Closed id)
      (fun s a hok h => ⟨h.1.step, h.2.step h.1 hok.1 hok.2⟩) ⟨hkeyed, hfirst⟩ (hsame.and hbetween)
    rw [← Sys.run, ← Sys.run_append] at hrun
    exact hrun.2
  have hrecords : (s.step a).engine.toRecords = s.engine.toRecords := by
    cases a with
    | completeSync request =>
      cases hreports
      exact completeSync_settled hclosed
    | failSync request =>
      cases hreports
      refine failSync_settled fun late hlate => ?_
      rcases SyncRecord.isSettled_iff.mp (hclosed late hlate) with hstate | hstate | hstate
      · exact .inl hstate
      · exact .inr (of_decide_eq_true hlast.1 late hlate (.inr hstate))
      · exact .inr (of_decide_eq_true hlast.1 late hlate (.inl hstate))
    | _ => cases hreports
  exact ⟨congrArg Records.syncs hrecords, congrArg Records.regions hrecords⟩

end Sync

namespace Duo

def completed : List Action := planned ++ [complete (context 1) content]

def retried : List Action :=
  planned ++ [fail,
    .beginSync { context := context 1, destinationRegion := ⟨1⟩, sourceRegion := ⟨2⟩ },
    .completeSync
      { context := context 1, operation := ⟨2⟩, destinationRegion := ⟨1⟩,
        destinationRegionGeneration := ⟨1⟩, destinationNewVersion := ⟨1⟩,
        observedContent := content }]

end Duo

theorem settled_sync_final_completed :
    let s : Sys LogStore := (Sys.boot {} (some {})).run (Duo.completed ++ [])
    ((s.engine.regions[(⟨1⟩ : RegionId)]?).map (·.state)) = some .current ∧
      (s.step Duo.fail).engine.regions = s.engine.regions := by
  have hstate : (((Sys.boot {} (some ({} : LogStore))).run Duo.completed).engine.syncs[
      (⟨1⟩ : SyncOperationId)]?).map (·.isSettled) = some true := by decide +kernel
  obtain ⟨record, hrecord, hsettled⟩ := Option.map_eq_some_iff.mp hstate
  have hfinal := settled_sync_final {} (some ({} : LogStore)) Duo.completed [] Duo.fail ⟨1⟩ record
    hrecord hsettled rfl trivial (by decide +kernel)
  exact ⟨by decide +kernel, hfinal.2⟩

/-- A failure report is repeated after another synchronization has made the replica current. -/
theorem failed_sync_takes_down :
    let s := Duo.start.run Duo.retried
    ((s.engine.syncs[(⟨1⟩ : SyncOperationId)]?).map (·.state)) = some .failed ∧
      ((s.engine.regions[(⟨1⟩ : RegionId)]?).map (·.state)) = some .current ∧
      (((s.step Duo.fail).engine.regions[(⟨1⟩ : RegionId)]?).map (·.state)) = some .invalid := by
  decide +kernel

end CoherenceFabric
