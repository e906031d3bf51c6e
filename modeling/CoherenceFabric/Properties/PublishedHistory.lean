import CoherenceFabric.Properties.Currentness

/-!
No replica is ahead of the published history.

The version of a replica comes from the engine when it is published from or synchronized, and
from its participant when it is registered or observed; there the engine compares it with
nothing. The versions of an object start again from one at its first publication, so before that
a participant may claim at most the first version.
-/

namespace CoherenceFabric

open FiniteMap Transition

variable {σ : Type}

/-- No replica has a version above the one its object has. -/
def NoReplicaAhead (s : Sys σ) : Prop :=
  All (fun _ region => ∀ object ∈ s.engine.objects[region.object]?, region.version.defined →
    object.authoritativeVersion.defined →
      region.version.value ≤ object.authoritativeVersion.value) s.engine.regions

instance (s : Sys σ) : Decidable (NoReplicaAhead s) := inferInstanceAs (Decidable (All _ _))

/-- The highest version a replica may have: that of the object, or the first one. -/
def ceiling (authoritative : VersionId) : UInt64 :=
  if authoritative.defined then authoritative.value else 1

/-- The version recovery gives a stored object: that of a publication it completes, or its own. -/
def DurableImage.recoveredVersion (image : DurableImage) (object : ObjectRecord) : VersionId :=
  match image.durablePending object with
  | some pending =>
    if ((image.policyOf object.policy).map (·.recoveryPolicy)).getD .conservative =
        .completeDurablePending then
      pending.version
    else object.authoritativeVersion
  | none => object.authoritativeVersion

/-- No stored replica is above the version its stored object is recovered with. -/
def DurableImage.NoneAhead (image : DurableImage) : Prop :=
  All (fun _ region => ∀ object ∈ image.objects[region.object]?,
    region.version.value ≤ ceiling (image.recoveredVersion object)) image.regions

instance (image : DurableImage) : Decidable image.NoneAhead := inferInstanceAs (Decidable (All _ _))

/-- A participant that registers or observes a replica claims no version above the published ones,
and a restart finds none in the store. -/
def ClaimsPublished [ReplayStore σ] (s : Sys σ) (a : Action) : Prop :=
  (match a with
  | .registerRegion registration =>
    decide (∀ object ∈ s.engine.objects[registration.context.object]?,
      registration.initialVersion.value ≤ ceiling object.authoritativeVersion)
  | .revalidateRegion request =>
    decide (∀ object ∈ s.engine.objects[request.context.object]?,
      request.observedVersion.value ≤ ceiling object.authoritativeVersion)
  | .restart _ => decide (∀ st ∈ s.medium, (stored st).NoneAhead)
  | _ => true) = true

instance [ReplayStore σ] (s : Sys σ) (a : Action) : Decidable (ClaimsPublished s a) :=
  inferInstanceAs (Decidable (_ = true))

/-! ### Recovery -/

lemma DurableImage.restoreObject_version (image : DurableImage) (object : ObjectRecord)
    (previous : UInt64) (epoch : CoordinatorEpoch) (sequence : OperationSequence) :
    (image.restoreObject object previous epoch sequence).authoritativeVersion =
      image.recoveredVersion object := by
  have hpending : ((object.dropAuthority previous epoch sequence).restorePending
      (image.durablePending object) (image.policyOf object.policy) sequence).authoritativeVersion =
        image.recoveredVersion object := by
    unfold ObjectRecord.restorePending recoveredVersion
    cases image.durablePending object with
    | none => dsimp only; split <;> rfl
    | some pending => dsimp only; split <;> rfl
  rw [restoreObject_eq]
  exact hpending

/-! ### Steps and runs -/

def WithinHistory (s : Sys σ) : Prop :=
  All (fun _ region => ∀ object ∈ s.engine.objects[region.object]?,
    region.version.value ≤ ceiling object.authoritativeVersion) s.engine.regions

lemma WithinHistory.noReplicaAhead {s : Sys σ} (h : WithinHistory s) : NoReplicaAhead s := by
  intro key region hregion object hobject _ hdefined
  have hle := h key region hregion object hobject
  rwa [ceiling, if_pos hdefined] at hle

lemma Follows.ceiling_le {prior version} (h : Follows prior version) :
    ceiling prior ≤ ceiling version := by
  have hversion : ceiling version = version.value := by
    refine if_pos ?_
    rw [StrongId.defined_eq_true]
    rintro rfl
    exact absurd h.lt (Nat.not_lt_zero _)
  rw [hversion, UInt64.le_iff_toNat_le]
  rcases h with ⟨rfl, rfl⟩ | ⟨hprior, hnext⟩
  · decide
  · rw [ceiling, if_pos (by simpa using hprior)]
    omega

section Run

variable [LawfulStore σ] {s : Sys σ} {a : Action} {object' : ObjectRecord} {region : RegionRecord}
  {key : RegionId}

@[mk_iff]
structure HistoryStep (s : Sys σ) (a : Action) : Prop where
  versions : VersionsLast s a
  records : FreshRecords s a
  claims : ClaimsPublished s a

instance (s : Sys σ) (a : Action) : Decidable (HistoryStep s a) :=
  decidable_of_iff' _ (historyStep_iff s a)

lemma ReplicaStep.within (h : Grounded s) (hok : HistoryStep s a) {object region'}
    (hstep : ReplicaStep s a key object region object' region')
    (hwithin : region.version.value ≤ ceiling object.authoritativeVersion) :
    region'.version.value ≤ ceiling object'.authoritativeVersion := by
  cases hstep with
  | keep same version => rwa [same.version, version]
  | lower lowered version => rwa [lowered.version, version]
  | overtaken lowered ready target version =>
    rw [lowered.version, version]
    have hfollows := h.chained.commit_follows ready target hok.versions
    exact UInt64.le_trans hwithin hfollows.ceiling_le
  | publish ready target version =>
    rw [version, ceiling, if_pos (h.chained.version_defined ready target hok.versions)]
    exact UInt64.le_refl _
  | markDirty granted allowed version => rwa [version]
  | @completeSync request record _ _ _ seq completes source content version =>
    change record.sourceVersion.value ≤ _
    rw [version, ← source, ceiling]
    split
    · exact UInt64.le_refl _
    rename_i hnil
    rw [show object.authoritativeVersion = .nil by simpa using hnil]
    decide
  | @revalidate request _ participant _ _ seq granted allowed version =>
    have hfound := resolveLocked_found granted
    have hclaimed := of_decide_eq_true hok.claims object hfound
    rw [version]
    unfold RegionRecord.revalidate
    dsimp only
    split <;> exact hclaimed

lemma NewRegion.within (h : Grounded s) (ha : a.Runs) (hok : HistoryStep s a)
    (hnew : NewRegion s a key region)
    (hobject' : (s.step a).engine.objects[region.object]? = some object') :
    region.version.value ≤ ceiling object'.authoritativeVersion := by
  cases hnew with
  | @register registration object participant allowed =>
    have hfound := (registerRegionRefusal_ok allowed).1
    have hclaimed := of_decide_eq_true hok.claims object hfound
    obtain ⟨after, hafter, hchange⟩ := (step_changes h.keyed ha).objects.forward hfound
    change (s.step _).engine.objects[object.id]? = some object' at hobject'
    rw [h.keyed.live.objects _ _ hfound] at hobject'
    cases hafter.symm.trans hobject'
    rcases hchange.effect.version with hsame | ⟨_, _, hcommit, -⟩
    · rw [hsame]
      exact hclaimed
    · cases hcommit

structure Trailing (s : Sys σ) : Prop extends Grounded s where
  within : WithinHistory s

lemma Trailing.step (h : Trailing s) (ha : a.Runs) (hok : HistoryStep s a) :
    Trailing (s.step a) where
  toGrounded := h.toGrounded.step ha hok.records
  within key region' hregion' after hafter := by
    obtain ⟨object', hobject', hnew | ⟨object, region, hobject, hregion, hstep⟩⟩ :=
      h.toGrounded.replica ha hok.records hregion'
    all_goals cases hobject'.symm.trans hafter
    · exact hnew.within h.toGrounded ha hok hobject'
    · exact hstep.within h.toGrounded hok (h.within key region hregion object hobject)

lemma Trailing.boot {config} {store : Option σ}
    (hstore : ∀ st, store = some st → (stored st).ledger.Closed ∧ (stored st).NoneAhead) :
    Trailing (Sys.boot config store) where
  toGrounded := Grounded.boot fun st hst => (hstore st hst).1
  within key region hregion object hobject := by
    obtain ⟨image, epoch, sequence, hwithin, hrestored⟩ :=
      boot_image config all_empty fun st hst => (hstore st hst).2
    obtain ⟨before, evidence, hbefore, -, rfl⟩ := hrestored.region_origin hregion
    have howner := (before.sameReplica_restore evidence sequence).object
    obtain ⟨stored, hstored, -, rfl⟩ :=
      restoreMap_origin (hrestored.objects ▸ show _ = some object from hobject)
    rw [howner] at hstored
    rw [DurableImage.restoreObject_version, RegionRecord.restore_version]
    exact hwithin key before hbefore stored hstored

lemma Trailing.next (h : Trailing s) (hok : HistoryStep s a) : Trailing (s.step a) := by
  rcases a.restart_or with ⟨config, rfl⟩ | ha
  · exact Trailing.boot (stored_remount (P := fun image => image.ledger.Closed ∧ image.NoneAhead)
      fun store hstore => ⟨h.catalogued.medium hstore, of_decide_eq_true hok.claims store hstore⟩)
  · exact h.step ha hok

/-- **No replica is ahead of the published history**: in every state of a run in which no
participant claims a version that has not been published and no restart finds one. -/
theorem no_replica_ahead (config : EngineConfig) (store : Option σ) (as : List Action)
    (hstore : ∀ st, store = some st → (stored st).ledger.Closed ∧ (stored st).NoneAhead)
    (hok : RunOk Sys.step HistoryStep (Sys.boot config store) as) :
    NoReplicaAhead ((Sys.boot config store).run as) :=
  (run_invariant (fun _ _ hok h => h.next hok) (Trailing.boot hstore) hok).within.noReplicaAhead

end Run

def Duo.publishedTwice : List Action :=
  Duo.publishedOnce ++ Duo.publishFrom (Duo.context 1) 1 1 2 ++ [Duo.observeAt 1 2]

theorem no_replica_ahead_published :
    let as := Duo.publishedTwice ++ [.restart {}, .registerParticipant [2] (Duo.bootOf 2) ⟨2⟩ [],
      .revalidateRegion
        { context := { Duo.context 2 with epoch := ⟨2⟩ }, region := ⟨2⟩, observedVersion := ⟨1⟩,
          content := Duo.content }]
    (Duo.start.run as).engine.regions.toList.map (fun entry => entry.2.version) = [⟨2⟩, ⟨1⟩] ∧
      NoReplicaAhead (Duo.start.run as) := by
  refine ⟨by decide +kernel, no_replica_ahead {} (some ({} : LogStore)) _ ?_ ?_⟩
  · rintro st ⟨⟩
    decide +kernel
  · decide +kernel

/-- A replica is observed and another one registered at versions nobody has published. And a
journal that refuses the records of a commit but takes the next record of its source leaves the
replica ahead of its object in the next life. -/
theorem replica_ahead :
    let claimed := Duo.publishedOnce ++ [Duo.observeAt 2 5]
    let declared := Duo.publishedOnce ++
      [.registerRegion
        { context := Duo.context 2, name := [3], memoryDomain := .hostPinned,
          evidenceClass := .real, length := 8, initialVersion := ⟨5⟩ }]
    let refusing : Sys LogStore :=
      Sys.boot {} (some { script := List.replicate 18 true ++ [false] })
    ¬ NoReplicaAhead (Duo.start.run claimed) ∧ ¬ NoReplicaAhead (Duo.start.run declared) ∧
      RunOk Sys.step HistoryStep refusing Duo.publishedTwice ∧
      ¬ NoReplicaAhead (refusing.run (Duo.publishedTwice ++ [.restart {}])) := by
  decide +kernel

end CoherenceFabric
