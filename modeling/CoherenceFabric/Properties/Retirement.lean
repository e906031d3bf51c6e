import CoherenceFabric.Deployment
import CoherenceFabric.Invariants.Boot

/-!
Retirement of a replica.

A replica whose lifecycle is retired has the coherence state retired, in every state of a
run in which three late writers stay away from retired replicas: an acknowledgement that is
applied, a failure report of a synchronization, and the commit of a publication. None of
them looks at the lifecycle of the replica it writes.
-/

namespace CoherenceFabric

open FiniteMap Relation Transition

namespace RegionRecord

/-- A retired replica is in state retired, and holds no unpublished modification. -/
def RetiredSettled (region : RegionRecord) : Prop :=
  region.lifecycle = .retired → region.state = .retired ∧ region.dirty ≠ .dirtyUnpublished

/-- What the store keeps of that: recovery looks at the lifecycle only. -/
def RetiredClean (region : RegionRecord) : Prop :=
  region.lifecycle = .retired → region.dirty ≠ .dirtyUnpublished

end RegionRecord

variable {region : RegionRecord}

lemma RegionRecord.restore_retiredSettled (h : region.RetiredClean) (evidence : EvidenceId)
    (sequence : OperationSequence) : (region.restore evidence sequence).RetiredSettled := by
  intro hretired
  rw [RegionRecord.restore_lifecycle] at hretired
  have hterminal : region.isTerminal = true := by simp [RegionRecord.isTerminal, hretired]
  exact ⟨by simp [hterminal], by simpa using h hretired⟩

variable {σ : Type} {region' : RegionRecord}

lemma RegionStep.lifecycle {s : Sys σ} {a} (h : RegionStep s a region region')
    (hretired : region.lifecycle = .retired) : region'.lifecycle = .retired := by
  cases h
  case revalidate => simpa using hretired
  all_goals first | exact hretired | rfl

variable [ReplayStore σ]

/-- The condition on a step: the writers that do not look at the lifecycle of a replica do
not meet a retired one, and a restart finds every retired replica stored as retired. -/
def SparesRetired (s : Sys σ) : Action → Prop
  | .acknowledgeInvalidation ack =>
    ∀ region, s.engine.acknowledgedRegion ack = some region → region.lifecycle ≠ .retired
  | .failSync request =>
    ∀ region, s.engine.failedRegion request = some region → region.lifecycle ≠ .retired
  | .publishCommit index =>
    ∀ region, s.committedRegion index = some region → region.lifecycle ≠ .retired
  | .restart _ => ∀ id region, s.engine.regions[id]? = some region →
    region.lifecycle = .retired → ∃ store load image, ∃ kept : RegionRecord,
      s.medium.map StoreMedium.remount = some store ∧
        (DurableStore.openStore store).1 = .ok (load, image) ∧
          image.regions[id]? = some kept ∧ kept.id = id ∧ kept.lifecycle = .retired
  | _ => True

variable {s : Sys σ} {a : Action}

lemma RegionStep.retiredSettled (hok : SparesRetired s a) (h : region.RetiredSettled)
    (hstep : RegionStep s a region region') : region'.RetiredSettled := by
  -- a step either retires the replica, keeps all three fields, or met a live one
  have hlive : region'.lifecycle = region.lifecycle → region.lifecycle ≠ .retired →
      region'.RetiredSettled := fun hsame hne hretired => absurd (hsame ▸ hretired) hne
  cases hstep with
  | supersedeBoot | retireSettled | retire => exact fun _ => ⟨rfl, region.dirty.lost_ne⟩
  | fence live => exact hlive rfl fun hretired => live (h hretired).1
  | await => exact h
  | markDirty _ allowed =>
    refine hlive rfl fun hretired => ?_
    have hstate := (markDirtyRefusal_ok allowed).2.2.2.1
    rw [(h hretired).1] at hstate
    rcases hstate with hstate | hstate <;> cases hstate
  | discard dirty => exact hlive rfl fun hretired => (h hretired).2 dirty
  | publish _ committed => exact hlive rfl (hok _ committed)
  | supersede current =>
    refine hlive rfl fun hretired => ?_
    rw [(h hretired).1] at current
    cases current
  | invalidate _ live | requestSync _ live | completeStale _ live | completeUnmoved _ live =>
    exact hlive rfl live
  | completeMismatch _ live | completeSync _ live => exact hlive rfl live
  | acknowledge applied | failSync applied => exact hlive rfl (hok _ applied)
  | revalidate live => exact hlive (by simp) live

abbrev RetiredInvariant (s : Sys σ) : Prop :=
  Invariant (.onRegions RegionRecord.RetiredSettled) (.onRegions RegionRecord.RetiredClean) s

lemma persists_retired :
    Persists (.onRegions RegionRecord.RetiredSettled) (.onRegions RegionRecord.RetiredClean) :=
  persists_onRegions fun _ h hretired => (h hretired).2

lemma restores_retired {image} (h : image.Sat (.onRegions RegionRecord.RetiredClean)) :
    Restores (.onRegions RegionRecord.RetiredSettled) image :=
  restores_onRegions fun region evidence sequence hregion =>
    region.restore_retiredSettled (h.regions _ _ hregion) evidence sequence

lemma RetiredInvariant.step (hok : SparesRetired s a) (h : RetiredInvariant s) :
    RetiredInvariant (s.step a) := by
  refine Invariant.next persists_retired h ?_
  cases a
  case restart config => exact fun store hstore => restores_retired (h.medium_sat hstore)
  all_goals
    refine kept_onRegions (fun _ _ hnew => ?_) fun _ _ hr hstep => hstep.retiredSettled hok hr
    cases hnew
    try exact nofun

namespace Sys

abbrev regionRetired (s : Sys σ) (id : RegionId) : Prop :=
  (s.engine.regions[id]?).map (·.lifecycle) = some .retired

def regionStatus (s : Sys σ) (id : RegionId) : Option (RegionLifecycle × CoherenceState) :=
  (s.engine.regions[id]?).map fun region => (region.lifecycle, region.state)

end Sys

lemma regionRetired_step {id : RegionId} (hok : SparesRetired s a) (h : s.regionRetired id) :
    (s.step a).regionRetired id := by
  obtain ⟨region, hregion, hretired⟩ := Option.map_eq_some_iff.mp h
  rcases a.restart_or with ⟨config, rfl⟩ | ha
  · obtain ⟨store, load, image, kept, hstore, hopen, hkept, rfl, hlifecycle⟩ :=
      hok id region hregion hretired
    obtain ⟨epoch, sequence, hrestored⟩ := boot_restored config hopen
    obtain ⟨evidence, hget⟩ := hrestored.region_kept hkept
    refine Option.map_eq_some_iff.mpr ⟨_, ?_, (kept.restore_lifecycle evidence sequence).trans
      hlifecycle⟩
    change (Sys.boot config (s.medium.map StoreMedium.remount)).engine.regions[kept.id]? = _
    rw [hstore]
    exact hget
  obtain ⟨region', hregion', steps⟩ := (step_evolved a ha).records.regions.forward hregion
  refine Option.map_eq_some_iff.mpr ⟨region', hregion', ?_⟩
  clear hregion'
  induction steps with
  | refl => exact hretired
  | tail _ hstep ih => exact hstep.lifecycle ih

/-- **Retirement is terminal**: in a run whose steps spare retired replicas, a replica that
is retired at some point is retired, in lifecycle and in state, at every later point. -/
theorem retirement_terminal (config : EngineConfig) (store : Option σ) (as bs : List Action)
    (id : RegionId)
    (hstore : ∀ st, store = some st → ∀ (id : RegionId) region,
      (stored st).regions[id]? = some region → region.RetiredClean)
    (hrun : RunOk Sys.step SparesRetired (Sys.boot config store) (as ++ bs))
    (hretired : ((Sys.boot config store).run as).regionRetired id) :
    ((Sys.boot config store).run (as ++ bs)).regionStatus id = some (.retired, .retired) := by
  have hsat : ∀ st, store = some st →
      (stored st).Sat (.onRegions RegionRecord.RetiredClean) :=
    fun st hst => sat_onRegions (hstore st hst)
  have hinv := run_invariant (fun _ _ hok => RetiredInvariant.step hok)
      (Invariant.boot persists_retired hsat fun st hst => restores_retired (hsat st hst)) hrun
  have hlater : ((Sys.boot config store).run (as ++ bs)).regionRetired id := by
    rw [Sys.run_append]
    exact run_invariant (I := fun s => s.regionRetired id) (fun _ _ => regionRetired_step)
      hretired (runOk_append.mp hrun).2
  obtain ⟨region, hregion, hlifecycle⟩ := Option.map_eq_some_iff.mp hlater
  refine Option.map_eq_some_iff.mpr ⟨region, hregion, ?_⟩
  rw [hlifecycle, (hinv.live.regions id region hregion hlifecycle).1]

theorem retirement_terminal_second_replica :
    (Duo.start.run (Duo.owned ++ [Duo.retire 2])).regionRetired ⟨2⟩ ∧
      (Duo.start.run (Duo.owned ++ [Duo.retire 2] ++ [.flushDurable])).regionStatus ⟨2⟩ =
        some (.retired, .retired) := by
  have hretired : (Duo.start.run (Duo.owned ++ [Duo.retire 2])).regionRetired ⟨2⟩ := by
    decide +kernel
  have hempty : ∀ st : LogStore, some {} = some st → ∀ (id : RegionId) region,
      (stored st).regions[id]? = some region → region.RetiredClean := by
    rintro st ⟨⟩ id region hregion
    cases hregion
  refine ⟨hretired, retirement_terminal {} (some ({} : LogStore)) (Duo.owned ++ [Duo.retire 2])
    [.flushDurable] ⟨2⟩ hempty ?_ hretired⟩
  simp [Duo.owned, Duo.enrol, Duo.join, Duo.region, Duo.observeAt, Duo.acquire, Duo.retire,
    SparesRetired]

/-- A replica retired between the phases of a publication from it is current again, and still
retired, after the commit. -/
theorem publishCommit_revives_retired :
    let s := Duo.start.run (Duo.owned ++
      [.publishReserve Duo.publishRequest, .publishAppend 0, Duo.retire 1])
    s.regionRetired ⟨1⟩ ∧
      (s.step (.publishCommit 0)).regionStatus ⟨1⟩ = some (.retired, .current) := by
  decide +kernel

end CoherenceFabric
