import CoherenceFabric.Deployment
import CoherenceFabric.Effects.Fields

/-!
An unpublished modification becomes clean or current only by its publication.

Three operations make a replica current. A commit publishes the modification of its source.
A synchronization and an observation do not look at the mark: the first overwrites the
modification and calls the replica clean, the second calls the modification published.
-/

namespace CoherenceFabric

open FiniteMap Transition

variable {σ : Type}

/-- The replica has a modification that was not published. -/
def RegionRecord.Marked (region : RegionRecord) : Prop := region.dirty = .dirtyUnpublished

instance (region : RegionRecord) : Decidable region.Marked := inferInstanceAs (Decidable (_ = _))

/-- The replica counts as unmodified, or as published. -/
def RegionRecord.Settled (region : RegionRecord) : Prop :=
  region.dirty = .dirtyPublished ∨ region.dirty = .clean

instance (region : RegionRecord) : Decidable region.Settled := inferInstanceAs (Decidable (_ ∨ _))

def CommitsFrom (s : Sys σ) (a : Action) (key : RegionId) : Prop :=
  (match a with
  | .publishCommit index => (s.ready index).any fun frame =>
      (s.engine.commitTarget frame).isSome && frame.region == key
  | _ => false) = true

instance (s : Sys σ) (a : Action) (key : RegionId) : Decidable (CommitsFrom s a key) :=
  inferInstanceAs (Decidable (_ = true))

/-- A replica that is marked after the step and current, or that was marked before it and is
current or settled afterwards, is the source of a publication that the step commits. -/
def MarksSettle [StoreMedium σ] (s : Sys σ) (a : Action) : Prop :=
  All (fun key region' =>
    (region'.Marked ∧ region'.state = .current → CommitsFrom s a key) ∧
      ∀ region ∈ s.engine.regions[key]?, region.Marked →
        region'.state = .current ∨ region'.Settled → CommitsFrom s a key)
    (s.step a).engine.regions

instance [StoreMedium σ] (s : Sys σ) (a : Action) : Decidable (MarksSettle s a) :=
  inferInstanceAs (Decidable (All _ _))

/-- The step does not observe or complete the synchronization of a replica with an unpublished
modification, and a restart does not find it settled in the store. -/
def LeavesMarks [ReplayStore σ] (s : Sys σ) (a : Action) : Prop :=
  (match a with
  | .revalidateRegion request =>
    decide (∀ region ∈ s.engine.regions[request.region]?, ¬ region.Marked)
  | .completeSync request =>
    decide (∀ record ∈ s.engine.syncs[request.operation]?,
      ∀ destination ∈ s.engine.regions[record.destinationRegion]?, ¬ destination.Marked)
  | .restart _ =>
    decide (∀ store ∈ s.medium, All (fun key region => region.Marked →
      ∀ kept ∈ (stored store).regions[key]?, ¬ kept.Settled) s.engine.regions)
  | _ => true) = true

instance [ReplayStore σ] (s : Sys σ) (a : Action) : Decidable (LeavesMarks s a) :=
  inferInstanceAs (Decidable (_ = true))

/-! ### Steps and runs -/

section Run

variable [ReplayStore σ] {s : Sys σ} {a : Action} {region : RegionRecord} {key : RegionId}

def MarkedNotCurrent (s : Sys σ) : Prop :=
  All (fun _ region => region.Marked → region.state ≠ .current) s.engine.regions

lemma RegionEffect.marks {region'} (h : RegionEffect s a key region region')
    (hleaves : LeavesMarks s a) (hregion : s.engine.regions[key]? = some region)
    (hcurrent : region.Marked → region.state ≠ .current) :
    (region'.Marked → region'.state ≠ .current) ∧
      (region.Marked → region'.state = .current ∨ region'.Settled → CommitsFrom s a key) := by
  cases h with
  | keep same =>
    unfold RegionRecord.Marked RegionRecord.Settled at *
    rw [same.dirty, same.state]
    refine ⟨hcurrent, fun hmarked hsettled => ?_⟩
    rcases hsettled with hstate | hdirty | hdirty
    · exact absurd hstate (hcurrent hmarked)
    · cases hmarked.symm.trans hdirty
    · cases hmarked.symm.trans hdirty
  | lower lowered =>
    refine ⟨fun _ => lowered.state, fun hmarked hsettled => ?_⟩
    have hdirty : region'.dirty = .dirtyUnpublished ∨ region'.dirty = .dirtyLost := by
      rcases lowered.dirty with h | h
      · exact .inl (h.trans hmarked)
      · rw [h, hmarked]
        exact .inr rfl
    rcases hsettled with hstate | hsettled | hsettled
    · exact absurd hstate lowered.state
    · rcases hdirty with h | h <;> cases h.symm.trans hsettled
    · rcases hdirty with h | h <;> cases h.symm.trans hsettled
  | markDirty =>
    refine ⟨fun _ => nofun, fun _ hsettled => ?_⟩
    rcases hsettled with hstate | hdirty | hdirty
    · cases hstate
    · cases hdirty
    · cases hdirty
  | publish ready target => exact ⟨nofun, fun _ _ => by simp [CommitsFrom, ready, target]⟩
  | completeSync completes =>
    refine ⟨nofun, fun hmarked => ?_⟩
    exact absurd hmarked (of_decide_eq_true hleaves _ completes.planned region hregion)
  | @revalidate request object participant _ seq granted allowed =>
    have hunmarked := of_decide_eq_true hleaves region hregion
    refine ⟨fun hmarked => ?_, fun hmarked => absurd hmarked hunmarked⟩
    unfold RegionRecord.Marked at hmarked
    rw [region.revalidate_dirty] at hmarked
    split at hmarked
    · cases hmarked
    · exact absurd hmarked hunmarked

omit [ReplayStore σ] in
lemma NewRegion.clean (h : NewRegion s a key region) : region.dirty = .clean := by
  cases h
  rfl

structure MarksOk (s : Sys σ) : Prop where
  keyed : LiveKeyed s
  current : MarkedNotCurrent s

lemma MarksOk.boot {config} {store : Option σ} : MarksOk (Sys.boot config store) :=
  ⟨LiveKeyed.boot, fun key region hregion _ => boot_not_current key region hregion⟩

lemma MarksOk.next (h : MarksOk s) (hleaves : LeavesMarks s a) :
    MarksOk (s.step a) ∧ MarksSettle s a := by
  rcases a.restart_or with ⟨config, rfl⟩ | ha
  · have hboot : MarksOk (s.step (.restart config)) := MarksOk.boot
    refine ⟨hboot, fun key region' hregion' => ⟨fun hcurrent => ?_, fun region hregion hmarked
      hsettled => ?_⟩⟩
    · exact absurd hcurrent.2 (hboot.current key region' hregion' hcurrent.1)
    -- the mark is read back from the store
    exfalso
    obtain ⟨image, epoch, sequence, hunsettled, hrestored⟩ :=
      restart_image config (P := fun image => ∀ kept ∈ image.regions[key]?, ¬ kept.Settled)
        (by simp) fun store hstore =>
          of_decide_eq_true hleaves store hstore key region hregion hmarked
    obtain ⟨kept, evidence, hkept, -, rfl⟩ := hrestored.region_origin hregion'
    rcases hsettled with hstate | hsettled
    · exact boot_not_current key _ hregion' hstate
    · unfold RegionRecord.Settled at hsettled
      rw [RegionRecord.restore_dirty] at hsettled
      exact hunsettled kept hkept hsettled
  have hchanges := step_changes h.keyed ha
  have hone : ∀ (key : RegionId) region', (s.step a).engine.regions[key]? = some region' →
      (region'.Marked → region'.state ≠ .current) ∧
        ∀ region ∈ s.engine.regions[key]?, region.Marked →
          region'.state = .current ∨ region'.Settled → CommitsFrom s a key := by
    intro key region' hregion'
    rcases hchanges.regions.origin hregion' with ⟨region, hregion, hchange⟩ | ⟨habsent, hnew⟩
    · have heffect := hchange.effect.marks hleaves hregion (h.current key region hregion)
      refine ⟨heffect.1, fun before hbefore => ?_⟩
      cases hregion.symm.trans hbefore
      exact heffect.2
    · refine ⟨fun hmarked => ?_, fun before hbefore => ?_⟩
      · cases hnew.clean.symm.trans hmarked
      · cases habsent.symm.trans hbefore
  refine ⟨⟨h.keyed.step, fun key region' hregion' => (hone key region' hregion').1⟩,
    fun key region' hregion' => ⟨fun hcurrent => ?_, (hone key region' hregion').2⟩⟩
  exact absurd hcurrent.2 ((hone key region' hregion').1 hcurrent.1)

/-- **An unpublished modification becomes clean or current only by its publication**, in every
step of a run, restarts included, that leaves the marks alone otherwise. -/
theorem modification_settled_by_publication (config : EngineConfig) (store : Option σ)
    (as : List Action) (hleaves : RunOk Sys.step LeavesMarks (Sys.boot config store) as) :
    RunOk Sys.step MarksSettle (Sys.boot config store) as :=
  runOk_of_invariant (fun _ _ hok h => (h.next hok).1) (fun _ _ hok h => (h.next hok).2)
    MarksOk.boot hleaves

end Run

theorem modification_settled_by_publication_published :
    let as := Duo.owned ++ [Duo.markDirty] ++ Duo.publishFrom (Duo.context 1) 1 0 2
    (Duo.start.run as).engine.regions.toList.map (fun entry => entry.2.dirty) =
        [.dirtyPublished, .clean] ∧
      RunOk Sys.step MarksSettle Duo.start as :=
  ⟨by decide +kernel,
    modification_settled_by_publication {} (some ({} : LogStore)) _ (by decide +kernel)⟩

/-- A modified replica is observed. A synchronization that was planned before the modification is
completed. And a restart finds a replica clean whose mark the journal has refused. -/
theorem modification_settled_silently :
    let observed := Duo.owned ++ [Duo.markDirty, Duo.observe 1]
    let synchronized := Duo.publishedOnce ++ [Duo.observe 2,
      .beginSync { context := Duo.context 1, destinationRegion := ⟨1⟩, sourceRegion := ⟨2⟩ },
      Duo.observe 1,
      .markDirty
        { context := Duo.context 1, region := ⟨1⟩, ownershipGeneration := ⟨2⟩, baseVersion := ⟨1⟩ },
      Duo.complete (Duo.context 1) Duo.content]
    let refusing : Sys LogStore :=
      Sys.boot {} (some { script := List.replicate 12 true ++ [false] })
    ¬ RunOk Sys.step MarksSettle Duo.start observed ∧
      ¬ RunOk Sys.step MarksSettle Duo.start synchronized ∧
      ¬ RunOk Sys.step MarksSettle refusing (Duo.owned ++ [Duo.markDirty, .restart {}]) := by
  decide +kernel

end CoherenceFabric
