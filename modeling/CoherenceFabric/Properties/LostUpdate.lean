import CoherenceFabric.Deployment
import CoherenceFabric.Invariants.Boot

/-!
The source of a publication.

A publish call trusts the dirty mark of its replica and the base version the writer gave
with the mark; the replica's own state and version are looked at only on the path without a
mark. The mark tells the truth about both in every run in which a mark is only made on a
replica that holds the base version, no step downgrades a marked replica without taking the
mark away, and no marked replica comes back from the store.
-/

namespace CoherenceFabric

open FiniteMap Relation Transition

namespace RegionRecord

/-- The dirty mark of a replica tells the truth, and a replica that may be published from is
not retired. -/
structure MarkTrue (region : RegionRecord) : Prop where
  state : region.dirty = .dirtyUnpublished → region.state = .dirty
  version : region.dirty = .dirtyUnpublished → region.dirtyBaseVersion.defined →
    region.version = region.dirtyBaseVersion
  live : region.state = .current ∨ region.state = .dirty → region.lifecycle ≠ .retired

lemma MarkTrue.of_unmarked {region : RegionRecord} (hdirty : region.dirty ≠ .dirtyUnpublished)
    (hlive : region.state = .current ∨ region.state = .dirty → region.lifecycle ≠ .retired) :
    region.MarkTrue :=
  ⟨fun h => absurd h hdirty, fun h => absurd h hdirty, hlive⟩

end RegionRecord

variable {σ : Type}

/-- No stored replica carries the mark of an unpublished modification. -/
def DurableImage.Unmarked (image : DurableImage) : Prop :=
  ∀ (id : RegionId) region, image.regions[id]? = some region → region.dirty ≠ .dirtyUnpublished

variable [ReplayStore σ]

/-- The condition on a step: marks are made on replicas that hold the base version, the
steps that downgrade a replica do not meet a marked one, a commit does not meet a retired
one, and a restart finds no mark in the store. -/
def KeepsMarks (s : Sys σ) : Action → Prop
  | .markDirty request => ∀ region, s.engine.regions[request.region]? = some region →
    request.baseVersion.defined → region.version = request.baseVersion
  | .invalidate request => request.acknowledgementRequired = false →
    ∀ region, s.engine.regions[request.targetRegion]? = some region →
      region.dirty ≠ .dirtyUnpublished
  | .acknowledgeInvalidation ack =>
    ∀ region, s.engine.acknowledgedRegion ack = some region → region.dirty ≠ .dirtyUnpublished
  | .beginSync request => ∀ region, s.engine.regions[request.destinationRegion]? = some region →
    region.dirty ≠ .dirtyUnpublished
  | .completeSync request =>
    ∀ region, s.engine.regions[request.destinationRegion]? = some region →
      region.dirty ≠ .dirtyUnpublished
  | .failSync request =>
    ∀ region, s.engine.failedRegion request = some region → region.dirty ≠ .dirtyUnpublished
  | .publishCommit index =>
    ∀ region, s.committedRegion index = some region → region.lifecycle ≠ .retired
  | .restart _ => ∀ store, s.medium = some store → (stored store).Unmarked
  | _ => True

variable {s : Sys σ} {a : Action}

lemma RegionStep.markTrue {region region' : RegionRecord} (hok : KeepsMarks s a)
    (h : region.MarkTrue) (hstep : RegionStep s a region region') : region'.MarkTrue := by
  cases hstep with
  | supersedeBoot | retireSettled =>
    exact .of_unmarked region.dirty.lost_ne (by rintro (h | h) <;> cases h)
  | retire | fence => exact .of_unmarked region.dirty.lost_ne (by rintro (h | h) <;> cases h)
  | await => exact ⟨h.state, h.version, h.live⟩
  | markDirty _ allowed =>
    obtain ⟨found, -, -, hstate, -⟩ := markDirtyRefusal_ok allowed
    exact ⟨fun _ => rfl, fun _ => hok region found, fun _ => h.live hstate⟩
  | discard => exact .of_unmarked nofun (by rintro (h | h) <;> cases h)
  | invalidate found live settled => exact .of_unmarked (hok settled region found) fun _ => live
  | acknowledge applied =>
    refine .of_unmarked (hok region applied) ?_
    simp only [RegionRecord.invalidate]
    split <;> rintro (h | h) <;> cases h
  | publish _ committed => exact .of_unmarked nofun fun _ => hok region committed
  | supersede current =>
    -- a current replica is not marked
    refine .of_unmarked (fun hdirty => ?_) (by rintro (h | h) <;> cases h)
    rw [h.state hdirty] at current
    cases current
  | requestSync found live | completeStale found live =>
    exact .of_unmarked (hok region found) fun _ => live
  | completeUnmoved found live | completeMismatch found live =>
    exact .of_unmarked (hok region found) fun _ => live
  | completeSync _ live => exact .of_unmarked nofun fun _ => live
  | failSync applied =>
    refine .of_unmarked (hok region applied) ?_
    simp only [RegionRecord.refuseSync, Impl.failedDestination]
    split
    · rintro (h | h) <;> cases h
    · split <;> rintro (h | h) <;> cases h
  | revalidate live =>
    refine .of_unmarked ?_ fun _ => by simpa using live
    rw [RegionRecord.revalidate_dirty]
    split
    · nofun
    · assumption

abbrev MarkInvariant (s : Sys σ) : Prop :=
  Invariant (.onRegions RegionRecord.MarkTrue) (.onRegions fun _ => True) s

lemma persists_markTrue : Persists (.onRegions RegionRecord.MarkTrue) (.onRegions fun _ => True) :=
  persists_onRegions fun _ _ => trivial

lemma restores_markTrue {image : DurableImage} (h : image.Unmarked) :
    Restores (.onRegions RegionRecord.MarkTrue) image := by
  refine restores_onRegions fun region evidence sequence hregion => .of_unmarked ?_ ?_
  · simpa using h _ _ hregion
  · rw [RegionRecord.restore_state]
    split
    · rintro (h | h) <;> cases h
    · split <;> rintro (h | h) <;> cases h

lemma MarkInvariant.step (hok : KeepsMarks s a) (h : MarkInvariant s) :
    MarkInvariant (s.step a) := by
  refine Invariant.next persists_markTrue h ?_
  cases a
  case restart config => exact fun store hstore => restores_markTrue (hok store hstore)
  all_goals
    refine kept_onRegions (fun _ _ hnew => ?_) fun _ _ hr hstep => hstep.markTrue hok hr
    cases hnew
    try exact .of_unmarked nofun nofun

/-! ### Publications -/

/-- The source of a publication that passes phase 1 is a live replica that holds the version
the new one follows. -/
def SourceHeld (s : Sys σ) : Action → Prop
  | .publishReserve request => ∀ frame, (s.engine.publishReserve request).1 = .reserved frame →
    ∃ object region, s.engine.objects[request.context.object]? = some object ∧
      s.engine.regions[frame.region]? = some region ∧
      (region.state = .current ∨ region.state = .dirty) ∧ region.lifecycle ≠ .retired ∧
      (object.authoritativeVersion.defined →
        region.version = object.authoritativeVersion ∧
          frame.pending.version = object.authoritativeVersion.next)
  | _ => True

lemma MarkInvariant.sourceHeld (h : MarkInvariant s) : SourceHeld s a := by
  cases a
  case publishReserve request =>
    intro frame hframe
    obtain ⟨object, participant, policy, region, receipt, hreserves, rfl, -⟩ :=
      publishReserve_reserved hframe
    have hsource := publishRefusal_ok hreserves.allowed
    have hmark := h.live.regions _ _ hsource.found
    have hheld : (region.state = .current ∨ region.state = .dirty) ∧
        (object.authoritativeVersion.defined → region.version = object.authoritativeVersion) := by
      rcases hsource.source with ⟨hdirty, hbase⟩ | hcurrent
      · exact ⟨.inr (hmark.state hdirty), hbase ▸ hmark.version hdirty⟩
      · exact hcurrent
    refine ⟨object, region, hreserves.found,
      hsource.found, hheld.1, hmark.live hheld.1, fun hdefined => ⟨hheld.2 hdefined, ?_⟩⟩
    exact if_pos hdefined
  all_goals trivial

/-- **No lost update**: in a run whose steps keep the marks true, every publication that
passes phase 1 has a live source that holds the version it follows. -/
theorem publication_follows_source (config : EngineConfig) (store : Option σ)
    (as : List Action) (hstore : ∀ st, store = some st → (stored st).Unmarked)
    (hrun : RunOk Sys.step KeepsMarks (Sys.boot config store) as) :
    RunOk Sys.step SourceHeld (Sys.boot config store) as := by
  have hboot : MarkInvariant (Sys.boot config store) :=
    Invariant.boot persists_markTrue (fun st _ => sat_onRegions fun _ _ _ => trivial)
      fun st hst => restores_markTrue (hstore st hst)
  exact runOk_of_invariant (fun _ _ hok => MarkInvariant.step hok)
    (fun _ _ _ => MarkInvariant.sourceHeld) hboot hrun

theorem publication_follows_source_marked : RunOk Sys.step SourceHeld Duo.start
      (Duo.owned ++ [Duo.markDirty, .publishReserve Duo.publishRequest]) := by
  have hempty : ∀ st : LogStore, some {} = some st → (stored st).Unmarked := by
    rintro st ⟨⟩ id region hregion
    cases hregion
  refine publication_follows_source {} (some ({} : LogStore)) _ hempty ?_
  simp [Duo.owned, Duo.enrol, Duo.join, Duo.region, Duo.observeAt, Duo.acquire, Duo.markDirty,
    KeepsMarks, StrongId.defined]

/-- A marked replica that was invalidated in between is published from though it is stale. -/
theorem publishReserve_from_stale :
    let s := Duo.start.run (Duo.owned ++ [Duo.markDirty, .invalidate
      { context := Duo.context 1, targetRegion := ⟨1⟩, targetRegionGeneration := ⟨1⟩,
        targetReplicaGeneration := ⟨1⟩, ownershipGeneration := ⟨2⟩,
        acknowledgementRequired := false }])
    (s.engine.regions[(⟨1⟩ : RegionId)]?).map (·.state) = some .stale ∧
      (s.step (.publishReserve { Duo.publishRequest with allowWithoutDirty := false })).frames.map
        (fun frame => (frame.region, frame.pending.version)) = [(⟨1⟩, ⟨1⟩)] := by
  decide +kernel

end CoherenceFabric
