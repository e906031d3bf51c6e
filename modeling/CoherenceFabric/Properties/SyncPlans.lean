import CoherenceFabric.Properties.Observations
import CoherenceFabric.Properties.Currentness

/-!
Synchronization plans, and the replicas that wait for one.

A plan copies from a replica that is current. Which replica that is depends on what the request
nominates and on what the object lists, and neither is compared with all it should be. A replica
that waits for a synchronization can become current without it, by an observation.
-/

namespace CoherenceFabric

open FiniteMap Transition Impl

variable {σ : Type} {e : Impl σ}

/-! ### Plans -/

/-- What a plan promises: two replicas of its object, the source current at the version of the
plan, with its contents and extent. -/
structure Impl.Meaningful (e : Impl σ) (plan : SyncRecord) : Prop where
  distinct : plan.sourceRegion ≠ plan.destinationRegion
  destination : ∃ region ∈ e.regions[plan.destinationRegion]?, region.object = plan.object
  source : ∃ region ∈ e.regions[plan.sourceRegion]?, region.object = plan.object ∧
    region.state = .current ∧ region.version = plan.sourceVersion ∧
    plan.expectedContent = region.content ∧ plan.extentOffset = region.offset ∧
    plan.extentLength = region.length

/-- The source is another replica of the object: as nominated, or as the first one on the object's
list that may be copied from. -/
def Impl.DrawsOnReplica (e : Impl σ) (request : SyncRequest) : Prop :=
  if request.sourceRegion.defined then request.sourceRegion ≠ request.destinationRegion
  else ∀ object ∈ e.objects[request.context.object]?,
    ∀ id ∈ object.replicas.find? (e.isSource object request.destinationRegion),
      ∀ region ∈ e.regions[id]?, region.object = object.id

instance (e : Impl σ) (request : SyncRequest) : Decidable (e.DrawsOnReplica request) := by
  dsimp only [DrawsOnReplica]
  infer_instance

lemma beginSync_ok [DurableStore σ] {request outcome} (h : (e.beginSync request).1 = .ok outcome) :
    ∃ object participant source destination,
      e.resolveLocked request.context = .granted object participant ∧
      e.beginSyncRefusal request object = .ok (source, destination) ∧
      outcome.plan = e.takeDecisionId.tick.newSync request object source destination := by
  unfold beginSync at h
  dsimp only at h
  split at h
  · cases h
  · cases h
  rename_i object participant hgranted
  split at h
  · cases h
  rename_i source destination hallowed
  split at h
  · cases h
  cases h
  exact ⟨object, participant, source, destination, hgranted, hallowed, rfl⟩

lemma Coherent.meaningful [LawfulStore σ] {s : Sys σ} (h : Coherent s) (e : Impl σ) (request)
    {object source destination} (hobject : s.engine.objects[object.id]? = some object)
    (hdestination : s.engine.regions[destination.id]? = some destination)
    (howner : destination.object = object.id)
    (hsource : s.engine.regions[source.id]? = some source) (hcurrent : source.state = .current)
    (hown : source.object = object.id) (hdistinct : source.id ≠ destination.id) :
    s.engine.Meaningful (e.newSync request object source destination) := by
  refine ⟨hdistinct, ⟨destination, hdestination, howner⟩,
    ⟨source, hsource, hown, hcurrent, ?_, rfl, rfl, rfl⟩⟩
  change source.version = if object.authoritativeVersion.defined then object.authoritativeVersion
    else source.version
  split
  · exact (h.current _ source hsource hcurrent).2.2 object (hown ▸ hobject) ‹_›
  · rfl

/-- **Plans are meaningful** exactly when the source is another replica of the object. -/
theorem sync_plan_meaningful_iff [LawfulStore σ] (config : EngineConfig) (store : Option σ)
    (as : List Action) (hstore : ∀ st, store = some st → (stored st).WellKept)
    (hlast : RunOk Sys.step CountersLast (Sys.boot config store) as) (request : SyncRequest)
    (outcome : SyncOutcome) :
    let s := (Sys.boot config store).run as
    (s.engine.beginSync request).1 = .ok outcome →
      (s.engine.Meaningful outcome.plan ↔ s.engine.DrawsOnReplica request) := by
  intro s hok
  have hcoherent : Coherent s :=
    run_invariant (fun _ _ hlast h => h.next hlast) (Coherent.boot hstore) hlast
  obtain ⟨object, participant, source, destination, hgranted, hallowed, hplan⟩ := beginSync_ok hok
  obtain ⟨hdestination, -, howner, hsource⟩ := beginSyncRefusal_ok hallowed
  obtain ⟨key, hfound, hcurrent, hchosen⟩ := syncSource_ok hsource
  have hobject := (resolveLocked_granted hgranted).object_found
  have hkeyed := hcoherent.keyed.live
  have hid := hkeyed.regions _ _ hdestination
  obtain rfl := hkeyed.regions _ _ hfound
  have howned := hkeyed.objects _ _ hobject
  rw [← hid] at hdestination
  have hmeans := hcoherent.meaningful s.engine.takeDecisionId.tick request (howned ▸ hobject)
    hdestination howner hfound hcurrent
  rw [hplan]
  unfold DrawsOnReplica
  split at hchosen
  · rw [if_pos ‹_›, ← hchosen.1, ← hid]
    exact ⟨fun h => h.distinct, hmeans hchosen.2⟩
  · rw [if_neg ‹_›, ← hid]
    have hdistinct := ((isSource_iff hfound).mp (List.find?_some hchosen)).1
    refine ⟨fun h object' hobject' id hid region hregion => ?_,
      fun h => hmeans (h object hobject _ hchosen source hfound) hdistinct⟩
    obtain ⟨-, -, region', hregion', hown, -⟩ := h
    cases hobject.symm.trans hobject'
    cases hchosen.symm.trans hid
    cases hregion.symm.trans hregion'
    exact hown

namespace Duo

def syncFrom (source : UInt64) : SyncRequest :=
  { context := context 1, destinationRegion := ⟨1⟩, sourceRegion := ⟨source⟩ }

end Duo

theorem sync_plan_meaningful_listed :
    let s := Duo.start.run (Duo.enrol ++ [Duo.observe 2])
    (s.engine.beginSync (Duo.syncFrom 0)).1.isOk = true ∧
      ∀ outcome, (s.engine.beginSync (Duo.syncFrom 0)).1 = .ok outcome →
        s.engine.Meaningful outcome.plan := by
  refine ⟨by decide +kernel, fun outcome hok =>
    (sync_plan_meaningful_iff {} (some ({} : LogStore)) _ ?_ ?_ _ outcome hok).mpr ?_⟩
  · rintro st ⟨⟩
    decide +kernel
  · decide +kernel
  · decide +kernel

theorem synchronized_from_itself :
    ((Duo.start.run (Duo.enrol ++ [Duo.observe 1])).engine.beginSync
      (Duo.syncFrom 1)).1.toOption.map
      (fun outcome => (outcome.plan.sourceRegion, outcome.plan.destinationRegion)) =
        some (⟨1⟩, ⟨1⟩) := by
  decide +kernel

/-! ### Replicas that wait for a synchronization -/

/-- The replica waits for a synchronization under a policy that requires its completion. -/
def Impl.AwaitsSync (e : Impl σ) (key : RegionId) : Prop :=
  ∃ region ∈ e.regions[key]?, region.state = .syncRequired ∧
    ∃ object ∈ e.objects[region.object]?, ∃ policy ∈ e.policyLocked object,
      policy.requireSyncCompletionForCurrentness = true

instance (e : Impl σ) (key : RegionId) : Decidable (e.AwaitsSync key) :=
  inferInstanceAs (Decidable (∃ _ ∈ _, _))

section Awaits

variable [ReplayStore σ] {s : Sys σ} {a : Action} {key : RegionId}

def Sys.Synchronizes (s : Sys σ) (key : RegionId) : Action → Prop
  | .revalidateRegion _ => False
  | a => s.Observes key a

/-- If the replica waits for a synchronization, then the step makes it current by one or by a
publication only. -/
def Sys.WaitsForSync (s : Sys σ) (key : RegionId) (a : Action) : Prop :=
  s.engine.AwaitsSync key → (∃ region ∈ (s.step a).engine.regions[key]?, region.state = .current) →
    s.Synchronizes key a

def Sys.Revalidates (s : Sys σ) (key : RegionId) (a : Action) : Prop :=
  ∃ request object participant region, a = .revalidateRegion request ∧ request.region = key ∧
    s.engine.resolveLocked request.context = .granted object participant ∧
    s.engine.revalidateRefusal request object = .ok region ∧
    (object.authoritativeVersion.defined = true →
      request.observedVersion = object.authoritativeVersion)

lemma revalidateRegion_current {request object participant region}
    (hgranted : e.resolveLocked request.context = .granted object participant)
    (hallowed : e.revalidateRefusal request object = .ok region)
    (hversion : object.authoritativeVersion.defined = true →
      request.observedVersion = object.authoritativeVersion) :
    ∃ region ∈ (e.revalidateRegion request).2.regions[request.region]?,
      region.state = .current := by
  have hcurrent := (region.revalidate_current_iff request object.authoritativeVersion
    object.ownershipGeneration ⟨e.nextEvidenceId⟩ e.tick.sequence).mpr hversion
  unfold revalidateRegion
  simp only [hgranted, hallowed]
  split
  · exact ⟨_, getElem?_insert_self, hcurrent⟩
  · rw [recordDecision_toRecords]
    exact ⟨_, getElem?_insert_self, hcurrent⟩

/-- **A synchronization that is required is waited for** unless the replica is revalidated. -/
theorem sync_awaited_iff (config : EngineConfig) (store : Option σ) (as : List Action)
    (key : RegionId) (a : Action) :
    let s := (Sys.boot config store).run as
    s.WaitsForSync key a ↔ ¬ (s.engine.AwaitsSync key ∧ s.Revalidates key a) := by
  intro s
  have hkeyed : LiveKeyed s := foldl_invariant (fun _ _ h => h.step) LiveKeyed.boot
  constructor
  · rintro h ⟨hawaits, request, object, participant, region, rfl, rfl, hgranted, hallowed, hversion⟩
    exact h hawaits (revalidateRegion_current hgranted hallowed hversion)
  · rintro h hawaits ⟨region', hafter, hcurrent⟩
    rcases a.restart_or with ⟨config, rfl⟩ | ha
    · exact absurd hcurrent (boot_not_current key region' hafter)
    obtain ⟨region, hregion, hstate, -⟩ := id hawaits
    rcases (step_changes hkeyed ha).regions.origin hafter with
      ⟨before, hbefore, hchange⟩ | ⟨hnone, -⟩
    swap
    · cases hnone.symm.trans hregion
    cases hregion.symm.trans hbefore
    by_cases hrevalidates : ∃ request, a = .revalidateRegion request
    · obtain ⟨request, rfl⟩ := hrevalidates
      cases hchange with
      | same => simp [hstate] at hcurrent
      | @revalidate _ object participant _ _ granted allowed =>
        rw [RegionRecord.revalidate_current_iff] at hcurrent
        exact absurd ⟨hawaits, request, object, participant, region, rfl, rfl, granted, allowed,
          hcurrent⟩ h
    · have hrecords : RecordsRevalidation s a := by
        cases a <;> first | trivial | exact absurd ⟨_, rfl⟩ hrevalidates
      rcases hchange.unseen hkeyed hrecords hbefore hafter with hseen | hunseen
      · cases a <;> first | exact hseen | exact absurd ⟨_, rfl⟩ hrevalidates
      · have hwas := (hunseen.current hcurrent).1
        simp [hstate] at hwas

end Awaits

theorem revalidated_instead :
    ¬ (Duo.start.run Duo.planned).WaitsForSync ⟨1⟩ (Duo.observe 1) :=
  fun h => h (by decide +kernel) (by decide +kernel)

end CoherenceFabric
