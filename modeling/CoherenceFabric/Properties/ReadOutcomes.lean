import CoherenceFabric.Deployment

/-!
What a read may return. A replica that is not current serves a read all the same if the policy
tolerates its staleness and its state counts as readable. The engine asks there neither whether
the caller accepts stale contents nor whether the caller holds the modification in a dirty
replica.
-/

namespace CoherenceFabric

variable {σ : Type}

namespace Impl

def Tolerates (policy : CoherencePolicy) (authoritative version : VersionId) : Prop :=
  policy.staleReadPolicy = .always ∨
    policy.staleReadPolicy = .bounded ∧ version.defined ∧ version.value ≤ authoritative.value ∧
      authoritative.value - version.value ≤ policy.staleReadBoundVersions

/-- A read that is served from a replica which is not current. -/
structure ServesStale (e : Impl σ) (request : ReadRequest) (object : ObjectRecord)
    (policy : CoherencePolicy) (region : RegionRecord) : Prop
    extends e.Weighs request object policy region where
  unbound : policy.consistency ≠ .snapshot
  outdated : ¬(region.state = .current ∧ region.version = object.authoritativeVersion ∧
    (e.assessRegionLocked policy region).fresh)
  tolerated : Tolerates policy object.authoritativeVersion region.version
  readable : region.state.isReadable

variable {e : Impl σ} {request : ReadRequest} {object : ObjectRecord} {policy : CoherencePolicy}
  {region : RegionRecord} {createLease : Bool} {decision : ReadDecision}

lemma isCurrent_iff {state : CoherenceState} : state.isCurrent = true ↔ state = .current := by
  cases state <;> simp [CoherenceState.isCurrent]

lemma staleReadPermitted_iff {freshness} (h : decision.authoritativeVersion.defined) :
    staleReadPermitted policy (describeRegion decision region freshness) = true ↔
      Tolerates policy decision.authoritativeVersion region.version := by
  unfold staleReadPermitted describeRegion Tolerates
  dsimp only
  cases policy.staleReadPolicy <;> simp_all
  grind

lemma decideRead_current_state
    (h : (e.decideRead request object policy region createLease decision).1.outcome =
      .readCurrent) : region.state = .current ∨ region.state = .stale := by
  unfold decideRead decideSnapshotRead decideBlockedRead at h
  dsimp only at h
  repeat' split at h
  all_goals simp_all [isCurrent_iff]

lemma Weighs.stale_iff (h : e.Weighs request object policy region) :
    (e.weigh request object policy region createLease).outcome = .readStaleAllowed ↔
      e.ServesStale request object policy region := by
  have hcurrent : (region.state.isCurrent && (!object.authoritativeVersion.defined ||
      region.version == object.authoritativeVersion) &&
        (e.assessRegionLocked policy region).fresh) =
      true ↔ region.state = .current ∧ region.version = object.authoritativeVersion ∧
        (e.assessRegionLocked policy region).fresh := by
    simp [isCurrent_iff, h.published, and_assoc]
  unfold weigh decideRead
  dsimp only
  split
  · refine iff_of_false ?_ fun hs => hs.unbound ‹_›
    unfold decideSnapshotRead
    dsimp only
    repeat' split
    all_goals simp
  rename_i hunbound
  split
  · rename_i hserved
    refine iff_of_false ?_ fun hs => hs.outdated (hcurrent.mp hserved)
    split <;> simp
  rename_i houtdated
  split
  · rename_i hserved
    rw [Bool.and_eq_true, staleReadPermitted_iff h.published] at hserved
    exact iff_of_true rfl ⟨h, hunbound, hcurrent.not.mp houtdated, hserved.1, hserved.2⟩
  · rename_i hrefused
    rw [Bool.and_eq_true, staleReadPermitted_iff h.published] at hrefused
    refine iff_of_false ?_ fun hs => hrefused ⟨hs.tolerated, hs.readable⟩
    unfold decideBlockedRead
    repeat' split
    all_goals simp

end Impl

/-! ### Stale reads -/

section Reads

variable [DurableStore σ] (e : Impl σ) (request : ReadRequest)

/-- A stale read that the caller has not ruled out and whose staleness the policy accepts. -/
def Impl.StaleReadObeys (decision : ReadDecision) : Prop :=
  request.requireCurrent = false ∧ ∃ object policy region,
    e.objects[request.context.object]? = some object ∧ e.policyLocked object = some policy ∧
    e.regions[decision.region]? = some region ∧
    (policy.staleReadPolicy = .always ∨
      policy.staleReadPolicy = .bounded ∧ object.authoritativeVersion.defined ∧
        region.version.defined ∧
        0 ≤ (object.authoritativeVersion.value.toNat : Int) - region.version.value.toNat ∧
        (object.authoritativeVersion.value.toNat : Int) - region.version.value.toNat ≤
          policy.staleReadBoundVersions.toNat)

/-- **Stale reads obey the policy, but not the request**: `require_current` is not read. -/
theorem stale_reads_obey_iff :
    (∀ decision, (e.acquireRead request).1 = .ok decision ∨
        (e.explainRead request).1 = .ok decision →
      decision.outcome = .readStaleAllowed → e.StaleReadObeys request decision) ↔
      ¬(request.requireCurrent = true ∧
        ∃ object policy region, e.ServesStale request object policy region) := by
  constructor
  · rintro hobeys ⟨hdemands, object, policy, region, hs⟩
    have hobeyed := hobeys _ (.inl ((e.acquireRead_fst request).trans (hs.computed true)))
      (hs.stale_iff.mpr hs)
    cases hobeyed.1.symm.trans hdemands
  · intro hnever decision hread houtcome
    obtain ⟨createLease, hcomputed⟩ := Impl.exists_computed hread
    rcases Impl.computeReadLocked_ok hcomputed with ⟨-, hother⟩ | ⟨object, policy, region, h, rfl⟩
    · simp [houtcome] at hother
    · have hs := h.stale_iff.mp houtcome
      obtain ⟨participant, hgranted⟩ := h.granted
      refine ⟨?_, object, policy, region, (resolveLocked_found hgranted),
        h.governed, h.found, hs.tolerated.imp_right fun hbounded => ?_⟩
      · exact Bool.eq_false_of_not_eq_true fun hdemands => hnever ⟨hdemands, _, _, _, hs⟩
      · obtain ⟨hpolicy, hdefined, hbehind, hbound⟩ := hbounded
        rw [UInt64.le_iff_toNat_le] at hbehind
        rw [UInt64.le_iff_toNat_le, UInt64.toNat_sub_of_le _ _ hbehind] at hbound
        exact ⟨hpolicy, h.published, hdefined, by omega, by omega⟩

/-- **Unpublished contents are private to their writer** exactly if the read is not served
from the dirty replica of another participant. -/
theorem unpublished_private_iff :
    (∀ decision, (e.acquireRead request).1 = .ok decision ∨
        (e.explainRead request).1 = .ok decision →
      decision.outcome = .readCurrent ∨ decision.outcome = .readStaleAllowed →
      ∀ region ∈ e.regions[decision.region]?, region.state = .dirty →
        region.participant = request.context.participant) ↔
      ¬ ∃ object policy region, e.ServesStale request object policy region ∧
        region.state = .dirty ∧ region.participant ≠ request.context.participant := by
  constructor
  · rintro hprivate ⟨object, policy, region, hs, hdirty, hother⟩
    exact hother (hprivate _ (.inl ((e.acquireRead_fst request).trans (hs.computed true)))
      (.inr (hs.stale_iff.mpr hs)) region hs.found hdirty)
  · intro hnever decision hread houtcome region hregion hdirty
    obtain ⟨createLease, hcomputed⟩ := Impl.exists_computed hread
    rcases Impl.computeReadLocked_ok hcomputed with ⟨-, hother⟩ | ⟨object, policy, region', h, rfl⟩
    · rcases houtcome with houtcome | houtcome <;> simp [houtcome] at hother
    cases hregion.symm.trans h.found
    rcases houtcome with hcurrent | hstale
    · have hstate := Impl.decideRead_current_state hcurrent
      simp [hdirty] at hstate
    · by_contra hother
      exact hnever ⟨object, policy, region, h.stale_iff.mp hstale, hdirty, hother⟩

end Reads

namespace Duo

def modifiedAgain : List Action :=
  publishedOnce ++ [.setPolicy ⟨1⟩ ⟨1⟩ ⟨1⟩
      { strictPolicy [2] with consistency := .eventual, staleReadPolicy := .always },
    .markDirty
      { context := context 1, region := ⟨1⟩, ownershipGeneration := ⟨2⟩, baseVersion := ⟨1⟩ }]

def readWriters : ReadRequest := { context := context 2, region := ⟨1⟩ }

end Duo

/-- A caller that demands current contents is served from a dirty replica. -/
theorem stale_read_of_demanding :
    Duo.readWriters.requireCurrent = true ∧
      ((Duo.start.run Duo.modifiedAgain).engine.acquireRead Duo.readWriters).1.toOption.map
        (·.outcome) = some .readStaleAllowed := by
  decide +kernel

theorem unpublished_read_by_other :
    let e := (Duo.start.run Duo.modifiedAgain).engine
    (e.acquireRead Duo.readWriters).1.toOption.map (fun decision =>
      (decision.outcome, e.regions[decision.region]?.map fun region =>
        (region.state, region.participant))) = some (.readStaleAllowed, some (.dirty, ⟨1⟩)) ∧
      Duo.readWriters.context.participant = ⟨2⟩ := by
  decide +kernel

end CoherenceFabric
