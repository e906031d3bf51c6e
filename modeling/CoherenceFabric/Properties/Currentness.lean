import CoherenceFabric.Invariants.Replicas
import CoherenceFabric.Properties.VersionChain

/-!
Current means current.

A replica becomes current in three ways: it is the source of a publication, it is synchronized,
or it is observed directly. Each of them compares its version with that of the object, or sets
both. Currentness ends in the commit of the next version, because an object lists its replicas,
and in a restart.
-/

namespace CoherenceFabric

open FiniteMap Transition

variable {σ : Type} {object : ObjectRecord}

/-- Every replica in state current has evidence and a version, and it is the version of its
object once there is one. -/
def CurrentMeansCurrent (s : Sys σ) : Prop :=
  All (fun _ region => region.state = .current → region.evidence.defined ∧ region.version.defined ∧
    ∀ object ∈ s.engine.objects[region.object]?, object.authoritativeVersion.defined →
      region.version = object.authoritativeVersion) s.engine.regions

instance (s : Sys σ) : Decidable (CurrentMeansCurrent s) :=
  inferInstanceAs (Decidable (All _ _))

/-- The evidence a step takes has an identity: the counter has not come round. -/
def EvidenceLasts (s : Sys σ) (a : Action) : Prop :=
  (match a with
  | .publishCommit _ | .completeSync _ | .revalidateRegion _ => s.engine.nextEvidenceId != 0
  | _ => true) = true

instance (s : Sys σ) (a : Action) : Decidable (EvidenceLasts s a) :=
  inferInstanceAs (Decidable (_ = true))

/-- No counter that the step takes an identity from has come round. -/
@[mk_iff]
structure CountersLast (s : Sys σ) (a : Action) : Prop where
  versions : VersionsLast s a
  evidence : EvidenceLasts s a
  records : FreshRecords s a

instance (s : Sys σ) (a : Action) : Decidable (CountersLast s a) :=
  decidable_of_iff' _ (countersLast_iff s a)

/-- What an engine leaves in a store: objects that list their replicas, and plans to bring a
replica of their object to a version. -/
@[mk_iff]
structure DurableImage.WellKept (image : DurableImage) : Prop where
  closed : image.ledger.Closed
  planned : All (fun _ record => record.sourceVersion.defined) image.syncs

instance (image : DurableImage) : Decidable image.WellKept :=
  decidable_of_iff' _ image.wellKept_iff

/-! ### Plans -/

def RecordPred.planned : RecordPred where
  sync _ record := record.sourceVersion.defined

lemma persists_planned : Persists .planned .planned := by
  constructor <;> intros <;> trivial

lemma restores_planned {image}
    (h : All (fun _ record => record.sourceVersion.defined) image.syncs) :
    Restores .planned image := by
  constructor
  case sync =>
    intro record sequence hrecord
    obtain ⟨state, settled, reason, heq⟩ := record.restore_eq sequence
    rw [heq]
    exact h _ record hrecord
  all_goals intros; trivial

section Plans

variable {s : Sys σ} {a : Action}

/-- A replica that a synchronization may copy from, unless it is the destination. -/
def Impl.isSource (e : Impl σ) (object : ObjectRecord) (destination id : RegionId) : Bool :=
  id != destination && (e.regions[id]?).any fun region => region.state == .current &&
    !(object.authoritativeVersion.defined && region.version != object.authoritativeVersion)

lemma Impl.isSource_iff {e : Impl σ} {destination id region}
    (hregion : e.regions[id]? = some region) :
    e.isSource object destination id = true ↔ id ≠ destination ∧ region.state = .current ∧
      (object.authoritativeVersion.defined = true →
        region.version = object.authoritativeVersion) := by
  simp [isSource, hregion, imp_iff_not_or]

lemma syncSource_ok {e : Impl σ} {request source destination}
    (h : e.syncSource request object destination = .ok source) :
    ∃ key : RegionId, e.regions[key]? = some source ∧ source.state = .current ∧
      if request.sourceRegion.defined then key = request.sourceRegion ∧ source.object = object.id
      else object.replicas.find? (e.isSource object destination.id) = some key := by
  unfold Impl.syncSource at h
  by_cases hnominated : request.sourceRegion.defined
  · simp only [hnominated, if_true] at h ⊢
    repeat' split at h
    all_goals cases h
    exact ⟨_, ‹_›, not_not.mp ‹_›, rfl, not_not.mp ‹_›⟩
  simp only [hnominated, if_false, Bool.false_eq_true] at h ⊢
  split at h
  · cases h
  rename_i id hfind
  split at h
  · cases h
  split at h
  · cases h
  cases h
  rename_i hregion
  exact ⟨id, hregion, ((e.isSource_iff hregion).mp (List.find?_some hfind)).2.1, hfind⟩

lemma NewSync.planned (hcurrent : CurrentMeansCurrent s) {id : SyncOperationId}
    {record} (h : NewSync s a id record) : record.sourceVersion.defined := by
  cases h with
  | @begin request object participant source destination e granted allowed =>
    obtain ⟨-, -, -, hsource⟩ := beginSyncRefusal_ok allowed
    obtain ⟨key, hfound, hstate, -⟩ := syncSource_ok hsource
    change (if object.authoritativeVersion.defined then object.authoritativeVersion
      else source.version).defined = true
    split
    · assumption
    · exact (hcurrent key source hfound hstate).2.1

lemma kept_planned (hcurrent : CurrentMeansCurrent s) : Kept .planned .planned s a := by
  constructor
  case newSync => exact fun _ _ new => new.planned hcurrent
  case sync =>
    intro id record record' hrecord hstep
    cases hstep with
    | replace new => exact new.planned hcurrent
    | _ => exact hrecord
  all_goals intros; trivial

end Plans

/-! ### Steps and runs -/

section Run

variable [LawfulStore σ] {s : Sys σ} {a : Action} {config : EngineConfig} {key : RegionId}

/-- What relates the records of an object and its replicas. -/
structure Grounded (s : Sys σ) : Prop where
  keyed : LiveKeyed s
  catalogued : Catalogued s
  chained : Chained s

lemma Grounded.step (h : Grounded s) (ha : a.Runs)
    (hfresh : FreshRecords s a) : Grounded (s.step a) :=
  ⟨h.keyed.step, h.catalogued.step h.keyed ha hfresh, h.chained.step ha⟩

lemma Grounded.boot {store : Option σ}
    (hclosed : ∀ st, store = some st → (stored st).ledger.Closed) :
    Grounded (Sys.boot config store) :=
  ⟨LiveKeyed.boot, Catalogued.boot hclosed, Chained.boot⟩

lemma Grounded.replica (h : Grounded s) (ha : a.Runs) (hfresh : FreshRecords s a) {region'}
    (hregion' : (s.step a).engine.regions[key]? = some region') :
    ∃ object', (s.step a).engine.objects[region'.object]? = some object' ∧
      (NewRegion s a key region' ∨ ∃ object region,
        s.engine.objects[region.object]? = some object ∧ s.engine.regions[key]? = some region ∧
          ReplicaStep s a key object region object' region') := by
  have hcatalogued := h.catalogued.step h.keyed ha hfresh
  obtain ⟨object', hobject', -, -⟩ := hcatalogued.live.covers key region' hregion'
  exact ⟨object', hobject', step_replica h.keyed h.catalogued ha hregion' hobject'⟩

structure Coherent (s : Sys σ) : Prop extends Grounded s where
  planned : Invariant .planned .planned s
  current : CurrentMeansCurrent s

omit [LawfulStore σ] in
lemma Chained.version_defined (h : Chained s) {index frame}
    (hready : s.ready index = some frame) (htarget : s.engine.commitTarget frame = some object)
    (hlast : VersionsLast s (.publishCommit index)) : frame.pending.version.defined := by
  have hlt := (h.commit_follows hready htarget hlast).lt
  rw [StrongId.defined_eq_true]
  intro hnil
  rw [hnil] at hlt
  exact absurd hlt (Nat.not_lt_zero _)

omit [LawfulStore σ] in
lemma NewRegion.not_current {region} (h : NewRegion s a key region) : region.state ≠ .current := by
  cases h with
  | @register registration object participant allowed =>
    change (if registration.initialVersion.defined then CoherenceState.revalidationRequired
      else .unknown) ≠ .current
    split <;> nofun

lemma ReplicaStep.current (h : Coherent s) (hlast : CountersLast s a) {key}
    {object object' region region'} (hstep : ReplicaStep s a key object region object' region')
    (hregion : s.engine.regions[key]? = some region)
    (hobject : s.engine.objects[region.object]? = some object) (hstate : region'.state = .current) :
    region'.evidence.defined ∧ region'.version.defined ∧
      (object'.authoritativeVersion.defined → region'.version = object'.authoritativeVersion) := by
  have hevidence : ∀ {n : UInt64}, (n != 0) = true → (⟨n⟩ : EvidenceId).defined = true := by
    intro n hn
    simpa [StrongId.defined, StrongId.isNil] using hn
  cases hstep with
  | keep same version =>
    obtain ⟨hwitness, hdefined, hagrees⟩ := h.current key region hregion (same.state ▸ hstate)
    rw [same.evidence, same.version, version]
    exact ⟨hwitness, hdefined, hagrees object hobject⟩
  | lower lowered | overtaken lowered => exact absurd hstate lowered.state
  | publish ready target version =>
    exact ⟨hevidence hlast.evidence, h.chained.version_defined ready target hlast.versions,
      fun _ => version.symm⟩
  | markDirty => cases hstate
  | @completeSync request record _ _ _ seq completes source content version =>
    have hplanned := h.planned.live.syncs _ record completes.planned
    exact ⟨hevidence hlast.evidence, hplanned, fun _ => (version.trans source).symm⟩
  | @revalidate request _ participant _ _ seq granted allowed version =>
    obtain ⟨-, -, -, hobserved, -⟩ := revalidateRefusal_ok allowed
    rw [version]
    unfold RegionRecord.revalidate at hstate ⊢
    dsimp only at hstate ⊢
    split at hstate
    · rename_i hagrees
      rw [if_pos hagrees]
      refine ⟨hevidence hlast.evidence, by simpa using hobserved, fun hdefined => ?_⟩
      rcases hagrees with ⟨-, hsame⟩ | hnone
      · exact hsame
      · simp [hdefined] at hnone
    · cases hstate

lemma Coherent.step (h : Coherent s) (ha : a.Runs)
    (hlast : CountersLast s a) : Coherent (s.step a) where
  toGrounded := h.toGrounded.step ha hlast.records
  planned := h.planned.step ha (kept_planned h.current) persists_planned
  current key region' hregion' hstate := by
    obtain ⟨object', hobject', hnew | ⟨object, region, hobject, hregion, hstep⟩⟩ :=
      h.toGrounded.replica ha hlast.records hregion'
    · exact absurd hstate hnew.not_current
    · obtain ⟨hevidence, hversion, hagrees⟩ := hstep.current h hlast hregion hobject hstate
      refine ⟨hevidence, hversion, fun after hafter => ?_⟩
      cases hobject'.symm.trans hafter
      exact hagrees

lemma Coherent.boot {store : Option σ} (hstore : ∀ st, store = some st → (stored st).WellKept) :
    Coherent (Sys.boot config store) where
  toGrounded := Grounded.boot fun st hst => (hstore st hst).closed
  planned := by
    refine Invariant.boot persists_planned (fun st hst => ?_) fun st hst =>
      restores_planned (hstore st hst).planned
    constructor
    case syncs => exact (hstore st hst).planned
    all_goals exact fun _ _ _ => trivial
  current key region hregion hstate := absurd hstate (boot_not_current key region hregion)

lemma Coherent.medium (h : Coherent s) {store} (hmedium : s.medium = some store) :
    (stored store).WellKept :=
  ⟨h.catalogued.medium hmedium, (h.planned.medium_sat hmedium).syncs⟩

lemma Coherent.next (h : Coherent s) (hlast : CountersLast s a) : Coherent (s.step a) := by
  rcases a.restart_or with ⟨config, rfl⟩ | ha
  · exact Coherent.boot (stored_remount fun _ => h.medium)
  · exact h.step ha hlast

/-- **Current means current**: in every state of a run, restarts included, a replica in state
current has evidence and a version, and it is the version of its object. -/
theorem current_means_current (config : EngineConfig) (store : Option σ) (as : List Action)
    (hstore : ∀ st, store = some st → (stored st).WellKept)
    (hlast : RunOk Sys.step CountersLast (Sys.boot config store) as) :
    CurrentMeansCurrent ((Sys.boot config store).run as) :=
  (run_invariant (fun _ _ hok h => h.next hok) (Coherent.boot hstore) hlast).current

end Run

theorem current_means_current_again :
    let as := Duo.publishedOnce ++ [.restart {}] ++ Duo.resume 1 ++ [Duo.acquireAgain] ++
      Duo.publishFrom Duo.contextAgain 1 1 3
    (((Duo.start.run as).engine.regions[(⟨1⟩ : RegionId)]?).any fun region =>
        region.state = .current ∧ region.version = ⟨2⟩) = true ∧
      CurrentMeansCurrent (Duo.start.run as) := by
  refine ⟨by decide +kernel, current_means_current {} (some ({} : LogStore)) _ ?_ ?_⟩
  · rintro st ⟨⟩
    decide +kernel
  · decide +kernel

/-! ### Counters that come round -/

namespace Duo

def elsewhere : AuthorityContext := { context 2 with object := ⟨2⟩ }

def enrolElsewhere (name : UInt8) (requested : RegionId) : Action :=
  .registerRegion
    { context := elsewhere, requestedId := requested, name := [name], memoryDomain := .hostPinned,
      evidenceClass := .real, length := 8 }

/-- It asks for the last identity and publishes twice from that replica. Of its next two replicas
the second one gets the identity of the first participant's. -/
def comeRound : List Action :=
  [.registerObject ⟨1⟩ [2] 8 (strictPolicy [2]), enrolElsewhere 3 ⟨18446744073709551615⟩,
    .revalidateRegion
      { context := elsewhere, region := ⟨18446744073709551615⟩, observedVersion := ⟨1⟩,
        content := content },
    .acquireWrite { context := elsewhere, region := ⟨18446744073709551615⟩ }] ++
    publishFrom elsewhere 18446744073709551615 0 2 ++
    publishFrom elsewhere 18446744073709551615 1 2 ++
    [enrolElsewhere 4 .nil, enrolElsewhere 5 .nil]

end Duo

/-- After the last version of an object its next commit makes a replica current at no version.
And when the counter of replicas has come round, a plan of before a restart makes a replica of
another object current at a version that is not its own. -/
theorem currentness_limits :
    let last := Duo.left fun object =>
      { object with authoritativeVersion := ⟨18446744073709551615⟩ }
    (∀ st ∈ last, (stored st).WellKept) ∧
      ¬ CurrentMeansCurrent ((Sys.boot {} last).run (Duo.resume 18446744073709551615 ++
        [Duo.acquireAgain] ++ Duo.publishFrom Duo.contextAgain 1 18446744073709551615 2)) ∧
      ¬ CurrentMeansCurrent (Duo.start.run (Duo.planned ++ Duo.comeRound ++ [.restart {},
        .registerParticipant [1] (Duo.bootOf 1) ⟨2⟩ [],
        Duo.complete Duo.contextAgain Duo.content])) := by
  decide +kernel

end CoherenceFabric
