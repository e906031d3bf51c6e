import CoherenceFabric.Deployment
import CoherenceFabric.Effects.Boot
import CoherenceFabric.Store.Interruption

/-!
What recovery makes of a durable image.

It never increases confidence: whatever the image says, nothing it restores can serve a read, own
an object or wait for an answer. And it can be interrupted: the entries it writes back say what
the image already said or what recovery makes of it, so that a second recovery from any prefix of
them ends where the first one would have ended.
-/

namespace CoherenceFabric

open FiniteMap DurableStore JournalPayload DurableImage

variable {σ : Type} {tag : IdTag} {α β : Type} {image : DurableImage} {e : Impl σ} {store : σ}
  {payload : JournalPayload}

/-- Every record of an image is stored under its own identity. -/
structure DurableImage.Keyed (image : DurableImage) : Prop where
  domains : All (fun id record => record.id = id) image.domains
  participants : All (fun id record => record.id = id) image.participants
  objects : All (fun id record => record.id = id) image.objects
  regions : All (fun id record => record.id = id) image.regions
  invalidations : All (fun id record => record.id = id) image.invalidations
  syncs : All (fun id record => record.id = id) image.syncs
  policies : All (fun id record => record.id = id) image.policies
  pendingPublications : All (fun id record => record.id = id) image.pendingPublications

/-! ### Reads of a replica that holds nothing readable -/

/-- A decision that lets the caller read contents now. -/
def ReadDecision.Permits (decision : ReadDecision) : Prop :=
  decision.outcome = .readCurrent ∨ decision.outcome = .readStaleAllowed

namespace Impl

variable {decision : ReadDecision} {request : ReadRequest} {region : RegionRecord} {s : Impl σ}
  {createLease : Bool}

lemma decideSnapshotRead_unreadable {object} (h : region.state.isReadable = false) :
    ¬ (decideSnapshotRead request object region decision).Permits := by
  have hstate : ¬ (region.state.isCurrent ∨ region.state = .stale) := by
    revert h
    cases region.state <;> decide
  unfold decideSnapshotRead ReadDecision.Permits
  dsimp only
  repeat' split
  all_goals simp_all

lemma decideRead_unreadable {object policy} (h : region.state.isReadable = false) :
    ¬ (s.decideRead request object policy region createLease decision).1.Permits := by
  have hcurrent : region.state.isCurrent = false := by
    revert h
    cases region.state <;> decide
  unfold decideRead
  rw [hcurrent, h]
  simp only [Bool.false_and, Bool.and_false, Bool.false_eq_true, if_false]
  split
  · exact decideSnapshotRead_unreadable h
  unfold decideBlockedRead ReadDecision.Permits
  repeat' split
  all_goals simp

lemma computeReadLocked_unreadable
    (h : All (fun _ region => region.state.isReadable = false) s.regions)
    (hread : (s.computeReadLocked request createLease).1 = .ok decision) : ¬ decision.Permits := by
  rcases computeReadLocked_ok hread with ⟨-, houtcome⟩ | ⟨object, policy, region, hweighs, rfl⟩
  · rcases houtcome with houtcome | houtcome | houtcome <;>
      simp [ReadDecision.Permits, houtcome]
  · exact decideRead_unreadable (h _ _ (resolveRegionLocked_ok hweighs.allowed).1)

end Impl

/-! ### Recovery is conservative -/

/-- What recovery leaves of a replica. -/
structure RegionRecord.Downgraded (region restored : RegionRecord) : Prop where
  cases : restored.state = .retired ∨ restored.state = .fenced ∨
    restored.state = .revalidationRequired
  retired : restored.state = .retired ↔ region.state = .retired ∨ region.lifecycle = .retired
  fenced : restored.state = .fenced ↔
    region.state = .fenced ∧ ¬ (region.state = .retired ∨ region.lifecycle = .retired)

lemma RegionRecord.restore_downgraded (region : RegionRecord) (evidence : EvidenceId)
    (sequence : OperationSequence) : region.Downgraded (region.restore evidence sequence) := by
  have hterminal :
      region.isTerminal = true ↔ region.state = .retired ∨ region.lifecycle = .retired := by
    simp [RegionRecord.isTerminal]
  constructor
  all_goals
    rw [restore_state]
    by_cases hend : region.isTerminal = true
    · simp [hend, hterminal.mp hend]
    · have hlive := mt hterminal.mpr hend
      by_cases hfenced : region.state = .fenced <;> simp_all

/-- An engine in which nothing of an image can be relied on. -/
structure Conservative [DurableStore σ] (image : DurableImage) (e : Impl σ) : Prop where
  regionsKept : ∀ id, id ∈ e.regions ↔ id ∈ image.regions
  regions : All (fun id restored => ∃ region, image.regions[id]? = some region ∧
    region.Downgraded restored) e.regions
  objectsKept : ∀ id, id ∈ e.objects ↔ id ∈ image.objects
  objects : All (fun _ object => object.authority = .revalidationRequired ∧ object.writer = .nil ∧
    object.writerBoot = .nil ∧ object.reads = [] ∧ object.outstandingInvalidations = []) e.objects
  participants : All (fun _ record => record.live = false ∧ record.lifecycle ≠ .active)
    e.participants
  invalidations : All (fun _ record => record.state ≠ .requested) e.invalidations
  syncs : All (fun _ record => record.state ≠ .planned ∧ record.state ≠ .requested ∧
    record.state ≠ .inProgress) e.syncs
  epoch : image.epoch.value < e.epoch.value
  reads : ∀ request decision, (e.acquireRead request).1 = .ok decision → ¬ decision.Permits

lemma mem_restoreMap {m idOf} {restore : α → β}
    (h : All (fun id record => idOf record = id) m) (id : StrongId tag) :
    id ∈ restoreMap m idOf restore ↔ id ∈ m := by
  rw [mem_iff_isSome_getElem?, mem_iff_isSome_getElem?,
    getElem?_restoreMap]
  cases hget : m[id]? with
  | none => rfl
  | some record => simp [Option.filter, h id record hget]

namespace Restored

variable {image : DurableImage} {epoch : CoordinatorEpoch} {sequence : OperationSequence}
  {r : Records}

lemma mem_regions (h : Restored image epoch sequence r) (hkeyed : image.Keyed) (id : RegionId) :
    id ∈ r.regions ↔ id ∈ image.regions := by
  constructor
  · intro hmem
    obtain ⟨region, -, hstored, -, -⟩ :=
      h.region_origin (Std.ExtTreeMap.getElem?_eq_some_getElem hmem)
    exact mem_iff_isSome_getElem?.mpr (by rw [hstored]; rfl)
  intro hmem
  have hget := Std.ExtTreeMap.getElem?_eq_some_getElem hmem
  generalize image.regions[id] = region at hget
  obtain rfl := hkeyed.regions id region hget
  obtain ⟨evidence, hrestored⟩ := h.region_kept hget
  exact mem_iff_isSome_getElem?.mpr (by rw [hrestored]; rfl)

end Restored

lemma Impl.lt_nextEpoch (config : EngineConfig) (h : image.epoch.value.toNat < UInt64.size - 1) :
    image.epoch.value < (Impl.nextEpoch config image).value := by
  have hnext : image.epoch.value < image.epoch.value + 1 := by
    rw [UInt64.lt_iff_toNat_lt, UInt64.toNat_add]
    have hone : (1 : UInt64).toNat = 1 := rfl
    have hsize : UInt64.size = 18446744073709551616 := rfl
    omega
  unfold Impl.nextEpoch
  generalize (if config.initialEpoch.defined then _ else _) = initial
  change _ < if image.epoch.value + 1 ≤ initial then initial else image.epoch.value + 1
  split
  · exact UInt64.lt_of_lt_of_le hnext ‹_›
  · exact hnext

section Attach

variable [DurableStore σ]

lemma attachStore_ok {report} (h : (e.attachStore store).1 = .ok report) :
    ∃ load image,
      (openStore store).1 = .ok (load, image) ∧
      e.attachStore store =
        (let recovered := (e.withPersistence { e.toPersistence with
          store := some (openStore store).2 }).recoverFrom image load
        (.ok recovered.1, recovered.2)) := by
  unfold Impl.attachStore at h ⊢
  split at h
  · cases h
  split at h
  · cases h
  rename_i hdetached hempty
  rw [if_neg hdetached, if_neg hempty]
  rcases hopen : openStore store with ⟨result, opened⟩
  rw [hopen] at h
  cases result with
  | error status => cases h
  | ok loaded => exact ⟨loaded.1, loaded.2, rfl, rfl⟩

/-- **Recovery is conservative**: whatever image a store opens with, an engine that has attached
the store holds every replica and object of it, relies on none of them, and has a greater epoch. -/
theorem recovery_conservative (e : Impl σ) (store : σ) (load : LoadReport) (image : DurableImage)
    (report : RecoveryReport) (hopen : (DurableStore.openStore store).1 = .ok (load, image))
    (hkeyed : image.Keyed) (hepoch : image.epoch.value.toNat < UInt64.size - 1)
    (hattached : (e.attachStore store).1 = .ok report) :
    Conservative image (e.attachStore store).2 := by
  obtain ⟨load', image', hopen', heq⟩ := attachStore_ok hattached
  cases hopen.symm.trans hopen'
  rw [heq]
  generalize e.withPersistence _ = attached
  have hrestored := restoreImage_restored attached image
  rw [← recoverFrom_toRecords attached image load] at hrestored
  have hregions : All (fun id restored => ∃ region, image.regions[id]? = some region ∧
      region.Downgraded restored) (attached.recoverFrom image load).2.regions := by
    intro id restored hfound
    obtain ⟨region, evidence, hstored, -, rfl⟩ := hrestored.region_origin hfound
    exact ⟨region, hstored, region.restore_downgraded evidence _⟩
  refine {
    regionsKept := hrestored.mem_regions hkeyed
    regions := hregions
    objectsKept := ?_
    objects := ?_
    participants := ?_
    invalidations := ?_
    syncs := ?_
    epoch := ?_
    reads := ?_ }
  · rw [hrestored.objects]
    exact mem_restoreMap hkeyed.objects
  · intro id object hfound
    obtain ⟨stored, -, -, rfl⟩ := restoreMap_origin (hrestored.objects ▸ hfound)
    have h := image.restoreObject_restored stored image.epoch.value
      (Impl.nextEpoch attached.config image) attached.sequence
    exact ⟨h.authority, h.writer, image.restoreObject_writerBoot .., h.reads,
      h.outstandingInvalidations⟩
  · intro id record hfound
    obtain ⟨stored, count, -, -, rfl⟩ := hrestored.participant_origin hfound
    refine ⟨rfl, ?_⟩
    change (if stored.lifecycle = .active then _ else _) ≠ _
    split <;> simp_all
  · intro id record hfound
    obtain ⟨stored, -, -, rfl⟩ := restoreMap_origin (hrestored.invalidations ▸ hfound)
    unfold InvalidationRecord.restore
    split <;> simp_all
  · intro id record hfound
    obtain ⟨stored, -, -, rfl⟩ := restoreMap_origin (hrestored.syncs ▸ hfound)
    unfold SyncRecord.restore SyncRecord.isOpen
    cases hstate : stored.state <;> simp [hstate]
  · rw [(recoverFrom_frame ..).2.2.2]
    exact Impl.lt_nextEpoch _ hepoch
  · intro request decision hread
    rw [Impl.acquireRead_fst] at hread
    refine Impl.computeReadLocked_unreadable (fun id restored hfound => ?_) hread
    obtain ⟨region, -, hdowngraded⟩ := hregions id restored hfound
    rcases hdowngraded.cases with hstate | hstate | hstate <;> rw [hstate] <;> rfl

end Attach

def Duo.disk : LogStore :=
  ((Sys.boot {} (some {})).run Duo.recorded : Sys LogStore).medium.getD {}

lemma Duo.disk_keyed : Duo.disk.image.Keyed := by
  constructor <;> decide +kernel

theorem recovery_conservative_writer :
    (∃ region ∈ Duo.disk.image.regions[(⟨1⟩ : RegionId)]?, region.state = .current) ∧
      Conservative Duo.disk.image ((coherenceEngine LogStore {}).attachStore Duo.disk).2 :=
  ⟨by decide +kernel, recovery_conservative (coherenceEngine LogStore {}) Duo.disk {}
    Duo.disk.image _ rfl Duo.disk_keyed (by decide +kernel) rfl⟩

/-! ### Recovery of a record that has been recovered -/

/-- The outcome of recovery for an object: everything but the notes and the bookkeeping of the
coordinator that recovered it. -/
structure ObjectRecord.SameOutcome (object object' : ObjectRecord) : Prop where
  authoritativeVersion : object'.authoritativeVersion = object.authoritativeVersion
  publication : object'.publication = object.publication
  publicationState : object'.publicationState = object.publicationState
  lifecycle : object'.lifecycle = object.lifecycle
  dirtyCondition : object'.dirtyCondition = object.dirtyCondition
  completedRequests : object'.completedRequests = object.completedRequests

namespace ObjectRecord

variable (object : ObjectRecord)

lemma restorePending_note (note : Text)
    (pending : Option PendingPublication) (policy : Option CoherencePolicy)
    (sequence : OperationSequence) : ∃ note',
      { object with recoveryNote := note }.restorePending pending policy sequence =
        { object.restorePending pending policy sequence with recoveryNote := note' } := by
  unfold restorePending
  cases pending with
  | some pending => dsimp only; split <;> exact ⟨_, rfl⟩
  | none => dsimp only; split <;> exact ⟨_, rfl⟩

lemma restorePending_none (policy : Option CoherencePolicy)
    (sequence : OperationSequence) (h : object.publicationState ≠ .pendingDurable) :
    object.restorePending none policy sequence = object :=
  if_neg h

lemma restorePending_refused (pending : PendingPublication) {policy} (sequence : OperationSequence)
    (h : (policy.map (·.recoveryPolicy)).getD .conservative ≠ .completeDurablePending) :
    object.restorePending (some pending) policy sequence = object.requireOperator :=
  if_neg h

lemma restoreDirty_note (note : Text) (policy : DirtyLossPolicy) :
    ∃ note', { object with recoveryNote := note }.restoreDirty policy =
      { object.restoreDirty policy with recoveryNote := note' } := by
  cases policy <;> exact ⟨_, rfl⟩

end ObjectRecord

namespace DurableImage

variable {image image' : DurableImage} {object : ObjectRecord}

lemma restoreObject_note (hpending : image'.durablePending object = image.durablePending object)
    (hpolicies : image'.policies = image.policies) (previous previous' : UInt64)
    (epoch epoch' : CoordinatorEpoch) (sequence : OperationSequence) : ∃ note,
      image'.restoreObject object previous' epoch' sequence =
        { image.restoreObject object previous epoch sequence with recoveryNote := note } := by
  have hpolicy : image'.policyOf object.policy = image.policyOf object.policy := by
    unfold policyOf
    rw [hpolicies]
  obtain ⟨note, hnote⟩ := (object.dropAuthority previous epoch sequence).restorePending_note
    (object.dropAuthority previous' epoch' sequence).recoveryNote (image.durablePending object)
    (image.policyOf object.policy) sequence
  have hdropped : object.dropAuthority previous' epoch' sequence =
      { object.dropAuthority previous epoch sequence with
        recoveryNote := (object.dropAuthority previous' epoch' sequence).recoveryNote } := rfl
  unfold restoreObject
  dsimp only
  rw [hpending, hpolicy, hdropped, hnote]
  generalize (object.dropAuthority previous epoch sequence).restorePending _ _ _ = restored
  obtain ⟨note', hdirty⟩ := restored.restoreDirty_note note
    (((image.policyOf object.policy).map (·.dirtyLossPolicy)).getD .reportUnknown)
  rw [hdirty]
  split <;> split <;> exact ⟨_, rfl⟩

/-- Recovery from the image has nothing left to decide about an object. -/
structure Settles (image : DurableImage) (object : ObjectRecord) : Prop where
  clean : object.hasUnpublishedDirty = false
  running : object.lifecycle ≠ .quiescing
  publication : (image.durablePending object = none ∧ object.publicationState ≠ .pendingDurable) ∨
    (((image.policyOf object.policy).map (·.recoveryPolicy)).getD .conservative ≠
        .completeDurablePending ∧
      object.publicationState = .recoveryRequired ∧ object.lifecycle = .recoveryRequired)

lemma Settles.sameOutcome (h : image.Settles object) (previous : UInt64)
    (epoch : CoordinatorEpoch) (sequence : OperationSequence) : object.SameOutcome
      (image.restoreObject (scrubObjectForPersistence object) previous epoch sequence) := by
  let dropped := (scrubObjectForPersistence object).dropAuthority previous epoch sequence
  let restored := dropped.restorePending (image.durablePending object)
    (image.policyOf object.policy) sequence
  have hdropped : object.SameOutcome dropped := ⟨rfl, rfl, rfl, rfl, rfl, rfl⟩
  have hrestored : object.SameOutcome restored ∧ restored.hasUnpublishedDirty = false := by
    rcases h.publication with ⟨hnone, hstate⟩ | ⟨hpolicy, hstate, hlifecycle⟩
    · have heq : restored = dropped := by
        unfold restored
        rw [hnone, dropped.restorePending_none _ _ hstate]
      rw [heq]
      exact ⟨hdropped, rfl⟩
    cases hfound : image.durablePending object with
    | none =>
      have heq : restored = dropped := by
        unfold restored
        rw [hfound, dropped.restorePending_none _ _ fun hp => nomatch hstate.symm.trans hp]
      rw [heq]
      exact ⟨hdropped, rfl⟩
    | some pending =>
      have heq : restored = dropped.requireOperator := by
        unfold restored
        rw [hfound, dropped.restorePending_refused pending _ hpolicy]
      rw [heq]
      exact ⟨⟨rfl, rfl, hstate.symm, hlifecycle.symm, rfl, rfl⟩, rfl⟩
  obtain ⟨hsame, hclean⟩ := hrestored
  have hrunning := hsame.lifecycle ▸ h.running
  have heq : image.restoreObject (scrubObjectForPersistence object) previous epoch sequence =
      restored := by
    change (let settled := if restored.hasUnpublishedDirty then _ else restored
      if settled.lifecycle = .quiescing then _ else settled) = restored
    rw [if_neg (Bool.eq_false_iff.mp hclean)]
    exact if_neg hrunning
  rw [heq]
  exact hsame

lemma restoreObject_running (previous : UInt64) (epoch : CoordinatorEpoch)
    (sequence : OperationSequence) :
    (image.restoreObject object previous epoch sequence).lifecycle ≠ .quiescing := by
  have hlast : ∀ restored : ObjectRecord, (if restored.lifecycle = .quiescing then
      { restored with lifecycle := .recoveryRequired } else restored).lifecycle ≠ .quiescing := by
    intro restored
    split
    · exact nofun
    · assumption
  exact hlast _

lemma restoreObject_recoveryRequired {previous epoch} {sequence}
    (h : ((object.dropAuthority previous epoch sequence).restorePending
      (image.durablePending object) (image.policyOf object.policy) sequence).lifecycle =
        .recoveryRequired) :
    (image.restoreObject object previous epoch sequence).lifecycle = .recoveryRequired := by
  have hdirty : ∀ (restored : ObjectRecord) policy, restored.lifecycle = .recoveryRequired →
      (restored.restoreDirty policy).lifecycle = .recoveryRequired := by
    intro restored policy hrestored
    cases policy <;> first | exact hrestored | rfl
  have hlast : ∀ restored : ObjectRecord, restored.lifecycle = .recoveryRequired →
      (if restored.lifecycle = .quiescing then { restored with lifecycle := .recoveryRequired }
        else restored).lifecycle = .recoveryRequired := by
    intro restored hrestored
    split
    · rfl
    · exact hrestored
  refine hlast _ ?_
  split
  · exact hdirty _ _ h
  · exact h

/-- What recovery makes of an object is settled for every later recovery, however many of the
pending publications are gone by then. -/
lemma restoreObject_settles (hpolicies : image'.policies = image.policies)
    (hpending : All (fun id pending => image.pendingPublications[id]? = some pending)
      image'.pendingPublications) (previous : UInt64)
    (epoch : CoordinatorEpoch) (sequence : OperationSequence) :
    image'.Settles (image.restoreObject object previous epoch sequence) := by
  refine ⟨image.restoreObject_clean .., restoreObject_running previous epoch sequence, ?_⟩
  have hrequired := @restoreObject_recoveryRequired image object previous epoch sequence
  have heq := image.restoreObject_eq object previous epoch sequence
  have hpolicy : image'.policyOf object.policy = image.policyOf object.policy := by
    unfold policyOf
    rw [hpolicies]
  generalize hrestored : image.restoreObject object previous epoch sequence = restored
    at heq hrequired ⊢
  unfold ObjectRecord.restorePending at heq hrequired
  cases hfound : image.durablePending object with
  | some pending =>
    rw [hfound] at heq hrequired
    dsimp only at heq hrequired
    by_cases hcompletes : ((image.policyOf object.policy).map (·.recoveryPolicy)).getD
        .conservative = .completeDurablePending
    · rw [if_pos hcompletes] at heq
      refine .inl ⟨?_, ?_⟩ <;> rw [heq]
      · rfl
      · exact nofun
    rw [if_neg hcompletes] at heq hrequired
    refine .inr ⟨?_, ?_, hrequired rfl⟩
    · rw [heq]
      change ((image'.policyOf object.policy).map _).getD _ ≠ _
      rwa [hpolicy]
    · rw [heq]
      rfl
  | none =>
    rw [hfound] at heq
    left
    by_cases hstate : (object.dropAuthority previous epoch sequence).publicationState =
        .pendingDurable
    · rw [if_pos hstate] at heq
      refine ⟨?_, ?_⟩ <;> rw [heq]
      · rfl
      · exact nofun
    rw [if_neg hstate] at heq
    refine ⟨?_, ?_⟩ <;> rw [heq]
    · change image'.durablePending object = none
      unfold durablePending at hfound ⊢
      split at hfound
      · rename_i hdefined
        rw [if_pos hdefined]
        cases hget : image'.pendingPublications[object.pendingPublication]? with
        | none => rfl
        | some pending => exact absurd ((hpending _ _ hget).symm.trans hfound) nofun
      · rename_i hdefined
        rw [if_neg hdefined]
    · exact hstate

end DurableImage

/-! ### Images in the middle of a write-back -/

/-- `m'` is `m` with some of its records replaced by those of `w`. -/
def Overwritten {tag : IdTag} {α : Type} (w m m' : Map (StrongId tag) α) : Prop :=
  ∀ id : StrongId tag, m'[id]? = m[id]? ∨ ∃ record, w[id]? = some record ∧ m'[id]? = some record

lemma Overwritten.refl (w m : Map (StrongId tag) α) : Overwritten w m m := fun _ => .inl rfl

lemma Overwritten.insert {w m m'} (h : Overwritten w m m')
    {id : StrongId tag} {record : α} (hw : w[id]? = some record) :
    Overwritten w m (m'.insert id record) := by
  intro key
  by_cases hkey : id = key
  · subst hkey
    exact .inr ⟨record, hw, getElem?_insert_self⟩
  · rw [getElem?_insert_ne hkey]
    exact h key

def Impl.recoveryWrites (e : Impl σ) : List JournalPayload :=
  [.setEpoch e.epoch] ++
    (e.participants.toList.map fun entry =>
      upsertParticipant (scrubParticipantForPersistence entry.2)) ++
    (e.objects.toList.map fun entry =>
      upsertObject (scrubObjectForPersistence entry.2)) ++
    (e.regions.toList.map fun entry => upsertRegion entry.2) ++
    (e.invalidations.toList.map fun entry => upsertInvalidation entry.2) ++
    (e.syncs.toList.map fun entry => upsertSync entry.2)

/-- An entry of the write-back, with the record it says something about. -/
inductive WrittenBack (e : Impl σ) : JournalPayload → Prop
  | epoch : WrittenBack e (.setEpoch e.epoch)
  | participant (record : ParticipantRecord) : WrittenBack e (.upsertParticipant record)
  | object {id : ObjectId} {object : ObjectRecord} (found : e.objects[id]? = some object) :
      WrittenBack e (.upsertObject (scrubObjectForPersistence object))
  | region {id : RegionId} {region : RegionRecord} (found : e.regions[id]? = some region) :
      WrittenBack e (.upsertRegion region)
  | invalidation {id : InvalidationId} {record : InvalidationRecord}
      (found : e.invalidations[id]? = some record) : WrittenBack e (.upsertInvalidation record)
  | sync {id : SyncOperationId} {record : SyncRecord} (found : e.syncs[id]? = some record) :
      WrittenBack e (.upsertSync record)

lemma writtenBack_of_mem (h : payload ∈ e.recoveryWrites) : WrittenBack e payload := by
  have hfound : ∀ {tag : IdTag} {α : Type} {m : Map (StrongId tag) α} {entry : StrongId tag × α},
      entry ∈ m.toList → m[entry.1]? = some entry.2 :=
    fun hentry => mem_toList_iff_getElem?_eq_some.mp hentry
  simp only [Impl.recoveryWrites, List.mem_append, List.mem_singleton, List.mem_map] at h
  rcases h with ((((rfl | ⟨entry, -, rfl⟩) | ⟨entry, hentry, rfl⟩) | ⟨entry, hentry, rfl⟩) |
    ⟨entry, hentry, rfl⟩) | ⟨entry, hentry, rfl⟩
  · exact .epoch
  · exact .participant _
  · exact .object (hfound hentry)
  · exact .region (hfound hentry)
  · exact .invalidation (hfound hentry)
  · exact .sync (hfound hentry)

structure Records.WellKeyed (r : Records) : Prop where
  objects : All (fun id record => record.id = id) r.objects
  regions : All (fun id record => record.id = id) r.regions
  invalidations : All (fun id record => record.id = id) r.invalidations
  syncs : All (fun id record => record.id = id) r.syncs

/-- The image with some of its records replaced by what recovery made of them. -/
structure Rewritten (e : Impl σ) (image image' : DurableImage) : Prop where
  objects : Overwritten (e.objects.map fun _ object => scrubObjectForPersistence object)
    image.objects image'.objects
  regions : Overwritten e.regions image.regions image'.regions
  invalidations : Overwritten e.invalidations image.invalidations image'.invalidations
  syncs : Overwritten e.syncs image.syncs image'.syncs
  policies : image'.policies = image.policies
  pendingPublications : All (fun id pending => image.pendingPublications[id]? = some pending)
    image'.pendingPublications

section WriteBack

variable {e : Impl σ} {image image' : DurableImage} {payloads : List JournalPayload} {id : ObjectId}

lemma Rewritten.refl : Rewritten e image image :=
  ⟨.refl _ _, .refl _ _, .refl _ _, .refl _ _, rfl, fun _ _ h => h⟩

lemma Rewritten.write (h : Rewritten e image image') (hkeyed : e.toRecords.WellKeyed)
    {payload : JournalPayload} (hpayload : WrittenBack e payload) :
    Rewritten e image (payload.apply image') := by
  cases hpayload with
  | epoch | participant => exact { h with }
  | @object id object found =>
    refine { h with objects := h.objects.insert ?_ }
    rw [getElem?_map]
    change (e.objects[object.id]?).map _ = _
    rw [hkeyed.objects _ _ found, found]
    rfl
  | region found =>
    exact { h with regions := h.regions.insert (hkeyed.regions _ _ found ▸ found) }
  | invalidation found =>
    exact { h with
      invalidations := h.invalidations.insert (hkeyed.invalidations _ _ found ▸ found) }
  | sync found => exact { h with syncs := h.syncs.insert (hkeyed.syncs _ _ found ▸ found) }

lemma Rewritten.clear (h : Rewritten e image image') (object : ObjectId) :
    Rewritten e image (clearPendingPublication object |>.apply image') :=
  { h with pendingPublications := h.pendingPublications.filter _ }

lemma mem_recoveryEntries (h : payload ∈ e.recoveryEntries image) :
    WrittenBack e payload ∨ ∃ object, payload = .clearPendingPublication object := by
  have hsplit : e.recoveryEntries image = e.recoveryWrites ++
      image.pendingPublications.toList.map fun entry => .clearPendingPublication entry.2.object :=
    rfl
  rw [hsplit, List.mem_append, List.mem_map] at h
  rcases h with h | ⟨entry, -, rfl⟩
  · exact .inl (writtenBack_of_mem h)
  · exact .inr ⟨_, rfl⟩

lemma rewritten_after (hkeyed : e.toRecords.WellKeyed) (h : payloads ⊆ e.recoveryEntries image) :
    Rewritten e image (image.after payloads) := by
  refine List.foldlRecOn payloads _ .refl fun image' himage' payload hmem => ?_
  rcases mem_recoveryEntries (h hmem) with hwritten | ⟨object, rfl⟩
  · exact himage'.write hkeyed hwritten
  · exact himage'.clear object

lemma after_pendingPublications (h : payloads ⊆ e.recoveryWrites) :
    (image.after payloads).pendingPublications = image.pendingPublications := by
  refine List.foldlRecOn (motive := fun image' : DurableImage =>
    image'.pendingPublications = image.pendingPublications) payloads _ rfl
    fun image' himage' payload hmem => ?_
  cases writtenBack_of_mem (h hmem) <;> exact himage'

lemma after_written (hkeyed : e.toRecords.WellKeyed) {object}
    (found : e.objects[id]? = some object) (h : payloads ⊆ e.recoveryEntries image)
    (hwritten : image'.objects[id]? = some (scrubObjectForPersistence object)) :
    (image'.after payloads).objects[id]? = some (scrubObjectForPersistence object) := by
  refine List.foldlRecOn (motive := fun image' : DurableImage =>
    image'.objects[id]? = some (scrubObjectForPersistence object)) payloads _ hwritten
    fun image' himage' payload hmem => ?_
  rcases mem_recoveryEntries (h hmem) with hpayload | ⟨cleared, rfl⟩
  · cases hpayload with
    | @object id' object' found' =>
      by_cases hid : id' = id
      · subst hid
        cases found.symm.trans found'
        have hkey := hkeyed.objects _ _ found
        subst hkey
        exact getElem?_insert_self
      · refine (getElem?_insert_ne ?_).trans himage'
        change object'.id ≠ id
        rwa [hkeyed.objects _ _ found']
    | _ => exact himage'
  · exact himage'

lemma after_writes (hkeyed : e.toRecords.WellKeyed) {object}
    (found : e.objects[id]? = some object) (h : payloads ⊆ e.recoveryEntries image) :
    (image.after (e.recoveryWrites ++ payloads)).objects[id]? =
      some (scrubObjectForPersistence object) := by
  have hmem : .upsertObject (scrubObjectForPersistence object) ∈ e.recoveryWrites := by
    simp only [Impl.recoveryWrites, List.mem_append, List.mem_map]
    exact .inl (.inl (.inl (.inr ⟨(id, object),
      mem_toList_iff_getElem?_eq_some.mpr found, rfl⟩)))
  have hwrites : e.recoveryWrites ⊆ e.recoveryEntries image :=
    fun _ hp => List.mem_append_left _ hp
  obtain ⟨before, later, hsplit⟩ := List.append_of_mem hmem
  rw [hsplit] at hwrites ⊢
  have hrest := List.append_subset.mpr
    ⟨fun p hp => hwrites (List.mem_append_right _ (List.mem_cons_of_mem _ hp)), h⟩
  rw [after, List.append_assoc, List.foldl_append, List.cons_append, List.foldl_cons]
  refine after_written hkeyed found hrest ?_
  have hkey := hkeyed.objects _ _ found
  subst hkey
  exact getElem?_insert_self

/-- What a prefix of the write-back leaves: the image rewritten in part, with all its pending
publications unless every object is rewritten. -/
lemma after_take (hkeyed : e.toRecords.WellKeyed) (k : Nat) :
    Rewritten e image (image.after ((e.recoveryEntries image).take k)) ∧
      ((image.after ((e.recoveryEntries image).take k)).pendingPublications =
          image.pendingPublications ∨
        All (fun id object => (image.after ((e.recoveryEntries image).take k)).objects[id]? =
          some (scrubObjectForPersistence object)) e.objects) := by
  refine ⟨rewritten_after hkeyed (List.take_subset k _), ?_⟩
  have hsplit : e.recoveryEntries image = e.recoveryWrites ++
      image.pendingPublications.toList.map fun entry => .clearPendingPublication entry.2.object :=
    rfl
  rcases Nat.le_total k e.recoveryWrites.length with hk | hk
  · left
    rw [hsplit, List.take_append_of_le_length hk]
    exact after_pendingPublications (List.take_subset k _)
  right
  intro id object found
  rw [hsplit, List.take_append, List.take_of_length_le hk]
  exact after_writes hkeyed found fun p hp =>
    hsplit ▸ List.mem_append_right _ (List.mem_of_mem_take hp)

lemma after_keeps_epoch (h : payloads ⊆ e.recoveryEntries image) (hepoch : image'.epoch = e.epoch) :
    (image'.after payloads).epoch = e.epoch := by
  refine List.foldlRecOn (motive := fun image' : DurableImage => image'.epoch = e.epoch) _ _ hepoch
    fun image' himage' payload hmem => ?_
  rcases mem_recoveryEntries (h hmem) with hpayload | ⟨object, rfl⟩
  · cases hpayload with
    | epoch => rfl
    | _ => exact himage'
  · exact himage'

lemma after_epoch {k} (hk : 0 < k) :
    (image.after ((e.recoveryEntries image).take k)).epoch = e.epoch := by
  obtain ⟨k, rfl⟩ := Nat.exists_eq_succ_of_ne_zero (Nat.pos_iff_ne_zero.mp hk)
  have hsplit : e.recoveryEntries image =
      .setEpoch e.epoch :: (e.recoveryEntries image).tail := rfl
  rw [hsplit, List.take_succ_cons, after, List.foldl_cons]
  exact after_keeps_epoch (fun p hp => List.mem_of_mem_tail (List.mem_of_mem_take hp)) rfl

end WriteBack

/-! ### Recovery can be restarted -/

lemma InvalidationRecord.restore_state_again (record : InvalidationRecord)
    (sequence sequence' : OperationSequence) :
    ((record.restore sequence).restore sequence').state = (record.restore sequence).state := by
  have hsettled : (record.restore sequence).state ≠ .requested := by
    unfold restore
    split
    · exact nofun
    · assumption
  rw [restore, if_neg hsettled]

lemma SyncRecord.restore_state_again (record : SyncRecord)
    (sequence sequence' : OperationSequence) :
    ((record.restore sequence).restore sequence').state = (record.restore sequence).state := by
  by_cases hopen : record.isOpen = true
  · simp only [restore, hopen, if_true]
    rfl
  · simp only [restore, hopen, if_false, Bool.false_eq_true]

lemma RegionRecord.restore_again (region : RegionRecord) (evidence evidence' : EvidenceId)
    (sequence sequence' : OperationSequence) :
    ((region.restore evidence sequence).restore evidence' sequence').state =
        (region.restore evidence sequence).state ∧
      ((region.restore evidence sequence).restore evidence' sequence').version =
        (region.restore evidence sequence).version := by
  refine ⟨?_, by simp⟩
  have hterminal : (region.restore evidence sequence).isTerminal = region.isTerminal := by
    rw [isTerminal, restore_state, restore_lifecycle]
    cases hend : region.isTerminal with
    | true => simp
    | false =>
      have hlifecycle : region.lifecycle ≠ .retired := by
        rintro hretired
        simp [isTerminal, hretired] at hend
      by_cases hfenced : region.state = .fenced <;> simp [hfenced, hlifecycle]
  rw [restore_state, hterminal, restore_state]
  by_cases hend : region.isTerminal = true
  · simp [hend]
  · by_cases hfenced : region.state = .fenced <;> simp [hend, hfenced]

/-- Two recoveries with the same outcome for every record. -/
structure Records.SameOutcome (r r' : Records) : Prop where
  objects : ∀ id : ObjectId, Option.Rel ObjectRecord.SameOutcome r.objects[id]? r'.objects[id]?
  regions : ∀ id : RegionId, Option.Rel (fun region region' =>
    region'.state = region.state ∧ region'.version = region.version) r.regions[id]? r'.regions[id]?
  invalidations : ∀ id : InvalidationId, Option.Rel (fun record record' =>
    record'.state = record.state) r.invalidations[id]? r'.invalidations[id]?
  syncs : ∀ id : SyncOperationId, Option.Rel (fun record record' =>
    record'.state = record.state) r.syncs[id]? r'.syncs[id]?

lemma rel_restoreMap {m m' w idOf} {restore restore' : α → β} {R}
    (hkeyed : All (fun id record => idOf record = id) m) (hrewritten : Overwritten w m m')
    (hstored : ∀ (id : StrongId tag) record, m[id]? = some record → m'[id]? = some record →
      R (restore record) (restore' record))
    (hwritten : ∀ (id : StrongId tag) written, w[id]? = some written → m'[id]? = some written →
      idOf written = id ∧ ∃ record, m[id]? = some record ∧ R (restore record) (restore' written))
    (id : StrongId tag) :
    Option.Rel R (restoreMap m idOf restore)[id]? (restoreMap m' idOf restore')[id]? := by
  rcases hrewritten id with hsame | ⟨written, hw, hget⟩
  · cases hrecord : m[id]? with
    | none =>
      rw [getElem?_restoreMap, getElem?_restoreMap, hsame, hrecord]
      exact .none
    | some record =>
      have hid := hkeyed id record hrecord
      rw [restoreMap_kept hrecord hid, restoreMap_kept (hsame.trans hrecord) hid]
      exact .some (hstored id record hrecord (hsame.trans hrecord))
  · obtain ⟨hid, record, hrecord, hrel⟩ := hwritten id written hw hget
    rw [restoreMap_kept hrecord (hkeyed id record hrecord), restoreMap_kept hget hid]
    exact .some hrel

section Restart

variable {e : Impl σ} {image image' : DurableImage} {epoch epoch' : CoordinatorEpoch}
  {sequence : OperationSequence} {r' : Records}

lemma Restored.wellKeyed {r} (h : Restored image epoch sequence r) : r.WellKeyed where
  objects id object hfound := by
    obtain ⟨stored, -, rfl, rfl⟩ := restoreMap_origin (h.objects ▸ hfound)
    exact (image.restoreObject_restored ..).id
  regions id region hfound := by
    obtain ⟨stored, evidence, -, rfl, rfl⟩ := h.region_origin hfound
    unfold RegionRecord.restore
    split <;> rfl
  invalidations id record hfound := by
    obtain ⟨stored, -, rfl, rfl⟩ := restoreMap_origin (h.invalidations ▸ hfound)
    unfold InvalidationRecord.restore
    split <;> rfl
  syncs id record hfound := by
    obtain ⟨stored, -, rfl, rfl⟩ := restoreMap_origin (h.syncs ▸ hfound)
    unfold SyncRecord.restore
    split <;> rfl

/-- The objects of a second recovery: those written back are settled, and the others still have
their pending publication. -/
lemma Rewritten.objects_rel (hkeyed : image.Keyed) (h : Restored image epoch sequence e.toRecords)
    (h' : Restored image' epoch' sequence r') (hrewritten : Rewritten e image image')
    (hpending : image'.pendingPublications = image.pendingPublications ∨
      All (fun id object => image'.objects[id]? = some (scrubObjectForPersistence object))
        e.objects) (id : ObjectId) :
    Option.Rel ObjectRecord.SameOutcome e.objects[id]? r'.objects[id]? := by
  let restored (object : ObjectRecord) : ObjectRecord :=
    image.restoreObject object image.epoch.value epoch sequence
  let again (object : ObjectRecord) : ObjectRecord :=
    image'.restoreObject object image'.epoch.value epoch' sequence
  have hsettled : ∀ object, (restored object).SameOutcome
      (again (scrubObjectForPersistence (restored object))) := fun object =>
    (restoreObject_settles hrewritten.policies hrewritten.pendingPublications
      _ _ _).sameOutcome _ _ _
  have hfound : ∀ (id : ObjectId) object, image.objects[id]? = some object →
      e.objects[id]? = some (restored object) := by
    intro id object hstored
    rw [h.objects]
    exact restoreMap_kept hstored (hkeyed.objects id object hstored)
  rw [h.objects, h'.objects]
  refine rel_restoreMap hkeyed.objects hrewritten.objects ?_ ?_ id
  · intro id object hstored hstored'
    rcases hpending with hpending | hwritten
    · have hlookup : image'.durablePending object = image.durablePending object := by
        unfold durablePending
        rw [hpending]
      obtain ⟨note, heq⟩ := restoreObject_note hlookup hrewritten.policies
        image.epoch.value image'.epoch.value epoch epoch' sequence
      rw [heq]
      exact ⟨rfl, rfl, rfl, rfl, rfl, rfl⟩
    · have heq : object = scrubObjectForPersistence (restored object) :=
        Option.some.inj (hstored'.symm.trans (hwritten id _ (hfound id object hstored)))
      have hsame := hsettled object
      rwa [← heq] at hsame
  intro id written hw hstored'
  rw [getElem?_map] at hw
  obtain ⟨live, hlive, rfl⟩ := Option.map_eq_some_iff.mp hw
  obtain ⟨object, hstored, rfl, rfl⟩ := restoreMap_origin (h.objects ▸ hlive)
  exact ⟨(image.restoreObject_restored ..).id, object, hstored, hsettled object⟩

lemma Rewritten.regions_rel (hkeyed : image.Keyed) (h : Restored image epoch sequence e.toRecords)
    (h' : Restored image' epoch' sequence r') (hrewritten : Rewritten e image image')
    (id : RegionId) : Option.Rel (fun region region' => region'.state = region.state ∧
      region'.version = region.version) e.regions[id]? r'.regions[id]? := by
  rcases hrewritten.regions id with hsame | ⟨live, hlive, hstored'⟩
  · cases hstored : image.regions[id]? with
    | none =>
      have hnone : ∀ {image : DurableImage} {epoch : CoordinatorEpoch} {r : Records},
          Restored image epoch sequence r → image.regions[id]? = none → r.regions[id]? = none := by
        intro image epoch r h habsent
        cases hget : r.regions[id]? with
        | none => rfl
        | some region =>
          obtain ⟨stored, -, hstored, -, -⟩ := h.region_origin hget
          exact absurd (habsent.symm.trans hstored) nofun
      rw [hnone h hstored, hnone h' (hsame.trans hstored)]
      exact .none
    | some region =>
      obtain rfl := hkeyed.regions id region hstored
      obtain ⟨evidence, hget⟩ := h.region_kept hstored
      obtain ⟨evidence', hget'⟩ := h'.region_kept (hsame.trans hstored)
      rw [hget, hget']
      exact .some (by simp)
  obtain ⟨region, evidence, -, rfl, rfl⟩ := h.region_origin hlive
  have hid := h.wellKeyed.regions _ _ hlive
  rw [← hid] at hstored'
  obtain ⟨evidence', hget'⟩ := h'.region_kept hstored'
  rw [hid] at hget'
  rw [hlive, hget']
  exact .some (region.restore_again ..)

lemma Rewritten.sameOutcome (hkeyed : image.Keyed) (h : Restored image epoch sequence e.toRecords)
    (h' : Restored image' epoch' sequence r') (hrewritten : Rewritten e image image')
    (hpending : image'.pendingPublications = image.pendingPublications ∨
      All (fun id object => image'.objects[id]? = some (scrubObjectForPersistence object))
        e.objects) : e.toRecords.SameOutcome r' where
  objects := hrewritten.objects_rel hkeyed h h' hpending
  regions := hrewritten.regions_rel hkeyed h h'
  invalidations := by
    rw [h.invalidations, h'.invalidations]
    refine rel_restoreMap hkeyed.invalidations hrewritten.invalidations (fun _ _ _ _ => rfl)
      fun id live hlive _ => ?_
    have hid := h.wellKeyed.invalidations id live hlive
    obtain ⟨record, hstored, -, rfl⟩ := restoreMap_origin (h.invalidations ▸ hlive)
    exact ⟨hid, record, hstored, record.restore_state_again ..⟩
  syncs := by
    rw [h.syncs, h'.syncs]
    refine rel_restoreMap hkeyed.syncs hrewritten.syncs (fun _ _ _ _ => rfl)
      fun id live hlive _ => ?_
    have hid := h.wellKeyed.syncs id live hlive
    obtain ⟨record, hstored, -, rfl⟩ := restoreMap_origin (h.syncs ▸ hlive)
    exact ⟨hid, record, hstored, record.restore_state_again ..⟩

end Restart

lemma attachStore_recovers [DurableStore σ] (config : EngineConfig) {load}
    (hopen : (openStore store).1 = .ok (load, image)) :
    ((coherenceEngine σ config).attachStore store).2 =
      ((Impl.attached config (openStore store).2).recoverFrom image load).2 := by
  rw [attachStore_fresh]
  rcases hopened : openStore store with ⟨result, opened⟩
  rw [hopened] at hopen
  cases hopen
  rfl

/-- **Recovery can be restarted**: an engine that attaches a store with the first `k` entries of
an interrupted write-back ends with the outcome that the interrupted recovery had. -/
theorem recovery_restarts [DurableStore σ] (config config' : EngineConfig) (store store' : σ)
    (load load' : LoadReport) (image image' : DurableImage) (k : Nat) (position : UInt64)
    (hopen : (DurableStore.openStore store).1 = .ok (load, image)) (hkeyed : image.Keyed)
    (hwritten : Persistence.applyAll image (Persistence.stamp position
      ((((Impl.attached config (DurableStore.openStore store).2).restoreImage
        image).recoveryEntries image).take k)) = (.success, image'))
    (hopen' : (DurableStore.openStore store').1 = .ok (load', image')) :
    let first := ((coherenceEngine σ config).attachStore store).2
    let second := ((coherenceEngine σ config').attachStore store').2
    first.toRecords.SameOutcome second.toRecords ∧
      (0 < k → first.epoch.value.toNat < UInt64.size - 1 →
        first.epoch.value < second.epoch.value) := by
  intro first second
  let restored := (Impl.attached config (DurableStore.openStore store).2).restoreImage image
  have hfirst : first.toRecords = restored.toRecords ∧ first.epoch = restored.epoch := by
    unfold first
    rw [attachStore_recovers config hopen, recoverFrom_toRecords,
      (recoverFrom_frame ..).2.2.2]
    exact ⟨rfl, rfl⟩
  have hrestored : Restored image restored.epoch ⟨1⟩ restored.toRecords :=
    restoreImage_restored _ image
  have hrestored' : Restored image' (Impl.nextEpoch (coherenceEngine σ config').config image') ⟨1⟩
      second.toRecords := by
    unfold second
    rw [attachStore_recovers config' hopen', recoverFrom_toRecords]
    exact restoreImage_restored _ image'
  -- the position in the log aside, the image is the first one after the prefix
  obtain ⟨last, himage'⟩ := applyAll_success hwritten
  obtain ⟨hrewritten, hpending⟩ := @after_take σ restored image hrestored.wellKeyed k
  constructor
  · rw [hfirst.1]
    subst himage'
    exact Rewritten.sameOutcome hkeyed hrestored hrestored' { hrewritten with } hpending
  intro hk hlast
  have hepoch : image'.epoch = first.epoch := by
    rw [himage', hfirst.2]
    exact after_epoch hk
  have hsecond : second.epoch = Impl.nextEpoch (coherenceEngine σ config').config image' := by
    unfold second
    rw [attachStore_recovers config' hopen', (recoverFrom_frame ..).2.2.2]
    rfl
  rw [hsecond, ← hepoch]
  exact Impl.lt_nextEpoch _ (hepoch ▸ hlast)

/-- A store on which a recovery was stopped after `k` entries of its write-back. -/
def LogStore.interrupted (disk : LogStore) (k : Nat) : Status × LogStore :=
  let entries := ((Impl.attached {} (openStore disk).2).restoreImage
    disk.image).recoveryEntries disk.image
  let applied := Persistence.applyAll disk.image (Persistence.stamp 100 (entries.take k))
  (applied.1, { image := applied.2 })

theorem recovery_restarts_third :
    Duo.disk.image.pendingPublications.isEmpty = false ∧
      ((coherenceEngine LogStore {}).attachStore Duo.disk).2.toRecords.SameOutcome
        ((coherenceEngine LogStore {}).attachStore (Duo.disk.interrupted 3).2).2.toRecords ∧
      ((coherenceEngine LogStore {}).attachStore Duo.disk).2.epoch.value <
        ((coherenceEngine LogStore {}).attachStore (Duo.disk.interrupted 3).2).2.epoch.value := by
  have hrestarts := fun (disk : LogStore) happlied hkeyed => recovery_restarts {} {} disk
    (disk.interrupted 3).2 {} {} disk.image (disk.interrupted 3).2.image 3 100 rfl hkeyed
    (Prod.ext happlied rfl) rfl
  obtain ⟨hsame, hepoch⟩ := hrestarts Duo.disk (by decide +kernel) Duo.disk_keyed
  exact ⟨by decide +kernel, hsame, hepoch (by decide) (by decide +kernel)⟩

/-- The epoch of an interrupted recovery is the last number there is: the next recovery starts
again at the first one. -/
theorem recovery_epoch_wraps :
    let disk : LogStore := { image := { epoch := ⟨18446744073709551614⟩ } }
    disk.image.Keyed ∧ (disk.interrupted 1).1 = .success ∧
      ((coherenceEngine LogStore {}).attachStore disk).2.epoch = ⟨18446744073709551615⟩ ∧
      ((coherenceEngine LogStore {}).attachStore (disk.interrupted 1).2).2.epoch = ⟨1⟩ := by
  refine ⟨?_, by decide +kernel, by decide +kernel, by decide +kernel⟩
  constructor <;> decide +kernel

end CoherenceFabric
