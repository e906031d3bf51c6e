import CoherenceFabric.Deployment
import CoherenceFabric.Invariants.Boot

/-!
Unpublished modifications across a restart.

The flag of an unpublished modification is scrubbed from every object before it is written,
so recovery never sees it and its classification of such objects is not reached. What an
object says about its modification after a restart is what its stored record said.
-/

namespace CoherenceFabric

variable {σ : Type}

namespace DurableImage

/-- A durable pending publication of the object is completed by recovery. -/
def completes (image : DurableImage) (object : ObjectRecord) : Prop :=
  (image.durablePending object).isSome ∧
    ((image.policyOf object.policy).map (·.recoveryPolicy)).getD .conservative =
      .completeDurablePending

end DurableImage

/-- The modification of an object is reported as unknown or lost, and the object requires
recovery if its policy says so. -/
structure Classified (r : Records) (object : ObjectRecord) : Prop where
  condition : object.dirtyCondition = .dirtyUnknown ∨ object.dirtyCondition = .dirtyLost
  recovery : ∀ policy, r.policies[object.policy]? = some policy →
    policy.dirtyLossPolicy = .requireRecovery → object.lifecycle = .recoveryRequired

structure StoredClassified (image : DurableImage) (object : ObjectRecord) : Prop where
  condition : object.dirtyCondition = .dirtyUnknown ∨ object.dirtyCondition = .dirtyLost
  recovery : ∀ policy, image.policyOf object.policy = some policy →
    policy.dirtyLossPolicy = .requireRecovery →
      object.lifecycle = .recoveryRequired ∨ object.lifecycle = .quiescing ∨
        (image.durablePending object).isSome

section Restore

variable {image : DurableImage} {object : ObjectRecord} {previous : UInt64}
  {epoch : CoordinatorEpoch} {sequence : OperationSequence}

lemma restorePending_open {pending} {policy} (h : ¬ (pending.isSome ∧
      (policy.map (·.recoveryPolicy)).getD .conservative = .completeDurablePending)) :
    (object.restorePending pending policy sequence).dirtyCondition = object.dirtyCondition ∧
      (object.restorePending pending policy sequence).hasUnpublishedDirty =
        object.hasUnpublishedDirty ∧
      (object.restorePending pending policy sequence).policy = object.policy ∧
      (object.restorePending pending policy sequence).lifecycle =
        if pending.isSome then .recoveryRequired else object.lifecycle := by
  unfold ObjectRecord.restorePending
  cases pending with
  | some pending =>
    simp only [Option.isSome_some, true_and] at h
    simp only [h, if_false]
    exact ⟨rfl, rfl, rfl, rfl⟩
  | none =>
    dsimp only
    split <;> exact ⟨rfl, rfl, rfl, rfl⟩

lemma restoreObject_unflagged (hflag : object.hasUnpublishedDirty = false)
    (hopen : ¬ image.completes object) :
    (image.restoreObject object previous epoch sequence).dirtyCondition = object.dirtyCondition ∧
      (image.restoreObject object previous epoch sequence).policy = object.policy ∧
      ((image.restoreObject object previous epoch sequence).lifecycle = .recoveryRequired ↔
        object.lifecycle = .recoveryRequired ∨ object.lifecycle = .quiescing ∨
          (image.durablePending object).isSome) := by
  have hpending := @restorePending_open (object.dropAuthority previous epoch sequence) sequence
    _ _ hopen
  unfold DurableImage.restoreObject
  dsimp only
  generalize (object.dropAuthority previous epoch sequence).restorePending
    (image.durablePending object) (image.policyOf object.policy) sequence = restored at hpending ⊢
  obtain ⟨hcondition, hunpublished, hpolicy, hlifecycle⟩ := hpending
  have hclean := hunpublished.trans hflag
  simp only [hclean, Bool.false_eq_true, if_false]
  by_cases hsome : (image.durablePending object).isSome
  · rw [if_pos hsome] at hlifecycle
    rw [if_neg (by rw [hlifecycle]; nofun)]
    exact ⟨hcondition, hpolicy, by simp [hlifecycle, hsome]⟩
  rw [if_neg hsome] at hlifecycle
  have hsame : restored.lifecycle = object.lifecycle := hlifecycle
  by_cases hquiescing : restored.lifecycle = .quiescing
  · rw [if_pos hquiescing]
    exact ⟨hcondition, hpolicy, by simp [← hsame, hquiescing]⟩
  · rw [if_neg hquiescing]
    exact ⟨hcondition, hpolicy, by simp [← hsame, hquiescing, hsome]⟩

end Restore

lemma Restored.policy_eq {image epoch sequence r} (h : Restored image epoch sequence r)
    (id : PolicyId) : r.policies[id]? = image.policyOf id := by
  rw [h.policies, getElem?_restoreMap, Option.map_id, id_eq]
  unfold DurableImage.policyOf
  congr 1
  funext policy
  simp [eq_comm, BEq.beq]

variable [ReplayStore σ]

/-- **Unpublished modifications at a restart**: in every state a run reaches, an object none
of whose pending publications recovery completes is classified after a restart exactly if its
stored record was classified before. The live flag plays no part. -/
theorem dirty_classified_iff (config : EngineConfig) (store : Option σ) (as : List Action)
    (hstore : ∀ st, store = some st → ∀ (id : ObjectId) object,
      (stored st).objects[id]? = some object → object.hasUnpublishedDirty = false)
    (st : σ) (load : LoadReport) (image : DurableImage)
    (hmedium : ((Sys.boot config store).run as).medium = some st)
    (hopen : (DurableStore.openStore (StoreMedium.remount st)).1 = .ok (load, image))
    (id : ObjectId)
    (hpending : ∀ kept, image.objects[id]? = some kept → ¬ image.completes kept)
    (config' : EngineConfig) :
    let restarted := (((Sys.boot config store).run as).step (.restart config')).engine
    (∃ object, restarted.objects[id]? = some object ∧ Classified restarted.toRecords object) ↔
      ∃ kept, image.objects[id]? = some kept ∧ kept.id = id ∧ StoredClassified image kept := by
  intro restarted
  have himage : image = stored st := by simpa using ReplayStore.open_image hopen
  have hboot : restarted = (Sys.boot config' (some (StoreMedium.remount st))).engine := by
    change (Sys.boot config' (Option.map _ (Sys.medium _))).engine = _
    rw [hmedium]
    rfl
  obtain ⟨epoch, sequence, hrestored⟩ := boot_restored config' hopen
  rw [← hboot] at hrestored
  -- a stored object and the object recovery makes of it
  have hkept : ∀ kept, image.objects[kept.id]? = some kept → kept.id = id →
      (Classified restarted.toRecords
        (image.restoreObject kept image.epoch.value epoch sequence) ↔
          StoredClassified image kept) := by
    rintro kept hfound rfl
    have hflag := stored_scrubbed (fun _ => rfl) hstore hmedium (himage ▸ hfound)
    obtain ⟨hcondition, hpolicy, hlifecycle⟩ := @restoreObject_unflagged image kept
      image.epoch.value epoch sequence hflag (hpending kept hfound)
    have hpolicies : restarted.policies[(image.restoreObject kept image.epoch.value epoch
        sequence).policy]? = image.policyOf kept.policy := by
      rw [hpolicy, ← hrestored.policy_eq]
    constructor
    · intro h
      exact ⟨hcondition ▸ h.condition, fun policy hfound hrequire =>
        hlifecycle.mp (h.recovery policy (hpolicies.trans hfound) hrequire)⟩
    · intro h
      exact ⟨hcondition.symm ▸ h.condition, fun policy hfound hrequire =>
        hlifecycle.mpr (h.recovery policy (hpolicies.symm.trans hfound) hrequire)⟩
  constructor
  · rintro ⟨object, hobject, hclassified⟩
    obtain ⟨kept, hfound, hid, rfl⟩ := restoreMap_origin (hrestored.objects ▸ hobject)
    subst hid
    exact ⟨kept, hfound, rfl, (hkept kept hfound rfl).mp hclassified⟩
  · rintro ⟨kept, hfound, rfl, hclassified⟩
    exact ⟨_, hrestored.object_kept hfound, (hkept kept hfound rfl).mpr hclassified⟩

theorem dirty_classified_marked :
    ∃ (st : LogStore) (restarted : Impl LogStore),
      (Duo.start.run (Duo.owned ++ [Duo.markDirty])).medium = some st ∧
      restarted = ((Duo.start.run (Duo.owned ++ [Duo.markDirty])).step (.restart {})).engine ∧
      ((∃ object, restarted.objects[(⟨1⟩ : ObjectId)]? = some object ∧
          Classified restarted.toRecords object) ↔
        ∃ kept, st.image.objects[(⟨1⟩ : ObjectId)]? = some kept ∧ kept.id = ⟨1⟩ ∧
          StoredClassified st.image kept) := by
  have hfacts : (Duo.start.run (Duo.owned ++ [Duo.markDirty])).medium.any (fun st =>
      (st.image.objects[(⟨1⟩ : ObjectId)]?).all fun kept => !kept.pendingPublication.defined) =
        true := by decide +kernel
  obtain ⟨st, hst, hnone⟩ := (Option.any_eq_true _ _).mp hfacts
  have hempty : ∀ st : LogStore, some {} = some st → ∀ (id : ObjectId) object,
      (stored st).objects[id]? = some object → object.hasUnpublishedDirty = false := by
    rintro _ ⟨⟩ id object hobject
    cases hobject
  have hopen : ∀ kept, st.image.objects[(⟨1⟩ : ObjectId)]? = some kept →
      ¬ st.image.completes kept := by
    intro kept hkept
    simp only [hkept, Option.all_some, Bool.not_eq_true'] at hnone
    simp [DurableImage.completes, DurableImage.durablePending, hnone]
  refine ⟨st, _, hst, ?_, dirty_classified_iff {} (some ({} : LogStore))
    (Duo.owned ++ [Duo.markDirty]) hempty st {} st.image hst rfl ⟨1⟩ hopen {}⟩
  rfl

/-- An unpublished modification is not classified: the object comes back as if its writer
could still publish. -/
theorem restart_unclassified :
    let s := Duo.start.run (Duo.owned ++ [Duo.markDirty])
    (s.engine.objects[(⟨1⟩ : ObjectId)]?).map (·.hasUnpublishedDirty) = some true ∧
      (((s.step (.restart {})).engine.objects[(⟨1⟩ : ObjectId)]?).map fun object =>
        (object.dirtyCondition, object.lifecycle)) = some (.dirtyUnpublished, .active) ∧
      ((s.step (.restart {})).engine.policies[(⟨1⟩ : PolicyId)]?).map (·.dirtyLossPolicy) =
        some .requireRecovery := by
  decide +kernel

end CoherenceFabric
