import CoherenceFabric.Effects.Combinators

/-!
What a fresh engine attached to a store starts with.

Every live record is the restored form of a record the image holds under its own identity,
and every such record is restored. What recovery persists is its write-back and one
compaction.
-/

namespace CoherenceFabric

open FiniteMap Relation Impl

variable {σ : Type} {tag : IdTag} {β α : Type} {sequence : OperationSequence}
  {l : List (RegionId × RegionRecord)} {region : RegionRecord}

/-! ### Restored records -/

lemma getElem?_restoreMap {m idOf} {restore : α → β} {k : StrongId tag} :
    (restoreMap m idOf restore)[k]? =
      ((m[k]?).filter fun record => decide (k = idOf record)).map restore := by
  unfold restoreMap
  rw [Std.ExtTreeMap.getElem?_filterMap']
  cases m[k]? with
  | none => rfl
  | some record =>
    by_cases h : k = idOf record
    · simp [h]
    · simp [Option.filter, h]

lemma restoreMap_origin {m idOf} {restore : α → β}
    {k : StrongId tag} {b} (h : (restoreMap m idOf restore)[k]? = some b) :
    ∃ a, m[k]? = some a ∧ idOf a = k ∧ b = restore a := by
  rw [getElem?_restoreMap] at h
  obtain ⟨a, ha, rfl⟩ := Option.map_eq_some_iff.mp h
  obtain ⟨hk, hid⟩ := Option.filter_eq_some_iff.mp ha
  exact ⟨a, hk, (of_decide_eq_true hid).symm, rfl⟩

lemma restoreMap_kept {m idOf} {restore : α → β}
    {k : StrongId tag} {a} (h : m[k]? = some a) (hid : idOf a = k) :
    (restoreMap m idOf restore)[k]? = some (restore a) := by
  rw [getElem?_restoreMap, h]
  simp [hid]

lemma restoreRegions_origin {k b} : ∀ {next : UInt64},
    (restoreRegions sequence next l).2[k]? = some b →
      ∃ region evidence, (k, region) ∈ l ∧ region.id = k ∧
        b = region.restore evidence sequence := by
  induction l with
  | nil => intro next h; simp [restoreRegions] at h
  | cons entry rest ih =>
    obtain ⟨id, region⟩ := entry
    intro next h
    unfold restoreRegions at h
    split at h
    · obtain ⟨region', evidence, hmem, heq⟩ := ih h
      exact ⟨region', evidence, List.mem_cons_of_mem _ hmem, heq⟩
    rename_i hid
    rw [getElem?_insert] at h
    split at h
    · rename_i hk
      obtain rfl := Std.LawfulEqOrd.eq_of_compare hk
      cases h
      exact ⟨region, _, List.mem_cons_self, (not_not.mp hid).symm, rfl⟩
    · obtain ⟨region', evidence, hmem, heq⟩ := ih h
      exact ⟨region', evidence, List.mem_cons_of_mem _ hmem, heq⟩

lemma restoreRegions_kept : ∀ {next : UInt64},
    l.Pairwise (fun a b => a.1 ≠ b.1) → (region.id, region) ∈ l →
      ∃ evidence, (restoreRegions sequence next l).2[region.id]? =
        some (region.restore evidence sequence) := by
  induction l with
  | nil => intro next _ h; cases h
  | cons entry rest ih =>
    obtain ⟨id, head⟩ := entry
    intro next hdistinct hmem
    obtain ⟨hfirst, hrest⟩ := List.pairwise_cons.mp hdistinct
    unfold restoreRegions
    rcases List.mem_cons.mp hmem with heq | hmem
    · cases heq
      exact ⟨⟨next⟩, by simp⟩
    have hne := hfirst _ hmem
    split
    · exact ih hrest hmem
    obtain ⟨evidence, hget⟩ := @ih (if head.isTerminal then next else next + 1) hrest hmem
    refine ⟨evidence, ?_⟩
    rw [getElem?_insert, if_neg (by simpa using hne)]
    exact hget

/-! ### The records of a fresh engine -/

/-- The live records are the restored form of an image. -/
structure Restored (image : DurableImage) (epoch : CoordinatorEpoch)
    (sequence : OperationSequence) (r : Records) : Prop where
  domains : r.domains = restoreMap image.domains (·.id) fun record => record.restore epoch
  participants : ∃ count : ParticipantId → UInt64, r.participants =
    (restoreMap image.participants (·.id) ParticipantRecord.restore).map fun id record =>
      { record with regionCount := count id }
  objects : r.objects = restoreMap image.objects (·.id) fun object =>
    image.restoreObject object image.epoch.value epoch sequence
  regions : ∃ next, r.regions = (restoreRegions sequence next image.regions.toList).2
  invalidations : r.invalidations = restoreMap image.invalidations (·.id) fun record =>
    record.restore sequence
  syncs : r.syncs = restoreMap image.syncs (·.id) fun record => record.restore sequence
  policies : r.policies = restoreMap image.policies (·.id) id
  participantIndex : r.participantIndex =
    buildIndex (restoreMap image.participants (·.id) ParticipantRecord.restore) (·.name)
      fun _ => true

lemma restoreImage_restored (s : Impl σ) (image : DurableImage) :
    Restored image (nextEpoch s.config image) s.sequence (s.restoreImage image).toRecords where
  domains := rfl
  participants := ⟨_, rfl⟩
  objects := rfl
  regions := ⟨_, rfl⟩
  invalidations := rfl
  syncs := rfl
  policies := rfl
  participantIndex := rfl

namespace Restored

lemma empty {epoch} : Restored {} epoch sequence {} :=
  ⟨rfl, ⟨fun _ => 0, rfl⟩, rfl, ⟨0, rfl⟩, rfl, rfl, rfl, rfl⟩

variable {image : DurableImage} {epoch : CoordinatorEpoch} {sequence : OperationSequence}
  {r : Records}

lemma region_origin (h : Restored image epoch sequence r) {k : RegionId} {b}
    (hb : r.regions[k]? = some b) :
    ∃ region evidence, image.regions[k]? = some region ∧ region.id = k ∧
      b = region.restore evidence sequence := by
  obtain ⟨next, hregions⟩ := h.regions
  rw [hregions] at hb
  obtain ⟨region, evidence, hmem, hid, heq⟩ := restoreRegions_origin hb
  exact ⟨region, evidence, mem_toList_iff_getElem?_eq_some.mp hmem, hid, heq⟩

lemma region_kept (h : Restored image epoch sequence r)
    (hk : image.regions[region.id]? = some region) :
    ∃ evidence, r.regions[region.id]? = some (region.restore evidence sequence) := by
  obtain ⟨next, hregions⟩ := h.regions
  rw [hregions]
  refine restoreRegions_kept ?_ (mem_toList_iff_getElem?_eq_some.mpr hk)
  refine Std.ExtTreeMap.distinct_keys_toList.imp fun {a b} hne heq => hne ?_
  rw [heq]
  exact Std.ReflOrd.compare_self

lemma object_kept (h : Restored image epoch sequence r) {object : ObjectRecord}
    (hk : image.objects[object.id]? = some object) : r.objects[object.id]? =
      some (image.restoreObject object image.epoch.value epoch sequence) := by
  rw [h.objects]
  exact restoreMap_kept hk rfl

lemma participant_origin (h : Restored image epoch sequence r) {k : ParticipantId}
    {b} (hb : r.participants[k]? = some b) :
    ∃ record count, image.participants[k]? = some record ∧ record.id = k ∧
      b = { record.restore with regionCount := count } := by
  obtain ⟨count, hparticipants⟩ := h.participants
  rw [hparticipants, getElem?_map] at hb
  obtain ⟨restored, hrestored, rfl⟩ := Option.map_eq_some_iff.mp hb
  obtain ⟨record, hrecord, hid, rfl⟩ := restoreMap_origin hrestored
  exact ⟨record, count k, hrecord, hid, rfl⟩

end Restored

/-! ### Attaching a store -/

section Attach

variable [DurableStore σ] (e : Impl σ)

@[simp] lemma compactLocked_toRecords : e.compactLocked.toRecords = e.toRecords := by
  unfold compactLocked
  split
  · rfl
  · split <;> rfl

lemma persist_compactLocked {Q} (e : Impl σ) :
    Persist Q True e.toPersistence e.compactLocked.toPersistence := by
  unfold compactLocked
  split
  · exact .refl
  rename_i store hstore
  split
  · exact .refl
  · exact .single (.compact trivial hstore rfl rfl)

lemma writeBack_toRecords (image : DurableImage) :
    (e.writeBack image).2.toRecords = e.toRecords := by
  unfold writeBack
  rw [compactLocked_toRecords]
  split <;> rfl

lemma persist_writeBack (image : DurableImage) :
    Persist (· ∈ e.recoveryEntries image) True e.toPersistence
      (e.writeBack image).2.toPersistence := by
  unfold writeBack
  refine .trans ?_ (persist_compactLocked _)
  have happend : Persist (· ∈ e.recoveryEntries image) True e.toPersistence
      (e.appendManyLocked (e.recoveryEntries image)).2.toPersistence :=
    (lockstep_appendMany fun _ _ h => h).persist
  split
  · exact happend
  · exact happend.tail (.idle rfl rfl)

lemma recoverFrom_toRecords (image : DurableImage) (load : LoadReport) :
    (e.recoverFrom image load).2.toRecords = (e.restoreImage image).toRecords := by
  unfold recoverFrom
  rw [recordDecision_toRecords]
  exact writeBack_toRecords _ image

lemma writeBack_eq (image : DurableImage) : ∃ p, (e.writeBack image).2 = e.withPersistence p := by
  have hcompact : ∀ e : Impl σ, ∃ p, e.compactLocked = e.withPersistence p := by
    intro e
    unfold compactLocked
    split
    · exact ⟨_, rfl⟩
    split
    · exact ⟨_, rfl⟩
    · exact ⟨_, rfl⟩
  unfold writeBack
  dsimp only
  obtain ⟨p, hp⟩ := hcompact (if (e.appendManyLocked (e.recoveryEntries image)).1.isOk then
    (e.appendManyLocked (e.recoveryEntries image)).2
    else (e.appendManyLocked (e.recoveryEntries image)).2.withPersistence
      { (e.appendManyLocked (e.recoveryEntries image)).2.toPersistence with
        storeHealthy := false })
  rw [hp]
  split <;> exact ⟨p, rfl⟩

/-- What recovery leaves alone; in particular, it does not raise the counter of publications. -/
lemma recoverFrom_frame (image : DurableImage) (load : LoadReport) :
    (e.recoverFrom image load).2.nextPublicationId = e.nextPublicationId ∧
      (e.recoverFrom image load).2.shuttingDown = e.shuttingDown ∧
      (e.recoverFrom image load).2.config = e.config ∧
      (e.recoverFrom image load).2.epoch = nextEpoch e.config image := by
  obtain ⟨p, hp⟩ := writeBack_eq (e.restoreImage image) image
  unfold recoverFrom
  rw [recordDecision_toCounters, recordDecision_shuttingDown,
    recordDecision_config, recordDecision_epoch, hp]
  exact ⟨rfl, rfl, rfl, rfl⟩

lemma persist_recoverFrom (image : DurableImage) (load : LoadReport) :
    Persist (· ∈ (e.restoreImage image).recoveryEntries image) True
      (e.restoreImage image).toPersistence (e.recoverFrom image load).2.toPersistence := by
  unfold recoverFrom
  rw [recordDecision_toPersistence]
  exact (persist_writeBack _ image).tail (.idle rfl rfl)

/-- A fresh engine with a store that has been opened. -/
def Impl.attached (config : EngineConfig) (store : σ) : Impl σ :=
  let fresh := coherenceEngine σ config
  fresh.withPersistence { fresh.toPersistence with store := some store }

lemma attachStore_fresh (config : EngineConfig) (store : σ) :
    (coherenceEngine σ config).attachStore store =
      match DurableStore.openStore store with
      | (.error status, _) => (.error status, coherenceEngine σ config)
      | (.ok (load, image), store) =>
        let recovered := (attached config store).recoverFrom image load
        (.ok recovered.1, recovered.2) := by
  rfl

end Attach

lemma Action.restart_or (a : Action) : (∃ config, a = .restart config) ∨ a.Runs :=
  (em _).imp_right not_exists.mp

section Boot

variable [StoreMedium σ] (config : EngineConfig)

/-- What a system starts with. -/
inductive BootCase (config : EngineConfig) : Option σ → Sys σ → Prop
  | detached : BootCase config none { engine := coherenceEngine σ config }
  | refused {store : σ} {status : Status}
      (failed : (DurableStore.openStore store).1 = .error status) : BootCase config (some store)
      { engine := coherenceEngine σ config, shelf := some (DurableStore.openStore store).2 }
  | recovered {store : σ} {load : LoadReport} {image : DurableImage}
      (opened : (DurableStore.openStore store).1 = .ok (load, image)) :
      BootCase config (some store)
        { engine := ((Impl.attached config (DurableStore.openStore store).2).recoverFrom
            image load).2 }

theorem boot_cases (store : Option σ) : BootCase config store (Sys.boot config store) := by
  cases store with
  | none => exact .detached
  | some store =>
    unfold Sys.boot
    dsimp only
    rw [attachStore_fresh]
    rcases hopen : DurableStore.openStore store with ⟨result, opened⟩
    have hsnd : opened = (DurableStore.openStore store).2 := by rw [hopen]
    cases result with
    | error status =>
      subst hsnd
      exact .refused (by rw [hopen])
    | ok loaded =>
      obtain ⟨load, image⟩ := loaded
      subst hsnd
      exact .recovered (by rw [hopen])

lemma boot_frames (store : Option σ) : (Sys.boot config store).frames = [] := by
  have hboot := boot_cases config store
  generalize Sys.boot config store = s at hboot ⊢
  cases hboot <;> rfl

@[simp] lemma not_mem_boot_frames {config} {store : Option σ} {frame} :
    frame ∉ (Sys.boot config store).frames := by
  simp [boot_frames]

lemma boot_shuttingDown (store : Option σ) :
    (Sys.boot config store).engine.shuttingDown = false := by
  have hboot := boot_cases config store
  generalize Sys.boot config store = s at hboot ⊢
  cases hboot with
  | detached => rfl
  | refused => rfl
  | recovered => exact (recoverFrom_frame ..).2.1

lemma boot_restored {store : σ} {load image}
    (hopen : (DurableStore.openStore store).1 = .ok (load, image)) : ∃ epoch sequence,
      Restored image epoch sequence (Sys.boot config (some store)).engine.toRecords := by
  have hboot := boot_cases config (some store)
  generalize Sys.boot config (some store) = s at hboot ⊢
  cases hboot with
  | refused failed => simp [hopen] at failed
  | recovered opened =>
    cases opened.symm.trans hopen
    rw [recoverFrom_toRecords]
    exact ⟨_, _, restoreImage_restored _ image⟩

end Boot

end CoherenceFabric
