import CoherenceFabric.Invariants.InFlight
import CoherenceFabric.Properties.DirtyRecovery
import CoherenceFabric.Properties.GroupCommit

/-!
Durable publications across a stop of the process.

Phase 2 of a publish call stores a pending record, and recovery completes the publication
whose record it finds. It looks the record up through the stored object, and the reservation
of phase 1 is not journalled with the object. So the publication is recovered only if the next
open replays the pending record, and some other operation has journalled the object while the
reservation stood.
-/

namespace CoherenceFabric

open FiniteMap Relation DurableStore Impl JournalPayload
open Persistence (stamp applyAll)

variable {σ : Type} {pending : PendingPublication} {image : DurableImage}

/-! ### Where the process may stop -/

/-- What the store of an engine is when the process stops after phase 2 of a call: before
phase 3, while phase 3 marks the other replicas stale or journals its markers, or after it. -/
inductive StopsAt [DurableStore σ] (e : Impl σ) (frame : PublishFrame) : σ → Prop
  | waiting {store} (attached : e.store = some store) : StopsAt e frame store
  | marking {object store} (n : Nat) (target : e.commitTarget frame = some object)
      (attached : ((object.replicas.take n).foldl
        (Impl.markRegionStale frame.pending.version frame.region)
        ((e.settling frame).committing frame object)).store = some store) :
      StopsAt e frame store
  | journalling {object store store'} (target : e.commitTarget frame = some object)
      (attached : ((e.settling frame).marked frame object).store = some store)
      (stopped : Interrupted store
        (stamp ((e.settling frame).marked frame object).nextJournalSequence
          ((e.settling frame).markers frame object)) store') : StopsAt e frame store'
  | returned {object store} (target : e.commitTarget frame = some object)
      (attached : (e.publishCommit frame).2.store = some store) : StopsAt e frame store

/-! ### What the store holds there -/

/-- An image fixes a publication: it holds the pending record, or the committed object. -/
def DurableImage.Fixes (image : DurableImage) (pending : PendingPublication) : Prop :=
  image.pendingPublications[pending.id]? = some pending ∨
    ∃ kept, image.objects[pending.object]? = some kept ∧
      kept.authoritativeVersion = pending.version ∧ kept.publication = pending.id ∧
      kept.pendingPublication = .nil

def JournalPayload.keepsObjects : JournalPayload → Bool
  | .upsertRegion _ | .clearPendingPublication _ => true
  | _ => false

lemma JournalPayload.keepsObjects_apply {payload : JournalPayload} (h : payload.keepsObjects)
    (image : DurableImage) : (payload.apply image).objects = image.objects := by
  cases payload <;> first | rfl | cases h

lemma applyAll_objects {payloads : List JournalPayload} : ∀ {image : DurableImage}
    {position : UInt64}, (∀ payload ∈ payloads, payload.keepsObjects) →
    (applyAll image (stamp position payloads)).2.objects = image.objects := by
  induction payloads with
  | nil => intro _ _ _; rfl
  | cons payload rest ih =>
    intro image position h
    simp only [stamp, applyAll]
    split
    · rfl
    rename_i image' happly
    obtain ⟨_, rfl⟩ := applyJournalEntry_ok happly
    exact (ih fun p hp => h p (List.mem_cons_of_mem _ hp)).trans
      (keepsObjects_apply (h payload List.mem_cons_self) image)

lemma applyAll_fixes {committed rest}
    (hpending : image.pendingPublications[pending.id]? = some pending)
    (hid : committed.id = pending.object)
    (hcommitted : committed.authoritativeVersion = pending.version ∧
      committed.publication = pending.id ∧ committed.pendingPublication = .nil)
    (hrest : ∀ payload ∈ rest, payload.keepsObjects) (position : UInt64) (k : Nat) :
    (applyAll image (stamp position ((.upsertObject committed :: rest).take k))).2.Fixes
      pending := by
  cases k with
  | zero => exact .inl hpending
  | succ k =>
    simp only [List.take_succ_cons, stamp, applyAll]
    split
    · exact .inl hpending
    rename_i image' happly
    obtain ⟨_, rfl⟩ := applyJournalEntry_ok happly
    refine .inr ⟨committed, ?_, hcommitted⟩
    rw [applyAll_objects fun p hp => hrest p (List.mem_of_mem_take hp)]
    simp [apply, hid]

section Holds

variable [ReplayStore σ] {pending : PendingPublication} {p' p : Persistence σ}

structure Persistence.Holds (p : Persistence σ) (pending : PendingPublication) : Prop where
  image : p.durable.pendingPublications[pending.id]? = some pending
  kept : p.Keeps pending

lemma PersistMove.image_spared {J} {C} (hmove : PersistMove J C p p')
    (hJ : ∀ payload, J payload → payload.Spares pending)
    (h : p.durable.pendingPublications[pending.id]? = some pending) :
    p'.durable.pendingPublications[pending.id]? = some pending := by
  cases hmove with
  | apply payload position allowed _ image =>
    rw [image]
    exact (hJ payload allowed).apply h
  | write _ _ _ _ image | compact _ _ _ image | flush _ _ image | close _ _ image | idle _ image =>
    exact image ▸ h

lemma Persist.holds {J} (hpersist : Persist J False p p')
    (hJ : ∀ payload, J payload → payload.Spares pending) (h : p.Holds pending) :
    p'.Holds pending where
  image := by
    induction hpersist with
    | refl => exact h.image
    | tail _ hmove ih => exact hmove.image_spared hJ ih
  kept := hpersist.keeps hJ id h.kept

lemma persist_markRegions (version : VersionId) (except : RegionId) (ids : List RegionId)
    (e : Impl σ) : Persist (fun payload => ∃ region, payload = .upsertRegion region) False
      e.toPersistence (ids.foldl (markRegionStale version except) e).toPersistence := by
  obtain ⟨regions, p, heq, hlockstep⟩ := markRegions_eq version except ids e
  rw [heq]
  exact hlockstep.persist

lemma spares_upsertRegion (payload : JournalPayload)
    (h : ∃ region, payload = .upsertRegion region) : payload.Spares pending := by
  obtain ⟨region, rfl⟩ := h
  trivial

lemma settling_holds {e : Impl σ} {frame} (hkept : e.toPersistence.Keeps frame.pending)
    (hrequired : frame.durableRequired)
    (hposition : frame.position ≠ 0) : (e.settling frame).toPersistence.Holds frame.pending := by
  unfold settling
  simp only [hrequired, if_true]
  unfold applyPending applyDurable
  cases happly : applyJournalEntry e.durable
      ⟨.setPendingPublication frame.pending, frame.position⟩ with
  | error status => simp [applyJournalEntry, hposition] at happly
  | ok image =>
    obtain ⟨position, rfl⟩ := applyJournalEntry_ok happly
    simp only [withInFlight_toPersistence, happly]
    refine ⟨?_, hkept⟩
    simp [apply]

end Holds

section Stops

variable [LawfulStore σ] {e : Impl σ} {frame : PublishFrame} {object : ObjectRecord}

omit [LawfulStore σ] in
lemma committing_toPersistence : (e.committing frame object).toPersistence = e.toPersistence := by
  unfold committing publishRegion
  split <;> rfl

lemma marked_holds (object : ObjectRecord) (h : e.toPersistence.Holds frame.pending) :
    (e.marked frame object).toPersistence.Holds frame.pending := by
  unfold marked markRegionsStaleLocked
  have hstart : (e.committing frame object).toPersistence.Holds frame.pending := by
    rwa [committing_toPersistence]
  split
  · exact hstart
  · exact (persist_markRegions _ _ _ _).holds spares_upsertRegion hstart

omit [LawfulStore σ] in
lemma markers_cons [DurableStore σ] (e : Impl σ) (frame : PublishFrame)
    (object : ObjectRecord) : ∃ rest, e.markers frame object =
    .upsertObject (scrubObjectForPersistence (e.committedObject frame object)) :: rest ∧
      ∀ payload ∈ rest, payload.keepsObjects := by
  refine ⟨.clearPendingPublication object.id ::
    (((e.marked frame object).regions[frame.region]?).toList.map .upsertRegion ++
      ((object.replicas.filter (· != frame.region)).filterMap fun id =>
        (e.marked frame object).regions[id]?).map .upsertRegion), ?_, ?_⟩
  · unfold markers commitEntries
    rw [List.append_assoc]
    rfl
  intro payload hmem
  simp only [List.mem_cons, List.mem_append, List.mem_map] at hmem
  rcases hmem with rfl | ⟨_, -, rfl⟩ | ⟨_, -, rfl⟩ <;> rfl

lemma appendManyLocked_durable (payloads : List JournalPayload) :
    ∃ k, (e.appendManyLocked payloads).2.durable =
      (applyAll e.durable (stamp e.nextJournalSequence (payloads.take k))).2 := by
  unfold appendManyLocked Persistence.appendMany
  cases hstore : e.store with
  | none => exact ⟨0, rfl⟩
  | some store =>
    dsimp only
    split
    · exact ⟨0, rfl⟩
    unfold Persistence.journal
    dsimp only
    split
    · exact ⟨0, rfl⟩
    · exact ⟨payloads.length, by rw [List.take_length]; rfl⟩

lemma appendManyLocked_applied {payloads : List JournalPayload} {after}
    (h : (e.appendManyLocked payloads).2.store = some after) : ∃ before k,
      e.store = some before ∧ applyAll (stored before)
        (stamp e.nextJournalSequence (payloads.take k)) = (.success, stored after) := by
  unfold appendManyLocked Persistence.appendMany at h
  cases hstore : e.store with
  | none => simp [hstore] at h
  | some before =>
    simp only [hstore] at h
    split at h
    · cases hstore.symm.trans h
      exact ⟨_, 0, rfl, rfl⟩
    obtain ⟨k, happlied⟩ := appendBatch_applied before e.nextJournalSequence payloads
    refine ⟨before, k, rfl, happlied.trans (congrArg _ ?_)⟩
    unfold Persistence.journal at h
    dsimp only at h
    split at h <;> cases h <;> rfl

lemma markers_fix (hid : object.id = frame.pending.object)
    (hpending : image.pendingPublications[frame.pending.id]? = some frame.pending)
    (position : UInt64) (k : Nat) :
    (applyAll image (stamp position ((e.markers frame object).take k))).2.Fixes frame.pending := by
  obtain ⟨rest, hmarkers, hrest⟩ := markers_cons e frame object
  have hcommitted : (scrubObjectForPersistence (e.committedObject frame object)).id =
      frame.pending.object := hid
  rw [hmarkers]
  exact applyAll_fixes hpending hcommitted ⟨rfl, rfl, rfl⟩ hrest position k

lemma commitPublication_fixes (h : e.toPersistence.Holds frame.pending)
    (hid : object.id = frame.pending.object) {store}
    (hstore : (e.commitPublication frame object).2.store = some store) :
    (stored store).Fixes frame.pending := by
  have hmarked := marked_holds object h
  obtain ⟨context, rationale, heq⟩ := commitPublication_engine (e := e) frame object
  rw [heq] at hstore
  have hdurable : ((e.marked frame object).appendManyLocked
      (e.markers frame object)).2.durable.Fixes frame.pending := by
    obtain ⟨k, hk⟩ := appendManyLocked_durable (e := e.marked frame object)
      (e.markers frame object)
    rw [hk]
    exact markers_fix hid hmarked.image _ k
  have hstored : ∀ store, ((e.marked frame object).appendManyLocked
      (e.markers frame object)).2.store = some store → (stored store).Fixes frame.pending := by
    intro after hafter
    obtain ⟨before, k, hbefore, happlied⟩ := appendManyLocked_applied hafter
    have hfixed := markers_fix (e := e) hid (hmarked.kept _ hbefore)
      (e.marked frame object).nextJournalSequence k
    rwa [happlied] at hfixed
  generalize ((e.marked frame object).appendManyLocked (e.markers frame object)).2 = e'
    at hdurable hstored hstore
  have hsame : (e'.recordDecision .publish context .ok rationale).toPersistence =
      e'.toPersistence := recordDecision_toPersistence ..
  generalize e'.recordDecision .publish context .ok rationale = e'' at hsame hstore
  unfold maybeCompactLocked at hstore
  cases hattached : e''.store with
  | none => simp [hattached] at hstore
  | some attached =>
    have hfixed := hstored attached ((congrArg Persistence.store hsame).symm.trans hattached)
    simp only [hattached] at hstore
    split at hstore
    · cases hattached.symm.trans hstore
      exact hfixed
    cases hstore
    rcases ReplayStore.compact_stored attached e''.durable with hkept | hcompacted
    · rwa [hkept]
    · rw [hcompacted, congrArg Persistence.durable hsame]
      exact hdurable

lemma StopsAt.fixes
    (hkeyed : ∀ object, e.objects[frame.pending.object]? = some object →
      object.id = frame.pending.object)
    (hkept : e.toPersistence.Keeps frame.pending) (hrequired : frame.durableRequired)
    (hposition : frame.position ≠ 0) {store : σ} (h : StopsAt e frame store) :
    (stored store).Fixes frame.pending := by
  have hsettling := settling_holds hkept hrequired hposition
  have hid : ∀ object, e.commitTarget frame = some object → object.id = frame.pending.object :=
    fun object target => hkeyed object (commitTarget_some target).2.1
  cases h with
  | waiting attached => exact .inl (hkept _ attached)
  | @marking object _ n target attached =>
    have hcommitting : ((e.settling frame).committing frame object).toPersistence.Holds
        frame.pending := by rwa [committing_toPersistence]
    have hmarking := (persist_markRegions frame.pending.version frame.region
      (object.replicas.take n) _).holds spares_upsertRegion hcommitting
    exact .inl (hmarking.kept _ attached)
  | @journalling object before _ target attached stopped =>
    have hmarked := marked_holds object hsettling
    obtain ⟨k, happlied⟩ := stopped.applied rfl
    have hfixed := markers_fix (e := e.settling frame) (hid _ target) (hmarked.kept _ attached)
      ((e.settling frame).marked frame object).nextJournalSequence k
    rwa [happlied] at hfixed
  | @returned object _ target attached =>
    have hcommit := publishCommit_target target
    rw [hcommit] at attached
    exact commitPublication_fixes hsettling (hid _ target) attached

end Stops

/-! ### What recovery makes of it -/

/-- The stored record of the object names the publication, and its stored policy lets
recovery complete it. -/
def DurableImage.Names (image : DurableImage) (pending : PendingPublication) : Prop :=
  ∃ kept, image.objects[pending.object]? = some kept ∧ kept.pendingPublication = pending.id ∧
    ((image.policyOf kept.policy).map (·.recoveryPolicy)).getD .conservative =
      .completeDurablePending

/-- The image holds a pending record of the publication, for its version. -/
def DurableImage.Replays (image : DurableImage) (pending : PendingPublication) : Prop :=
  ∃ record, image.pendingPublications[pending.id]? = some record ∧
    record.version = pending.version

/-- The stored record of the object is the committed one. -/
def DurableImage.Commits (image : DurableImage) (pending : PendingPublication) : Prop :=
  ∃ kept, image.objects[pending.object]? = some kept ∧
    kept.authoritativeVersion = pending.version ∧ kept.publication = pending.id ∧
    ¬ image.completes kept

section Recovery

variable {image : DurableImage} {object : ObjectRecord} {previous : UInt64}
  {epoch : CoordinatorEpoch} {sequence : OperationSequence}

lemma restoreDirty_publication (object : ObjectRecord) (policy : DirtyLossPolicy) :
    (object.restoreDirty policy).authoritativeVersion = object.authoritativeVersion ∧
      (object.restoreDirty policy).publication = object.publication := by
  cases policy <;> exact ⟨rfl, rfl⟩

lemma restoreObject_publication :
    (∃ pending, image.durablePending object = some pending ∧ image.completes object ∧
        (image.restoreObject object previous epoch sequence).authoritativeVersion =
          pending.version ∧
        (image.restoreObject object previous epoch sequence).publication = pending.id) ∨
      ¬ image.completes object ∧
        (image.restoreObject object previous epoch sequence).authoritativeVersion =
          object.authoritativeVersion ∧
        (image.restoreObject object previous epoch sequence).publication = object.publication := by
  have hlast : ∀ restored : ObjectRecord, ∀ policy,
      let dirty := if restored.hasUnpublishedDirty then restored.restoreDirty policy else restored
      let final := if dirty.lifecycle = .quiescing then
        { dirty with lifecycle := .recoveryRequired } else dirty
      final.authoritativeVersion = restored.authoritativeVersion ∧
        final.publication = restored.publication := by
    intro restored policy
    dsimp only
    have hdirty := restoreDirty_publication restored policy
    repeat' split
    all_goals first | exact hdirty | exact ⟨rfl, rfl⟩
  unfold DurableImage.restoreObject
  obtain ⟨hversion, hpublication⟩ := hlast
    ((object.dropAuthority previous epoch sequence).restorePending (image.durablePending object)
      (image.policyOf object.policy) sequence)
    (((image.policyOf object.policy).map (·.dirtyLossPolicy)).getD .reportUnknown)
  rw [hversion, hpublication]
  unfold DurableImage.completes ObjectRecord.restorePending
  cases image.durablePending object with
  | none =>
    right
    dsimp only
    refine ⟨by simp, ?_⟩
    split <;> exact ⟨rfl, rfl⟩
  | some pending =>
    dsimp only
    split
    · rename_i hpolicy
      exact .inl ⟨pending, rfl, ⟨rfl, hpolicy⟩, rfl, rfl⟩
    · rename_i hpolicy
      exact .inr ⟨fun h => hpolicy h.2, rfl, rfl⟩

/-- Recovery gives an object the version and the publication of a call exactly if the image holds
its pending record and names it in the stored object, or holds the committed object. -/
lemma recovered_iff {r} (hkeyed : image.Sat .keyed) (hid : pending.id ≠ .nil)
    (hrestored : Restored image epoch sequence r) :
    (∃ object, r.objects[pending.object]? = some object ∧
      object.authoritativeVersion = pending.version ∧ object.publication = pending.id) ↔
    image.Replays pending ∧ image.Names pending ∨ image.Commits pending := by
  have hdefined : pending.id.defined = true := by
    simpa [StrongId.defined, StrongId.ext_iff, StrongId.nil] using hid
  constructor
  · rintro ⟨object, hobject, hversion, hpublication⟩
    obtain ⟨kept, hkept, hkey, rfl⟩ := restoreMap_origin (hrestored.objects ▸ hobject)
    rcases @restoreObject_publication image kept image.epoch.value epoch sequence with
      ⟨record, hrecord, hcompletes, hthis, hthis'⟩ | ⟨hopen, hsame, hsame'⟩
    · -- the record completed is stored under the identity it carries
      have hfound : image.pendingPublications[kept.pendingPublication]? = some record := by
        unfold DurableImage.durablePending at hrecord
        split at hrecord
        · exact hrecord
        · cases hrecord
      have hname : kept.pendingPublication = pending.id :=
        (hkeyed.pending _ _ hfound).symm.trans (hthis'.symm.trans hpublication)
      rw [hname] at hfound
      exact .inl ⟨⟨record, hfound, hthis.symm.trans hversion⟩, kept, hkept, hname, hcompletes.2⟩
    · exact .inr ⟨kept, hkept, hsame.symm.trans hversion, hsame'.symm.trans hpublication, hopen⟩
  have hkept_id : ∀ kept, image.objects[pending.object]? = some kept → kept.id = pending.object :=
    fun kept hkept => hkeyed.objects _ _ hkept
  rintro (⟨⟨record, hrecord, hsame⟩, kept, hkept, hname, hpolicy⟩ |
    ⟨kept, hkept, hversion, hpublication, hopen⟩)
  all_goals
    have hkey := hkept_id kept hkept
    rw [← hkey] at hkept ⊢
    refine ⟨_, hrestored.object_kept hkept, ?_⟩
    rcases @restoreObject_publication image kept image.epoch.value epoch sequence with
      ⟨other, hother, hcompletes, hthis, hthis'⟩ | ⟨hother, hold, hold'⟩
  · have hfound : image.durablePending kept = some record := by
      unfold DurableImage.durablePending
      rw [hname, if_pos hdefined]
      exact hrecord
    cases hfound.symm.trans hother
    exact ⟨hthis.trans hsame, hthis'.trans (hkeyed.pending _ _ hrecord)⟩
  · have hfound : image.durablePending kept = some record := by
      unfold DurableImage.durablePending
      rw [hname, if_pos hdefined]
      exact hrecord
    exact absurd ⟨by simp [hfound], hpolicy⟩ hother
  · exact absurd hcompletes hopen
  · exact ⟨hold.trans hversion, hold'.trans hpublication⟩

/-- A committed object names no publication that recovery could complete. -/
lemma DurableImage.Fixes.replays_or_commits (h : image.Fixes pending) :
    image.Replays pending ∨ image.Commits pending := by
  refine h.imp (fun hpending => ⟨pending, hpending, rfl⟩) ?_
  rintro ⟨kept, hkept, hversion, hpublication, hnil⟩
  refine ⟨kept, hkept, hversion, hpublication, ?_⟩
  simp [DurableImage.completes, DurableImage.durablePending, hnil]

end Recovery

/-- **Durable publication across a stop**: in every state of a run that does not come round
its publication identities, whatever a stop of the process leaves for the next open to load, the
engine attached to it has the version and the publication of a call in flight exactly if the image
that is loaded holds its pending record and the stored object names it, or the committed object.
If the store keeps the promises of the interface, one of the two records is loaded wherever the
process stops after a phase 2 that succeeded, as long as the reservation stands. -/
theorem durable_publication_iff [StoreMedium σ] (config : EngineConfig) (store : σ)
    (as : List Action)
    (hrun : Transition.RunOk Sys.step FreshIdentity (Sys.boot config (some store)) as)
    (frame : PublishFrame)
    (hframe : frame ∈ ((Sys.boot config (some store)).run as).frames) (st : σ)
    (load : LoadReport) (image : DurableImage)
    (hopen : (DurableStore.openStore (StoreMedium.remount st)).1 = .ok (load, image))
    (hkeyed : image.Sat .keyed) (config' : EngineConfig) :
    ((∃ recovered,
      (Sys.boot config' (some (StoreMedium.remount st))).engine.objects[frame.pending.object]? =
        some recovered ∧
      recovered.authoritativeVersion = frame.pending.version ∧
      recovered.publication = frame.pending.id) ↔
    image.Replays frame.pending ∧ image.Names frame.pending ∨ image.Commits frame.pending) ∧
    (KeepsPromises σ → frame.recorded →
      (∃ object, ((Sys.boot config (some store)).run as).engine.objects[frame.pending.object]? =
        some object ∧ object.holds frame.pending) →
      StopsAt ((Sys.boot config (some store)).run as).engine frame st →
      image.Replays frame.pending ∨ image.Commits frame.pending) := by
  obtain ⟨epoch, sequence, hrestored⟩ := boot_restored config' hopen
  refine ⟨recovered_iff hkeyed ((Listed.run hrun).named frame hframe) hrestored, ?_⟩
  rintro ⟨lawful, rfl⟩ hrecorded ⟨object, hobject, hstands⟩ hstop
  have himage : image = stored st := by simpa using ReplayStore.open_image hopen
  have hflight := Flight.run hrun
  have hname : object.pendingPublication = frame.pending.id := by
    simp only [ObjectRecord.holds, Bool.and_eq_true, beq_iff_eq] at hstands
    exact hstands.1.1
  rw [himage]
  exact (hstop.fixes (fun object hobject => hflight.keyed.live.objects _ _ hobject)
    (hflight.kept frame hframe hrecorded ⟨object, hobject, hname⟩)
    (Bool.and_eq_true_iff.mp hrecorded).1
    (hflight.positioned frame hframe hrecorded)).replays_or_commits

/-- The registration of a replica journals the object while the reservation stands, and the
process stops: the next open replays the pending record, and the publication is recovered. -/
theorem durable_publication_registered :
    ∃ (frame : PublishFrame) (st : LogStore) (restarted : Impl LogStore),
      frame ∈ (Duo.start.run (Duo.recorded ++ [Duo.register])).frames ∧
      (Duo.start.run (Duo.recorded ++ [Duo.register])).engine.store = some st ∧
      restarted = (Sys.boot {} (some (StoreMedium.remount st))).engine ∧
      (st.image.Replays frame.pending ∨ st.image.Commits frame.pending) ∧
      ∃ recovered, restarted.objects[frame.pending.object]? = some recovered ∧
        recovered.authoritativeVersion = frame.pending.version ∧
        recovered.publication = frame.pending.id := by
  have hfresh : Transition.RunOk Sys.step FreshIdentity (Sys.boot {} (some ({} : LogStore)))
      (Duo.recorded ++ [Duo.register]) := by decide +kernel
  have hiff := durable_publication_iff {} ({} : LogStore) (Duo.recorded ++ [Duo.register]) hfresh
  have hfacts : ((Duo.start.run (Duo.recorded ++ [Duo.register])).frames.head?.any fun frame =>
      frame.recorded &&
        ((Duo.start.run (Duo.recorded ++ [Duo.register])).engine.objects[
          frame.pending.object]?).any (·.holds frame.pending) &&
        (Duo.start.run (Duo.recorded ++ [Duo.register])).engine.store.any fun st =>
          (st.image.pendingPublications[frame.pending.id]?).any
              (fun record => decide (record.version = frame.pending.version)) &&
            (st.image.objects[frame.pending.object]?).any fun kept =>
              kept.pendingPublication == frame.pending.id &&
                decide (((st.image.policyOf kept.policy).map (·.recoveryPolicy)).getD
                  .conservative = .completeDurablePending)) = true := by
    decide +kernel
  have hkeyed : ∀ st ∈ (Duo.start.run (Duo.recorded ++ [Duo.register])).engine.store,
      st.image.Sat .keyed := by
    have hboot : Invariant .keyed .keyed Duo.start :=
      Invariant.boot persists_keyed (by rintro _ ⟨⟩; exact DurableImage.sat_empty)
        fun st _ => restores_keyed (stored st)
    exact (hboot.run persists_keyed (fun _ _ => guarded_keyed) _).persisted.stored
  generalize Duo.start.run (Duo.recorded ++ [Duo.register]) = s at hiff hfacts hkeyed ⊢
  obtain ⟨frame, hhead, hframe⟩ := (Option.any_eq_true _ _).mp hfacts
  simp only [Bool.and_eq_true, Option.any_eq_true, beq_iff_eq, decide_eq_true_eq] at hframe
  obtain ⟨⟨hrecorded, object, hobject, hstands⟩, st, hst, ⟨record, hrecord, hversion⟩, kept, hkept,
    hname, hpolicy⟩ := hframe
  have hmem := List.mem_of_head? hhead
  obtain ⟨hrecovered, hreplayed⟩ := hiff frame hmem st {} st.image rfl (hkeyed st hst) {}
  refine ⟨frame, st, _, hmem, hst, rfl,
    hreplayed ⟨inferInstance, rfl⟩ hrecorded ⟨object, hobject, hstands⟩ (.waiting hst), ?_⟩
  exact hrecovered.mpr (.inl ⟨⟨record, hrecord, hversion⟩, kept, hkept, hname, hpolicy⟩)

/-- Without it the publication is lost: its phase 2 has succeeded and its reservation stands,
and the restarted engine knows no version of the object. -/
theorem restart_loses_publication :
    let s := Duo.start.run Duo.recorded
    s.frames.map (fun frame => (frame.recorded, frame.pending.object, frame.pending.version)) =
        [(true, ⟨1⟩, ⟨1⟩)] ∧
      s.frames.all (fun frame =>
        (s.engine.objects[frame.pending.object]?).any (·.holds frame.pending)) = true ∧
      ((s.engine.policies[(⟨1⟩ : PolicyId)]?).map fun policy =>
        (policy.publicationDurability, policy.recoveryPolicy)) =
          some (.durableMetadata, .completeDurablePending) ∧
      (((s.step (.restart {})).engine.objects[(⟨1⟩ : ObjectId)]?).map fun object =>
        (object.policy, object.authoritativeVersion, object.publication)) =
          some (⟨1⟩, .nil, .nil) := by
  decide +kernel

end CoherenceFabric
