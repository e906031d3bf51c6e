import CoherenceFabric.Effects.Frames

/-!
Phase 3 of a publication, in its parts: the pending record reaches the image, the version is
committed in memory, the other replicas are marked stale, and the markers are journalled.
-/

namespace CoherenceFabric

open Impl

variable {σ : Type} [DurableStore σ] {e : Impl σ} {object : ObjectRecord}
  {pending : PendingPublication} {frame : PublishFrame} {s : Sys σ}

lemma markRegionsStaleLocked_objects (id : ObjectId) (version : VersionId) (except : RegionId) :
    (e.markRegionsStaleLocked id version except).objects = e.objects := by
  obtain ⟨regions, p, heq, -⟩ := markRegionsStaleLocked_eq (e := e) id version except
  rw [heq]
  rfl

/-- The object as phase 3 commits it. -/
def Impl.committedObject (e : Impl σ) (frame : PublishFrame) (object : ObjectRecord) :
    ObjectRecord :=
  object.commit frame.pending frame.pending.writer frame.pending.writerBoot
    (if e.config.maxRetainedRequestsPerObject = 0 then 1
      else e.config.maxRetainedRequestsPerObject) e.tick.sequence

/-- Phase 3 has committed in memory and has journalled nothing. -/
def Impl.committing (e : Impl σ) (frame : PublishFrame) (object : ObjectRecord) : Impl σ :=
  (e.tick.setObject frame.pending.object (e.committedObject frame object)).publishRegion frame

/-- Phase 3 has marked the other replicas stale and is about to journal its markers. -/
def Impl.marked (e : Impl σ) (frame : PublishFrame) (object : ObjectRecord) : Impl σ :=
  (e.committing frame object).markRegionsStaleLocked object.id frame.pending.version frame.region

/-- The markers of the commit. -/
def Impl.markers (e : Impl σ) (frame : PublishFrame) (object : ObjectRecord) :
    List JournalPayload :=
  (e.marked frame object).commitEntries frame (e.committedObject frame object)

lemma commitPublication_engine (frame : PublishFrame) (object : ObjectRecord) :
    ∃ context rationale, (e.commitPublication frame object).2 =
      (((e.marked frame object).appendManyLocked (e.markers frame object)).2.recordDecision
        .publish context .ok rationale).maybeCompactLocked.2 :=
  ⟨_, _, rfl⟩

omit [DurableStore σ] in
lemma committing_objects (frame : PublishFrame) (object : ObjectRecord) :
    (e.committing frame object).objects =
      e.objects.insert frame.pending.object (e.committedObject frame object) := by
  unfold committing publishRegion
  split <;> rfl

lemma commitPublication_objects (frame : PublishFrame) (object : ObjectRecord) :
    (e.commitPublication frame object).2.objects =
      e.objects.insert frame.pending.object (e.committedObject frame object) := by
  obtain ⟨context, rationale, heq⟩ := commitPublication_engine (e := e) frame object
  rw [heq, maybeCompactLocked_toRecords, recordDecision_toRecords]
  exact (markRegionsStaleLocked_objects ..).trans (committing_objects ..)

lemma commitPublication_inFlight (frame : PublishFrame) (object : ObjectRecord) :
    (e.commitPublication frame object).2.inFlightPublications = e.inFlightPublications := by
  obtain ⟨context, rationale, heq⟩ := commitPublication_engine (e := e) frame object
  rw [heq, maybeCompactLocked_inFlight, recordDecision_inFlight, appendManyLocked_inFlight]
  unfold marked committing
  rw [markRegionsStaleLocked_inFlight, publishRegion_inFlight]
  rfl

lemma clearPending_toRecords (frame : PublishFrame) (id : ObjectId) :
    (e.clearPending frame id).toRecords = e.toRecords := by
  unfold clearPending applyDurable
  dsimp only
  repeat' split
  all_goals rfl

lemma clearPending_inFlight (frame : PublishFrame) (id : ObjectId) :
    (e.clearPending frame id).inFlightPublications = e.inFlightPublications := by
  unfold clearPending applyDurable
  dsimp only
  repeat' split
  all_goals rfl

/-- Phase 3 once phase 2 has reported success: the pending record is in the image. -/
def Impl.settling (e : Impl σ) (frame : PublishFrame) : Impl σ :=
  let e := e.withInFlight (e.inFlightPublications.erase frame.pending.id)
  if frame.durableRequired then e.applyPending frame else e

omit [DurableStore σ] in
lemma applyPending_eq (e : Impl σ) (frame : PublishFrame) :
    ∃ p, e.applyPending frame = e.withPersistence p ∧ p.store = e.store := by
  unfold applyPending applyDurable
  split <;> exact ⟨_, rfl, rfl⟩

omit [DurableStore σ] in
lemma settling_eq (e : Impl σ) (frame : PublishFrame) : ∃ p, e.settling frame =
        (e.withInFlight (e.inFlightPublications.erase frame.pending.id)).withPersistence p ∧
      p.store = e.store := by
  unfold settling
  split
  · exact applyPending_eq _ frame
  · exact ⟨_, rfl, rfl⟩

section Settling

omit [DurableStore σ]

variable (frame : PublishFrame)

@[simp] lemma settling_toRecords : (e.settling frame).toRecords = e.toRecords := by
  obtain ⟨p, heq, -⟩ := settling_eq e frame
  rw [heq]
  rfl

lemma settling_inFlight : (e.settling frame).inFlightPublications =
    e.inFlightPublications.erase frame.pending.id := by
  obtain ⟨p, heq, -⟩ := settling_eq e frame
  rw [heq]
  rfl

lemma settling_config : (e.settling frame).config = e.config := by
  obtain ⟨p, heq, -⟩ := settling_eq e frame
  rw [heq]
  rfl

lemma settling_epoch : (e.settling frame).epoch = e.epoch := by
  obtain ⟨p, heq, -⟩ := settling_eq e frame
  rw [heq]
  rfl

lemma settling_store : (e.settling frame).store = e.store := by
  obtain ⟨p, heq, hstore⟩ := settling_eq e frame
  rw [heq]
  exact hstore

end Settling

/-- What phase 3 does to the engine. -/
inductive CommitCase (e : Impl σ) (frame : PublishFrame) : Impl σ → Prop
  | missing (absent : e.objects[frame.pending.object]? = none) : CommitCase e frame
      (e.withInFlight (e.inFlightPublications.erase frame.pending.id))
  | failed {record kind context code summary}
      (found : e.objects[frame.pending.object]? = some record)
      (refused : (frame.durableStatus.getD .success).isOk = false) : CommitCase e frame
      (((e.withInFlight (e.inFlightPublications.erase frame.pending.id)).setObject
        frame.pending.object record.abortPending).recordDecision kind context code summary)
  | superseded {record kind context code summary}
      (found : e.objects[frame.pending.object]? = some record)
      (lost : record.holds frame.pending = false)
      (recorded : (frame.durableStatus.getD .success).isOk) : CommitCase e frame
      ((((e.settling frame).setObject frame.pending.object record.abortPending).clearPending
        frame record.id).recordDecision kind context code summary)
  | committed {record} (target : e.commitTarget frame = some record) :
      CommitCase e frame ((e.settling frame).commitPublication frame record).2

theorem publishCommit_cases (frame : PublishFrame) :
    CommitCase e frame (e.publishCommit frame).2 := by
  unfold publishCommit
  dsimp only
  split
  · exact .missing ‹_›
  rename_i object hobject
  change e.objects[frame.pending.object]? = some object at hobject
  split
  · rename_i hstatus
    exact .failed hobject (by simpa using hstatus)
  rename_i hstatus
  split
  · rename_i hholds
    exact .superseded hobject (by simpa using hholds) (by simpa using hstatus)
  · rename_i hholds
    refine .committed ?_
    simp only [Bool.not_eq_true', Bool.not_eq_false] at hstatus hholds
    simp [commitTarget, hstatus, hobject, hholds]

lemma holds_prior (h : object.holds pending) : object.pendingPublication = pending.id ∧
      object.ownershipGeneration = pending.ownershipGeneration ∧
      object.authoritativeVersion = pending.priorVersion := by
  simpa [ObjectRecord.holds, and_assoc] using h

omit [DurableStore σ] in
lemma ready_mem {index} (h : s.ready index = some frame) :
    s.frames[index]? = some frame ∧ frame.durableStatus.isSome :=
  Option.filter_eq_some_iff.mp h

omit [DurableStore σ] in
lemma commitTarget_some (h : e.commitTarget frame = some object) :
    (frame.durableStatus.getD .success).isOk ∧
      e.objects[frame.pending.object]? = some object ∧ object.holds frame.pending := by
  unfold commitTarget at h
  split at h
  · exact ⟨‹_›, Option.filter_eq_some_iff.mp h⟩
  · cases h

lemma publishCommit_target (h : e.commitTarget frame = some object) :
    (e.publishCommit frame).2 = ((e.settling frame).commitPublication frame object).2 := by
  obtain ⟨hstatus, hobject, hholds⟩ := commitTarget_some h
  have hfound : (e.withInFlight
      (e.inFlightPublications.erase frame.pending.id)).objects[frame.pending.object]? =
        some object := hobject
  unfold publishCommit
  simp only [hfound, hstatus, hholds, Bool.not_true, Bool.false_eq_true, if_false]
  rfl

lemma publishCommit_pending
    (hafter : (e.publishCommit frame).2.objects[frame.pending.object]? = some object) :
    object.pendingPublication = .nil := by
  have hcases := publishCommit_cases (e := e) frame
  generalize (e.publishCommit frame).2 = e' at hcases hafter
  cases hcases with
  | missing absent => cases absent.symm.trans hafter
  | failed found =>
    rw [recordDecision_toRecords] at hafter
    simp only [withRecords_toRecords, Records.setObject,
      Std.ExtTreeMap.getElem?_insert_self] at hafter
    cases hafter
    rfl
  | superseded found =>
    rw [recordDecision_toRecords, clearPending_toRecords] at hafter
    simp only [withRecords_toRecords, Records.setObject,
      Std.ExtTreeMap.getElem?_insert_self] at hafter
    cases hafter
    rfl
  | committed target =>
    rw [commitPublication_objects, Std.ExtTreeMap.getElem?_insert_self] at hafter
    cases hafter
    rfl

lemma publishCommit_inFlight (frame : PublishFrame) :
    (e.publishCommit frame).2.inFlightPublications =
      e.inFlightPublications.erase frame.pending.id := by
  have hcases := publishCommit_cases (e := e) frame
  generalize (e.publishCommit frame).2 = e' at hcases ⊢
  cases hcases with
  | missing => rfl
  | failed => rw [recordDecision_inFlight]; rfl
  | superseded =>
    rw [recordDecision_inFlight, clearPending_inFlight]
    exact settling_inFlight frame
  | committed target => rw [commitPublication_inFlight, settling_inFlight]

/-- The publication a step commits. -/
def Sys.committed (s : Sys σ) : Action → Option PendingPublication
  | .publishCommit index =>
    (s.ready index).bind fun frame => (s.engine.commitTarget frame).map fun _ => frame.pending
  | _ => none

omit [DurableStore σ] in
lemma committed_some {a} (h : s.committed a = some pending) :
    ∃ index frame object, a = .publishCommit index ∧
      s.ready index = some frame ∧ s.engine.commitTarget frame = some object ∧
      frame.pending = pending := by
  cases a
  case publishCommit index =>
    obtain ⟨frame, hready, h⟩ := Option.bind_eq_some_iff.mp h
    obtain ⟨object, htarget, rfl⟩ := Option.map_eq_some_iff.mp h
    exact ⟨index, frame, object, rfl, hready, htarget, rfl⟩
  all_goals cases h

end CoherenceFabric
