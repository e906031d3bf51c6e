import CoherenceFabric.Effects.Combinators

/-!
What the phases of a publication, synchronizations and revalidations do, as evolutions.
-/

namespace CoherenceFabric

open FiniteMap Relation Impl

variable {σ : Type} [DurableStore σ] {s : Sys σ} {a : Action} {e : Impl σ}

/-! ### Publication -/

lemma reservePublication_evolved {request object} (h : Evolved s (.publishReserve request) e)
    (hnext : e.nextPublicationId = s.engine.nextPublicationId)
    (ho : ObjectDerives s (.publishReserve request) request.context.object object)
    (policy : CoherencePolicy) (receipt : PublicationReceipt) : Evolved s (.publishReserve request)
      (e.reservePublication request policy object receipt).2 := by
  unfold reservePublication
  have hpending : (e.tick.newPending request object receipt.writerBoot).id =
      ⟨s.engine.nextPublicationId⟩ := by rw [← hnext]; rfl
  refine (Evolved.withCounters ((evolved_withInFlight (.inl rfl)).mpr
    ((evolved_tick.mpr h).setObject (ho.tail (.reserve hpending))))
      (by exact ⟨.inr rfl, .inl rfl⟩)).withPersistence ?_ (.inr ?_)
  · exact .single (.idle rfl rfl)
  · exact .single (.idle rfl rfl)

theorem publishReserve_evolved (request : PublishRequest) :
    Evolved s (.publishReserve request) (s.engine.publishReserve request).2 := by
  unfold publishReserve
  dsimp only
  have h₀ := Evolved.decided s (.publishReserve request)
  split
  · simpa using h₀
  rename_i object participant hgranted
  have ho : ObjectDerives s (.publishReserve request) request.context.object object :=
    .old (resolveLocked_found hgranted) .refl
  split
  · exact h₀
  rename_i policy _
  split
  · simpa using h₀
  split
  · simpa using h₀
  · exact reservePublication_evolved h₀ rfl ho policy _

theorem publishAppend_evolved {index frame} (hframe : s.frames[index]? = some frame) :
    Evolved s (.publishAppend index) (s.engine.publishAppend frame).2 := by
  unfold publishAppend
  split
  · exact .init
  rename_i store hstore
  split
  · exact .init
  exact Evolved.init.withPersistence
    (.single (.write ⟨.setPendingPublication frame.pending, frame.position⟩
      ⟨.pending (.inl rfl) hframe, .inl rfl⟩ hstore rfl rfl)) (.inl rfl)

section Commit

variable {index : Nat} {frame : PublishFrame}

lemma applyDurable_evolved (h : Evolved s a e) (ha : a.outOfStep = true) {entry}
    (hq : Written s a entry.payload) : Evolved s a (e.applyDurable entry).2 := by
  unfold applyDurable
  split
  · rename_i image happly
    obtain ⟨position, himage⟩ := applyJournalEntry_ok happly
    exact h.withPersistence (.single (.apply entry.payload position hq rfl himage)) (.inl ha)
  · exact h

omit [DurableStore σ] in
lemma ready_found (hready : s.ready index = some frame) : s.frames[index]? = some frame :=
  (Option.filter_eq_some_iff.mp hready).1

lemma applyPending_evolved (h : Evolved s (.publishCommit index) e)
    (hready : s.ready index = some frame) :
    Evolved s (.publishCommit index) (e.applyPending frame) := by
  unfold applyPending
  exact (applyDurable_evolved h rfl
    ⟨.pending (.inr rfl) (ready_found hready), .inl rfl⟩).withPersistence
      (.single (.idle rfl rfl)) (.inl rfl)

lemma clearPending_evolved (h : Evolved s (.publishCommit index) e) {id}
    (hcleared : Cleared s (.publishCommit index) id) :
    Evolved s (.publishCommit index) (e.clearPending frame id) := by
  unfold clearPending
  split
  · exact h
  rename_i store hstore
  split
  · exact h
  have hwritten : Written s (.publishCommit index) (.clearPendingPublication id) :=
    ⟨.clear hcleared, .inl rfl⟩
  refine applyDurable_evolved (h.withPersistence (.single ?_) (.inl rfl)) rfl hwritten
  exact .write ⟨.clearPendingPublication id, e.nextJournalSequence⟩ hwritten hstore rfl rfl

lemma markRegionsStaleLocked_evolved (h : Evolved s (.publishCommit index) e) (object : ObjectId)
    (version : VersionId) (except : RegionId) :
    Evolved s (.publishCommit index) (e.markRegionsStaleLocked object version except) := by
  unfold markRegionsStaleLocked
  split
  · exact h
  refine h.foldl fun e id _ h => ?_
  unfold markRegionStale
  split
  · exact h
  split
  · exact h
  rename_i region found
  split
  · rename_i hcurrent
    have hr := (h.records.regions.origin _ _ found).tail
      (show RegionStep s (.publishCommit index) region (region.superseded version) from
        .supersede hcurrent)
    exact (h.setRegion hr).upsertDurableRegionLocked hr
  · exact h

lemma publishRegion_evolved (h : Evolved s (.publishCommit index) e)
    (hready : s.ready index = some frame) (htarget : (s.engine.commitTarget frame).isSome)
    (hregions : e.regions = s.engine.regions) :
    Evolved s (.publishCommit index) (e.publishRegion frame) := by
  unfold publishRegion
  split
  · exact h
  rename_i region found
  rw [hregions] at found
  have hcommitted : s.committedRegion index = some region := by
    simp [Sys.committedRegion, hready, htarget, found]
  exact (evolved_takeEvidenceId.mpr h).setRegion
    (.old found (.single (.publish hready hcommitted)))

lemma commitEntries_journalled (h : Evolved s (.publishCommit index) e) {object}
    (ho : ObjectDerives s (.publishCommit index) frame.pending.object object)
    (hcleared : Cleared s (.publishCommit index) object.id) :
    ∀ payload ∈ e.commitEntries frame object, Journalled s (.publishCommit index) payload := by
  unfold commitEntries
  refine forall_mem_append (forall_mem_append
    (forall_mem_two (.object ho) (.clear hcleared)) fun payload hmem => ?_) fun payload hmem => ?_
  · obtain ⟨region, hregion, rfl⟩ := List.mem_map.mp hmem
    exact .region (h.records.regions.origin _ _ (Option.mem_toList.mp hregion))
  · obtain ⟨region, hregion, rfl⟩ := List.mem_map.mp hmem
    obtain ⟨id, -, hid⟩ := List.mem_filterMap.mp hregion
    exact .region (h.records.regions.origin _ _ hid)

omit [DurableStore σ] in
@[simp] lemma publishRegion_inFlight (frame : PublishFrame) :
    (e.publishRegion frame).inFlightPublications = e.inFlightPublications := by
  unfold publishRegion
  split <;> rfl

lemma markRegionStale_eq (version : VersionId) (except id : RegionId) :
    ∃ regions p, e.markRegionStale version except id =
        (e.withRecords { e.toRecords with regions := regions }).withPersistence p ∧
      Lockstep (fun payload => ∃ region, payload = .upsertRegion region) False
        e.toPersistence p := by
  unfold markRegionStale
  split
  · exact ⟨_, _, rfl, .refl⟩
  split
  · exact ⟨_, _, rfl, .refl⟩
  · split
    · exact ⟨_, _, rfl, lockstep_append fun _ => ⟨_, rfl⟩⟩
    · exact ⟨_, _, rfl, .refl⟩

/-- The marking of replicas writes regions and journals each one it has written. -/
lemma markRegions_eq (version : VersionId) (except : RegionId) (ids : List RegionId) :
    ∀ e : Impl σ, ∃ regions p, ids.foldl (markRegionStale version except) e =
        (e.withRecords { e.toRecords with regions := regions }).withPersistence p ∧
      Lockstep (fun payload => ∃ region, payload = .upsertRegion region) False
        e.toPersistence p := by
  induction ids with
  | nil => exact fun _ => ⟨_, _, rfl, .refl⟩
  | cons id rest ih =>
    intro e
    obtain ⟨regions, p, heq, hfirst⟩ := markRegionStale_eq (e := e) version except id
    obtain ⟨regions', p', heq', hrest⟩ := ih (e.markRegionStale version except id)
    rw [List.foldl_cons, heq', heq]
    rw [heq] at hrest
    exact ⟨_, _, rfl, hfirst.trans hrest⟩

lemma markRegionsStaleLocked_eq (object : ObjectId) (version : VersionId) (except : RegionId) :
    ∃ regions p, e.markRegionsStaleLocked object version except =
        (e.withRecords { e.toRecords with regions := regions }).withPersistence p ∧
      Lockstep (fun payload => ∃ region, payload = .upsertRegion region) False
        e.toPersistence p := by
  unfold markRegionsStaleLocked
  split
  · exact ⟨_, _, rfl, .refl⟩
  · exact markRegions_eq ..

@[simp] lemma markRegionsStaleLocked_inFlight (object : ObjectId) (version : VersionId)
    (except : RegionId) : (e.markRegionsStaleLocked object version except).inFlightPublications =
      e.inFlightPublications := by
  obtain ⟨regions, p, heq, -⟩ := markRegionsStaleLocked_eq (e := e) object version except
  rw [heq]
  rfl

omit [DurableStore σ] in
@[simp] lemma applyDurable_inFlight (entry : JournalEntry) :
    (e.applyDurable entry).2.inFlightPublications = e.inFlightPublications := by
  unfold applyDurable
  split <;> rfl

lemma commitPublication_evolved (h : Evolved s (.publishCommit index) e)
    (hready : s.ready index = some frame) {object}
    (htarget : s.engine.commitTarget frame = some object)
    (hobject : s.engine.objects[frame.pending.object]? = some object)
    (hregions : e.regions = s.engine.regions) (hinFlight : e.inFlightPublications =
      s.engine.inFlightPublications.erase frame.pending.id) :
    Evolved s (.publishCommit index) (e.commitPublication frame object).2 := by
  unfold commitPublication
  set bound := if e.tick.config.maxRetainedRequestsPerObject = 0 then 1
    else e.tick.config.maxRetainedRequestsPerObject
  set committed := object.commit frame.pending frame.pending.writer frame.pending.writerBoot bound
    e.tick.sequence
  have ho : ObjectDerives s (.publishCommit index) frame.pending.object committed :=
    .old hobject (.single (.commit hready htarget))
  have h₁ := publishRegion_evolved ((evolved_tick.mpr h).setObject ho) hready (by simp [htarget])
    hregions
  have h₂ := markRegionsStaleLocked_evolved h₁ committed.id frame.pending.version frame.region
  have hcleared : Cleared s (.publishCommit index) object.id := .commit hready hobject
  have h₃ := h₂.appendManyLocked (commitEntries_journalled h₂ ho hcleared)
  refine (evolved_recordDecision.mpr h₃).maybeCompactLocked fun hempty => ⟨frame, hready, ?_⟩
  rw [recordDecision_inFlight, appendManyLocked_inFlight, markRegionsStaleLocked_inFlight,
    publishRegion_inFlight] at hempty
  rw [← hinFlight]
  exact hempty

theorem publishCommit_evolved (hready : s.ready index = some frame) :
    Evolved s (.publishCommit index) (s.engine.publishCommit frame).2 := by
  unfold publishCommit
  dsimp only
  have h₀ : Evolved s (.publishCommit index)
      (s.engine.withInFlight (s.engine.inFlightPublications.erase frame.pending.id)) :=
    (evolved_withInFlight (.inr rfl)).mpr .init
  split
  · exact h₀
  rename_i object hobject
  change s.engine.objects[frame.pending.object]? = some object at hobject
  have ho : ObjectDerives s (.publishCommit index) frame.pending.object object.abortPending :=
    .old hobject (.single .abort)
  split
  · rw [evolved_recordDecision]
    exact h₀.setObject ho
  rename_i hstatus
  have h₁ : Evolved s (.publishCommit index)
      (if frame.durableRequired = true then (s.engine.withInFlight
        (s.engine.inFlightPublications.erase frame.pending.id)).applyPending frame
      else s.engine.withInFlight (s.engine.inFlightPublications.erase frame.pending.id)) := by
    split
    · exact applyPending_evolved h₀ hready
    · exact h₀
  split
  · rw [evolved_recordDecision]
    exact clearPending_evolved (h₁.setObject ho) (.commit hready hobject)
  rename_i hholds
  have htarget : s.engine.commitTarget frame = some object := by
    simp only [Bool.not_eq_true', Bool.not_eq_false] at hstatus hholds
    simp [commitTarget, hstatus, hobject, hholds]
  refine commitPublication_evolved h₁ hready htarget hobject ?_ ?_
  · split <;> simp [applyPending, applyDurable]
    split <;> rfl
  · split <;> simp [applyPending]

end Commit

/-! ### Synchronization -/

theorem beginSync_evolved (request : SyncRequest) :
    Evolved s (.beginSync request) (s.engine.beginSync request).2 := by
  unfold beginSync
  dsimp only
  have h₀ := Evolved.decided s (.beginSync request)
  split
  · exact .init
  · exact h₀
  rename_i object participant hgranted
  split
  · exact h₀
  rename_i source destination hallowed
  obtain ⟨hfound, hlive, -, -⟩ := beginSyncRefusal_ok hallowed
  set record := s.engine.takeDecisionId.tick.newSync request object source destination
  have hs := (NewSync.begin s.engine.takeDecisionId.tick hgranted hallowed rfl).derives
  have hr : RegionDerives s (.beginSync request) request.destinationRegion
      (destination.requestSync record.id source.id s.engine.takeDecisionId.tick.sequence) :=
    .old hfound (.single (.requestSync hfound hlive))
  have h₁ : Evolved s (.beginSync request) s.engine.takeDecisionId.tick.takeSyncId :=
    Evolved.withCounters (evolved_tick.mpr h₀)
  have h := (h₁.setRegion hr).appendManyLocked (forall_mem_two (.sync hs) (.region hr))
  split
  · exact h
  · rw [evolved_recordDecision]
    exact h.setSync hs

section Complete

variable {request : SyncCompleteRequest} {record : SyncRecord} {destination : RegionRecord}

lemma settleSync_evolved (h : Evolved s (.completeSync request) e)
    (hs : SyncDerives s (.completeSync request) request.operation record)
    (hr : RegionDerives s (.completeSync request) record.destinationRegion destination) :
    Evolved s (.completeSync request) (e.settleSync request record destination).2 :=
  ((h.setSync hs).setRegion hr).appendManyLocked (forall_mem_two (.sync hs) (.region hr))

variable (h : Evolved s (.completeSync request) e)
  (hs : SyncDerives s (.completeSync request) request.operation record)
include h hs

lemma completeRetired_evolved (outcome : SyncOutcome) :
    Evolved s (.completeSync request) (e.completeRetired request record outcome).2 := by
  unfold completeRetired
  dsimp only
  have hs' := hs.tail (show SyncStep s (.completeSync request) request.operation record
    (record.settle .cancelled retiredReason e.tick.sequence) from .settle (.inl rfl))
  have h := ((evolved_tick.mpr h).setSync hs').appendManyLocked (forall_mem_one (.sync hs'))
  split
  · exact h
  · simpa using h

variable (hfound : s.engine.regions[request.destinationRegion]? = some destination)
  (hlive : destination.lifecycle ≠ .retired)
  (hregion : request.destinationRegion = record.destinationRegion)
include hfound hlive hregion

lemma completeStale_evolved (outcome : SyncOutcome) :
    Evolved s (.completeSync request) (e.completeStale request record destination outcome).2 := by
  unfold completeStale
  dsimp only
  have hs' := hs.tail (show SyncStep s (.completeSync request) request.operation record
    (record.settle .failed advancedReason e.tick.sequence) from .settle (.inr (.inl rfl)))
  have hr : RegionDerives s (.completeSync request) record.destinationRegion
      (destination.refuseSync .stale
        (text "synchronization completed against a superseded version " ++
        record.sourceVersion.toText) e.tick.sequence) :=
    .old (hregion ▸ hfound) (.single (.completeStale hfound hlive))
  have h := settleSync_evolved (evolved_tick.mpr h) hs' hr
  split
  · exact h
  · rw [evolved_recordDecision]
    exact h

lemma completeUnmoved_evolved (outcome : SyncOutcome) : Evolved s (.completeSync request)
      (e.completeUnmoved request record destination outcome).2 := by
  unfold completeUnmoved
  have hs' := hs.tail (show SyncStep s (.completeSync request) request.operation record
    (record.settle .failed unmovedReason e.tick.sequence) from
      .settle (.inr (.inr (.inl rfl))))
  have hr : RegionDerives s (.completeSync request) record.destinationRegion
      (destination.refuseSync .syncRequired unmovedReason e.tick.sequence) :=
    .old (hregion ▸ hfound) (.single (.completeUnmoved hfound hlive))
  exact settleSync_evolved (evolved_tick.mpr h) hs' hr

lemma completeMismatch_evolved (outcome : SyncOutcome) : Evolved s (.completeSync request)
      (e.completeMismatch request record destination outcome).2 := by
  unfold completeMismatch
  dsimp only
  have hs' := hs.tail (show SyncStep s (.completeSync request) request.operation record
    (record.settle .failed (mismatchReason request record) e.tick.sequence) from
      .settle (.inr (.inr (.inr rfl))))
  have hr : RegionDerives s (.completeSync request) record.destinationRegion
      (destination.refuseSync .revalidationRequired (mismatchReason request record)
        e.tick.sequence) :=
    .old (hregion ▸ hfound) (.single (.completeMismatch hfound hlive))
  have h := settleSync_evolved (evolved_tick.mpr h) hs' hr
  split
  · exact h
  · rw [evolved_recordDecision]
    exact h

lemma completeCurrent_evolved (object : ObjectRecord) (outcome : SyncOutcome) :
    Evolved s (.completeSync request)
      (e.completeCurrent request record object destination outcome).2 := by
  unfold completeCurrent
  dsimp only
  have hs' := hs.tail (show SyncStep s (.completeSync request) request.operation record
    (record.complete e.tick.sequence) from .complete)
  have hr : RegionDerives s (.completeSync request) record.destinationRegion
      (destination.completeSync (record.complete e.tick.sequence) object.ownershipGeneration
        request.observedContent ⟨e.tick.nextEvidenceId⟩ e.tick.sequence) :=
    .old (hregion ▸ hfound) (.single (.completeSync hfound hlive))
  have h₀ := evolved_takeEvidenceId.mpr (evolved_tick.mpr h)
  have h := settleSync_evolved h₀ hs' hr
  split
  · exact h
  · rw [evolved_recordDecision]
    exact h

end Complete

theorem completeSync_evolved (request : SyncCompleteRequest) :
    Evolved s (.completeSync request) (s.engine.completeSync request).2 := by
  unfold completeSync
  dsimp only
  have h₀ := Evolved.decided s (.completeSync request)
  split
  · exact .init
  rename_i record hrecord
  have hs : SyncDerives s (.completeSync request) request.operation record := .old hrecord .refl
  split
  · exact h₀
  split
  · exact h₀
  split
  · exact h₀
  split
  · exact h₀
  rename_i hrefusal
  obtain ⟨-, -, -, -, hregion, -⟩ := completeSyncRefusal_none hrefusal
  split
  · exact h₀
  rename_i destination hfound
  rw [← hregion] at hfound
  split
  · exact completeRetired_evolved h₀ hs _
  rename_i hlive
  have hlive : destination.lifecycle ≠ .retired := fun hr => hlive (.inl hr)
  split
  · exact completeStale_evolved h₀ hs hfound hlive hregion _
  split
  · exact completeUnmoved_evolved h₀ hs hfound hlive hregion _
  · split
    · exact completeMismatch_evolved h₀ hs hfound hlive hregion _
    · exact completeCurrent_evolved h₀ hs hfound hlive hregion _ _

/-! ### Failure and revalidation -/

theorem failSync_evolved (request : SyncFailRequest) :
    Evolved s (.failSync request) (s.engine.failSync request).2 := by
  unfold failSync
  dsimp only
  have h₀ := Evolved.decided s (.failSync request)
  split
  · exact .init
  rename_i record hrecord
  split
  · exact h₀
  rename_i hcompleted
  split
  · exact h₀
  rename_i hcaller
  set failed := record.settle (if request.outcomeUnknown = true then .outcomeUnknown
    else .failed) (failureReason request) s.engine.takeDecisionId.tick.sequence
  have hs : SyncDerives s (.failSync request) request.operation failed :=
    .old hrecord (.single .fail)
  have h : Evolved s (.failSync request)
      (s.engine.takeDecisionId.tick.recordSyncFailure request failed).2 := by
    unfold recordSyncFailure
    dsimp only
    have h₁ := (evolved_tick.mpr h₀).setSync hs
    split
    · rename_i destination hfound
      change s.engine.regions[record.destinationRegion]? = some destination at hfound
      have happlied : s.engine.failedRegion request = some destination := by
        simp only [not_or, not_not] at hcaller
        simp [failedRegion, hrecord, hcompleted, hcaller, hfound]
      have hr : RegionDerives s (.failSync request) failed.destinationRegion
          (destination.refuseSync (failedDestination request).1
            (failedDestination request).2 s.engine.takeDecisionId.tick.sequence) :=
        .old hfound (.single (.failSync happlied))
      exact (h₁.setRegion hr).appendManyLocked (forall_mem_two (.sync hs) (.region hr))
    · exact h₁.appendManyLocked (forall_mem_one (.sync hs))
  split
  · exact h
  · rw [evolved_recordDecision]
    exact h

theorem revalidateRegion_evolved (request : RevalidateRequest) :
    Evolved s (.revalidateRegion request) (s.engine.revalidateRegion request).2 := by
  unfold revalidateRegion
  dsimp only
  split
  · exact .init
  rename_i object participant hgranted
  split
  · exact .init
  rename_i region hregion
  obtain ⟨hfound, hlive, -⟩ := revalidateRefusal_ok hregion
  have hr : RegionDerives s (.revalidateRegion request) request.region
      (region.revalidate request object.authoritativeVersion object.ownershipGeneration
        ⟨s.engine.tick.nextEvidenceId⟩ s.engine.tick.sequence) :=
    .old hfound (.single (.revalidate hlive))
  have h₀ : Evolved s (.revalidateRegion request) s.engine.tick.takeEvidenceId :=
    evolved_takeEvidenceId.mpr (evolved_tick.mpr .init)
  have h := (h₀.setRegion hr).appendLocked (.region hr)
  split
  · exact h
  · simp only [evolved_recordDecision, evolved_takeDecisionId]
    exact h

end CoherenceFabric
