import CoherenceFabric.Effects.Combinators

/-!
What reads, writes, releases and invalidations do, as evolutions.
-/

namespace CoherenceFabric

open FiniteMap Relation Impl

variable {σ : Type} {s : Sys σ} {a : Action} {e : Impl σ}

/-! ### Reads -/

lemma recoverableSource_object (object : ObjectRecord) (region : RegionRecord) :
    ∃ id, (e.recoverableSource object region).2 =
      { object with preferredCurrentReplica := id } := by
  unfold recoverableSource
  dsimp only
  repeat' split
  all_goals exact ⟨_, rfl⟩

lemma decideRead_inFlight (request : ReadRequest) (object : ObjectRecord)
    (policy : CoherencePolicy) (region : RegionRecord) (createLease : Bool)
    (decision : ReadDecision) :
    (e.decideRead request object policy region createLease decision).2.inFlightPublications =
      e.inFlightPublications := by
  unfold decideRead
  dsimp only
  repeat' split
  all_goals simp

lemma computeReadLocked_inFlight (request : ReadRequest) (createLease : Bool) :
    (e.computeReadLocked request createLease).2.inFlightPublications = e.inFlightPublications := by
  unfold computeReadLocked
  dsimp only
  repeat' split
  all_goals simp [decideRead_inFlight]

variable [DurableStore σ] {object : ObjectRecord} {createLease : Bool} {record : InvalidationRecord}
  {seq : OperationSequence}

lemma decideRead_evolved (h : Evolved s a e) {request} (policy : CoherencePolicy)
    (region : RegionRecord) (decision : ReadDecision)
    (ho : ObjectDerives s a request.context.object object)
    (hlease : createLease = true → a = .acquireRead request) :
    Evolved s a (e.decideRead request object policy region createLease decision).2 := by
  unfold decideRead
  dsimp only
  split
  · exact h
  split
  · split
    · exact h
    · rename_i hcreate
      obtain rfl := hlease (by simpa using hcreate)
      exact (Evolved.withCounters (evolved_tick.mpr h)).setObject
        (ho.tail (.addReadGrant e.tick))
  repeat' split
  all_goals try exact h
  obtain ⟨id, hid⟩ := recoverableSource_object object region
  rw [hid]
  exact h.setObject (ho.tail .prefer)

lemma computeReadLocked_evolved {request} (hlease : createLease = true → a = .acquireRead request) :
    Evolved s a (s.engine.computeReadLocked request createLease).2 := by
  unfold computeReadLocked
  dsimp only
  split
  · simpa using Evolved.init
  rename_i object participant hgranted
  have hfound := resolveLocked_found hgranted
  have h₀ := Evolved.decided s a
  split
  · simpa using h₀
  split
  · simpa using h₀
  obtain ⟨id, hid⟩ := selectReadRegionLocked_object object
    request.region
  rw [hid]
  have ho : ObjectDerives s a request.context.object
      { object with preferredCurrentReplica := id } := .old hfound (.single .prefer)
  have h := h₀.setObject ho
  split
  · simpa using h
  split
  · simpa using h
  · split
    · simpa using h
    · simpa using decideRead_evolved h _ _ _ ho hlease

theorem acquireRead_evolved (request : ReadRequest) :
    Evolved s (.acquireRead request) (s.engine.acquireRead request).2 := by
  unfold acquireRead
  dsimp only
  have h : Evolved s (.acquireRead request) (s.engine.computeReadLocked request true).2 :=
    computeReadLocked_evolved fun _ => rfl
  split
  · refine h.maybeCompactLocked fun hempty => ?_
    rwa [computeReadLocked_inFlight] at hempty
  · exact h

theorem explainRead_evolved (request : ReadRequest) :
    Evolved s (.explainRead request) (s.engine.explainRead request).2 :=
  computeReadLocked_evolved (by simp)

/-! ### Write authority -/

omit [DurableStore σ] in
lemma mem_transferInvalidations {ownership regions} : ∀ {next : UInt64},
    record ∈ e.transferInvalidations object ownership next regions →
      ∃ index < regions.length, ∃ region ∈ regions,
        record = e.transferInvalidation object ownership ⟨next + UInt64.ofNat index⟩ region := by
  induction regions with
  | nil => simp [transferInvalidations]
  | cons region rest ih =>
    intro next hmem
    rcases List.mem_cons.mp hmem with rfl | hmem
    · exact ⟨0, by simp, region, List.mem_cons_self .., by simp⟩
    · obtain ⟨index, hindex, region', hregion, rfl⟩ := ih hmem
      refine ⟨index + 1, by simpa using hindex, region', List.mem_cons_of_mem _ hregion, ?_⟩
      rw [UInt64.ofNat_add, UInt64.add_comm (UInt64.ofNat index), ← UInt64.add_assoc]
      rfl

omit [DurableStore σ] in
lemma issueInvalidation_evolve {r} (h : RecordsEvolve s a r)
    (hnew : NewInvalidation s a record.id record) (seq : OperationSequence) :
    RecordsEvolve s a (issueInvalidation seq r record) := by
  unfold issueInvalidation
  dsimp only
  have hi := h.invalidations.put hnew.derives
  split
  · exact { h with invalidations := hi }
  · rename_i region found
    exact { h with invalidations := hi, regions := h.regions.set found .await }

omit [DurableStore σ] in
lemma issueAll_evolve {required : List InvalidationRecord} : ∀ {r : Records}, RecordsEvolve s a r →
      (∀ record ∈ required, NewInvalidation s a record.id record) →
      RecordsEvolve s a (required.foldl (issueInvalidation seq) r) := by
  induction required with
  | nil => exact fun h _ => h
  | cons record rest ih =>
    intro r h hnew
    exact ih (issueInvalidation_evolve h (hnew record (List.mem_cons_self ..)) seq)
      fun x hx => hnew x (List.mem_cons_of_mem _ hx)

section Write

variable {request : WriteRequest} {object : ObjectRecord}

omit [DurableStore σ] in
lemma mem_conflictingRegions {id region} (h : region ∈ e.conflictingRegions object id) :
    ∃ id : RegionId, e.regions[id]? = some region := by
  unfold conflictingRegions at h
  obtain ⟨id, -, hid⟩ := List.mem_filterMap.mp (List.mem_of_mem_filter h)
  exact ⟨id, hid⟩

omit [DurableStore σ] in
lemma length_conflictingRegions (id : RegionId) :
    (e.conflictingRegions object id).length ≤ object.replicas.length :=
  (List.length_filter_le ..).trans (List.length_filterMap_le ..)

variable (hfound : s.engine.objects[request.context.object]? = some object)
include hfound

lemma transferWrite_evolved (hidle : object.authority ≠ .transferPending)
    (hsettled : object.publicationState ≠ .pendingDurable) (context : DecisionContext)
    (boot : ParticipantBootId) (replica : RegionId) (grant : WriteGrant) :
    Evolved s (.acquireWrite request) (s.engine.takeDecisionId.transferWrite request.context context
      object boot (s.engine.takeDecisionId.conflictingRegions object replica) grant).2 := by
  unfold transferWrite
  dsimp only
  set e := s.engine.takeDecisionId.tick
  set required := e.transferInvalidations object object.ownershipGeneration.next
    e.nextInvalidationId (s.engine.takeDecisionId.conflictingRegions object replica)
  have hnew : ∀ record ∈ required, NewInvalidation s (.acquireWrite request) record.id record := by
    intro record hmem
    obtain ⟨index, hindex, region, hregion, rfl⟩ := mem_transferInvalidations hmem
    obtain ⟨id, hid⟩ := mem_conflictingRegions hregion
    refine .transfer e index ?_ rfl hid
    simpa [replicaCount, hfound] using hindex.trans_le (length_conflictingRegions _)
  have ho : ObjectDerives s (.acquireWrite request) request.context.object
      (object.grantWrite request.context.participant boot required e.sequence) :=
    .old hfound (.single (.grantWrite hfound hidle hsettled))
  have hentries : ∀ payload ∈ JournalPayload.upsertObject (scrubObjectForPersistence
      (object.grantWrite request.context.participant boot required e.sequence)) ::
        required.map JournalPayload.upsertInvalidation,
      Journalled s (.acquireWrite request) payload := by
    refine List.forall_mem_cons.mpr ⟨.object ho, fun payload hmem => ?_⟩
    obtain ⟨record, hrecord, rfl⟩ := List.mem_map.mp hmem
    exact .invalidation (hnew record hrecord).derives
  have h := (((Evolved.decided ..).issuing rfl required.length).setObject ho).appendManyLocked
    hentries
  split
  · exact h.setObject (ho.tail .rollbackWrite)
  · rw [evolved_recordDecision]
    exact h.withRecords (issueAll_evolve h.records hnew)

lemma resumeTransfer_evolved (context : DecisionContext) (grant : WriteGrant) :
    Evolved s (.acquireWrite request)
      (s.engine.takeDecisionId.resumeTransfer request.context context object grant).2 := by
  unfold resumeTransfer
  dsimp only
  have h₀ := Evolved.decided s (.acquireWrite request)
  split
  · simpa using h₀
  rename_i hsettled
  have ho : ObjectDerives s (.acquireWrite request) request.context.object
      { object with authority := .exclusiveWriter } :=
    .old hfound (.single (.promote hfound (Bool.eq_false_iff.mpr hsettled)))
  have h := (h₀.setObject ho).appendLocked (.object ho)
  split
  · exact h
  · simpa using h

lemma acquireWriteAuthority_evolved {participant}
    (hsettled : object.publicationState ≠ .pendingDurable) (context : DecisionContext)
    (policy : CoherencePolicy) (region : Option RegionRecord) (grant : WriteGrant) :
    Evolved s (.acquireWrite request) (s.engine.takeDecisionId.acquireWriteAuthority request
      context policy object participant region grant).2 := by
  unfold acquireWriteAuthority
  dsimp only
  have h₀ := Evolved.decided s (.acquireWrite request)
  split
  · simpa using h₀
  split
  · split
    · exact resumeTransfer_evolved hfound _ _
    · simpa using h₀
  rename_i hidle
  split
  · simpa using h₀
  split
  · simpa using h₀
  split
  · simpa using h₀
  · exact transferWrite_evolved hfound hidle hsettled _ _ _ _

omit hfound in
theorem acquireWrite_evolved (request : WriteRequest) :
    Evolved s (.acquireWrite request) (s.engine.acquireWrite request).2 := by
  unfold acquireWrite
  dsimp only
  have h₀ := Evolved.decided s (.acquireWrite request)
  split
  · simpa using h₀
  rename_i object participant hgranted
  have hfound := resolveLocked_found hgranted
  split
  · exact h₀
  split
  · simpa using h₀
  rename_i hrefusal
  have hsettled := (writeRefusal_none hrefusal).1
  split
  · simpa using h₀
  · exact acquireWriteAuthority_evolved hfound hsettled _ _ _ _
  split
  · simpa using h₀
  · exact acquireWriteAuthority_evolved hfound hsettled _ _ _ _

end Write

/-! ### The dirty mark -/

theorem markDirty_evolved (request : DirtyRequest) :
    Evolved s (.markDirty request) (s.engine.markDirty request).2 := by
  unfold markDirty
  dsimp only
  have h₀ := Evolved.decided s (.markDirty request)
  split
  · simpa using h₀
  rename_i object participant hgranted
  split
  · simpa using h₀
  rename_i region hregion
  have ho : ObjectDerives s (.markDirty request) request.context.object
      (object.markDirty s.engine.takeDecisionId.tick.sequence) :=
    .old (resolveLocked_found hgranted) (.single .markDirty)
  have hr : RegionDerives s (.markDirty request) request.region
      (region.markDirty request object.ownershipGeneration
        s.engine.takeDecisionId.tick.sequence) :=
    .old (markDirtyRefusal_ok hregion).1 (.single (.markDirty hgranted hregion))
  have h := (((evolved_tick.mpr h₀).setObject ho).setRegion hr).appendManyLocked
    (forall_mem_two (.object ho) (.region hr))
  split
  · exact h
  · simpa using h

/-! ### Release -/

section Release

variable {request : ReleaseRequest} {object : ObjectRecord}

lemma releaseLease_evolved (h : Evolved s (.release request) e)
    (ho : ObjectDerives s (.release request) request.context.object object)
    (outcome : ReleaseOutcome) :
    Evolved s (.release request) (e.releaseLease request object outcome).2 := by
  unfold releaseLease
  dsimp only
  split
  · exact h
  split
  · exact h
  rename_i index _ _
  have h₁ := ho.tail (show ObjectStep s (.release request) _ object (object.releaseAt index)
    from .setReads)
  set released := e.setObject request.context.object (object.releaseAt index)
  have hreleased := h.setObject h₁
  have h₂ := (hreleased.recompute nofun getElem?_insert_self).tail
    (show ObjectStep s (.release request) _ _
      { released.recomputeAuthorityLocked (object.releaseAt index) with
        updatedSequence := released.sequence } from .touch)
  have h := (hreleased.setObject h₂).appendManyLocked (forall_mem_one (.object h₂))
  split
  · exact h
  · simpa using h

omit [DurableStore σ] in
lemma discardEach_evolve {replicas : List RegionId} : ∀ {acc : List JournalPayload × Records},
      RecordsEvolve s (.release request) acc.2 →
      (∀ payload ∈ acc.1, Journalled s (.release request) payload) →
      RecordsEvolve s (.release request)
        (replicas.foldl (fun acc id => discardReplica acc seq id) acc).2 ∧
      ∀ payload ∈ (replicas.foldl (fun acc id => discardReplica acc seq id) acc).1,
        Journalled s (.release request) payload := by
  induction replicas with
  | nil => exact fun h hq => ⟨h, hq⟩
  | cons id rest ih =>
    intro acc h hq
    rw [List.foldl_cons]
    suffices hstep : RecordsEvolve s (.release request) (discardReplica acc seq id).2 ∧
        ∀ payload ∈ (discardReplica acc seq id).1, Journalled s (.release request) payload from
      ih hstep.1 hstep.2
    unfold discardReplica
    split
    · exact ⟨h, hq⟩
    rename_i region found
    split
    · exact ⟨h, hq⟩
    rename_i hdirty
    have hr := (h.regions.origin _ _ found).tail
      (show RegionStep s (.release request) region (region.discardDirty seq) from
        .discard (not_not.mp hdirty))
    exact ⟨{ h with regions := h.regions.put hr },
      forall_mem_append hq (forall_mem_one (.region hr))⟩

omit [DurableStore σ] in
lemma discardReplicas_evolve (h : RecordsEvolve s (.release request) e.toRecords)
    (object : ObjectRecord) : RecordsEvolve s (.release request) (e.discardReplicas object).2 ∧
      ∀ payload ∈ (e.discardReplicas object).1, Journalled s (.release request) payload := by
  unfold discardReplicas
  split
  · exact discardEach_evolve h (by simp)
  · exact ⟨h, by simp⟩

omit [DurableStore σ] in
lemma relinquish_derives (ho : ObjectDerives s (.release request) request.context.object object) :
    ObjectDerives s (.release request) request.context.object (e.relinquish object) := by
  unfold relinquish
  have h := ho.tail .releaseWriter
  split
  · exact h.tail .releaseDirty
  · exact h

lemma releaseAuthority_evolved (h : Evolved s (.release request) e)
    (ho : ObjectDerives s (.release request) request.context.object object)
    (outcome : ReleaseOutcome) :
    Evolved s (.release request) (e.releaseAuthority request object outcome).2 := by
  unfold releaseAuthority
  dsimp only
  obtain ⟨hr, hentries⟩ := discardReplicas_evolve
    (evolved_tick.mpr h).records object
  have h₁ := relinquish_derives (e := e.tick) ho
  set released := e.tick.withRecords ((e.tick.discardReplicas object).2.setObject
    request.context.object (e.tick.relinquish object))
  have hreleased : Evolved s (.release request) released :=
    (evolved_tick.mpr h).withRecords { hr with objects := hr.objects.put h₁ }
  have h₂ := (hreleased.recompute nofun getElem?_insert_self).tail
    (show ObjectStep s (.release request) _ _
      { released.recomputeAuthorityLocked (e.tick.relinquish object) with
        updatedSequence := released.sequence } from .touch)
  have h := (hreleased.setObject h₂).appendManyLocked
    (forall_mem_append hentries (forall_mem_one (.object h₂)))
  split
  · exact h
  · simpa using h

theorem release_evolved (request : ReleaseRequest) :
    Evolved s (.release request) (s.engine.release request).2 := by
  unfold release
  dsimp only
  split
  · exact .init
  · exact .decided ..
  rename_i object participant hgranted
  have ho : ObjectDerives s (.release request) request.context.object object :=
    .old (resolveLocked_found hgranted) .refl
  have h₀ := Evolved.decided s (.release request)
  split
  · exact releaseLease_evolved h₀ ho _
  split
  · exact h₀
  split
  · exact h₀
  · split
    · exact h₀
    · exact releaseAuthority_evolved h₀ ho _

end Release

/-! ### Invalidation -/

section Invalidate

variable {request : InvalidationRequest} {object : ObjectRecord} {region : RegionRecord}

variable (hregion : s.engine.regions[request.targetRegion]? = some region)
include hregion

lemma invalidateInert_evolved (context : DecisionContext) : Evolved s (.invalidate request)
    (s.engine.takeDecisionId.invalidateInert request context object region).2 := by
  unfold invalidateInert
  dsimp only
  set e := s.engine.takeDecisionId.tick
  have hi : InvalidationDerives s (.invalidate request) ⟨e.nextInvalidationId⟩
      (e.inertInvalidation request object region) :=
    (NewInvalidation.inert e rfl hregion).derives
  have h := ((Evolved.decided ..).issuing rfl 1).appendLocked (.invalidation hi)
  split
  · exact h
  · rw [evolved_recordDecision]
    exact h.setInvalidation hi

variable (ho : ObjectDerives s (.invalidate request) request.context.object object)
include ho

lemma invalidateNow_evolved (hlive : region.lifecycle ≠ .retired)
    (hack : request.acknowledgementRequired = false) (context : DecisionContext) :
    Evolved s (.invalidate request)
      (s.engine.takeDecisionId.invalidateNow request context object region).2 := by
  unfold invalidateNow
  dsimp only
  set e := s.engine.takeDecisionId.tick
  set record := e.settledInvalidation request object region
  have hnew : NewInvalidation s (.invalidate request) ⟨e.nextInvalidationId⟩ record :=
    .settled e rfl hregion
  have hi := hnew.derives
  have hrequested : InvalidationDerives s (.invalidate request) ⟨e.nextInvalidationId⟩
      (e.newInvalidation request object region) :=
    (NewInvalidation.requested e rfl hregion).derives
  have hr : RegionDerives s (.invalidate request) request.targetRegion
      (region.invalidate record.id e.sequence) :=
    .old hregion (.single (.invalidate hregion hlive hack))
  have ho₁ : ObjectDerives s (.invalidate request) request.context.object
      ((object.addOutstanding record.id e.sequence).dropOutstanding record.id) :=
    (ho.tail .addOutstanding).tail (.dropIssued hnew)
  have h₁ := (((Evolved.decided ..).issuing rfl 1).setObject ho₁).setRegion hr
  have ho₂ := h₁.recompute nofun getElem?_insert_self
  have h := (h₁.setObject ho₂).appendManyLocked
    (forall_mem_append (forall_mem_two (.invalidation hrequested) (.invalidation hi))
      (forall_mem_two (.region hr) (.object ho₂)))
  split
  · exact h
  · rw [evolved_recordDecision]
    exact h.setInvalidation hi

lemma invalidateLater_evolved (context : DecisionContext) : Evolved s (.invalidate request)
    (s.engine.takeDecisionId.invalidateLater request context object region).2 := by
  unfold invalidateLater
  dsimp only
  set e := s.engine.takeDecisionId.tick
  set record := e.newInvalidation request object region
  have hi : InvalidationDerives s (.invalidate request) ⟨e.nextInvalidationId⟩ record :=
    (NewInvalidation.requested e rfl hregion).derives
  have hr : RegionDerives s (.invalidate request) request.targetRegion
      (region.awaitInvalidation record.id e.sequence) := .old hregion (.single .await)
  have ho₁ : ObjectDerives s (.invalidate request) request.context.object
      (object.addOutstanding record.id e.sequence) := ho.tail .addOutstanding
  have h := ((((Evolved.decided ..).issuing rfl 1).setObject ho₁).setRegion hr).appendManyLocked
    (forall_mem_append (forall_mem_two (.invalidation hi) (.region hr))
      (forall_mem_one (.object ho₁)))
  split
  · exact h
  · rw [evolved_recordDecision]
    exact h.setInvalidation hi

end Invalidate

theorem invalidate_evolved (request : InvalidationRequest) :
    Evolved s (.invalidate request) (s.engine.invalidate request).2 := by
  unfold invalidate
  dsimp only
  split
  · exact .init
  rename_i object hresolved
  have ho : ObjectDerives s (.invalidate request) request.context.object object :=
    .old (resolveInternalLocked_ok hresolved).2.2.1 .refl
  have h₀ := Evolved.decided s (.invalidate request)
  split
  · exact h₀
  rename_i region hregion
  have hfound := (invalidateRefusal_ok hregion).1
  split
  · exact invalidateInert_evolved hfound _
  rename_i hlive
  split
  · exact h₀
  split
  · exact invalidateLater_evolved hfound ho _
  · rename_i hack
    exact invalidateNow_evolved hfound ho (fun hr => hlive (.inl hr))
      (by simpa using hack) _

/-! ### Acknowledgement -/

section Acknowledge

variable {ack : InvalidationAck} {object : ObjectRecord} {record : InvalidationRecord}

lemma settleInvalidation_evolved (h : Evolved s (.acknowledgeInvalidation ack) e) {record'}
    (hfound : s.engine.invalidations[ack.invalidation]? = some record)
    (hi : InvalidationStep s (.acknowledgeInvalidation ack) ack.invalidation record record')
    (ho : ObjectDerives s (.acknowledgeInvalidation ack) ack.context.object object) :
    Evolved s (.acknowledgeInvalidation ack) (e.settleInvalidation ack record' object).2 ∧
      ObjectDerives s (.acknowledgeInvalidation ack) ack.context.object
        (e.settleInvalidation ack record' object).1 := by
  unfold settleInvalidation
  have ho₁ := ho.tail (.dropSettled hfound hi)
  have h₁ := (h.setInvalidation (.old hfound (.single hi))).setObject ho₁
  have ho₂ := h₁.recompute nofun getElem?_insert_self
  exact ⟨h₁.setObject ho₂, ho₂⟩

variable (h : Evolved s (.acknowledgeInvalidation ack) e)
  (hfound : s.engine.invalidations[ack.invalidation]? = some record)
  (ho : ObjectDerives s (.acknowledgeInvalidation ack) ack.context.object object)
include h hfound ho

lemma acknowledgeMissing_evolved (habsent : s.engine.regions[record.region]? = none)
    (outcome : InvalidationOutcome) : Evolved s (.acknowledgeInvalidation ack)
      (e.acknowledgeMissing ack record object outcome).2 := by
  unfold acknowledgeMissing
  dsimp only
  have hi : InvalidationStep s (.acknowledgeInvalidation ack) ack.invalidation record
    (record.supersede missingTarget e.sequence) := .missing habsent
  have h := (settleInvalidation_evolved h hfound hi ho).1.appendLocked
    (.invalidation (.old hfound (.single hi)))
  split <;> exact h

lemma acknowledgeReplaced_evolved {region}
    (hregion : s.engine.regions[record.region]? = some region)
    (hdiffers : region.generation ≠ record.regionGeneration ∨
      region.replicaGeneration ≠ record.replicaGeneration ∨
      region.generation ≠ ack.regionGeneration ∨
      region.replicaGeneration ≠ ack.replicaGeneration) (outcome : InvalidationOutcome) :
    Evolved s (.acknowledgeInvalidation ack)
      (e.acknowledgeReplaced ack record object outcome).2 := by
  unfold acknowledgeReplaced
  dsimp only
  have hi : InvalidationStep s (.acknowledgeInvalidation ack) ack.invalidation record
    (record.supersede replacedTarget e.sequence) := .replaced hregion hdiffers
  obtain ⟨hs, ho'⟩ := settleInvalidation_evolved h hfound hi ho
  have h := hs.appendManyLocked
    (forall_mem_two (.invalidation (.old hfound (.single hi))) (.object ho'))
  split <;> exact h

lemma acknowledgeApplied_evolved {region} (hregion : s.engine.regions[record.region]? = some region)
    (happlied : s.engine.acknowledgedRegion ack = some region) (outcome : InvalidationOutcome) :
    Evolved s (.acknowledgeInvalidation ack)
      (e.acknowledgeApplied ack record object region outcome).2 := by
  unfold acknowledgeApplied
  dsimp only
  set record' := record.acknowledge (if ack.supersededVersion.defined = true then
    ack.supersededVersion else region.version) e.tick.sequence
  have hi : InvalidationStep s (.acknowledgeInvalidation ack) ack.invalidation record record' :=
    .acknowledge hregion happlied
  have hr : RegionDerives s (.acknowledgeInvalidation ack) record.region
      (region.invalidate record.id e.tick.sequence) :=
    .old hregion (.single (.acknowledge happlied))
  obtain ⟨hs, ho'⟩ := settleInvalidation_evolved ((evolved_tick.mpr h).setRegion hr) hfound hi ho
  have ho₂ := ho'.tail (show ObjectStep s (.acknowledgeInvalidation ack) _ _
    { (((e.tick.setRegion record.region (region.invalidate record.id
        e.tick.sequence))).settleInvalidation ack record' object).1 with
      updatedSequence := e.tick.sequence } from .touch)
  have h := (hs.setObject ho₂).appendManyLocked
    (forall_mem_append (forall_mem_two (.invalidation (.old hfound (.single hi))) (.region hr))
      (forall_mem_one (.object ho₂)))
  split
  · exact h
  · rw [evolved_recordDecision]
    exact h

end Acknowledge

theorem acknowledgeInvalidation_evolved (ack : InvalidationAck) :
    Evolved s (.acknowledgeInvalidation ack) (s.engine.acknowledgeInvalidation ack).2 := by
  unfold acknowledgeInvalidation
  dsimp only
  split
  · exact .init
  rename_i record hrecord
  have h₀ := Evolved.decided s (.acknowledgeInvalidation ack)
  split
  · exact h₀
  rename_i object participant hgranted
  have ho : ObjectDerives s (.acknowledgeInvalidation ack) ack.context.object object :=
    .old (resolveLocked_found hgranted) .refl
  split
  · exact h₀
  rename_i hrefusal
  split
  · exact h₀
  rename_i hacknowledged
  split
  · exact h₀
  rename_i hsuperseded
  split
  · rename_i habsent
    exact acknowledgeMissing_evolved h₀ hrecord ho habsent _
  rename_i region hregion
  split
  · rename_i hdiffers
    exact acknowledgeReplaced_evolved h₀ hrecord ho hregion hdiffers _
  rename_i hgenerations
  refine acknowledgeApplied_evolved h₀ hrecord ho hregion ?_ _
  change s.engine.regions[record.region]? = some region at hregion
  simp only [not_or, not_not] at hgenerations
  obtain ⟨hgen, hreplica, hack, hackReplica⟩ := hgenerations
  simp [acknowledgedRegion, hrecord, hgranted, hrefusal, hacknowledged,
    hsuperseded, hregion, ← hgen, ← hreplica, ← hack, ← hackReplica]

end CoherenceFabric
