import CoherenceFabric.Effects.Access

/-!
The invalidations that `acquire_write` and `invalidate` issue: which identities they take,
and what a grant that waits for acknowledgements leaves behind.
-/

namespace CoherenceFabric

open FiniteMap Impl

variable {σ : Type} {s e : Impl σ} {required : List InvalidationRecord} {seq : OperationSequence}
  {record : InvalidationRecord}

/-- At most `bound` identities were taken, and every invalidation that changed is under one
of them. -/
def IssuedBy (s e : Impl σ) (bound : Nat) : Prop :=
  ∃ n ≤ bound, e.nextInvalidationId = s.nextInvalidationId + UInt64.ofNat n ∧
    ∀ (id : InvalidationId) record, e.invalidations[id]? = some record →
      s.invalidations[id]? = some record ∨
        ∃ index < n, id = ⟨s.nextInvalidationId + UInt64.ofNat index⟩

lemma IssuedBy.idle {bound} (hrecords : e.toRecords = s.toRecords)
    (hnext : e.nextInvalidationId = s.nextInvalidationId) : IssuedBy s e bound :=
  ⟨0, Nat.zero_le _, by simp [hnext], fun id record h => .inl (by rw [← hrecords]; exact h)⟩

/-! ### A write transfer -/

/-- The object of a grant waits for an invalidation. -/
structure Awaits (r : Records) (id : ObjectId) (record : InvalidationRecord) : Prop where
  pending : ∃ object, r.objects[id]? = some object ∧ object.authority = .transferPending ∧
    record.id ∈ object.outstandingInvalidations
  issued : r.invalidations[record.id]? = some record
  requested : record.state = .requested

structure WriteOutcome (s : Impl σ) (request : WriteRequest) (outcome : Result WriteGrant)
    (e : Impl σ) : Prop where
  issued : IssuedBy s e (s.replicaCount request.context.object)
  awaits : s.nextInvalidationId.toNat + s.replicaCount request.context.object < UInt64.size →
    ∀ grant, outcome = .ok grant → ∀ record ∈ grant.requiredInvalidations,
      Awaits e.toRecords request.context.object record

lemma WriteOutcome.idle {request outcome} (hrecords : e.toRecords = s.toRecords)
    (hnext : e.nextInvalidationId = s.nextInvalidationId)
    (hnone : ∀ grant, outcome = .ok grant → grant.requiredInvalidations = []) :
    WriteOutcome s request outcome e :=
  ⟨.idle hrecords hnext, fun _ grant hgrant record hmem => by simp [hnone grant hgrant] at hmem⟩

lemma WriteOutcome.failed {request status}
    (issued : IssuedBy s e (s.replicaCount request.context.object)) :
    WriteOutcome s request (.error status) e :=
  ⟨issued, fun _ _ hgrant => nomatch hgrant⟩

/-- The invalidations of a transfer are issued one after the other. -/
lemma issueAll_objects :
    ∀ r : Records, (required.foldl (issueInvalidation seq) r).objects = r.objects := by
  have hone : ∀ (r : Records) record, (issueInvalidation seq r record).objects = r.objects := by
    intro r record
    unfold issueInvalidation
    dsimp only
    split <;> rfl
  induction required with
  | nil => exact fun _ => rfl
  | cons record rest ih => exact fun r => (ih _).trans (hone r record)

lemma issueInvalidation_invalidations (seq : OperationSequence) (r : Records)
    (record : InvalidationRecord) : (issueInvalidation seq r record).invalidations =
      r.invalidations.insert record.id record := by
  unfold issueInvalidation
  dsimp only
  split <;> rfl

lemma issueAll_origin {id} : ∀ {r : Records},
    (required.foldl (issueInvalidation seq) r).invalidations[id]? = some record →
      r.invalidations[id]? = some record ∨ ∃ issued ∈ required, issued.id = id := by
  induction required with
  | nil => exact fun h => .inl h
  | cons first rest ih =>
    intro r h
    rcases ih h with h | ⟨issued, hmem, hid⟩
    · rw [issueInvalidation_invalidations, getElem?_insert] at h
      split at h
      · exact .inr ⟨first, List.mem_cons_self .., Std.LawfulEqOrd.eq_of_compare ‹_›⟩
      · exact .inl h
    · exact .inr ⟨issued, List.mem_cons_of_mem _ hmem, hid⟩

lemma issueAll_other : ∀ {r : Records} {id : InvalidationId}, id ∉ required.map (·.id) →
      (required.foldl (issueInvalidation seq) r).invalidations[id]? = r.invalidations[id]? := by
  induction required with
  | nil => exact fun _ => rfl
  | cons first rest ih =>
    intro r id hid
    rw [List.map_cons, List.mem_cons, not_or] at hid
    rw [List.foldl_cons, ih hid.2, issueInvalidation_invalidations,
      getElem?_insert_ne fun h => hid.1 h.symm]

lemma issueAll_found : ∀ {r : Records}, (required.map (·.id)).Nodup → record ∈ required →
      (required.foldl (issueInvalidation seq) r).invalidations[record.id]? = some record := by
  induction required with
  | nil => exact fun _ h => absurd h List.not_mem_nil
  | cons first rest ih =>
    intro r hnodup hmem
    rw [List.map_cons, List.nodup_cons] at hnodup
    rcases List.mem_cons.mp hmem with rfl | hmem
    · rw [List.foldl_cons, issueAll_other hnodup.1, issueInvalidation_invalidations,
        getElem?_insert_self]
    · exact ih hnodup.2 hmem

lemma transferInvalidations_ids {object ownership regions} : ∀ {next : UInt64},
    (s.transferInvalidations object ownership next regions).map (·.id) =
      (List.range regions.length).map fun index => ⟨next + UInt64.ofNat index⟩ := by
  induction regions with
  | nil => exact rfl
  | cons region rest ih =>
    intro next
    rw [transferInvalidations, List.map_cons, ih, List.length_cons, List.range_succ_eq_map]
    simp [transferInvalidation, Function.comp_def, UInt64.add_assoc, UInt64.add_comm 1]

/-- Consecutive identities are distinct while the counter does not wrap. -/
lemma nodup_identities {next n} (h : next.toNat + n < UInt64.size) :
    ((List.range n).map fun index => (⟨next + UInt64.ofNat index⟩ : InvalidationId)).Nodup := by
  refine List.Nodup.map_on (fun i hi j hj hij => ?_) List.nodup_range
  rw [List.mem_range] at hi hj
  have hvalue := congrArg (fun id : InvalidationId => id.value.toNat) hij
  simp only [UInt64.toNat_add, UInt64.toNat_ofNat'] at hvalue
  unfold UInt64.size at h
  omega

lemma length_transferInvalidations (object : ObjectRecord) (ownership : OwnershipGeneration)
    (next : UInt64) (regions : List RegionRecord) :
    (s.transferInvalidations object ownership next regions).length = regions.length := by
  have h := congrArg List.length (@transferInvalidations_ids σ s object ownership regions next)
  simpa using h

variable [DurableStore σ] {request : WriteRequest} {object : ObjectRecord}

lemma transferWrite_outcome (hrecords : e.toRecords = s.toRecords)
    (hnext : e.nextInvalidationId = s.nextInvalidationId)
    (hfound : s.objects[request.context.object]? = some object)
    {conflicting} (hcount : conflicting.length ≤ object.replicas.length)
    (context : DecisionContext) (boot : ParticipantBootId) (grant : WriteGrant) :
    WriteOutcome s request (e.transferWrite request.context context object boot conflicting grant).1
      (e.transferWrite request.context context object boot conflicting grant).2 := by
  have hbound : conflicting.length ≤ s.replicaCount request.context.object := by
    simpa [replicaCount, hfound] using hcount
  unfold transferWrite
  dsimp only
  set required := e.tick.transferInvalidations object object.ownershipGeneration.next
    e.tick.nextInvalidationId conflicting with hrequired
  have hlength : required.length = conflicting.length := length_transferInvalidations ..
  have hids : required.map (·.id) = (List.range conflicting.length).map fun index =>
      ⟨s.nextInvalidationId + UInt64.ofNat index⟩ := by
    rw [← hnext]
    exact transferInvalidations_ids
  split
  · -- the journal refused the reservation: the identities are taken, nothing is issued
    refine .failed ⟨conflicting.length, hbound, ?_, fun id record h => .inl ?_⟩
    · rw [← hlength, ← hnext]
      rfl
    · rw [← hrecords]
      exact h
  refine ⟨⟨conflicting.length, hbound, ?_, fun id record h => ?_⟩, fun hwrap grant' hgrant => ?_⟩
  · rw [← hlength, ← hnext, recordDecision_toCounters]
    rfl
  · rw [recordDecision_toRecords] at h
    rcases issueAll_origin h with h | ⟨issued, hmem, rfl⟩
    · left
      rw [← hrecords]
      exact h
    right
    have hid : issued.id ∈ required.map (·.id) := List.mem_map_of_mem hmem
    rw [hids] at hid
    obtain ⟨index, hindex, hid⟩ := List.mem_map.mp hid
    exact ⟨index, List.mem_range.mp hindex, hid.symm⟩
  cases hgrant
  intro record hmem
  have hne := List.ne_nil_of_mem hmem
  refine ⟨⟨object.grantWrite request.context.participant boot required e.tick.sequence, ?_,
    ?_, ?_⟩, ?_, ?_⟩
  · rw [recordDecision_toRecords]
    exact (congrArg (·[request.context.object]?) (issueAll_objects _)).trans
      getElem?_insert_self
  · simp [ObjectRecord.grantWrite, hne]
  · simp only [ObjectRecord.grantWrite, mem_sortIds, List.mem_append]
    exact .inr (List.mem_map_of_mem hmem)
  · rw [recordDecision_toRecords]
    refine issueAll_found ?_ hmem
    rw [hids]
    exact nodup_identities (lt_of_le_of_lt (Nat.add_le_add_left hbound _) hwrap)
  · obtain ⟨index, -, region, -, rfl⟩ := mem_transferInvalidations hmem
    rfl

lemma resumeTransfer_outcome (hrecords : e.toRecords = s.toRecords)
    (hnext : e.nextInvalidationId = s.nextInvalidationId)
    (hkeyed : All (fun id (record : InvalidationRecord) => record.id = id) s.invalidations)
    (hfound : s.objects[request.context.object]? = some object)
    (hpending : object.authority = .transferPending) (context : DecisionContext)
    {grant} (hnone : grant.requiredInvalidations = []) :
    WriteOutcome s request (e.resumeTransfer request.context context object grant).1
      (e.resumeTransfer request.context context object grant).2 := by
  unfold resumeTransfer
  dsimp only
  split
  · refine ⟨.idle (by simp [hrecords]) (by simp [hnext]), fun _ grant' hgrant record hmem => ?_⟩
    cases hgrant
    obtain ⟨hmem, hrequested⟩ := List.mem_filter.mp hmem
    obtain ⟨id, hid, hrecord⟩ := List.mem_filterMap.mp hmem
    rw [hrecords] at hrecord
    obtain rfl : record.id = id := hkeyed id record hrecord
    rw [recordDecision_toRecords, hrecords]
    exact ⟨⟨object, hfound, hpending, hid⟩, hrecord, by simpa using hrequested⟩
  have hissued : ∀ e' : Impl σ, e'.invalidations = e.invalidations →
      e'.nextInvalidationId = e.nextInvalidationId →
      IssuedBy s e' (s.replicaCount request.context.object) := fun e' hi hn =>
    ⟨0, Nat.zero_le _, by simp [hn, hnext], fun id record h => .inl (by
      rw [← hrecords, ← hi]
      exact h)⟩
  split
  · exact .failed (hissued _ rfl rfl)
  refine ⟨hissued _ (by rw [recordDecision_toRecords]; rfl)
    (by rw [recordDecision_toCounters]; rfl), fun _ grant' hgrant record hmem => ?_⟩
  cases hgrant
  simp [hnone] at hmem

lemma acquireWriteAuthority_outcome (hrecords : e.toRecords = s.toRecords)
    (hnext : e.nextInvalidationId = s.nextInvalidationId)
    (hkeyed : All (fun id (record : InvalidationRecord) => record.id = id) s.invalidations)
    (hfound : s.objects[request.context.object]? = some object) (context : DecisionContext)
    (policy : CoherencePolicy) (participant : ParticipantRecord) (region : Option RegionRecord)
    {grant} (hnone : grant.requiredInvalidations = []) : WriteOutcome s request
      (e.acquireWriteAuthority request context policy object participant region grant).1
      (e.acquireWriteAuthority request context policy object participant region grant).2 := by
  have hidle : ∀ (grant' : WriteGrant) kind code summary, grant'.requiredInvalidations = [] →
      WriteOutcome s request (.ok grant') (e.recordDecision kind context code summary) :=
    fun grant' _ _ _ hnone' => .idle (by simp [hrecords]) (by simp [hnext])
      fun _ hgrant => by cases hgrant; exact hnone'
  unfold acquireWriteAuthority
  dsimp only
  split
  · exact hidle _ _ _ _ hnone
  split
  · rename_i hpending
    split
    · exact resumeTransfer_outcome hrecords hnext hkeyed hfound hpending _ hnone
    · exact hidle _ _ _ _ hnone
  split
  · exact hidle _ _ _ _ hnone
  split
  · exact hidle _ _ _ _ hnone
  · split
    · exact hidle _ _ _ _ hnone
    · exact transferWrite_outcome hrecords hnext hfound (length_conflictingRegions _) _ _ _

/-- `acquire_write` takes identities for the replicas it has to invalidate, and an object
whose grant requires an invalidation waits for it. -/
theorem acquireWrite_outcome
    (hkeyed : All (fun id (record : InvalidationRecord) => record.id = id) s.invalidations)
    (request : WriteRequest) :
    WriteOutcome s request (s.acquireWrite request).1 (s.acquireWrite request).2 := by
  have hidle : ∀ (grant : WriteGrant) kind context code summary,
      grant.requiredInvalidations = [] →
      WriteOutcome s request (.ok grant)
        (s.takeDecisionId.recordDecision kind context code summary) :=
    fun grant _ _ _ _ hnone => .idle (by simp) (by simp)
      fun _ hgrant => by cases hgrant; exact hnone
  unfold acquireWrite
  dsimp only
  split
  · exact .failed (.idle (by simp) (by simp))
  rename_i object participant hgranted
  have hfound := resolveLocked_found hgranted
  have hauthority := fun context policy region (grant : WriteGrant) =>
    @acquireWriteAuthority_outcome σ s s.takeDecisionId _ request object rfl rfl hkeyed hfound
      context policy participant region grant
  split
  · exact .failed (.idle (by simp) (by simp))
  split
  · exact hidle _ _ _ _ _ rfl
  split
  · exact hidle _ _ _ _ _ rfl
  · refine hauthority _ _ _ _ ?_
    rfl
  · split
    · exact hidle _ _ _ _ _ rfl
    · refine hauthority _ _ _ _ ?_
      rfl

/-! ### An explicit invalidation -/

omit [DurableStore σ] in
lemma IssuedBy.one {record} (hid : record.id = ⟨s.nextInvalidationId⟩)
    (hnext : e.nextInvalidationId = s.nextInvalidationId + 1)
    (hset : e.invalidations = s.invalidations ∨
      e.invalidations = s.invalidations.insert record.id record) : IssuedBy s e 1 := by
  refine ⟨1, le_rfl, hnext, fun id record' h => ?_⟩
  rcases hset with hset | hset
  · exact .inl (hset ▸ h)
  rw [hset, getElem?_insert] at h
  split at h
  · refine .inr ⟨0, Nat.one_pos, ?_⟩
    rename_i hcompare
    rw [← Std.LawfulEqOrd.eq_of_compare hcompare, hid]
    simp
  · exact .inl h

theorem invalidate_issued (request : InvalidationRequest) :
    IssuedBy s (s.invalidate request).2 1 := by
  have hdecided : ∀ (e : Impl σ) (record : InvalidationRecord) kind context code summary,
      record.id = ⟨s.nextInvalidationId⟩ → e.nextInvalidationId = s.nextInvalidationId + 1 →
      e.invalidations = s.invalidations → IssuedBy s
        ((e.setInvalidation record.id record).recordDecision kind context code summary) 1 := by
    intro e record kind context code summary hid hnext hset
    refine .one hid ?_ (.inr ?_)
    · rw [recordDecision_toCounters]
      exact hnext
    · rw [recordDecision_toRecords, ← hset]
      rfl
  unfold invalidate
  dsimp only
  split
  · exact .idle rfl rfl
  rename_i object _
  split
  · exact .idle rfl rfl
  rename_i region _
  -- the identity is taken even if the journal refuses the record
  have htaken : ∀ e : Impl σ, e.nextInvalidationId = s.nextInvalidationId + 1 →
      e.invalidations = s.invalidations → IssuedBy s e 1 := fun e hnext hset =>
    @IssuedBy.one σ s e (s.newInvalidation request object region) rfl hnext (.inl hset)
  split
  · unfold invalidateInert
    dsimp only
    split
    · exact htaken _ rfl rfl
    · exact hdecided _ _ _ _ _ _ rfl rfl rfl
  split
  · exact .idle rfl rfl
  split
  · unfold invalidateLater
    dsimp only
    split
    · exact htaken _ rfl rfl
    · exact hdecided _ _ _ _ _ _ rfl rfl rfl
  unfold invalidateNow
  dsimp only
  split
  · exact htaken _ rfl rfl
  · exact hdecided _ _ _ _ _ _ rfl rfl rfl

end CoherenceFabric
