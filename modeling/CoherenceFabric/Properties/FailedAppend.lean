import CoherenceFabric.Properties.Rollback

/-!
What a failed append leaves in live state.

A call that changes records and journals them does one of two things: it writes the live records
first and hands the entries to the store afterwards, or it waits for the store. `create_domain`
and `register_object` wait, and a failed append leaves no trace of them. The others have written
by then, so that live state is as it was only where the call writes what is already there.
-/

namespace CoherenceFabric

open FiniteMap Transition Impl Records

variable {σ : Type}

/-! ### Records without their time stamps -/

def ObjectRecord.untimed (object : ObjectRecord) : ObjectRecord :=
  { object with updatedSequence := .nil }

def RegionRecord.untimed (region : RegionRecord) : RegionRecord :=
  { region with updatedSequence := .nil }

namespace Records

/-- The live records up to logical sequence numbers. -/
def untimed (r : Records) : Records :=
  { r with
    objects := r.objects.map fun _ object => object.untimed
    regions := r.regions.map fun _ region => region.untimed }

variable {r : Records} {key : ObjectId} {id : RegionId} {object object' : ObjectRecord}
  {region region' : RegionRecord}

lemma untimed_setObject (found : r.objects[key]? = some object) :
    (r.setObject key object').untimed = r.untimed ↔ object'.untimed = object.untimed := by
  rw [← map_insert_eq_iff (f := fun _ => ObjectRecord.untimed) found]
  simp [untimed, setObject]

lemma untimed_setRegion (found : r.regions[id]? = some region) :
    (r.setRegion id region').untimed = r.untimed ↔ region'.untimed = region.untimed := by
  rw [← map_insert_eq_iff (f := fun _ => RegionRecord.untimed) found]
  simp [untimed, setRegion]

lemma untimed_setBoth (found : r.objects[key]? = some object)
    (present : r.regions[id]? = some region) :
    ((r.setObject key object').setRegion id region').untimed = r.untimed ↔
      object'.untimed = object.untimed ∧ region'.untimed = region.untimed := by
  rw [← map_insert_eq_iff (f := fun _ => ObjectRecord.untimed) found,
    ← map_insert_eq_iff (f := fun _ => RegionRecord.untimed) present]
  simp [untimed, setObject, setRegion]

end Records

/-! ### Calls that write what is there -/

section Repeated

variable {object : ObjectRecord} {region : RegionRecord} {seq : OperationSequence}

def ObjectRecord.CarriesMark (object : ObjectRecord) : Prop :=
  object.hasUnpublishedDirty = true ∧ object.dirtyCondition = .dirtyUnpublished

lemma ObjectRecord.markDirty_untimed :
    (object.markDirty seq).untimed = object.untimed ↔ object.CarriesMark := by
  simp only [markDirty, untimed, ObjectRecord.mk.injEq, CarriesMark, true_and, and_true]
  exact and_congr eq_comm eq_comm

/-- The replica already carries the mark of the request. -/
@[mk_iff]
structure RegionRecord.CarriesMark (region : RegionRecord) (request : DirtyRequest)
    (ownership : OwnershipGeneration) : Prop where
  dirty : region.dirty = .dirtyUnpublished ∧ region.dirtyPublished = false
  base : region.dirtyBaseVersion = request.baseVersion
  state : region.state = .dirty
  ownership : region.ownershipGeneration = ownership
  content : request.content.defined = true → region.content = request.content
  note : region.note =
    text "unpublished modification based on version " ++ request.baseVersion.toText

instance (object : ObjectRecord) : Decidable object.CarriesMark :=
  inferInstanceAs (Decidable (_ ∧ _))

instance (region : RegionRecord) (request : DirtyRequest) (ownership : OwnershipGeneration) :
    Decidable (region.CarriesMark request ownership) :=
  decidable_of_iff' _ (region.carriesMark_iff request ownership)

lemma ite_eq_right {α} {p} [Decidable p] {a b : α} : (if p then a else b) = b ↔ (p → b = a) := by
  by_cases hp : p <;> simp [hp, eq_comm]

lemma RegionRecord.markDirty_untimed {request ownership} :
    (region.markDirty request ownership seq).untimed = region.untimed ↔
      region.CarriesMark request ownership := by
  simp only [markDirty, untimed, RegionRecord.mk.injEq, true_and, ite_eq_right]
  constructor
  · rintro ⟨hstate, hownership, hdirty, hbase, hpublished, hcontent, hnote⟩
    exact ⟨⟨hdirty.symm, hpublished.symm⟩, hbase.symm, hstate.symm, hownership.symm, hcontent,
      hnote.symm⟩
  · rintro ⟨⟨hdirty, hpublished⟩, hbase, hstate, hownership, hcontent, hnote⟩
    exact ⟨hstate.symm, hownership.symm, hdirty.symm, hbase.symm, hpublished.symm, hcontent,
      hnote.symm⟩

structure RegionRecord.InvalidatedBy (region : RegionRecord) (id : InvalidationId) : Prop where
  state : region.state = if region.version.defined then .stale else .invalid
  evidence : region.evidence = .nil ∧ region.evidenceGeneration = .nil
  settled : region.invalidationPending = false ∧ region.pendingInvalidation = .nil ∧
    region.pendingInvalidationTarget = .nil
  note : region.note = text "invalidated by " ++ id.toText

lemma RegionRecord.invalidate_untimed {id} :
    (region.invalidate id seq).untimed = region.untimed ↔ region.InvalidatedBy id := by
  simp only [invalidate, untimed, RegionRecord.mk.injEq, true_and]
  constructor
  · rintro ⟨hstate, hid, htarget, hpending, hevidence, hgeneration, hnote⟩
    exact ⟨hstate.symm, ⟨hevidence.symm, hgeneration.symm⟩,
      ⟨hpending.symm, hid.symm, htarget.symm⟩, hnote.symm⟩
  · rintro ⟨hstate, ⟨hevidence, hgeneration⟩, ⟨hpending, hid, htarget⟩, hnote⟩
    exact ⟨hstate.symm, hid.symm, htarget.symm, hpending.symm, hevidence.symm, hgeneration.symm,
      hnote.symm⟩

/-- The replica already says that this synchronization was requested. -/
structure RegionRecord.AwaitsSync (region : RegionRecord) (sync : SyncOperationId)
    (source : RegionId) : Prop where
  state : region.state = .syncRequired ∨ region.state = .revalidationRequired ∨
    region.state = .retired ∨ region.state = .fenced
  note : region.note =
    text "synchronization " ++ sync.toText ++ text " requested from " ++ source.toText

lemma RegionRecord.requestSync_untimed {sync source} :
    (region.requestSync sync source seq).untimed = region.untimed ↔
      region.AwaitsSync sync source := by
  have hstate : (region.requestSync sync source seq).state = region.state ↔
      region.state = .syncRequired ∨ region.state = .revalidationRequired ∨
        region.state = .retired ∨ region.state = .fenced := by
    unfold requestSync
    cases region.state <;> simp
  have hfields : (region.requestSync sync source seq).untimed = region.untimed ↔
      (region.requestSync sync source seq).state = region.state ∧
        (region.requestSync sync source seq).note = region.note := by
    simp only [requestSync, untimed, RegionRecord.mk.injEq, true_and]
  rw [hfields, hstate]
  exact ⟨fun h => ⟨h.1, h.2.symm⟩, fun h => ⟨h.1, h.2.symm⟩⟩

/-- The replica already carries the observation of the request. -/
structure RegionRecord.Observed (region : RegionRecord) (request : RevalidateRequest)
    (object : ObjectRecord) (evidence : EvidenceId) : Prop where
  version : region.version = request.observedVersion
  ownership : region.ownershipGeneration = object.ownershipGeneration
  evidence : region.evidence = evidence ∧ region.evidenceGeneration = ⟨1⟩
  content : request.content.defined = true → region.content = request.content
  clean : region.dirty ≠ .dirtyUnpublished
  certified : !object.authoritativeVersion.defined ∨
      request.observedVersion = object.authoritativeVersion →
    region.state = .current ∧ region.lastSyncedVersion = request.observedVersion ∧
      region.note = text "revalidated by direct observation at version " ++
        request.observedVersion.toText
  stale : ¬ (!object.authoritativeVersion.defined ∨
      request.observedVersion = object.authoritativeVersion) →
    region.state = .stale ∧ region.note = text "revalidation observed version " ++
      request.observedVersion.toText ++ text " which is not the authoritative version " ++
        object.authoritativeVersion.toText

lemma RegionRecord.revalidate_untimed {request evidence} :
    (region.revalidate request object.authoritativeVersion object.ownershipGeneration evidence
        seq).untimed = region.untimed ↔ region.Observed request object evidence := by
  have hcertifies : (object.authoritativeVersion.defined ∧
        request.observedVersion = object.authoritativeVersion) ∨
        !object.authoritativeVersion.defined ↔
      !object.authoritativeVersion.defined ∨
        request.observedVersion = object.authoritativeVersion := by
    cases object.authoritativeVersion.defined <;> simp
  have hclean : (region.dirty = .dirtyUnpublished → region.dirty = .dirtyPublished) ↔
      region.dirty ≠ .dirtyUnpublished := by
    cases region.dirty <;> simp
  unfold revalidate
  simp only [hcertifies]
  split
  · rename_i hcertified
    simp only [untimed, RegionRecord.mk.injEq, true_and, ite_eq_right]
    constructor
    · rintro ⟨hstate, hversion, hsynced, hownership, hevidence, hgeneration, hdirty, -, hcontent,
        hnote⟩
      exact ⟨hversion.symm, hownership.symm, ⟨hevidence.symm, hgeneration.symm⟩, hcontent,
        hclean.mp hdirty, fun _ => ⟨hstate.symm, hsynced.symm, hnote.symm⟩,
        fun hnot => absurd hcertified hnot⟩
    intro h
    obtain ⟨hstate, hsynced, hnote⟩ := h.certified hcertified
    exact ⟨hstate.symm, h.version.symm, hsynced.symm, h.ownership.symm, h.evidence.1.symm,
      h.evidence.2.symm, hclean.mpr h.clean, fun hdirty => absurd hdirty h.clean, h.content,
      hnote.symm⟩
  rename_i hstale
  simp only [untimed, RegionRecord.mk.injEq, true_and, ite_eq_right]
  constructor
  · rintro ⟨hstate, hversion, hownership, hevidence, hgeneration, hdirty, -, hcontent, hnote⟩
    exact ⟨hversion.symm, hownership.symm, ⟨hevidence.symm, hgeneration.symm⟩, hcontent,
      hclean.mp hdirty, fun hcertified => absurd hcertified hstale,
      fun _ => ⟨hstate.symm, hnote.symm⟩⟩
  intro h
  obtain ⟨hstate, hnote⟩ := h.stale hstale
  exact ⟨hstate.symm, h.version.symm, h.ownership.symm, h.evidence.1.symm,
    h.evidence.2.symm, hclean.mpr h.clean, fun hdirty => absurd hdirty h.clean, h.content,
    hnote.symm⟩

end Repeated

lemma sortIds_dropped {tag ids} {id : StrongId tag} :
    (sortIds (ids ++ [id])).filter (fun other => other != id) = ids ↔
      ids.Pairwise (fun a b => a.value ≤ b.value) ∧ id ∉ ids := by
  have hsorted := (sortIds_sorted (ids ++ [id])).filter fun other => other != id
  constructor
  · intro heq
    refine ⟨heq ▸ hsorted, fun hmem => ?_⟩
    rw [← heq] at hmem
    simp at hmem
  rintro ⟨hordered, hfresh⟩
  have hperm : ((sortIds (ids ++ [id])).filter fun other => other != id).Perm ids := by
    have hids : ids.filter (fun other => other != id) = ids :=
      List.filter_eq_self.mpr fun other hmem => by
        have hne : other ≠ id := fun heq => hfresh (heq ▸ hmem)
        simpa using hne
    simpa [hids, sortIds] using
      (List.perm_insertionSort _ (ids ++ [id])).filter fun other => other != id
  exact hperm.eq_of_pairwise
    (fun a b _ _ hab hba => StrongId.ext (UInt64.le_antisymm hab hba)) hsorted hordered

/-- The replica is no source of truth, and its invalidation is settled at once. -/
def RegionRecord.Inert (region : RegionRecord) : Prop :=
  region.lifecycle = .retired ∨ region.state = .retired ∨ region.state = .fenced

/-- The call writes into live state what is already there. -/
def Impl.Repeats (e : Impl σ) : Action → Prop
  | .registerRegion _ | .setPolicy .. => False
  | .markDirty request =>
    ∀ object ∈ e.objects[request.context.object]?, ∀ region ∈ e.regions[request.region]?,
      object.CarriesMark ∧ region.CarriesMark request object.ownershipGeneration
  | .invalidate request =>
    ∀ object ∈ e.objects[request.context.object]?, ∀ region ∈ e.regions[request.targetRegion]?,
      region.Inert ∨ request.acknowledgementRequired = false ∧
        region.InvalidatedBy ⟨e.nextInvalidationId⟩ ∧
        object.outstandingInvalidations.Pairwise (fun a b => a.value ≤ b.value) ∧
        ⟨e.nextInvalidationId⟩ ∉ object.outstandingInvalidations ∧
        (e.recomputeAuthorityLocked object).authority = object.authority
  | .beginSync request =>
    ∀ object ∈ e.objects[request.context.object]?, ∀ source destination,
      e.beginSyncRefusal request object = .ok (source, destination) →
        destination.AwaitsSync ⟨e.nextSyncId⟩ source.id
  | .revalidateRegion request =>
    ∀ object ∈ e.objects[request.context.object]?, ∀ region ∈ e.regions[request.region]?,
      region.Observed request object ⟨e.nextEvidenceId⟩
  | _ => True

/-! ### Calls whose append fails -/

section Failed

variable [DurableStore σ] {e : Impl σ} {name : Text} {object : ObjectRecord}
  {seq : OperationSequence} {region : RegionRecord} {key : ObjectId}

/-- Live state is as it was, up to logical sequence numbers. -/
def Impl.Spares {α : Type} (e : Impl σ) (outcome : Result α × Impl σ) : Prop :=
  outcome.2.toRecords.untimed = e.toRecords.untimed

lemma createDomain_failed :
    AppendFails e (e.createDomain name) → e.Spares (e.createDomain name) := by
  unfold createDomain Impl.Spares
  dsimp only
  split
  · exact fun h => (h.not_early rfl).elim
  split
  · exact fun _ => rfl
  · exact fun h => h.not_ok.elim

lemma registerObject_failed {domain length policy}
    : AppendFails e (e.registerObject domain name length policy) →
      e.Spares (e.registerObject domain name length policy) := by
  unfold registerObject Impl.Spares
  dsimp only
  split
  · exact fun h => (h.not_early rfl).elim
  split
  · exact fun _ => rfl
  · exact fun h => h.not_ok.elim

lemma setPolicy_failed {id generation expected next} :
    AppendFails e (e.setPolicy id generation expected next) →
      ¬ e.Spares (e.setPolicy id generation expected next) := by
  unfold setPolicy Impl.Spares
  dsimp only
  split
  · exact fun h => (h.not_early rfl).elim
  rename_i object hok
  split
  · intro _ hspares
    have hsame := (untimed_setObject (setPolicyRefusal_ok hok).1).mp hspares
    have hgeneration := congrArg ObjectRecord.policyGeneration hsame
    have hvalue := congrArg StrongId.value hgeneration
    simp [ObjectRecord.untimed, ObjectRecord.setPolicy, replacementPolicy, StrongId.next]
      at hvalue
  · exact fun h => h.not_ok.elim

lemma addReplica_length {id} :
    (object.addReplica id seq).replicas.length = object.replicas.length + 1 := by
  unfold ObjectRecord.addReplica
  split
  · simp
  have hparts := congrArg List.length
    (List.takeWhile_append_dropWhile (p := fun other : RegionId => other.value < id.value)
      (l := object.replicas))
  simp only [ObjectRecord.insertReplica, List.length_append, List.length_singleton] at hparts ⊢
  omega

lemma registerRegion_failed {registration} : AppendFails e (e.registerRegion registration) →
      ¬ e.Spares (e.registerRegion registration) := by
  unfold registerRegion enrolRegion Impl.Spares
  dsimp only
  split
  · exact fun h => (h.not_early rfl).elim
  rename_i object participant hok
  have hfound := (registerRegionRefusal_ok hok).1
  split
  · exact fun h => (h.not_early rfl).elim
  split
  · intro _ hspares
    have hsame := (map_insert_eq_iff hfound).mp
      (congrArg objects hspares)
    have hlength := congrArg (fun object : ObjectRecord => object.replicas.length) hsame
    simp only [ObjectRecord.untimed, addReplica_length] at hlength
    omega
  · exact fun h => h.not_ok.elim

omit [DurableStore σ] in
lemma Impl.forall_found {id : RegionId} {p : ObjectRecord → RegionRecord → Prop}
    (hfound : e.objects[key]? = some object) (hregion : e.regions[id]? = some region) :
    (∀ object ∈ e.objects[key]?, ∀ region ∈ e.regions[id]?, p object region) ↔ p object region := by
  simp [hfound, hregion]

lemma markDirty_failed {request : DirtyRequest} : AppendFails e (e.markDirty request) →
      (e.Spares (e.markDirty request) ↔ e.Repeats (.markDirty request)) := by
  unfold markDirty Impl.Spares
  dsimp only
  split
  · exact fun h => (h.not_early (by simp)).elim
  rename_i object participant hgranted
  have hfound := resolveLocked_found hgranted
  split
  · exact fun h => (h.not_early (by simp)).elim
  rename_i region hok
  have hregion := (markDirtyRefusal_ok hok).1
  split
  · intro _
    refine (untimed_setBoth hfound hregion).trans ?_
    rw [ObjectRecord.markDirty_untimed, RegionRecord.markDirty_untimed]
    simp only [Impl.Repeats, forall_found hfound hregion]
  · exact fun h => h.not_ok.elim

lemma revalidateRegion_failed {request : RevalidateRequest} :
    AppendFails e (e.revalidateRegion request) →
      (e.Spares (e.revalidateRegion request) ↔ e.Repeats (.revalidateRegion request)) := by
  unfold revalidateRegion Impl.Spares
  dsimp only
  split
  · exact fun h => (h.not_early rfl).elim
  rename_i object participant hgranted
  have hfound := resolveLocked_found hgranted
  split
  · exact fun h => (h.not_early rfl).elim
  rename_i region hok
  have hregion := (revalidateRefusal_ok hok).1
  split
  · intro _
    refine (untimed_setRegion hregion).trans ?_
    refine RegionRecord.revalidate_untimed.trans ?_
    simp only [Impl.Repeats, forall_found hfound hregion]
    rfl
  · exact fun h => h.not_ok.elim

lemma beginSync_failed {request} : AppendFails e (e.beginSync request) →
      (e.Spares (e.beginSync request) ↔ e.Repeats (.beginSync request)) := by
  unfold beginSync Impl.Spares
  dsimp only
  split
  · exact fun h => (h.not_early rfl).elim
  · exact fun h => (h.not_early rfl).elim
  rename_i object participant hgranted
  have hfound := resolveLocked_found hgranted
  split
  · exact fun h => (h.not_early rfl).elim
  rename_i source destination hok
  have hregion := (beginSyncRefusal_ok hok).1
  split
  · intro _
    refine (untimed_setRegion hregion).trans ?_
    refine RegionRecord.requestSync_untimed.trans ⟨fun hawaits => ?_, fun hrepeats => ?_⟩
    · intro object' hobject' source' destination' hok'
      cases hfound.symm.trans hobject'
      have hplan : e.beginSyncRefusal request object = .ok (source, destination) := hok
      cases hplan.symm.trans hok'
      exact hawaits
    · exact hrepeats object hfound source destination hok
  · exact fun h => h.not_ok.elim

omit [DurableStore σ] in
/-- An identity that enters the outstanding list of an object and leaves it again. -/
lemma passed_untimed {e' : Impl σ} {id} (hfound : e.objects[key]? = some object)
    (hkey : object.id = key)
    (hpassed : e'.objects[key]? = some ((object.addOutstanding id seq).dropOutstanding id))
    (hinvalidations : e'.invalidations = e.invalidations) :
    (e'.recomputeAuthorityLocked ((object.addOutstanding id seq).dropOutstanding id)).untimed =
        object.untimed ↔ object.outstandingInvalidations.Pairwise (fun a b => a.value ≤ b.value) ∧
        id ∉ object.outstandingInvalidations ∧
        (e.recomputeAuthorityLocked object).authority = object.authority := by
  set passed := (object.addOutstanding id seq).dropOutstanding id with hset
  have hlist : passed.outstandingInvalidations = object.outstandingInvalidations ↔
      object.outstandingInvalidations.Pairwise (fun a b => a.value ≤ b.value) ∧
        id ∉ object.outstandingInvalidations :=
    sortIds_dropped
  -- with the same list the authority is recomputed to the same mode
  have hauthority (hsame : passed.outstandingInvalidations = object.outstandingInvalidations) :
      (e'.recomputeAuthorityLocked passed).authority =
        (e.recomputeAuthorityLocked object).authority := by
    have houtstanding : e'.hasOutstandingInvalidationsLocked passed.id =
        e.hasOutstandingInvalidationsLocked object.id := by
      change hasOutstandingInvalidationsLocked _ object.id = _
      unfold hasOutstandingInvalidationsLocked anyRequested
      rw [hkey, hpassed, hfound, hinvalidations]
      simp only [hsame]
    have hmode : passed.authority = object.authority := rfl
    have hreads : passed.anyLiveReads = object.anyLiveReads := rfl
    unfold recomputeAuthorityLocked
    rw [houtstanding, hmode, hreads]
    cases object.authority <;> cases e.hasOutstandingInvalidationsLocked object.id <;> rfl
  have hfields : (e'.recomputeAuthorityLocked passed).untimed = object.untimed ↔
      passed.outstandingInvalidations = object.outstandingInvalidations ∧
        (e'.recomputeAuthorityLocked passed).authority = object.authority := by
    rw [recomputeAuthorityLocked_eq]
    simp only [hset, ObjectRecord.untimed, ObjectRecord.mk.injEq, ObjectRecord.addOutstanding,
      ObjectRecord.dropOutstanding, true_and, and_true]
    exact and_comm
  rw [hfields, ← and_assoc, ← hlist]
  exact and_congr_right fun hsame => by rw [hauthority hsame]

lemma addOutstanding_untimed {id} : (object.addOutstanding id seq).untimed ≠ object.untimed := by
  intro heq
  have hlength := congrArg (fun object : ObjectRecord => object.outstandingInvalidations.length) heq
  simp [ObjectRecord.untimed, ObjectRecord.addOutstanding, sortIds] at hlength

lemma invalidateNow_failed {request : InvalidationRequest} {context}
    (hfound : e.objects[request.context.object]? = some object)
    (hid : object.id = request.context.object)
    (hregion : e.regions[request.targetRegion]? = some region) :
    AppendFails e (e.takeDecisionId.invalidateNow request context object region) →
      (e.Spares (e.takeDecisionId.invalidateNow request context object region) ↔
        region.InvalidatedBy ⟨e.nextInvalidationId⟩ ∧
          object.outstandingInvalidations.Pairwise (fun a b => a.value ≤ b.value) ∧
          ⟨e.nextInvalidationId⟩ ∉ object.outstandingInvalidations ∧
          (e.recomputeAuthorityLocked object).authority = object.authority) := by
  unfold invalidateNow Impl.Spares
  dsimp only
  split
  · intro _
    let id : InvalidationId := ⟨e.nextInvalidationId⟩
    let passed := (object.addOutstanding id e.sequence.next).dropOutstanding id
    let written := (e.setObject request.context.object passed).setRegion request.targetRegion
      (region.invalidate id e.sequence.next)
    have hobject : (written.recomputeAuthorityLocked passed).untimed = object.untimed ↔ _ :=
      passed_untimed hfound hid getElem?_insert_self rfl
    have hreplica : (region.invalidate id e.sequence.next).untimed = region.untimed ↔ _ :=
      RegionRecord.invalidate_untimed
    rw [← hobject, ← hreplica, and_comm, ← untimed_setBoth hfound hregion]
    refine Eq.congr (congrArg untimed ?_) rfl
    exact congrArg (fun objects => { written.toRecords with objects := objects })
      (insert_insert ..)
  · exact fun h => h.not_ok.elim

lemma invalidate_failed {request : InvalidationRequest}
    (hkeyed : ∀ object ∈ e.objects[request.context.object]?, object.id = request.context.object) :
    AppendFails e (e.invalidate request) →
      (e.Spares (e.invalidate request) ↔ e.Repeats (.invalidate request)) := by
  unfold invalidate
  dsimp only
  split
  · exact fun h => (h.not_early rfl).elim
  rename_i object hresolved
  have hfound := (resolveInternalLocked_ok hresolved).2.2.1
  split
  · exact fun h => (h.not_early rfl).elim
  rename_i region hok
  have hregion := (invalidateRefusal_ok hok).1
  simp only [Impl.Repeats, forall_found hfound hregion]
  split
  · rename_i hinert
    unfold invalidateInert Impl.Spares
    dsimp only
    split
    · exact fun _ => ⟨fun _ => .inl hinert, fun _ => rfl⟩
    · exact fun h => h.not_ok.elim
  rename_i hlive
  split
  · exact fun h => h.not_ok.elim
  split
  · rename_i hack
    unfold invalidateLater Impl.Spares
    dsimp only
    split
    · intro _
      refine (untimed_setBoth hfound hregion).trans ⟨fun h => ?_, fun h => ?_⟩
      · exact absurd h.1 addOutstanding_untimed
      · rcases h with hinert | ⟨hnone, -⟩
        · exact absurd hinert hlive
        · cases hack.symm.trans hnone
    · exact fun h => h.not_ok.elim
  rename_i hack
  intro h
  refine (invalidateNow_failed hfound (hkeyed object hfound) hregion h).trans
    ⟨fun h => .inr ⟨by simpa using hack, h⟩, fun h => ?_⟩
  exact (h.resolve_left hlive).2

/-- One of the calls that wait for their append, or fail with it, has its append fail. -/
def Impl.AppendFailsIn (e : Impl σ) : Action → Prop
  | .createDomain name => AppendFails e (e.createDomain name)
  | .registerObject domain name length policy =>
    AppendFails e (e.registerObject domain name length policy)
  | .registerRegion registration => AppendFails e (e.registerRegion registration)
  | .setPolicy id generation expected next =>
    AppendFails e (e.setPolicy id generation expected next)
  | .markDirty request => AppendFails e (e.markDirty request)
  | .invalidate request => AppendFails e (e.invalidate request)
  | .beginSync request => AppendFails e (e.beginSync request)
  | .revalidateRegion request => AppendFails e (e.revalidateRegion request)
  | _ => False

end Failed

/-- In every reachable state a call whose append fails leaves live state as it was, up to logical
sequence numbers, if and only if it writes what is already there. -/
theorem failed_append_spares_iff [ReplayStore σ] (config : EngineConfig) (store : Option σ)
    (as : List Action) (a : Action) :
    let s := (Sys.boot config store).run as
    s.engine.AppendFailsIn a →
      ((s.step a).engine.toRecords.untimed = s.engine.toRecords.untimed ↔ s.engine.Repeats a) := by
  intro s h
  have hkeyed : LiveKeyed s := foldl_invariant (fun _ _ h => h.step) LiveKeyed.boot
  cases a
  case createDomain => exact iff_of_true (createDomain_failed h) trivial
  case registerObject => exact iff_of_true (registerObject_failed h) trivial
  case registerRegion => exact iff_of_false (registerRegion_failed h) id
  case setPolicy => exact iff_of_false (setPolicy_failed h) id
  case markDirty => exact markDirty_failed h
  case invalidate request =>
    exact invalidate_failed (fun object hfound => hkeyed.live.objects _ object hfound) h
  case beginSync => exact beginSync_failed h
  case revalidateRegion => exact revalidateRegion_failed h
  all_goals exact absurd h id

/-- The writer marks its replica dirty again, and the store refuses the second record. -/
theorem failed_append_spares_mark :
    let s := (Duo.refusing 15).run (Duo.owned ++ [Duo.markDirty])
    s.engine.AppendFailsIn Duo.markDirty ∧
      (s.step Duo.markDirty).engine.toRecords.untimed = s.engine.toRecords.untimed := by
  intro s
  have hfails : s.engine.AppendFailsIn Duo.markDirty := by
    change AppendFails s.engine (s.engine.markDirty _)
    decide +kernel
  have hrepeats : s.engine.Repeats Duo.markDirty := by
    change ∀ object ∈ s.engine.objects[(⟨1⟩ : ObjectId)]?,
      ∀ region ∈ s.engine.regions[(⟨1⟩ : RegionId)]?, _ ∧ _
    decide +kernel
  exact ⟨hfails, (failed_append_spares_iff {} _ _ _ hfails).mpr hrepeats⟩

/-- A replica whose registration the store refuses is listed by its object. -/
theorem refused_region_listed :
    let s := (Duo.refusing 7).run (Duo.enrol.take 4)
    s.engine.AppendFailsIn (Duo.region 1) ∧
      (s.step (Duo.region 1)).engine.toRecords.untimed ≠ s.engine.toRecords.untimed := by
  refine ⟨?_, fun heq => ?_⟩
  · change AppendFails _ (Impl.registerRegion _ _)
    decide +kernel
  · have hreplicas := congrArg
      (fun r : Records => (r.objects[(⟨1⟩ : ObjectId)]?).map (·.replicas)) heq
    revert hreplicas
    decide +kernel

end CoherenceFabric
