import CoherenceFabric.Deployment
import CoherenceFabric.Effects.Fields

/-!
What a call leaves behind when its durable append fails.

A call validates, takes positions of the journal and hands its entries to the store; if the store
refuses them, the call reports the error. Most calls have changed live records before they know.
`acquire_write` takes its change back, but to fixed values and not to those it found.
-/

namespace CoherenceFabric

open FiniteMap

variable {σ : Type}

/-- The durable append of a call fails: the call has taken positions of the journal, and it
reports an error. -/
def AppendFails {α : Type} (e : Impl σ) (outcome : Result α × Impl σ) : Prop :=
  outcome.1.isOk = false ∧ outcome.2.nextJournalSequence ≠ e.nextJournalSequence

instance {α : Type} (e : Impl σ) (outcome : Result α × Impl σ) :
    Decidable (AppendFails e outcome) :=
  inferInstanceAs (Decidable (_ ∧ _))

section Branches

variable {α : Type} {e e' : Impl σ}

lemma AppendFails.not_early {result : Result α} (h : AppendFails e (result, e'))
    (hpersistence : e'.toPersistence = e.toPersistence) : False :=
  h.2 (congrArg Persistence.nextJournalSequence hpersistence)

lemma AppendFails.not_ok {value : α} (h : AppendFails e (.ok value, e')) : False := by
  cases h.1

end Branches

/-! ### Write authority -/

/-- What a write transfer claims of an object. -/
structure Claim where
  authority : AuthorityMode
  writer : ParticipantId
  writerBoot : ParticipantBootId
  ownershipGeneration : OwnershipGeneration
  reads : List ReadGrant
  outstandingInvalidations : List InvalidationId

def ObjectRecord.claim (object : ObjectRecord) : Claim where
  authority := object.authority
  writer := object.writer
  writerBoot := object.writerBoot
  ownershipGeneration := object.ownershipGeneration
  reads := object.reads
  outstandingInvalidations := object.outstandingInvalidations

/-- The claim on an object is as it was, and so are all replicas and invalidations. -/
structure RolledBack (before after : Records) (key : ObjectId) : Prop where
  claim : (after.objects[key]?).map ObjectRecord.claim =
    (before.objects[key]?).map ObjectRecord.claim
  regions : after.regions = before.regions
  invalidations : after.invalidations = before.invalidations

/-- Nobody has a claim on the object: the values that a roll-back writes. -/
@[mk_iff]
structure ObjectRecord.Unclaimed (object : ObjectRecord) : Prop where
  authority : object.authority = .none
  writer : object.writer = .nil ∧ object.writerBoot = .nil
  reads : ∀ grant ∈ object.reads, grant.released = true
  outstanding : object.outstandingInvalidations = []

instance (object : ObjectRecord) : Decidable object.Unclaimed :=
  decidable_of_iff' _ object.unclaimed_iff

lemma ObjectRecord.claim_rollback {object : ObjectRecord} {writer boot required seq} :
    (object.grantWrite writer boot required seq).rollbackWrite.claim = object.claim ↔
      object.Unclaimed := by
  have hownership : (⟨object.ownershipGeneration.next.value - 1⟩ : OwnershipGeneration) =
      object.ownershipGeneration := by
    simp [StrongId.next]
  have hreads : (object.reads.map fun grant : ReadGrant => { grant with released := true }) =
      object.reads ↔ ∀ grant ∈ object.reads, grant.released = true := by
    have hgrant : ∀ grant : ReadGrant,
        ({ grant with released := true } : ReadGrant) = grant ↔ grant.released = true := by
      rintro ⟨⟩
      simp [eq_comm]
    induction object.reads with
    | nil => simp
    | cons grant rest ih =>
      simp only [List.map_cons, List.cons.injEq, hgrant, ih, List.forall_mem_cons]
  simp only [claim, rollbackWrite, grantWrite, Claim.mk.injEq, hownership, hreads, true_and]
  constructor
  · rintro ⟨hauthority, hwriter, hboot, hreads, houtstanding⟩
    exact ⟨hauthority.symm, ⟨hwriter.symm, hboot.symm⟩, hreads, houtstanding.symm⟩
  · rintro ⟨hauthority, ⟨hwriter, hboot⟩, hreads, houtstanding⟩
    exact ⟨hauthority.symm, hwriter.symm, hboot.symm, hreads, houtstanding.symm⟩

section Write

variable [DurableStore σ] {s e : Impl σ} {request : WriteRequest} {context : DecisionContext}
  {object : ObjectRecord} {grant : WriteGrant}

/-- What `acquire_write` leaves when its append fails: a new transfer is rolled back, and a
transfer that was to take effect has taken effect. -/
inductive WriteFailed (s : Impl σ) (key : ObjectId) (r : Records) : Prop
  | transfer {object : ObjectRecord} (found : s.objects[key]? = some object)
      (after : ∃ writer boot required seq, r = s.toRecords.setObject key
        (object.grantWrite writer boot required seq).rollbackWrite)
  | promote {object : ObjectRecord} (found : s.objects[key]? = some object)
      (pending : object.authority = .transferPending)
      (after : r = s.toRecords.setObject key { object with authority := .exclusiveWriter })

lemma transferWrite_failed {boot conflicting} (hrecords : e.toRecords = s.toRecords)
    (hfound : s.objects[request.context.object]? = some object) :
    AppendFails s (e.transferWrite request.context context object boot conflicting grant) →
      WriteFailed s request.context.object
        (e.transferWrite request.context context object boot conflicting grant).2.toRecords := by
  unfold Impl.transferWrite
  dsimp only
  set required := e.tick.transferInvalidations object object.ownershipGeneration.next
    e.tick.nextInvalidationId conflicting
  split
  · refine fun _ => .transfer hfound
      ⟨request.context.participant, boot, required, e.tick.sequence, ?_⟩
    change Records.setObject (Records.setObject e.toRecords _ _) _ _ = _
    rw [hrecords]
    exact congrArg (fun objects => { s.toRecords with objects := objects }) (insert_insert ..)
  · exact fun h => h.not_ok.elim

lemma resumeTransfer_failed (hrecords : e.toRecords = s.toRecords)
    (hfound : s.objects[request.context.object]? = some object)
    (hpending : object.authority = .transferPending) :
    AppendFails s (e.resumeTransfer request.context context object grant) →
      WriteFailed s request.context.object
        (e.resumeTransfer request.context context object grant).2.toRecords := by
  unfold Impl.resumeTransfer
  dsimp only
  split
  · exact fun h => h.not_ok.elim
  split
  · refine fun _ => .promote hfound hpending ?_
    rw [← hrecords]
    rfl
  · exact fun h => h.not_ok.elim

lemma acquireWriteAuthority_failed {policy participant region}
    (hrecords : e.toRecords = s.toRecords)
    (hfound : s.objects[request.context.object]? = some object) : AppendFails s
        (e.acquireWriteAuthority request context policy object participant region grant) →
      WriteFailed s request.context.object
        (e.acquireWriteAuthority request context policy object participant region
          grant).2.toRecords := by
  unfold Impl.acquireWriteAuthority
  dsimp only
  split
  · exact fun h => h.not_ok.elim
  split
  · rename_i hpending
    split
    · exact resumeTransfer_failed hrecords hfound hpending
    · exact fun h => h.not_ok.elim
  split
  · exact fun h => h.not_ok.elim
  split
  · exact fun h => h.not_ok.elim
  · split
    · exact fun h => h.not_ok.elim
    · exact transferWrite_failed hrecords hfound

lemma acquireWrite_failed : AppendFails s (s.acquireWrite request) →
      WriteFailed s request.context.object (s.acquireWrite request).2.toRecords := by
  unfold Impl.acquireWrite
  dsimp only
  split
  · exact fun h => (h.not_early (by simp)).elim
  rename_i object participant hgranted
  have hfound := resolveLocked_found hgranted
  split
  · exact fun h => (h.not_early rfl).elim
  split
  · exact fun h => h.not_ok.elim
  split
  · exact fun h => h.not_ok.elim
  · exact acquireWriteAuthority_failed rfl hfound
  · split
    · exact fun h => h.not_ok.elim
    · exact acquireWriteAuthority_failed rfl hfound

/-- An `acquire_write` whose append fails leaves the claim on the object, the replicas and the
invalidations as they were if and only if nobody had a claim on the object before. -/
theorem write_rolled_back_iff (s : Impl σ) (request : WriteRequest)
    (h : AppendFails s (s.acquireWrite request)) :
    RolledBack s.toRecords (s.acquireWrite request).2.toRecords request.context.object ↔
      ∀ object ∈ s.objects[request.context.object]?, object.Unclaimed := by
  have hfailed := acquireWrite_failed h
  generalize (s.acquireWrite request).2.toRecords = r at hfailed ⊢
  cases hfailed with
  | @transfer object found after =>
    obtain ⟨writer, boot, required, seq, rfl⟩ := after
    simp only [found, Option.mem_def, Option.some.injEq, forall_eq']
    rw [← @ObjectRecord.claim_rollback object writer boot required seq]
    refine ⟨fun hback => ?_, fun hclaim => ⟨?_, rfl, rfl⟩⟩
    · simpa [Records.setObject, found] using hback.claim
    · simpa [Records.setObject, found] using hclaim
  | @promote object found pending after =>
    subst after
    simp only [found, Option.mem_def, Option.some.injEq, forall_eq']
    refine ⟨fun hback => ?_, fun hnone => ?_⟩
    · have hclaim := hback.claim
      simp [Records.setObject, found, ObjectRecord.claim, pending] at hclaim
    · cases pending.symm.trans hnone.authority

end Write

namespace Duo

abbrev refusing (accepted : Nat) : Sys LogStore :=
  Sys.boot {} (some { script := List.replicate accepted true ++ [false] })

def acquireRequest : WriteRequest := { context := context 1, region := ⟨1⟩ }

def invalidateSecond : Action :=
  .invalidate
    { context := context 2, ownershipGeneration := ⟨1⟩, targetRegion := ⟨2⟩,
      targetRegionGeneration := ⟨1⟩, targetReplicaGeneration := ⟨1⟩ }

end Duo

theorem write_rolled_back_fresh :
    let s := (Duo.refusing 11).run (Duo.enrol ++ [Duo.observe 1])
    AppendFails s.engine (s.engine.acquireWrite Duo.acquireRequest) ∧
      RolledBack s.engine.toRecords (s.engine.acquireWrite Duo.acquireRequest).2.toRecords ⟨1⟩ := by
  intro s
  have hfails : AppendFails s.engine (s.engine.acquireWrite Duo.acquireRequest) := by
    decide +kernel
  have hunclaimed : ∀ object ∈ s.engine.objects[Duo.acquireRequest.context.object]?,
      object.Unclaimed := by
    decide +kernel
  exact ⟨hfails, (write_rolled_back_iff s.engine _ hfails).mpr hunclaimed⟩

/-- A refused transfer drops an invalidation that is still requested from the object's list. -/
theorem refused_transfer_forgets :
    let s := (Duo.refusing 15).run
      (Duo.enrol ++ [Duo.observe 1, Duo.observe 2, Duo.invalidateSecond])
    AppendFails s.engine (s.engine.acquireWrite Duo.acquireRequest) ∧
      (s.engine.invalidations[(⟨1⟩ : InvalidationId)]?).map (·.state) = some .requested ∧
      ¬ RolledBack s.engine.toRecords (s.engine.acquireWrite Duo.acquireRequest).2.toRecords
        ⟨1⟩ := by
  refine ⟨by decide +kernel, by decide +kernel, fun h => ?_⟩
  have houtstanding := congrArg (Option.map Claim.outstandingInvalidations) h.claim
  revert houtstanding
  decide +kernel

end CoherenceFabric
