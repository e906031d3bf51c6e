import CoherenceFabric.Effects.Changes

/-!
What a step leaves of the fields of a record.

The functions that update a record with several branches differ in few of its fields. For each
of them there is one equation that names these fields.
-/

namespace CoherenceFabric

open FiniteMap RegionRecord

variable {σ : Type} {other : RegionId}

/-! ### Read grants -/

namespace ObjectRecord

variable {object : ObjectRecord} {grant : ReadGrant}

/-- Some read grant has not been released. -/
def Leased (object : ObjectRecord) : Prop := ∃ grant ∈ object.reads, grant.released = false

lemma anyLiveReads_iff : object.anyLiveReads = true ↔ object.Leased := by
  simp [anyLiveReads, Leased]

lemma not_leased_of_released (reads : List ReadGrant) (hreads : object.reads =
    reads.map fun grant => { grant with released := true }) : ¬ object.Leased := by
  rintro ⟨grant, hgrant, hlive⟩
  rw [hreads] at hgrant
  obtain ⟨grant', -, rfl⟩ := List.mem_map.mp hgrant
  cases hlive

lemma mem_releaseReads {p} (hmem : grant ∈ (object.releaseReads p).reads)
    (hlive : grant.released = false) : grant ∈ object.reads := by
  obtain ⟨before, hbefore, rfl⟩ := List.mem_map.mp hmem
  split at hlive
  · cases hlive
  · rwa [if_neg ‹_›]

lemma mem_releaseAt {index} (hmem : grant ∈ (object.releaseAt index).reads)
    (hlive : grant.released = false) : grant ∈ object.reads := by
  rcases List.mem_or_eq_of_mem_set hmem with hold | rfl
  · exact hold
  · cases hlive

lemma shutdown_not_leased (object : ObjectRecord) (sequence : OperationSequence) :
    ¬ (object.shutdown sequence).Leased := by
  refine not_leased_of_released object.reads ?_
  unfold shutdown
  dsimp only
  split <;> rfl

end ObjectRecord

/-! ### Updates of an object -/

section Shape

variable (e : Impl σ) (object : ObjectRecord)

lemma recomputeAuthorityLocked_eq : e.recomputeAuthorityLocked object =
    { object with authority := (e.recomputeAuthorityLocked object).authority } := by
  unfold Impl.recomputeAuthorityLocked
  repeat' split
  all_goals rfl

@[simp] lemma recomputeAuthorityLocked_reads :
    (e.recomputeAuthorityLocked object).reads = object.reads := by
  rw [recomputeAuthorityLocked_eq]

lemma addReadGrantLocked_eq (region : RegionRecord) (ctx : AuthorityContext) (lease : LeaseId) :
    e.addReadGrantLocked object region ctx lease =
      { object with
        authority := (e.addReadGrantLocked object region ctx lease).authority
        reads := (e.addReadGrantLocked object region ctx lease).reads } := by
  unfold Impl.addReadGrantLocked
  repeat' split
  all_goals rfl

namespace ObjectRecord

structure Revoked (object revoked : ObjectRecord) : Prop where
  id : revoked.id = object.id
  replicas : revoked.replicas = object.replicas
  version : revoked.authoritativeVersion = object.authoritativeVersion
  ownership : revoked.ownershipGeneration = object.ownershipGeneration
  writer : revoked.writer = .nil
  writerBoot : revoked.writerBoot = .nil
  pending : revoked.pendingPublication =
    if object.publicationOpen then .nil else object.pendingPublication
  settled : revoked.publicationState ≠ .pendingDurable
  clean : revoked.hasUnpublishedDirty = false
  lifecycle : revoked.lifecycle = object.lifecycle ∨
    object.hasUnpublishedDirty = true ∧ revoked.lifecycle = .recoveryRequired

lemma revokeWriter_spec (policy : DirtyLossPolicy) (sequence : OperationSequence) :
    object.Revoked (object.revokeWriter policy sequence) := by
  have hopen : ({ object with authority := .none, writer := .nil, writerBoot := .nil } :
      ObjectRecord).publicationOpen = object.publicationOpen := rfl
  unfold revokeWriter
  dsimp only
  rw [hopen]
  have hclosed : object.publicationOpen = false → object.publicationState ≠ .pendingDurable := by
    intro hclosed hpending
    simp [publicationOpen, hpending] at hclosed
  cases hpublication : object.publicationOpen <;> cases hdirty : object.hasUnpublishedDirty
  case true.true =>
    cases policy <;> constructor <;> simp [loseDirty, abortPending, hdirty, hpublication]
  case true.false => constructor <;> simp [abortPending, hdirty, hpublication]
  case false.true =>
    cases policy <;> constructor <;> simp [loseDirty, hdirty, hpublication, hclosed hpublication]
  case false.false => constructor <;> simp [hdirty, hpublication, hclosed hpublication]

lemma revokeWriter_reads (policy : DirtyLossPolicy) (sequence : OperationSequence) :
    (object.revokeWriter policy sequence).reads = object.reads := by
  unfold revokeWriter loseDirty
  dsimp only
  repeat' split
  all_goals rfl

/-- An object when an incarnation is fenced: its writer is fenced or its other fields stay, and
no grant is added. -/
lemma cutOff_cases (id : ParticipantId) (boot : ParticipantBootId) (policy : DirtyLossPolicy)
    (sequence : OperationSequence) : ∃ reads touched,
      (∀ grant ∈ reads, grant.released = false → grant ∈ object.reads) ∧
        (object.writer = id ∧ object.writerBoot = boot ∧
            object.cutOff id boot policy sequence =
              { object.revokeWriter policy sequence with
                reads := reads, updatedSequence := touched } ∨
          ¬ (object.writer = id ∧ object.writerBoot = boot) ∧
            object.cutOff id boot policy sequence =
              { object with reads := reads, updatedSequence := touched }) := by
  unfold cutOff
  by_cases hwriter : object.writer = id ∧ object.writerBoot = boot
  · have hrevoked := object.revokeWriter_reads policy sequence
    simp only [if_pos hwriter]
    split
    · exact ⟨_, _, fun grant hmem hlive => hrevoked ▸ mem_releaseReads hmem hlive,
        .inl ⟨hwriter.1, hwriter.2, rfl⟩⟩
    · exact ⟨_, _, fun grant hmem _ => hrevoked ▸ hmem, .inl ⟨hwriter.1, hwriter.2, rfl⟩⟩
  · simp only [if_neg hwriter]
    split
    · exact ⟨_, _, fun grant hmem hlive => mem_releaseReads hmem hlive, .inr ⟨hwriter, rfl⟩⟩
    · exact ⟨_, _, fun grant hmem _ => hmem, .inr ⟨hwriter, rfl⟩⟩

structure Relinquished (object released : ObjectRecord) : Prop where
  id : released.id = object.id
  replicas : released.replicas = object.replicas
  version : released.authoritativeVersion = object.authoritativeVersion
  ownership : released.ownershipGeneration = object.ownershipGeneration.next
  writer : released.writer = .nil
  pending : released.pendingPublication = object.pendingPublication
  clean : released.hasUnpublishedDirty = false
  lifecycle : released.lifecycle = object.lifecycle ∨ released.lifecycle = .recoveryRequired

end ObjectRecord

lemma Impl.relinquish_spec : object.Relinquished (e.relinquish object) := by
  unfold Impl.relinquish
  dsimp only
  cases hdirty : object.hasUnpublishedDirty
  · constructor <;> simp [ObjectRecord.releaseWriter, hdirty]
  · generalize e.dirtyLossPolicyOf _ = policy
    cases policy <;> constructor <;>
      simp [ObjectRecord.releaseDirty, ObjectRecord.releaseWriter]

structure ObjectRecord.ShutDown (object object' : ObjectRecord) : Prop where
  id : object'.id = object.id
  replicas : object'.replicas = object.replicas
  version : object'.authoritativeVersion = object.authoritativeVersion
  ownership : object'.ownershipGeneration = object.ownershipGeneration
  writer : object'.writer = .nil
  pending : object'.pendingPublication =
    if object.publicationState = .pendingDurable then .nil else object.pendingPublication
  dirty : object'.hasUnpublishedDirty = object.hasUnpublishedDirty
  lifecycle : object'.lifecycle = object.lifecycle

lemma ObjectRecord.shutdown_spec (sequence : OperationSequence) :
    object.ShutDown (object.shutdown sequence) := by
  unfold ObjectRecord.shutdown
  by_cases hpending : object.publicationState = .pendingDurable
  · constructor <;> simp [hpending, ObjectRecord.abortPending]
  · constructor <;> simp [hpending]

end Shape

lemma ObjectRecord.mem_insertReplica {replicas id} :
    other ∈ ObjectRecord.insertReplica replicas id ↔ other = id ∨ other ∈ replicas := by
  conv_rhs => rw [← replicas.takeWhile_append_dropWhile (p := fun other => other.value < id.value)]
  simp only [ObjectRecord.insertReplica, List.mem_append, List.mem_singleton]
  tauto

lemma ObjectRecord.mem_addReplica {object : ObjectRecord} {id sequence}
    : other ∈ (object.addReplica id sequence).replicas ↔ other = id ∨ other ∈ object.replicas := by
  unfold ObjectRecord.addReplica
  split
  · simp [or_comm]
  · exact ObjectRecord.mem_insertReplica

lemma ObjectRecord.replicas_subset_addReplica (object : ObjectRecord) (id : RegionId)
    (sequence : OperationSequence) : object.replicas ⊆ (object.addReplica id sequence).replicas :=
  fun _ hmem => ObjectRecord.mem_addReplica.mpr (.inr hmem)

/-! ### What a change does to the fields that most changes keep -/

/-- The fields of an object that only few operations write. -/
structure ObjectRecord.SameCore (object object' : ObjectRecord) : Prop where
  id : object'.id = object.id
  replicas : object.replicas ⊆ object'.replicas
  version : object'.authoritativeVersion = object.authoritativeVersion
  ownership : object'.ownershipGeneration = object.ownershipGeneration
  writer : object'.writer = object.writer ∧ object'.writerBoot = object.writerBoot
  pending : object'.pendingPublication = object.pendingPublication ∧
    object'.publicationState = object.publicationState
  dirty : object'.hasUnpublishedDirty = object.hasUnpublishedDirty
  lifecycle : object'.lifecycle = object.lifecycle

lemma ObjectRecord.SameCore.recompute {object object' : ObjectRecord} (h : object.SameCore object')
    (e : Impl σ) : object.SameCore (e.recomputeAuthorityLocked object') := by
  rw [recomputeAuthorityLocked_eq]
  exact { h with }

section Effect

variable (s : Sys σ)

/-- A change of an object, by what it does to the fields of `SameCore`. -/
inductive ObjectEffect : Action → ObjectId → ObjectRecord → ObjectRecord → Prop
  | keep {a key object object'} (same : object.SameCore object') : ObjectEffect a key object object'
  | revoke {id epoch reason participant key object object'} (current : epoch = s.engine.epoch)
      (known : s.engine.participants[id]? = some participant)
      (live : participant.lifecycle ≠ .retired)
      (writer : object.writer = id ∧ object.writerBoot = participant.boot)
      (revoked : object.Revoked object') :
      ObjectEffect (.fenceParticipant id epoch reason) key object object'
  | transferFailed {request object participant required seq}
      (transfers : Transfers s request object participant) :
      ObjectEffect (.acquireWrite request) request.context.object object
        (object.grantWrite request.context.participant participant.boot required seq).rollbackWrite
  | transfer {request object participant required seq}
      (transfers : Transfers s request object participant) :
      ObjectEffect (.acquireWrite request) request.context.object object
        (object.grantWrite request.context.participant participant.boot required seq)
  | markDirty {request object participant region seq}
      (granted : s.engine.resolveLocked request.context = .granted object participant)
      (allowed : s.engine.markDirtyRefusal request object = .ok region) :
      ObjectEffect (.markDirty request) request.context.object object (object.markDirty seq)
  | reserve {request object participant policy region receipt seq}
      (reserves : Reserves s.engine request object participant policy region receipt)
      (pending : PendingPublication)
      (made : pending = (s.engine.reservation request policy object receipt).1.pending) :
      ObjectEffect (.publishReserve request) request.context.object object
        (object.reserve pending seq)
  | abort {index frame object} (ready : s.ready index = some frame)
      (lost : s.engine.commitTarget frame = none) :
      ObjectEffect (.publishCommit index) frame.pending.object object object.abortPending
  | commit {index frame object bound seq} (ready : s.ready index = some frame)
      (target : s.engine.commitTarget frame = some object) :
      ObjectEffect (.publishCommit index) frame.pending.object object
        (object.commit frame.pending frame.pending.writer frame.pending.writerBoot bound seq)
  | relinquish {request object participant object'}
      (granted : s.engine.resolveLocked request.context = .granted object participant)
      (writer : object.writer = request.context.participant ∧
        object.writerBoot = request.context.boot)
      (ownership : request.ownershipGeneration = object.ownershipGeneration)
      (released : object.Relinquished object') :
      ObjectEffect (.release request) request.context.object object object'
  | resolveRecovery {id generation epoch note object seq}
      (allowed : s.engine.resolveRecoveryRefusal id generation epoch = .ok object) :
      ObjectEffect (.resolveRecovery id generation epoch note) id object
        (object.resolveRecovery note seq)
  | retire {id generation epoch object seq}
      (allowed : s.engine.retireObjectRefusal id generation epoch = .ok object) :
      ObjectEffect (.retireObject id generation epoch) id object (object.retire seq)
  | shutdown {epoch key object object'} (current : epoch = s.engine.epoch)
      (running : s.engine.shuttingDown = false) (down : object.ShutDown object') :
      ObjectEffect (.beginShutdown epoch) key object object'

end Effect

section Object

variable {s : Sys σ} {a : Action} {key : ObjectId} {object object' : ObjectRecord}

theorem ObjectChange.effect (h : ObjectChange s a key object object') :
    ObjectEffect s a key object object' := by
  have hsame : object.SameCore object :=
    ⟨rfl, List.Subset.refl _, rfl, rfl, ⟨rfl, rfl⟩, ⟨rfl, rfl⟩, rfl, rfl⟩
  cases h with
  | same => exact .keep hsame
  | @fence id _ _ participant _ _ seq e current known live =>
    rw [recomputeAuthorityLocked_eq]
    obtain ⟨reads, touched, -, ⟨hwriter, hboot, hcut⟩ | ⟨-, hcut⟩⟩ :=
      object.cutOff_cases id participant.boot (s.engine.dirtyLossPolicyOf object) seq
    · have hspec := object.revokeWriter_spec (s.engine.dirtyLossPolicyOf object) seq
      rw [hcut]
      exact .revoke current known live ⟨hwriter, hboot⟩ { hspec with }
    · rw [hcut]
      exact .keep { hsame with }
  | addReplica => exact .keep { hsame with replicas := object.replicas_subset_addReplica _ _ }
  | @retireRegion _ _ _ region _ e =>
    have hreleased : object.SameCore (object.releaseReads fun grant => grant.region == region.id) :=
      { hsame with }
    exact .keep (hreleased.recompute e)
  | grantRead =>
    rw [addReadGrantLocked_eq]
    exact .keep { hsame with }
  | transferFailed transfers => exact .transferFailed transfers
  | transfer transfers => exact .transfer transfers
  | markDirty granted allowed => exact .markDirty granted allowed
  | reserve reserves pending made => exact .reserve reserves pending made
  | abort ready lost => exact .abort ready lost
  | commit ready target => exact .commit ready target
  | @releaseLease _ _ _ index _ e =>
    have hreleased : object.SameCore (object.releaseAt index) := { hsame with }
    exact .keep { hreleased.recompute e with }
  | releaseAuthority e granted writer ownership =>
    have hspec := s.engine.relinquish_spec object
    rw [recomputeAuthorityLocked_eq]
    exact .relinquish granted writer ownership { hspec with }
  | @invalidateNow _ _ _ id seq e =>
    have hpassed : object.SameCore (object.passOutstanding id seq) := { hsame with }
    exact .keep (hpassed.recompute e)
  | setPolicy | prefer | promote | invalidateLater => exact .keep { hsame with }
  | @acknowledge _ record _ _ e =>
    have hdropped : object.SameCore (object.dropOutstanding record.id) := { hsame with }
    exact .keep { hdropped.recompute e with }
  | resolveRecovery allowed => exact .resolveRecovery allowed
  | retire allowed => exact .retire allowed
  | shutdown current running => exact .shutdown current running (object.shutdown_spec _)

/-- Only a commit moves the version of an object. -/
theorem ObjectEffect.version (h : ObjectEffect s a key object object') :
    object'.authoritativeVersion = object.authoritativeVersion ∨
      ∃ index frame, a = .publishCommit index ∧ s.ready index = some frame ∧
        frame.pending.object = key ∧ s.engine.commitTarget frame = some object ∧
        object'.authoritativeVersion = frame.pending.version := by
  cases h with
  | keep same => exact .inl same.version
  | revoke _ _ _ _ revoked => exact .inl revoked.version
  | commit ready target => exact .inr ⟨_, _, rfl, ready, rfl, target, rfl⟩
  | relinquish _ _ _ released => exact .inl released.version
  | shutdown _ _ down => exact .inl down.version
  | _ => exact .inl rfl

/-- The identity of an object stays, and it keeps listing its replicas. -/
theorem ObjectEffect.body (h : ObjectEffect s a key object object') :
    object'.id = object.id ∧ object.replicas ⊆ object'.replicas := by
  cases h with
  | keep same => exact ⟨same.id, same.replicas⟩
  | revoke _ _ _ _ revoked => exact ⟨revoked.id, revoked.replicas ▸ List.Subset.refl _⟩
  | relinquish _ _ _ released => exact ⟨released.id, released.replicas ▸ List.Subset.refl _⟩
  | shutdown _ _ down => exact ⟨down.id, down.replicas ▸ List.Subset.refl _⟩
  | _ => exact ⟨rfl, List.Subset.refl _⟩

end Object

/-! ### What a change does to a replica -/

structure RegionRecord.SamePlace (region region' : RegionRecord) : Prop where
  id : region'.id = region.id
  object : region'.object = region.object
  extent : region'.offset = region.offset ∧ region'.length = region.length

/-- What a replica holds is left as it is. -/
structure RegionRecord.SameCore (region region' : RegionRecord) : Prop
    extends region.SamePlace region' where
  state : region'.state = region.state
  version : region'.version = region.version
  evidence : region'.evidence = region.evidence
  ownership : region'.ownershipGeneration = region.ownershipGeneration
  content : region'.content = region.content
  dirty : region'.dirty = region.dirty

lemma RegionRecord.SameCore.refl (region : RegionRecord) : region.SameCore region :=
  { id := rfl, object := rfl, extent := ⟨rfl, rfl⟩, state := rfl, version := rfl,
    evidence := rfl, ownership := rfl, content := rfl, dirty := rfl }

/-- The replica is not current any more, or still not. What it holds is left as it is; an
unpublished modification may be reported as lost. -/
structure RegionRecord.Lowered (region region' : RegionRecord) : Prop
    extends region.SamePlace region' where
  state : region'.state ≠ .current
  version : region'.version = region.version
  ownership : region'.ownershipGeneration = region.ownershipGeneration
  content : region'.content = region.content
  dirty : region'.dirty = region.dirty ∨ region'.dirty = region.dirty.lost

section Effect

variable (s : Sys σ)

/-- A change of a replica, by what it does to the fields of `SameCore`. -/
inductive RegionEffect : Action → RegionId → RegionRecord → RegionRecord → Prop
  | keep {a key region region'} (same : region.SameCore region') : RegionEffect a key region region'
  | lower {a key region region'} (lowered : region.Lowered region') :
      RegionEffect a key region region'
  | markDirty {request object participant region seq}
      (granted : s.engine.resolveLocked request.context = .granted object participant)
      (allowed : s.engine.markDirtyRefusal request object = .ok region) :
      RegionEffect (.markDirty request) request.region region
        (region.markDirty request object.ownershipGeneration seq)
  | publish {index frame object region seq} (ready : s.ready index = some frame)
      (target : s.engine.commitTarget frame = some object) :
      RegionEffect (.publishCommit index) frame.region region
        (region.publish frame.pending frame.pending.ownershipGeneration ⟨s.engine.nextEvidenceId⟩
          seq)
  | completeSync {request record object destination seq}
      (completes : Completes s request record object destination)
      (live : destination.lifecycle ≠ .retired ∧ destination.state ≠ .retired)
      (version : object.authoritativeVersion = record.sourceVersion)
      (content : (s.engine.policyLocked object).any (fun policy =>
          policy.requireContentFingerprint) → record.expectedContent.defined →
        request.observedContent.same record.expectedContent) :
      RegionEffect (.completeSync request) record.destinationRegion destination
        (destination.completeSync (record.complete seq) object.ownershipGeneration
          request.observedContent ⟨s.engine.nextEvidenceId⟩ seq)
  | revalidate {request object participant region seq}
      (granted : s.engine.resolveLocked request.context = .granted object participant)
      (allowed : s.engine.revalidateRefusal request object = .ok region) :
      RegionEffect (.revalidateRegion request) request.region region
        (region.revalidate request object.authoritativeVersion object.ownershipGeneration
          ⟨s.engine.nextEvidenceId⟩ seq)

end Effect

section Region

variable {s : Sys σ} {a : Action} {key : RegionId} {region region' : RegionRecord}

lemma Impl.failedDestination_state (request : SyncFailRequest) :
    (Impl.failedDestination request).1 ≠ .current := by
  unfold Impl.failedDestination
  repeat' split
  all_goals nofun

lemma RegionRecord.requestSync_lowered (region : RegionRecord) (sync : SyncOperationId)
    (source : RegionId) (sequence : OperationSequence) :
    region.Lowered (region.requestSync sync source sequence) := by
  refine ⟨⟨rfl, rfl, rfl, rfl⟩, ?_, rfl, rfl, rfl, .inl rfl⟩
  unfold requestSync
  dsimp only
  cases region.state <;> decide

theorem RegionChange.effect (h : RegionChange s a key region region') :
    RegionEffect s a key region region' := by
  have hsame := RegionRecord.SameCore.refl region
  have hlower : ∀ {region' : RegionRecord}, region'.state ≠ .current →
      region'.id = region.id → region'.object = region.object →
      region'.offset = region.offset ∧ region'.length = region.length →
      region'.version = region.version →
      region'.ownershipGeneration = region.ownershipGeneration →
      region'.content = region.content →
      region'.dirty = region.dirty ∨ region'.dirty = region.dirty.lost → region.Lowered region' :=
    fun hstate hid hobject hextent hversion hownership hcontent hdirty =>
      ⟨⟨hid, hobject, hextent⟩, hstate, hversion, hownership, hcontent, hdirty⟩
  cases h with
  | same => exact .keep hsame
  | markDirty granted allowed => exact .markDirty granted allowed
  | publish ready target => exact .publish ready target
  | supersede => exact .lower (hlower nofun rfl rfl ⟨rfl, rfl⟩ rfl rfl rfl (.inl rfl))
  | release granted writer ownership listed dirty =>
    refine .lower (hlower nofun rfl rfl ⟨rfl, rfl⟩ rfl rfl rfl (.inr ?_))
    rw [dirty]
    rfl
  | transfer | invalidateLater => exact .keep { hsame with }
  | invalidateNow | acknowledge =>
    refine .lower (hlower ?_ rfl rfl ⟨rfl, rfl⟩ rfl rfl rfl (.inl rfl))
    unfold invalidate
    split <;> nofun
  | requestSync => exact .lower (region.requestSync_lowered _ _ _)
  | completeSync completes live ends =>
    cases ends with
    | stale | unmoved | mismatch =>
      exact .lower (hlower nofun rfl rfl ⟨rfl, rfl⟩ rfl rfl rfl (.inl rfl))
    | current version content => exact .completeSync completes live version content
  | failSync =>
    exact .lower (hlower (Impl.failedDestination_state _) rfl rfl ⟨rfl, rfl⟩ rfl rfl rfl (.inl rfl))
  | revalidate granted allowed => exact .revalidate granted allowed
  | rejoin | fence | retire | retireObject =>
    exact .lower (hlower nofun rfl rfl ⟨rfl, rfl⟩ rfl rfl rfl (.inr rfl))

/-- No step moves a replica to another object or extent. -/
theorem RegionEffect.samePlace (h : RegionEffect s a key region region') :
    region.SamePlace region' := by
  cases h with
  | keep same => exact same.toSamePlace
  | lower lowered => exact lowered.toSamePlace
  | revalidate =>
    unfold RegionRecord.revalidate
    dsimp only
    split <;> exact ⟨rfl, rfl, rfl, rfl⟩
  | _ => exact ⟨rfl, rfl, rfl, rfl⟩

end Region

/-! ### The release of write authority -/

/-- The request makes the writer of the object release its authority. -/
structure Releases (e : Impl σ) (request : ReleaseRequest) (object : ObjectRecord) : Prop where
  granted : ∃ participant, e.resolveLocked request.context = .granted object participant
  asked : request.lease.defined = false ∧ request.releaseWriteAuthority = true
  writer : object.writer = request.context.participant ∧
    object.writerBoot = request.context.boot
  ownership : request.ownershipGeneration = object.ownershipGeneration

lemma Releases.ownership_after [DurableStore σ] {e : Impl σ} {request object object'}
    (h : Releases e request object)
    (hobject' : (e.release request).2.objects[request.context.object]? = some object') :
    object'.ownershipGeneration = object.ownershipGeneration.next := by
  obtain ⟨participant, granted⟩ := h.granted
  unfold Impl.release at hobject'
  simp only [granted] at hobject'
  rw [if_neg (by simp [h.asked.1]), if_neg (by simp [h.asked.2]),
    if_neg (not_or.mpr ⟨not_not.mpr h.writer.1, not_not.mpr h.writer.2⟩),
    if_neg (not_not.mpr h.ownership)] at hobject'
  have hspec := e.takeDecisionId.tick.relinquish_spec object
  unfold Impl.releaseAuthority at hobject'
  dsimp only at hobject'
  split at hobject'
  all_goals
    simp only [Impl.recordDecision_toRecords] at hobject'
    have hfound := Option.some.inj (getElem?_insert_self.symm.trans hobject')
    rw [← hfound, ← hspec.ownership]
    rw [recomputeAuthorityLocked_eq]

end CoherenceFabric
