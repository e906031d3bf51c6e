import CoherenceFabric.Effects.StepOutcome
import CoherenceFabric.Invariants.Keys

/-!
What a step leaves of one object, of one replica and of one synchronization.

This is `Effects.Outcome` seen from a single record: the record before the step and the record
after it, with what the operation has checked.
-/

namespace CoherenceFabric

open FiniteMap Impl Ledger

variable {σ : Type}

section Changes

variable (s : Sys σ)

/-- What a step leaves of an object. -/
inductive ObjectChange : Action → ObjectId → ObjectRecord → ObjectRecord → Prop
  | same {a key object} : ObjectChange a key object object
  | fence {id epoch reason participant key object seq} (e : Impl σ)
      (current : epoch = s.engine.epoch)
      (known : s.engine.participants[id]? = some participant)
      (live : participant.lifecycle ≠ .retired) :
      ObjectChange (.fenceParticipant id epoch reason) key object (e.recomputeAuthorityLocked
        (object.cutOff id participant.boot (s.engine.dirtyLossPolicyOf object) seq))
  | setPolicy {id generation expected next object seq}
      (allowed : s.engine.setPolicyRefusal id generation expected next = .ok object) :
      ObjectChange (.setPolicy id generation expected next) id object
        (object.setPolicy (s.engine.replacementPolicy object next) seq)
  | addReplica {registration object participant seq}
      (allowed : s.engine.registerRegionRefusal registration = .ok (object, participant)) :
      ObjectChange (.registerRegion registration) registration.context.object object
        (object.addReplica (s.engine.newRegion registration object participant).id seq)
  | retireRegion {id generation epoch region object} (e : Impl σ)
      (allowed : s.engine.retireRegionRefusal id generation epoch = .ok region) :
      ObjectChange (.retireRegion id generation epoch) region.object object
        (e.recomputeAuthorityLocked (object.releaseReads fun grant => grant.region == region.id))
  | prefer {a object participant id} {request : ReadRequest}
      (reads : a = .acquireRead request ∨ a = .explainRead request)
      (granted : s.engine.resolveLocked request.context = .granted object participant) :
      ObjectChange a request.context.object object { object with preferredCurrentReplica := id }
  | grantRead {request object participant id region lease} {selected : RegionId} (e : Impl σ)
      (granted : s.engine.resolveLocked request.context = .granted object participant)
      (found : s.engine.regions[selected]? = some region) (belongs : region.object = object.id)
      (current : region.state = .current) :
      ObjectChange (.acquireRead request) request.context.object object
        (e.addReadGrantLocked { object with preferredCurrentReplica := id } region request.context
          lease)
  | transferFailed {request object participant required seq}
      (transfers : Transfers s request object participant) :
      ObjectChange (.acquireWrite request) request.context.object object
        (object.grantWrite request.context.participant participant.boot required seq).rollbackWrite
  | transfer {request object participant required seq}
      (transfers : Transfers s request object participant) :
      ObjectChange (.acquireWrite request) request.context.object object
        (object.grantWrite request.context.participant participant.boot required seq)
  | promote {request object participant}
      (granted : s.engine.resolveLocked request.context = .granted object participant)
      (pending : object.authority = .transferPending)
      (settled : s.engine.hasOutstandingInvalidationsLocked object.id = false) :
      ObjectChange (.acquireWrite request) request.context.object object
        { object with authority := .exclusiveWriter }
  | markDirty {request object participant region seq}
      (granted : s.engine.resolveLocked request.context = .granted object participant)
      (allowed : s.engine.markDirtyRefusal request object = .ok region) :
      ObjectChange (.markDirty request) request.context.object object (object.markDirty seq)
  | reserve {request object participant policy region receipt seq}
      (reserves : Reserves s.engine request object participant policy region receipt)
      (pending : PendingPublication)
      (made : pending = (s.engine.reservation request policy object receipt).1.pending) :
      ObjectChange (.publishReserve request) request.context.object object
        (object.reserve pending seq)
  | abort {index frame object} (ready : s.ready index = some frame)
      (lost : s.engine.commitTarget frame = none) :
      ObjectChange (.publishCommit index) frame.pending.object object object.abortPending
  | commit {index frame object bound seq} (ready : s.ready index = some frame)
      (target : s.engine.commitTarget frame = some object) :
      ObjectChange (.publishCommit index) frame.pending.object object
        (object.commit frame.pending frame.pending.writer frame.pending.writerBoot bound seq)
  | releaseLease {request object participant index seq} (e : Impl σ)
      (granted : s.engine.resolveLocked request.context = .granted object participant) :
      ObjectChange (.release request) request.context.object object
        { e.recomputeAuthorityLocked (object.releaseAt index) with updatedSequence := seq }
  | releaseAuthority {request object participant seq} (e : Impl σ)
      (granted : s.engine.resolveLocked request.context = .granted object participant)
      (writer : object.writer = request.context.participant ∧
        object.writerBoot = request.context.boot)
      (ownership : request.ownershipGeneration = object.ownershipGeneration) :
      ObjectChange (.release request) request.context.object object
        { e.recomputeAuthorityLocked (s.engine.relinquish object) with updatedSequence := seq }
  | invalidateNow {request object region id seq} (e : Impl σ)
      (issues : Issues s request object region) :
      ObjectChange (.invalidate request) request.context.object object
        (e.recomputeAuthorityLocked (object.passOutstanding id seq))
  | invalidateLater {request object region id seq} (issues : Issues s request object region) :
      ObjectChange (.invalidate request) request.context.object object
        (object.addOutstanding id seq)
  | acknowledge {ack record object seq} (e : Impl σ)
      (acknowledges : Acknowledges s ack record object) :
      ObjectChange (.acknowledgeInvalidation ack) ack.context.object object
        { e.recomputeAuthorityLocked (object.dropOutstanding record.id) with
          updatedSequence := seq }
  | resolveRecovery {id generation epoch note object seq}
      (allowed : s.engine.resolveRecoveryRefusal id generation epoch = .ok object) :
      ObjectChange (.resolveRecovery id generation epoch note) id object
        (object.resolveRecovery note seq)
  | retire {id generation epoch object seq}
      (allowed : s.engine.retireObjectRefusal id generation epoch = .ok object) :
      ObjectChange (.retireObject id generation epoch) id object (object.retire seq)
  | shutdown {epoch key object seq} (current : epoch = s.engine.epoch)
      (running : s.engine.shuttingDown = false) :
      ObjectChange (.beginShutdown epoch) key object (object.shutdown seq)

/-- What a step leaves of a replica. -/
inductive RegionChange : Action → RegionId → RegionRecord → RegionRecord → Prop
  | same {a key region} : RegionChange a key region region
  | rejoin {name boot epoch label seq key region} {id : ParticipantId}
      {record : ParticipantRecord} (known : s.engine.participantIndex[name]? = some id)
      (found : record = (s.engine.participants[id]?).getD {})
      (differs : ¬ (record.boot = boot ∧ record.lifecycle ≠ .retired))
      (held : region.participant = record.id ∧ region.boot = record.boot) :
      RegionChange (.registerParticipant name boot epoch label) key region
        (region.supersedeBoot seq)
  | fence {id epoch reason participant key region seq} (current : epoch = s.engine.epoch)
      (known : s.engine.participants[id]? = some participant)
      (live : participant.lifecycle ≠ .retired)
      (held : region.participant = id ∧ region.boot = participant.boot) :
      RegionChange (.fenceParticipant id epoch reason) key region (region.fence reason seq)
  | retire {id generation epoch region seq}
      (allowed : s.engine.retireRegionRefusal id generation epoch = .ok region) :
      RegionChange (.retireRegion id generation epoch) id region (region.retireSettled seq)
  | transfer {request object participant key region id seq}
      (transfers : Transfers s request object participant) :
      RegionChange (.acquireWrite request) key region (region.awaitInvalidation id seq)
  | markDirty {request object participant region seq}
      (granted : s.engine.resolveLocked request.context = .granted object participant)
      (allowed : s.engine.markDirtyRefusal request object = .ok region) :
      RegionChange (.markDirty request) request.region region
        (region.markDirty request object.ownershipGeneration seq)
  | publish {index frame object region seq} (ready : s.ready index = some frame)
      (target : s.engine.commitTarget frame = some object) :
      RegionChange (.publishCommit index) frame.region region
        (region.publish frame.pending frame.pending.ownershipGeneration ⟨s.engine.nextEvidenceId⟩
          seq)
  | supersede {index frame object key region} (ready : s.ready index = some frame)
      (target : s.engine.commitTarget frame = some object) (other : key ≠ frame.region)
      (current : region.state = .current) :
      RegionChange (.publishCommit index) key region (region.superseded frame.pending.version)
  | release {request object participant key region seq}
      (granted : s.engine.resolveLocked request.context = .granted object participant)
      (writer : object.writer = request.context.participant ∧
        object.writerBoot = request.context.boot)
      (ownership : request.ownershipGeneration = object.ownershipGeneration)
      (listed : key ∈ object.replicas) (dirty : region.dirty = .dirtyUnpublished) :
      RegionChange (.release request) key region (region.discardDirty seq)
  | invalidateNow {request object region id seq} (issues : Issues s request object region)
      (settled : request.acknowledgementRequired = false) :
      RegionChange (.invalidate request) request.targetRegion region (region.invalidate id seq)
  | invalidateLater {request object region id seq} (issues : Issues s request object region)
      (awaits : request.acknowledgementRequired = true) :
      RegionChange (.invalidate request) request.targetRegion region
        (region.awaitInvalidation id seq)
  | acknowledge {ack record object region seq} (acknowledges : Acknowledges s ack record object)
      (agrees : region.generation = record.regionGeneration ∧
        region.replicaGeneration = record.replicaGeneration ∧
        region.generation = ack.regionGeneration ∧
        region.replicaGeneration = ack.replicaGeneration) :
      RegionChange (.acknowledgeInvalidation ack) record.region region
        (region.invalidate record.id seq)
  | requestSync {request object participant source destination id seq}
      (granted : s.engine.resolveLocked request.context = .granted object participant)
      (allowed : s.engine.beginSyncRefusal request object = .ok (source, destination)) :
      RegionChange (.beginSync request) request.destinationRegion destination
        (destination.requestSync id source.id seq)
  | completeSync {request record object destination record' destination'}
      (completes : Completes s request record object destination)
      (live : destination.lifecycle ≠ .retired ∧ destination.state ≠ .retired)
      (ends : SyncEnd s request record object destination record' destination') :
      RegionChange (.completeSync request) record.destinationRegion destination destination'
  | failSync {request record destination seq} (fails : Fails s request record) :
      RegionChange (.failSync request) record.destinationRegion destination
        (destination.refuseSync (Impl.failedDestination request).1
          (Impl.failedDestination request).2 seq)
  | revalidate {request object participant region seq}
      (granted : s.engine.resolveLocked request.context = .granted object participant)
      (allowed : s.engine.revalidateRefusal request object = .ok region) :
      RegionChange (.revalidateRegion request) request.region region
        (region.revalidate request object.authoritativeVersion object.ownershipGeneration
          ⟨s.engine.nextEvidenceId⟩ seq)
  | retireObject {id generation epoch object key region seq}
      (allowed : s.engine.retireObjectRefusal id generation epoch = .ok object)
      (listed : key ∈ object.replicas) :
      RegionChange (.retireObject id generation epoch) key region (region.retire seq)

/-- What a step leaves of a synchronization: the plan stays, unless another one takes its
identity. Only a failure report reaches one that is settled. -/
inductive SyncChange : Action → SyncOperationId → SyncRecord → SyncRecord → Prop
  | same {a key record} : SyncChange a key record record
  | settle {a key record state seq reason}
      (unsettled : record.isSettled = false ∨
        ∃ request, a = .failSync request ∧ key = request.operation ∧ Fails s request record) :
      SyncChange a key record
        { record with state := state, settledSequence := seq, failureReason := reason }
  | replace {a key record record'} (planned : NewSync s a key record') :
      SyncChange a key record record'

/-- What a step leaves of every record of three kinds. -/
structure StepChanges (a : Action) (l : Ledger) : Prop where
  objects : Changes (ObjectChange s a) (NewObject s a) s.engine.objects l.objects
  regions : Changes (RegionChange s a) (NewRegion s a) s.engine.regions l.regions
  syncs : Changes (SyncChange s a) (NewSync s a) s.engine.syncs l.syncs

end Changes

variable {s : Sys σ} {a : Action}

/-! ### Changes of one record -/

lemma RegionRecord.cutOff_sameReplica (region : RegionRecord) (id : ParticipantId)
    (boot : ParticipantBootId) (reason : Text) (sequence : OperationSequence) :
    region.SameReplica (region.cutOff id boot reason sequence) := by
  unfold cutOff
  split <;> exact ⟨rfl, rfl, rfl, rfl, rfl, rfl⟩

lemma Completes.unsettled {request record} {object destination}
    (h : Completes s request record object destination) : record.isSettled = false := by
  have hrunning := h.running
  have hallowed := h.allowed
  unfold completeSyncRefusal at hallowed
  split at hallowed
  · cases hallowed
  rename_i hopen
  unfold SyncRecord.isSettled
  revert hrunning hopen
  cases record.state <;> simp

lemma NewSync.destination (hkeyed : All (fun id region => region.id = id) s.engine.regions)
    {key record} (h : NewSync s a key record) :
    ∃ region, s.engine.regions[record.destinationRegion]? = some region ∧
      region.id = record.destinationRegion ∧ region.object = record.object := by
  obtain ⟨e, -, allowed, -⟩ := h
  obtain ⟨hfound, -, hobject, -⟩ := beginSyncRefusal_ok allowed
  refine ⟨_, ?_, rfl, hobject⟩
  change s.engine.regions[RegionRecord.id _]? = _
  rwa [hkeyed _ _ hfound]

lemma StepChanges.idle : StepChanges s a s.engine.ledger where
  objects := .refl (fun _ _ => .same) _
  regions := .refl (fun _ _ => .same) _
  syncs := .refl (fun _ _ => .same) _

section Set

variable {l : Ledger} (h : StepChanges s a l)
include h

lemma StepChanges.setObject {id object object'}
    (hl : l.objects = s.engine.objects) (hfound : s.engine.objects[id]? = some object)
    (hchange : ObjectChange s a id object object') : StepChanges s a (l.setObject id object') :=
  { h with
    objects := by
      change Changes _ _ _ (l.objects.insert id object')
      rw [hl]
      exact .insert (fun _ _ => .same) hfound hchange }

lemma StepChanges.setRegion {id region region'}
    (hl : l.regions = s.engine.regions) (hfound : s.engine.regions[id]? = some region)
    (hchange : RegionChange s a id region region') : StepChanges s a (l.setRegion id region') :=
  { h with
    regions := by
      change Changes _ _ _ (l.regions.insert id region')
      rw [hl]
      exact .insert (fun _ _ => .same) hfound hchange }

lemma StepChanges.setSync {id record record'}
    (hl : l.syncs = s.engine.syncs) (hfound : s.engine.syncs[id]? = some record)
    (hchange : SyncChange s a id record record') : StepChanges s a (l.setSync id record') :=
  { h with
    syncs := by
      change Changes _ _ _ (l.syncs.insert id record')
      rw [hl]
      exact .insert (fun _ _ => .same) hfound hchange }

lemma StepChanges.withRegions {regions}
    (hregions : Changes (RegionChange s a) (NewRegion s a) s.engine.regions regions) :
    StepChanges s a { l with regions := regions } :=
  { h with regions := hregions }

lemma StepChanges.withSyncs {syncs}
    (hsyncs : Changes (SyncChange s a) (NewSync s a) s.engine.syncs syncs) :
    StepChanges s a { l with syncs := syncs } :=
  { h with syncs := hsyncs }

lemma StepChanges.setInvalidation {id record} : StepChanges s a (l.setInvalidation id record) :=
  { h with }

end Set

lemma issued_changes (required : List InvalidationRecord) (seq : OperationSequence) :
    ∀ r : Records, (required.foldl (issueInvalidation seq) r).objects = r.objects ∧
      (required.foldl (issueInvalidation seq) r).syncs = r.syncs ∧ ∀ key : RegionId,
        (required.foldl (issueInvalidation seq) r).regions[key]? = r.regions[key]? ∨
        ∃ region id, r.regions[key]? = some region ∧
          (required.foldl (issueInvalidation seq) r).regions[key]? =
            some (region.awaitInvalidation id seq) := by
  induction required with
  | nil => exact fun r => ⟨rfl, rfl, fun key => .inl rfl⟩
  | cons record rest ih =>
    intro r
    obtain ⟨hobjects, hsyncs, hregions⟩ := ih (issueInvalidation seq r record)
    have hone : (issueInvalidation seq r record).objects = r.objects ∧
        (issueInvalidation seq r record).syncs = r.syncs := by
      unfold issueInvalidation
      dsimp only
      split <;> exact ⟨rfl, rfl⟩
    refine ⟨hobjects.trans hone.1, hsyncs.trans hone.2, fun key => ?_⟩
    have hregion : (issueInvalidation seq r record).regions[key]? = r.regions[key]? ∨
        ∃ region, r.regions[key]? = some region ∧
          (issueInvalidation seq r record).regions[key]? =
            some (region.awaitInvalidation record.id seq) := by
      unfold issueInvalidation
      dsimp only
      split
      · exact .inl rfl
      rename_i region hfound
      by_cases hkey : record.region = key
      · subst hkey
        exact .inr ⟨region, hfound, getElem?_insert_self⟩
      · exact .inl (by simp [Records.setRegion, Records.setInvalidation,
          getElem?_insert, hkey])
    rcases hregion with hsame | ⟨region, hfound, hawaits⟩
    · rcases hregions key with hrest | ⟨region, id, hfound, hrest⟩
      · exact .inl (hrest.trans hsame)
      · exact .inr ⟨region, id, hsame ▸ hfound, hrest⟩
    rcases hregions key with hrest | ⟨region', id, hfound', hrest⟩
    · exact .inr ⟨region, record.id, hfound, hrest.trans hawaits⟩
    · -- the replica is marked twice: the second mark stands
      cases hawaits.symm.trans hfound'
      exact .inr ⟨region, id, hfound, hrest⟩

lemma transfer_changes {request object participant}
    (transfers : Transfers s request object participant)
    (required : List InvalidationRecord) (seq : OperationSequence) :
    StepChanges s (.acquireWrite request) (required.foldl (issueInvalidation seq)
      (s.engine.toRecords.setObject request.context.object (object.grantWrite
        request.context.participant participant.boot required seq))).ledger := by
  have hfound := resolveLocked_found transfers.granted
  obtain ⟨hobjects, hsyncs, hregions⟩ := issued_changes required seq
    (s.engine.toRecords.setObject request.context.object (object.grantWrite
      request.context.participant participant.boot required seq))
  refine ⟨?_, ⟨fun {key region} h => ?_, fun {key region'} h => ?_⟩, ?_⟩
  · change Changes _ _ _ (Records.objects _)
    rw [hobjects]
    exact .insert (fun _ _ => .same) hfound (.transfer transfers)
  · rcases hregions key with hsame | ⟨region', id, hfound', hawaits⟩
    · exact ⟨region, hsame.trans h, .same⟩
    · cases hfound'.symm.trans h
      exact ⟨_, hawaits, .transfer transfers⟩
  · rcases hregions key with hsame | ⟨region, id, hfound', hawaits⟩
    · exact .inl ⟨region', hsame.symm.trans h, .same⟩
    · cases hawaits.symm.trans h
      exact .inl ⟨region, hfound', .transfer transfers⟩
  · change Changes _ _ _ (Records.syncs _)
    rw [hsyncs]
    exact .refl (fun _ _ => .same) _

/-! ### Every step -/

lemma SyncEnd.settles {request record record' object destination destination'} {key}
    (h : SyncEnd s request record object destination record' destination')
    (hunsettled : record.isSettled = false) : SyncChange s a key record record' := by
  cases h <;> exact .settle (.inl hunsettled)

/-- However the step ends, it changes single records as above. -/
abbrev Described (s : Sys σ) (a : Action) : Prop :=
  ∀ {healthy l}, Outcome s a healthy l → StepChanges s a l

lemma prefer_changes {object participant id} {request : ReadRequest}
    (reads : a = .acquireRead request ∨ a = .explainRead request)
    (granted : s.engine.resolveLocked request.context = .granted object participant) :
    StepChanges s a (s.engine.ledger.setObject request.context.object
      { object with preferredCurrentReplica := id }) :=
  StepChanges.idle.setObject rfl (resolveLocked_found granted)
    (@ObjectChange.prefer _ s a _ _ id request reads granted)

lemma fence_changes (id epoch reason) : Described s (.fenceParticipant id epoch reason) := by
  intro healthy l h
  cases h with
  | idle => exact .idle
  | prefer reads granted => exact prefer_changes reads granted
  | fence e current known live stage =>
    have hobjects : e.objects = _ := congrArg objects stage
    refine ⟨?_, ?_, ?_⟩
    · rw [hobjects, Std.ExtTreeMap.map_map]
      exact .map fun _ _ _ => .fence e current known live
    · rw [stage]
      refine .map fun _ region _ => ?_
      unfold RegionRecord.cutOff
      split
      · rename_i hheld
        exact .fence current known live ⟨hheld.1, hheld.2.1⟩
      · exact .same
    rw [stage]
    refine .map fun _ sync _ => ?_
    unfold SyncRecord.cutOff
    split
    · rename_i hopen
      exact .settle (.inl (by simpa using hopen.2.2))
    · exact .same

lemma registerRegion_changes (registration) : Described s (.registerRegion registration) := by
  intro healthy l h
  cases h with
  | idle => exact .idle
  | prefer reads granted => exact prefer_changes reads granted
  | enrolFailed allowed =>
    exact StepChanges.idle.setObject rfl (registerRegionRefusal_ok allowed).1 (.addReplica allowed)
  | enrol allowed =>
    exact (StepChanges.idle.setObject rfl (registerRegionRefusal_ok allowed).1
      (.addReplica allowed)).withRegions (.insertIfNew (fun _ _ => .same) fun _ =>
        .register allowed)

lemma retireRegion_changes (id generation epoch) :
    Described s (.retireRegion id generation epoch) := by
  intro healthy l h
  cases h with
  | idle => exact .idle
  | prefer reads granted => exact prefer_changes reads granted
  | retireOrphan allowed =>
    exact StepChanges.idle.setRegion rfl (retireRegionRefusal_ok allowed) (.retire allowed)
  | retireRegion e allowed found stage =>
    rw [stage, setObject_setObject]
    exact (StepChanges.idle.setRegion rfl (retireRegionRefusal_ok allowed)
      (.retire allowed)).setObject rfl found (.retireRegion e allowed)

lemma retireObject_changes (id generation epoch) :
    Described s (.retireObject id generation epoch) := by
  intro healthy l h
  cases h with
  | idle => exact .idle
  | prefer reads granted => exact prefer_changes reads granted
  | retireObjectFailed allowed =>
    exact StepChanges.idle.setObject rfl (retireObjectRefusal_ok allowed) (.retire allowed)
  | retireObject allowed =>
    refine (StepChanges.idle.setObject rfl (retireObjectRefusal_ok allowed)
      (.retire allowed)).withRegions (.map fun key region _ => ?_)
    split
    · exact .retireObject allowed ‹_›
    · exact .same

lemma beginShutdown_changes (epoch) : Described s (.beginShutdown epoch) := by
  intro healthy l h
  have hidle : StepChanges s (.beginShutdown epoch) s.engine.ledger := .idle
  cases h with
  | idle => exact hidle
  | prefer reads granted => exact prefer_changes reads granted
  | shutdown current running =>
    refine { hidle with
      objects := .map fun _ _ _ => .shutdown current running
      syncs := .map fun _ sync _ => ?_ }
    split
    · exact .same
    · exact .settle (.inl (Bool.eq_false_iff.mpr ‹_›))

lemma acquireWrite_changes (request) : Described s (.acquireWrite request) := by
  intro healthy l h
  cases h with
  | idle => exact .idle
  | prefer reads granted => exact prefer_changes reads granted
  | transferFailed transfers =>
    exact StepChanges.idle.setObject rfl (resolveLocked_found transfers.granted)
      (.transferFailed transfers)
  | transfer e transfers => exact transfer_changes transfers _ _
  | promote granted pending settled =>
    exact StepChanges.idle.setObject rfl (resolveLocked_found granted)
      (.promote granted pending settled)

lemma release_changes (request) : Described s (.release request) := by
  intro healthy l h
  cases h with
  | idle => exact .idle
  | prefer reads granted => exact prefer_changes reads granted
  | releaseLease e granted stage =>
    rw [stage, setObject_setObject]
    exact StepChanges.idle.setObject rfl (resolveLocked_found granted) (.releaseLease e granted)
  | releaseAuthority e granted writer ownership stage =>
    rw [stage, setObject_withRegions, setObject_setObject]
    refine (StepChanges.idle.setObject rfl (resolveLocked_found granted)
      (.releaseAuthority e granted writer ownership)).withRegions (.map fun _ region _ => ?_)
    unfold RegionRecord.afterRelease
    split
    · rename_i hdirty
      exact .release granted writer ownership hdirty.2.1 hdirty.2.2
    · exact .same

lemma publishCommit_changes (index) : Described s (.publishCommit index) := by
  intro healthy l h
  cases h with
  | idle => exact .idle
  | prefer reads granted => exact prefer_changes reads granted
  | abort ready found lost => exact StepChanges.idle.setObject rfl found (.abort ready lost)
  | commit ready target =>
    refine (StepChanges.idle.setObject rfl (commitTarget_some target).2.1
      (.commit ready target)).withRegions (.map fun key region _ => ?_)
    unfold RegionRecord.afterCommit
    split
    · rename_i hsource
      subst hsource
      exact .publish ready target
    rename_i hother
    split
    · rename_i hlisted
      exact .supersede ready target hother hlisted.2
    · exact .same

/-- An invalidation that is issued writes its object and its target. -/
lemma Issues.changes {request object region object' region'}
    (issues : Issues s request object region)
    (hobject : ObjectChange s (.invalidate request) request.context.object object object')
    (hregion : RegionChange s (.invalidate request) request.targetRegion region region') :
    StepChanges s (.invalidate request) ((s.engine.ledger.setObject request.context.object
      object').setRegion request.targetRegion region') :=
  (StepChanges.idle.setObject rfl issues.found hobject).setRegion rfl
    (invalidateRefusal_ok issues.allowed).1 hregion

lemma invalidate_changes (request) : Described s (.invalidate request) := by
  intro healthy l h
  cases h with
  | idle => exact .idle
  | prefer reads granted => exact prefer_changes reads granted
  | invalidateInert => exact StepChanges.idle.setInvalidation
  | invalidateNowFailed e issues settled stage =>
    rw [stage, setObject_setRegion, setObject_setObject]
    exact issues.changes (.invalidateNow e issues) (.invalidateNow issues settled)
  | invalidateNow e e' issues settled next stage =>
    rw [stage, setObject_setRegion, setObject_setObject]
    exact (issues.changes (.invalidateNow e issues)
      (.invalidateNow issues settled)).setInvalidation
  | invalidateLaterFailed issues awaits =>
    exact issues.changes (.invalidateLater issues) (.invalidateLater issues awaits)
  | invalidateLater e issues awaits =>
    exact (issues.changes (.invalidateLater issues)
      (.invalidateLater issues awaits)).setInvalidation

lemma acknowledge_changes (ack) : Described s (.acknowledgeInvalidation ack) := by
  intro healthy l h
  cases h with
  | idle => exact .idle
  | prefer reads granted => exact prefer_changes reads granted
  | acknowledgeMissing e acknowledges absent stage =>
    obtain ⟨participant, hgranted⟩ := acknowledges.granted
    rw [stage, setObject_setObject]
    exact StepChanges.idle.setInvalidation.setObject rfl (resolveLocked_found hgranted)
      (.acknowledge e acknowledges)
  | acknowledgeReplaced e acknowledges found differs stage =>
    obtain ⟨participant, hgranted⟩ := acknowledges.granted
    rw [stage, setObject_setObject]
    exact StepChanges.idle.setInvalidation.setObject rfl (resolveLocked_found hgranted)
      (.acknowledge e acknowledges)
  | acknowledge e acknowledges found agrees stage =>
    obtain ⟨participant, hgranted⟩ := acknowledges.granted
    rw [stage, setObject_setObject]
    exact (StepChanges.idle.setRegion rfl found
      (.acknowledge acknowledges agrees)).setInvalidation.setObject rfl
        (resolveLocked_found hgranted) (.acknowledge e acknowledges)

lemma beginSync_changes (request) : Described s (.beginSync request) := by
  intro healthy l h
  cases h with
  | idle => exact .idle
  | prefer reads granted => exact prefer_changes reads granted
  | beginSyncFailed granted allowed =>
    exact StepChanges.idle.setRegion rfl (beginSyncRefusal_ok allowed).1
      (.requestSync granted allowed)
  | beginSync e granted allowed next =>
    have hplanned := NewSync.begin e granted allowed next
    rw [show (e.newSync _ _ _ _).id = ⟨s.engine.nextSyncId⟩ from congrArg StrongId.mk next]
      at hplanned
    exact (StepChanges.idle.setRegion rfl (beginSyncRefusal_ok allowed).1
      (.requestSync granted allowed)).withSyncs
        (.put (fun _ _ => .same) (fun _ _ => .replace hplanned) fun _ => hplanned)

lemma completeSync_changes (request) : Described s (.completeSync request) := by
  intro healthy l h
  cases h with
  | idle => exact .idle
  | prefer reads granted => exact prefer_changes reads granted
  | completeRetired completes =>
    exact StepChanges.idle.setSync rfl completes.planned (.settle (.inl completes.unsettled))
  | completeSync completes live ends =>
    exact (StepChanges.idle.setSync rfl completes.planned
      (ends.settles completes.unsettled)).setRegion rfl completes.found
        (.completeSync completes live ends)

lemma failSync_changes (request) : Described s (.failSync request) := by
  intro healthy l h
  cases h with
  | idle => exact .idle
  | prefer reads granted => exact prefer_changes reads granted
  | failMissing fails =>
    exact StepChanges.idle.setSync rfl fails.planned (.settle (.inr ⟨_, rfl, rfl, fails⟩))
  | failSync fails found =>
    exact (StepChanges.idle.setSync rfl fails.planned
      (.settle (.inr ⟨_, rfl, rfl, fails⟩))).setRegion rfl found (.failSync fails)

lemma registerParticipant_changes (name boot epoch label) :
    Described s (.registerParticipant name boot epoch label) := by
  intro healthy l h
  cases h with
  | idle => exact .idle
  | prefer reads granted => exact prefer_changes reads granted
  | rejoin known found differs =>
    refine StepChanges.idle.withRegions (.map fun _ region _ => ?_)
    unfold RegionRecord.leaveBoot
    split
    · rename_i hheld
      simp only [Bool.and_eq_true, beq_iff_eq] at hheld
      exact .rejoin known found differs hheld.1
    · exact .same

theorem Outcome.changes {healthy l} (h : Outcome s a healthy l) : StepChanges s a l := by
  have houtcome := h
  have hidle : StepChanges s a s.engine.ledger := .idle
  cases h with
  | idle => exact .idle
  | prefer reads granted => exact prefer_changes reads granted
  | rejoin => exact registerParticipant_changes _ _ _ _ houtcome
  | fence => exact fence_changes _ _ _ houtcome
  | registerObject allowed =>
    exact { hidle with objects := .insertIfNew (fun _ _ => .same) fun _ => .register allowed }
  | setPolicy allowed =>
    exact hidle.setObject rfl (setPolicyRefusal_ok allowed).1 (.setPolicy allowed)
  | enrolFailed | enrol => exact registerRegion_changes _ houtcome
  | retireOrphan | retireRegion => exact retireRegion_changes _ _ _ houtcome
  | grantRead e granted found belongs current =>
    exact hidle.setObject rfl (resolveLocked_found granted)
      (.grantRead e granted found belongs current)
  | transferFailed | transfer | promote => exact acquireWrite_changes _ houtcome
  | markDirty granted allowed =>
    exact (hidle.setObject rfl (resolveLocked_found granted)
      (.markDirty granted allowed)).setRegion rfl (markDirtyRefusal_ok allowed).1
        (.markDirty granted allowed)
  | reserve reserves pending made =>
    exact hidle.setObject rfl reserves.found (.reserve reserves pending made)
  | abort | commit => exact publishCommit_changes _ houtcome
  | releaseLease | releaseAuthority => exact release_changes _ houtcome
  | invalidateInert | invalidateNowFailed | invalidateNow | invalidateLaterFailed
  | invalidateLater => exact invalidate_changes _ houtcome
  | acknowledgeMissing | acknowledgeReplaced | acknowledge => exact acknowledge_changes _ houtcome
  | beginSyncFailed | beginSync => exact beginSync_changes _ houtcome
  | completeRetired | completeSync => exact completeSync_changes _ houtcome
  | failMissing | failSync => exact failSync_changes _ houtcome
  | revalidate granted allowed =>
    exact hidle.setRegion rfl (revalidateRefusal_ok allowed).1 (.revalidate granted allowed)
  | resolveRecovery allowed =>
    exact hidle.setObject rfl (resolveRecoveryRefusal_ok allowed).1 (.resolveRecovery allowed)
  | retireObjectFailed | retireObject => exact retireObject_changes _ _ _ houtcome
  | shutdown => exact beginShutdown_changes _ houtcome

/-! ### Whole runs -/

section Run

variable [ReplayStore σ] {config : EngineConfig} {store : Option σ}

theorem step_changes (hkeyed : LiveKeyed s) (ha : a.Runs) :
    StepChanges s a (s.step a).engine.ledger :=
  (step_outcome hkeyed.live.objects a ha).changes

lemma boot_objects {p} (h : ∀ (image : DurableImage) object previous epoch sequence,
      p object.id (image.restoreObject object previous epoch sequence)) :
    All p (Sys.boot config store).engine.objects := by
  have hpersists : Persists { object := p } {} := by constructor <;> intros <;> trivial
  have hinv : Invariant { object := p } {} (Sys.boot config store) :=
    Invariant.boot hpersists (fun _ _ => DurableImage.sat_trivial) fun st _ => by
      constructor
      case object => exact fun object epoch sequence _ => h ..
      all_goals intros; trivial
  exact hinv.live.objects

lemma boot_regions {p} (h : ∀ (region : RegionRecord) evidence sequence,
      p region.id (region.restore evidence sequence)) :
    All p (Sys.boot config store).engine.regions := by
  have hpersists : Persists { region := p } {} := by constructor <;> intros <;> trivial
  have hinv : Invariant { region := p } {} (Sys.boot config store) :=
    Invariant.boot hpersists (fun _ _ => DurableImage.sat_trivial) fun st _ => by
      constructor
      case region => exact fun region evidence sequence _ => h ..
      all_goals intros; trivial
  exact hinv.live.regions

lemma boot_not_current :
    All (fun _ region => region.state ≠ .current) (Sys.boot config store).engine.regions := by
  refine boot_regions fun region evidence sequence => ?_
  rw [region.restore_state]
  repeat' split
  all_goals nofun

/-- A property of single objects that recovery gives and every change keeps holds in every
state of every run. -/
theorem objects_run {p} (hrestore : ∀ (image : DurableImage) object previous epoch sequence,
      p (image.restoreObject object previous epoch sequence))
    (hnew : ∀ (s : Sys σ) a key object, NewObject s a key object → p object)
    (hchange : ∀ (s : Sys σ) a key object object', p object →
      ObjectChange s a key object object' → p object')
    (config : EngineConfig) (store : Option σ) (as : List Action) :
    All (fun _ => p) ((Sys.boot config store).run as).engine.objects := by
  have hboot : ∀ config (store : Option σ),
      All (fun _ => p) (Sys.boot config store).engine.objects :=
    fun config store => boot_objects hrestore
  have hinv : LiveKeyed ((Sys.boot config store).run as) ∧
      All (fun _ => p) ((Sys.boot config store).run as).engine.objects := by
    refine Transition.foldl_invariant (I := fun s : Sys σ =>
      LiveKeyed s ∧ All (fun _ => p) s.engine.objects) ?_ ⟨LiveKeyed.boot, hboot config store⟩
    rintro s a ⟨hkeyed, hobjects⟩
    refine ⟨hkeyed.step, ?_⟩
    rcases a.restart_or with ⟨config, rfl⟩ | ha
    · exact hboot config _
    intro key object' hobject'
    rcases (step_changes hkeyed ha).objects.origin hobject' with
      ⟨object, hobject, hstep⟩ | ⟨-, hadded⟩
    · exact hchange s a key object object' (hobjects key object hobject) hstep
    · exact hnew s a key object' hadded
  exact hinv.2

end Run

end CoherenceFabric
