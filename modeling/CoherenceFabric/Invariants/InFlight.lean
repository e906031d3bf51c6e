import CoherenceFabric.Effects.Commit
import CoherenceFabric.Invariants.Keys

/-!
The publish calls in flight and what the store holds for them.

As long as the reservation of a call stands, the pending record that its phase 2 appended
stays in the store: only the step that gives the reservation up clears it, no other call
writes under its identity, and the store is not compacted while the call is in flight.
-/

namespace CoherenceFabric

open FiniteMap Relation Impl

variable {σ : Type} {payload : JournalPayload} {request : PublishRequest} {object : ObjectRecord}
  {config : EngineConfig} {store : Option σ}

/-- The object of a publication still names it. -/
def Impl.Reserved (e : Impl σ) (pending : PendingPublication) : Prop :=
  ∃ object, e.objects[pending.object]? = some object ∧ object.pendingPublication = pending.id

/-- Phase 2 of the call stored its pending record. -/
def PublishFrame.recorded (frame : PublishFrame) : Bool :=
  frame.durableRequired && frame.durableStatus.any (·.isOk)

/-- The identity that a reservation takes is defined and no call in flight has it: the
counter of publications has not come round. -/
def FreshIdentity (s : Sys σ) (a : Action) : Prop :=
  a.reserves → s.engine.nextPublicationId ≠ 0 ∧
    ∀ frame ∈ s.frames, frame.pending.id ≠ ⟨s.engine.nextPublicationId⟩

instance (s : Sys σ) (a : Action) : Decidable (FreshIdentity s a) :=
  inferInstanceAs (Decidable (a.reserves = true → _))

/-! ### The reservation an object names -/

section Object

variable {s : Sys σ} {a : Action} {key : ObjectId} {object object' : ObjectRecord}

lemma recomputeAuthorityLocked_pending (e : Impl σ) (object : ObjectRecord) :
    (e.recomputeAuthorityLocked object).pendingPublication = object.pendingPublication ∧
      (e.recomputeAuthorityLocked object).publicationState = object.publicationState := by
  unfold recomputeAuthorityLocked
  repeat' split
  all_goals exact ⟨rfl, rfl⟩

/-- A step leaves the reservation of an object as it is, gives it up, or makes a new one. -/
lemma ObjectStep.pending_cases (h : ObjectStep s a key object object') :
    (object'.pendingPublication = object.pendingPublication ∧
        object'.publicationState = object.publicationState) ∨ object'.pendingPublication = .nil ∨
      (∃ request, a = .publishReserve request) ∧
        object'.pendingPublication = ⟨s.engine.nextPublicationId⟩ ∧
        object'.publicationState = .pendingDurable := by
  cases h with
  | recompute e => exact .inl (recomputeAuthorityLocked_pending e object)
  | addReadGrant e =>
    left
    unfold addReadGrantLocked
    repeat' split
    all_goals exact ⟨rfl, rfl⟩
  | revokeWriter =>
    unfold ObjectRecord.revokeWriter ObjectRecord.loseDirty
    dsimp only
    repeat' split
    all_goals first | exact .inr (.inl rfl) | exact .inl ⟨rfl, rfl⟩
  | shutdown =>
    unfold ObjectRecord.shutdown
    dsimp only
    split
    · exact .inr (.inl rfl)
    · exact .inl ⟨rfl, rfl⟩
  | releaseDirty =>
    left
    unfold ObjectRecord.releaseDirty
    repeat' split
    all_goals exact ⟨rfl, rfl⟩
  | resolveRecovery | retire | abort | commit => exact .inr (.inl rfl)
  | reserve id => exact .inr (.inr ⟨⟨_, rfl⟩, id, rfl⟩)
  | _ => exact .inl ⟨rfl, rfl⟩

lemma NewObject.pending_nil (h : NewObject s a key object) : object.pendingPublication = .nil := by
  cases h
  rfl

end Object

/-! ### The steps that clear a pending record -/

section Clear

variable [DurableStore σ] {e : Impl σ} {key : ObjectId} {object object' : ObjectRecord}
  {participant : ParticipantRecord} {epoch : CoordinatorEpoch} {id : ParticipantId} {reason : Text}

/-- The objects after a fence that takes effect: reads and authority follow the revocation. -/
lemma fenceParticipant_objects (current : epoch = e.epoch)
    (known : e.participants[id]? = some participant) (live : participant.lifecycle ≠ .retired)
    (found : e.objects[key]? = some object)
    (hafter : (e.fenceParticipant id epoch reason).2.objects[key]? = some object') :
    ∃ policy, object'.pendingPublication =
      (if object.writer = id ∧ object.writerBoot = participant.boot then
        object.revokeWriter policy e.tick.sequence else object).pendingPublication := by
  refine ⟨e.tick.dirtyLossPolicyOf object, ?_⟩
  unfold fenceParticipant at hafter
  simp only [known] at hafter
  rw [if_neg (not_not.mpr current), if_neg live] at hafter
  have hobjects : (((e.tick.withRecords (e.tick.fenceRecords id participant.boot
      reason)).releaseReadsForParticipantLocked id participant.boot).recomputeAllAuthorityLocked
        ).objects[key]? = some object' := by
    split at hafter <;> exact hafter
  simp only [recomputeAllAuthorityLocked, withRecords_toRecords,
    getElem?_map, Option.map_eq_some_iff] at hobjects
  obtain ⟨released, hreleased, rfl⟩ := hobjects
  rw [(recomputeAuthorityLocked_pending _ _).1]
  simp only [releaseReadsForParticipantLocked,
    foldl_upsertDurableObjectLocked_toRecords, withRecords_toRecords,
    fenceRecords, getElem?_map, Option.map_eq_some_iff] at hreleased
  obtain ⟨revoked, ⟨before, hbefore, hrevoked⟩, rfl⟩ := hreleased
  obtain rfl : before = object := Option.some.inj (hbefore.symm.trans found)
  refine Eq.trans ?_ (congrArg ObjectRecord.pendingPublication hrevoked).symm
  split <;> rfl

lemma fenceParticipant_aborts (current : epoch = e.epoch)
    (known : e.participants[id]? = some participant) (live : participant.lifecycle ≠ .retired)
    (found : e.objects[key]? = some object)
    (writer : object.writer = id ∧ object.writerBoot = participant.boot)
    (pending : object.publicationOpen)
    (hafter : (e.fenceParticipant id epoch reason).2.objects[key]? = some object') :
    object'.pendingPublication = .nil := by
  obtain ⟨policy, heq⟩ := fenceParticipant_objects current known live found hafter
  rw [heq, if_pos writer]
  have hopen : ({ object with authority := .none, writer := .nil, writerBoot := .nil } :
      ObjectRecord).publicationOpen = true := pending
  unfold ObjectRecord.revokeWriter ObjectRecord.loseDirty
  simp only [hopen, if_true]
  repeat' split
  all_goals rfl

lemma beginShutdown_objects (epoch : CoordinatorEpoch) :
    (e.beginShutdown epoch).2 = e ∧ (epoch ≠ e.epoch ∨ e.shuttingDown) ∨
      ∀ (key : ObjectId) object', (e.beginShutdown epoch).2.objects[key]? = some object' →
        ∃ object sequence, e.objects[key]? = some object ∧ object' = object.shutdown sequence := by
  unfold beginShutdown
  split
  · exact .inl ⟨rfl, .inl ‹_›⟩
  split
  · exact .inl ⟨rfl, .inr ‹_›⟩
  right
  intro key object' hafter
  rw [recordDecision_toRecords] at hafter
  change ((appendEach _ _).toRecords).objects[key]? = some object' at hafter
  rw [appendEach_toRecords] at hafter
  simp only [withRecords_toRecords, shutdownRecords, getElem?_map,
    Option.map_eq_some_iff] at hafter
  obtain ⟨before, hbefore, rfl⟩ := hafter
  exact ⟨before, _, hbefore, rfl⟩

lemma ObjectRecord.shutdown_pending {sequence} (h : object.publicationState = .pendingDurable) :
    (object.shutdown sequence).pendingPublication = .nil := by
  unfold ObjectRecord.shutdown
  simp [h, ObjectRecord.abortPending]

end Clear

/-! ### The store keeps a pending record -/

/-- A payload leaves the pending record of a publication alone. -/
def JournalPayload.Spares (pending : PendingPublication) : JournalPayload → Prop
  | .setPendingPublication p => p.id = pending.id → p = pending
  | .clearPendingPublication id => id ≠ pending.object
  | _ => True

lemma JournalPayload.Spares.apply {pending image}
    (h : payload.Spares pending) (himage : image.pendingPublications[pending.id]? = some pending) :
    (payload.apply image).pendingPublications[pending.id]? = some pending := by
  cases payload with
  | setPendingPublication p =>
    simp only [JournalPayload.apply, getElem?_insert]
    split
    · rename_i hid
      rw [h (Std.LawfulEqOrd.eq_of_compare hid)]
    · exact himage
  | clearPendingPublication id =>
    have hne := Ne.symm h
    simp only [JournalPayload.apply, Std.ExtTreeMap.getElem?_filter', himage, Option.filter_some]
    rw [if_pos (bne_iff_ne.mpr hne)]
  | _ => exact himage

section Keeps

variable [ReplayStore σ]

/-- The store holds the pending record of a publication. -/
def Persistence.Keeps (p : Persistence σ) (pending : PendingPublication) : Prop :=
  ∀ store, p.store = some store →
    (stored store).pendingPublications[pending.id]? = some pending

variable {J : JournalPayload → Prop} {C : Prop} {p p' : Persistence σ}
  {pending : PendingPublication}

lemma PersistMove.keeps (hmove : PersistMove J C p p')
    (hJ : ∀ payload, J payload → payload.Spares pending) (hC : ¬ C) (h : p.Keeps pending) :
    p'.Keeps pending := by
  intro store' hstore'
  cases hmove with
  | @write store entry allowed before after =>
    cases after.symm.trans hstore'
    rcases ReplayStore.append_stored store entry with hsame | happlied
    · rw [hsame]
      exact h store before
    · obtain ⟨position, heq⟩ := applyJournalEntry_ok happlied
      rw [heq]
      exact (hJ _ allowed).apply (h store before)
  | compact allowed => exact absurd allowed hC
  | flush before after | close before after =>
    cases after.symm.trans hstore'
    simpa using h _ before
  | apply _ _ _ after | idle after => exact h store' (after ▸ hstore')

/-- A step that neither writes over a pending record nor clears it nor compacts the store
keeps it. -/
lemma Persist.keeps (hpersist : Persist J C p p')
    (hJ : ∀ payload, J payload → payload.Spares pending) (hC : ¬ C) (h : p.Keeps pending) :
    p'.Keeps pending := by
  induction hpersist with
  | refl => exact h
  | tail _ hmove ih => exact hmove.keeps hJ hC ih

end Keeps

/-! ### The calls in flight -/

/-- Every call in flight is registered with the engine, under an identity of its own. -/
structure Listed (s : Sys σ) : Prop where
  registered : ∀ frame ∈ s.frames,
    s.engine.inFlightPublications[frame.pending.id]? = some frame.pending
  distinct : (s.frames.map (·.pending.id)).Nodup
  named : ∀ frame ∈ s.frames, frame.pending.id ≠ .nil

lemma publishReserve_done {e : Impl σ} {result} (h : (e.publishReserve request).1 = .done result) :
    (e.publishReserve request).2.inFlightPublications = e.inFlightPublications ∧
      (e.publishReserve request).2.nextPublicationId = e.nextPublicationId := by
  revert h
  unfold publishReserve
  dsimp only
  repeat' split
  all_goals first
    | rintro ⟨⟩
      first
        | exact ⟨recordDecision_inFlight .., by rw [recordDecision_toCounters]; rfl⟩
        | exact ⟨rfl, rfl⟩
    | intro h
      cases h

section Listed

variable [StoreMedium σ] {s : Sys σ}

lemma Listed.reserve (h : Listed s) (request : PublishRequest)
    (hfresh : FreshIdentity s (.publishReserve request)) :
    Listed (s.step (.publishReserve request)) := by
  change Listed (s.reserve request)
  unfold Sys.reserve
  dsimp only
  split
  · rename_i result hdone
    exact ⟨by rw [(publishReserve_done hdone).1]; exact h.registered, h.distinct, h.named⟩
  rename_i frame hreserved
  obtain ⟨object, participant, policy, region, receipt, -, hframe, hengine⟩ :=
    publishReserve_reserved hreserved
  have hid : frame.pending.id = ⟨s.engine.nextPublicationId⟩ := by rw [hframe]; rfl
  have hinFlight : (s.engine.publishReserve request).2.inFlightPublications =
      s.engine.inFlightPublications.insert frame.pending.id frame.pending := by
    rw [hengine, hframe]
    rfl
  have hnew : ∀ frame' ∈ s.frames, frame.pending.id ≠ frame'.pending.id := by
    intro frame' hmem
    rw [hid]
    exact ((hfresh rfl).2 frame' hmem).symm
  refine ⟨fun frame' hmem => ?_, ?_, fun frame' hmem => ?_⟩
  · rw [hinFlight]
    rcases List.mem_append.mp hmem with hmem | hmem
    · rw [getElem?_insert, if_neg (by simpa using hnew frame' hmem)]
      exact h.registered frame' hmem
    · rw [List.mem_singleton.mp hmem, getElem?_insert_self]
  · rw [List.map_append, List.nodup_append]
    refine ⟨h.distinct, List.nodup_singleton _, fun id hmem id' hmem' => ?_⟩
    obtain ⟨frame', hframe', rfl⟩ := List.mem_map.mp hmem
    obtain rfl : id' = frame.pending.id := by simpa using hmem'
    exact (hnew frame' hframe').symm
  · rcases List.mem_append.mp hmem with hmem | hmem
    · exact h.named frame' hmem
    · rw [List.mem_singleton.mp hmem, hid]
      exact fun hnil => (hfresh rfl).1 (congrArg StrongId.value hnil)

lemma append_frames (s : Sys σ) (index : Nat) :
    (s.append index).frames.map (·.pending) = s.frames.map (·.pending) := by
  unfold Sys.append
  split
  · rfl
  rename_i frame hframe
  split
  · rfl
  obtain ⟨hlt, rfl⟩ := List.getElem?_eq_some_iff.mp hframe
  rw [List.map_set, publishAppend_pending]
  exact List.map_set.symm.trans (by rw [List.set_getElem_self])

lemma Listed.append (h : Listed s) (index : Nat) : Listed (s.step (.publishAppend index)) := by
  have hengine := ((step_evolved (s := s) (.publishAppend index) nofun).frame.inFlight.resolve_left
    nofun).resolve_left nofun
  have hframes := append_frames s index
  have hmem : ∀ frame ∈ (s.step (.publishAppend index)).frames,
      ∃ frame' ∈ s.frames, frame'.pending = frame.pending := by
    intro frame hframe
    have : frame.pending ∈ s.frames.map (·.pending) := hframes ▸ List.mem_map_of_mem hframe
    exact List.mem_map.mp this
  refine ⟨fun frame hframe => ?_, ?_, fun frame hframe => ?_⟩
  · obtain ⟨frame', hmem, heq⟩ := hmem frame hframe
    rw [hengine, ← heq]
    exact h.registered frame' hmem
  · have := congrArg (List.map PendingPublication.id) hframes
    simp only [List.map_map] at this
    exact this ▸ h.distinct
  · obtain ⟨frame', hmem, heq⟩ := hmem frame hframe
    exact heq ▸ h.named frame' hmem

lemma Listed.commit (h : Listed s) (index : Nat) : Listed (s.step (.publishCommit index)) := by
  change Listed (s.commit index)
  unfold Sys.commit
  split
  · exact h
  rename_i frame hframe
  split
  · exact h
  refine ⟨fun frame' hmem => ?_, ?_,
    fun frame' hmem => h.named frame' (List.mem_of_mem_eraseIdx hmem)⟩
  · have hne : frame.pending.id ≠ frame'.pending.id := by
      obtain ⟨i, hi, hother⟩ := List.mem_eraseIdx_iff_getElem?.mp hmem
      intro heq
      refine hi ((List.getElem?_inj ?_ h.distinct).mp ?_)
      · simpa using (List.getElem?_eq_some_iff.mp hother).1
      · simp [hother, hframe, heq]
    rw [publishCommit_inFlight, Std.ExtTreeMap.getElem?_erase, if_neg (by simpa using hne)]
    exact h.registered frame' (List.mem_of_mem_eraseIdx hmem)
  · exact h.distinct.sublist ((List.eraseIdx_sublist ..).map _)

theorem Listed.step (h : Listed s) {a} (ha : a.Runs)
    (hfresh : FreshIdentity s a) : Listed (s.step a) := by
  cases a
  case publishReserve request => exact h.reserve request hfresh
  case publishAppend index => exact h.append index
  case publishCommit index => exact h.commit index
  case restart config => exact absurd rfl (ha config)
  all_goals
    have hengine := ((step_evolved (s := s) _ ha).frame.inFlight.resolve_left
      nofun).resolve_left nofun
    exact ⟨hengine ▸ h.registered, h.distinct, h.named⟩

lemma Listed.boot : Listed (Sys.boot config store) where
  registered _ h := absurd h not_mem_boot_frames
  distinct := by simp [boot_frames]
  named _ h := absurd h not_mem_boot_frames

theorem Listed.run {as}
    (hrun : Transition.RunOk Sys.step FreshIdentity (Sys.boot config store) as) :
    Listed ((Sys.boot config store).run as) := by
  refine Transition.run_invariant (fun s a hfresh h => ?_) Listed.boot hrun
  rcases a.restart_or with ⟨config, rfl⟩ | ha
  · exact Listed.boot
  · exact h.step ha hfresh

end Listed

/-! ### Reservations that stand -/

section Stands

variable [StoreMedium σ] {s : Sys σ} {a : Action} {pending : PendingPublication}

lemma reserved_before (ha : a.Runs) (hid : pending.id ≠ .nil)
    (hfresh : ∀ request, a = .publishReserve request → pending.id ≠ ⟨s.engine.nextPublicationId⟩)
    (h : (s.step a).engine.Reserved pending) : s.engine.Reserved pending := by
  obtain ⟨object, hobject, hname⟩ := h
  by_contra hnone
  refine ((step_evolved a ha).records.objects.origin _ _ hobject).induction
    (P := fun object => object.pendingPublication ≠ pending.id) ?_ ?_ ?_ hname
  · exact fun before hbefore heq => hnone ⟨before, hbefore, heq⟩
  · exact fun new hnew => hnew.pending_nil ▸ hid.symm
  intro before after hbefore hstep
  rcases hstep.pending_cases with ⟨hsame, -⟩ | hnil | ⟨⟨request, hrequest⟩, hnew, -⟩
  · rwa [hsame]
  · rw [hnil]
    exact hid.symm
  · rw [hnew]
    exact (hfresh request hrequest).symm

lemma pendingDurable_after (ha : a.Runs) (hid : pending.id ≠ .nil)
    (h : ∀ object, s.engine.objects[pending.object]? = some object →
      object.pendingPublication = pending.id → object.publicationState = .pendingDurable)
    (hobject : (s.step a).engine.objects[pending.object]? = some object)
    (hname : object.pendingPublication = pending.id) :
    object.publicationState = .pendingDurable := by
  refine ((step_evolved a ha).records.objects.origin _ _ hobject).induction
    (P := fun object => object.pendingPublication = pending.id →
      object.publicationState = .pendingDurable) h ?_ ?_ hname
  · exact fun new hnew hname => absurd (hname.symm.trans hnew.pending_nil) hid
  intro before after hbefore hstep hafter
  rcases hstep.pending_cases with ⟨hsame, hstate⟩ | hnil | ⟨-, -, hstate⟩
  · rw [hstate]
    exact hbefore (hsame.symm.trans hafter)
  · exact absurd (hafter.symm.trans hnil) hid
  · exact hstate

end Stands

/-- What holds of every call in flight whose reservation stands. -/
structure Waiting [ReplayStore σ] (s : Sys σ) : Prop extends Listed s where
  keyed : LiveKeyed s
  waiting : ∀ frame ∈ s.frames, ∀ object,
    s.engine.objects[frame.pending.object]? = some object →
      object.pendingPublication = frame.pending.id → object.publicationState = .pendingDurable
  running : ∀ frame ∈ s.frames, s.engine.Reserved frame.pending → s.engine.shuttingDown = false

section Waiting

variable [ReplayStore σ] {s : Sys σ} {a : Action} {frame : PublishFrame}

lemma reserve_stands (hkeyed : LiveKeyed s)
    (hnew : (s.engine.publishReserve request).1 = .reserved frame)
    (hobject : (s.step (.publishReserve request)).engine.objects[frame.pending.object]? =
      some object) : object.publicationState = .pendingDurable ∧ s.engine.shuttingDown = false := by
  obtain ⟨before, participant, policy, region, receipt, hreserves, rfl, hengine⟩ :=
    publishReserve_reserved hnew
  have hgranted := resolveLocked_granted hreserves.granted
  have hid := hkeyed.live.objects _ _ hgranted.object_found
  refine ⟨?_, hgranted.running⟩
  change (s.reserve request).engine.objects[before.id]? = some object at hobject
  rw [reserve_engine, hengine, hid] at hobject
  simp only [reservePublication, withPersistence_toRecords,
    withCounters_toRecords, withInFlight_toRecords, withRecords_toRecords,
    Records.setObject, getElem?_insert_self] at hobject
  cases hobject
  rfl

omit [ReplayStore σ] in
lemma FreshIdentity.ne (hfresh : FreshIdentity s a) (hframe : frame ∈ s.frames) :
    ∀ request, a = .publishReserve request → frame.pending.id ≠ ⟨s.engine.nextPublicationId⟩ := by
  rintro request rfl
  exact (hfresh rfl).2 frame hframe

lemma Waiting.running_after (h : Waiting s) (ha : a.Runs)
    (hfresh : FreshIdentity s a) (hframe : frame ∈ s.frames)
    (hstands : (s.step a).engine.Reserved frame.pending) :
    (s.step a).engine.shuttingDown = false := by
  have hbefore := reserved_before ha (h.named frame hframe) (hfresh.ne hframe) hstands
  have hrunning := h.running frame hframe hbefore
  rcases (step_evolved (s := s) a ha).frame.shuttingDown with hdown | hsame
  · cases a <;> try cases hdown
    rename_i epoch
    obtain ⟨object, hobject, hname⟩ := hstands
    rcases beginShutdown_objects (e := s.engine) epoch with ⟨hsame, -⟩ | hshut
    · exact (congrArg shuttingDown hsame).trans hrunning
    -- the shutdown gives the reservation up
    obtain ⟨before, sequence, hfound, rfl⟩ := hshut _ _ hobject
    obtain ⟨before', hfound', hname'⟩ := hbefore
    cases hfound.symm.trans hfound'
    have hnil := @ObjectRecord.shutdown_pending before sequence
      (h.waiting frame hframe before hfound hname')
    exact absurd (hname.symm.trans hnil) (h.named frame hframe)
  · exact hsame.trans hrunning

theorem Waiting.step (h : Waiting s) (ha : a.Runs)
    (hfresh : FreshIdentity s a) : Waiting (s.step a) where
  toListed := h.toListed.step ha hfresh
  keyed := h.keyed.step
  waiting frame hframe object hobject hname := by
    rcases step_publication ha hframe with ⟨before, hmem, hsame, -⟩ | ⟨request, rfl, hnew⟩
    · rw [hsame] at hobject hname
      exact pendingDurable_after ha (h.named before hmem) (h.waiting before hmem) hobject hname
    · exact (reserve_stands h.keyed hnew hobject).1
  running frame hframe hstands := by
    rcases step_publication ha hframe with ⟨before, hmem, hsame, -⟩ | ⟨request, rfl, hnew⟩
    · rw [hsame] at hstands
      exact h.running_after ha hfresh hmem hstands
    · obtain ⟨object, hobject, -⟩ := hstands
      exact ((step_evolved _ ha).frame.shuttingDown.resolve_left nofun).trans
        (reserve_stands h.keyed hnew hobject).2

lemma Waiting.boot : Waiting (Sys.boot config store) :=
  { Listed.boot with
    keyed := LiveKeyed.boot
    waiting := fun _ h => absurd h not_mem_boot_frames
    running := fun _ h => absurd h not_mem_boot_frames }

end Waiting

/-- What holds of every call in flight and of the store: the pending record of a call whose
phase 2 reported success stays in the store as long as its reservation stands. -/
structure Flight [ReplayStore σ] (s : Sys σ) : Prop extends Waiting s where
  attached : ∀ frame ∈ s.frames, frame.durableRequired → s.engine.store.isSome
  positioned : ∀ frame ∈ s.frames, frame.recorded → frame.position ≠ 0
  kept : ∀ frame ∈ s.frames, frame.recorded → s.engine.Reserved frame.pending →
    s.engine.toPersistence.Keeps frame.pending

section Flight

variable [LawfulStore σ] {s : Sys σ} {a : Action} {frame : PublishFrame}

lemma Flight.cleared_ne (h : Flight s) (hframe : frame ∈ s.frames)
    (hstands : (s.step a).engine.Reserved frame.pending) {id}
    (hcleared : Cleared s a id) : id ≠ frame.pending.object := by
  have hnamed := h.named frame hframe
  obtain ⟨object, hobject, hname⟩ := hstands
  rintro hid
  cases hcleared with
  | @fence _ _ _ _ before key current known live found writer pending =>
    obtain rfl : before.id = key := h.keyed.live.objects _ _ found
    rw [hid] at found
    exact hnamed (hname.symm.trans
      (fenceParticipant_aborts current known live found writer pending hobject))
  | @shutdown epoch before key current running found pending =>
    obtain rfl : before.id = key := h.keyed.live.objects _ _ found
    rw [hid] at found
    rcases beginShutdown_objects (e := s.engine) epoch with ⟨-, hstale | hdown⟩ | hshut
    · exact hstale current
    · rw [running] at hdown
      cases hdown
    · obtain ⟨before', sequence, hfound, rfl⟩ := hshut _ _ hobject
      cases hfound.symm.trans found
      exact hnamed (hname.symm.trans (before.shutdown_pending pending))
  | @commit index frame' before ready found =>
    have hkey := h.keyed.live.objects _ _ found
    change (s.commit index).engine.objects[_]? = _ at hobject
    rw [commit_engine ready, ← hid, hkey] at hobject
    exact hnamed (hname.symm.trans (publishCommit_pending hobject))

lemma Flight.journalled_spares (h : Flight s) (hframe : frame ∈ s.frames)
    (hstands : (s.step a).engine.Reserved frame.pending) (hpayload : Journalled s a payload) :
    payload.Spares frame.pending := by
  cases hpayload with
  | @pending index frame' phase found =>
    intro hid
    have hother := h.registered frame' (List.mem_of_getElem? found)
    rw [hid, h.registered frame hframe] at hother
    exact (Option.some.inj hother).symm
  | clear cleared => exact h.cleared_ne hframe hstands cleared
  | _ => trivial

lemma Flight.not_compacts (h : Flight s) (ha : a.Runs)
    (hfresh : FreshIdentity s a) (hframe : frame ∈ s.frames) (hafter : frame ∈ (s.step a).frames)
    (hstands : (s.step a).engine.Reserved frame.pending) : ¬ Compacts s a := by
  have hregistered := h.registered frame hframe
  cases a <;> try exact id
  case acquireRead request =>
    intro hempty
    rw [Std.ExtTreeMap.isEmpty_iff.mp hempty] at hregistered
    simp at hregistered
  case publishCommit index =>
    rintro ⟨frame', hready, hempty⟩
    have hlisted := (h.toListed.step ha hfresh).registered frame hafter
    change (s.commit index).engine.inFlightPublications[_]? = _ at hlisted
    rw [commit_engine hready, publishCommit_inFlight,
      Std.ExtTreeMap.isEmpty_iff.mp hempty] at hlisted
    simp at hlisted
  case completeShutdown epoch =>
    intro hdown
    have hbefore := reserved_before ha (h.named frame hframe) (hfresh.ne hframe) hstands
    have hrunning := h.running frame hframe hbefore
    exact absurd (hrunning.symm.trans hdown) nofun

lemma publishAppend_keeps {index} (hfound : s.frames[index]? = some frame)
    (hwaiting : frame.durableStatus = none)
    (hrecorded : (s.engine.publishAppend frame).1.recorded) :
    (s.step (.publishAppend index)).engine.toPersistence.Keeps frame.pending ∧
      (s.engine.store.isSome → frame.position ≠ 0) := by
  have hengine : (s.step (.publishAppend index)).engine = (s.engine.publishAppend frame).2 := by
    change (s.append index).engine = _
    unfold Sys.append
    simp [hfound, hwaiting]
  rw [hengine]
  unfold publishAppend at hrecorded ⊢
  cases hstore : s.engine.store with
  | none => exact ⟨fun _ h => (nomatch hstore.symm.trans h), by simp⟩
  | some store =>
    simp only [hstore] at hrecorded ⊢
    have hrequired : frame.durableRequired = true := by
      unfold PublishFrame.recorded at hrecorded
      split at hrecorded <;> simp_all
    simp only [hrequired, Bool.not_true, Bool.false_eq_true, if_false] at hrecorded ⊢
    have hok : (DurableStore.append store
        ⟨.setPendingPublication frame.pending, frame.position⟩).1.isOk := by
      simpa [PublishFrame.recorded, hrequired] using hrecorded
    have happlied := LawfulStore.append_success hok
    constructor
    · rintro store' ⟨⟩
      obtain ⟨position, heq⟩ := applyJournalEntry_ok happlied
      rw [heq]
      simp [JournalPayload.apply]
    · rintro - hzero
      simp [applyJournalEntry, hzero] at happlied

lemma Flight.kept_after (h : Flight s) (ha : a.Runs)
    (hfresh : FreshIdentity s a) (hframe : frame ∈ s.frames)
    (hafter : frame ∈ (s.step a).frames) (hrecorded : frame.recorded)
    (hstands : (s.step a).engine.Reserved frame.pending) :
    (s.step a).engine.toPersistence.Keeps frame.pending :=
  (step_evolved a ha).persist.keeps
    (fun _ hwritten => h.journalled_spares hframe hstands hwritten.journalled)
    (h.not_compacts ha hfresh hframe hafter hstands)
    (h.kept frame hframe hrecorded
      (reserved_before ha (h.named frame hframe) (hfresh.ne hframe) hstands))

theorem Flight.step (h : Flight s) (ha : a.Runs)
    (hfresh : FreshIdentity s a) : Flight (s.step a) where
  toWaiting := h.toWaiting.step ha hfresh
  attached frame hframe hrequired := by
    rw [(step_evolved a ha).persist.store_isSome]
    cases step_frames ha hframe with
    | kept mem => exact h.attached frame mem hrequired
    | reserved new =>
      obtain ⟨_, _, _, _, _, -, rfl, -⟩ := publishReserve_reserved new
      simp only [reservePublication, Bool.and_eq_true] at hrequired
      exact hrequired.2
    | appended found =>
      rw [publishAppend_durableRequired] at hrequired
      exact h.attached _ (List.mem_of_getElem? found) hrequired
  positioned frame hframe hrecorded := by
    cases step_frames ha hframe with
    | kept mem => exact h.positioned frame mem hrecorded
    | reserved new =>
      obtain ⟨_, _, _, _, _, -, rfl, -⟩ := publishReserve_reserved new
      simp [PublishFrame.recorded, reservePublication] at hrecorded
    | appended found waiting =>
      rw [publishAppend_position]
      refine (publishAppend_keeps found waiting hrecorded).2
        (h.attached _ (List.mem_of_getElem? found) ?_)
      rw [← publishAppend_durableRequired s.engine]
      exact (Bool.and_eq_true_iff.mp hrecorded).1
  kept frame hframe hrecorded hstands := by
    cases step_frames ha hframe with
    | kept mem => exact h.kept_after ha hfresh mem hframe hrecorded hstands
    | reserved new =>
      obtain ⟨_, _, _, _, _, -, rfl, -⟩ := publishReserve_reserved new
      simp [PublishFrame.recorded, reservePublication] at hrecorded
    | appended found waiting =>
      rw [publishAppend_pending]
      exact (publishAppend_keeps found waiting hrecorded).1

lemma Flight.boot : Flight (Sys.boot config store) :=
  { Waiting.boot with
    attached := fun _ h => absurd h not_mem_boot_frames
    positioned := fun _ h => absurd h not_mem_boot_frames
    kept := fun _ h => absurd h not_mem_boot_frames }

theorem Flight.next (hfresh : FreshIdentity s a) (h : Flight s) : Flight (s.step a) := by
  cases a
  case restart config => exact Flight.boot
  all_goals exact h.step nofun hfresh

theorem Flight.run {as}
    (hrun : Transition.RunOk Sys.step FreshIdentity (Sys.boot config store) as) :
    Flight ((Sys.boot config store).run as) :=
  Transition.run_invariant (fun _ _ => Flight.next) Flight.boot hrun

end Flight

end CoherenceFabric
