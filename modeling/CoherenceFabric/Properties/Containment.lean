import CoherenceFabric.Deployment
import CoherenceFabric.Invariants.Targets

/-!
Failure containment.

A fence cuts one incarnation of a participant off from everything it held: write authority, read
grants, replicas, invalidations and synchronizations. It rests on two facts about single records
that every operation keeps: a participant has a boot identity, and an object that names a pending
publication is in a state in which the fence gives it up.
-/

namespace CoherenceFabric

open FiniteMap Relation Transition Impl Ledger

variable {σ : Type} {object : ObjectRecord} {config : EngineConfig} {store : Option σ}
  {region : RegionRecord} {participant : ParticipantRecord}

/-! ### Records on which a fence is complete -/

/-- A pending publication that the object names is open. -/
def ObjectRecord.PendingOpen (object : ObjectRecord) : Prop :=
  object.pendingPublication.defined = true → object.publicationOpen = true

/-- Participants have a boot identity, and pending publications are open. -/
def RecordPred.fenceable : RecordPred where
  participant _ participant := participant.boot.defined = true
  object _ object := object.PendingOpen

section Fenceable

variable {s : Sys σ} {a : Action}

lemma NewParticipant.boot_defined {id : ParticipantId} {record}
    (h : NewParticipant s a id record) : record.boot.defined = true := by
  cases h with
  | reregister allowed _ _ same => exact same.1 ▸ registerParticipantRefusal_none allowed
  | fresh allowed | reincarnate allowed => exact registerParticipantRefusal_none allowed

lemma ObjectStep.pendingOpen {key object'} (h : object.PendingOpen)
    (hstep : ObjectStep s a key object object') : object'.PendingOpen := by
  cases hstep with
  | recompute =>
    rw [recomputeAuthorityLocked_eq]
    exact h
  | addReadGrant =>
    rw [addReadGrantLocked_eq]
    exact h
  | revokeWriter =>
    rename_i policy seq _
    -- if the publication was not open, none was pending
    intro hdefined
    rw [(object.revokeWriter_spec policy seq).pending] at hdefined
    split at hdefined
    · cases hdefined
    · exact absurd (h hdefined) ‹_›
  | shutdown =>
    unfold ObjectRecord.shutdown
    dsimp only
    split
    · nofun
    · exact h
  | releaseDirty =>
    unfold ObjectRecord.releaseDirty
    split <;> exact h
  | resolveRecovery => nofun
  | retire => nofun
  | reserve => exact fun _ => rfl
  | abort => nofun
  | commit => nofun
  | _ => exact h

lemma kept_fenceable : Kept .fenceable .fenceable s a where
  newDomain _ _ _ := trivial
  newParticipant _ _ new := new.boot_defined
  participant _ _ _ hboot hstep := by
    cases hstep with
    | replace new => exact new.boot_defined
    | _ => exact hboot
  newObject _ _ new := by cases new; nofun
  object _ _ _ hopen hstep := hstep.pendingOpen hopen
  newRegion _ _ _ := trivial
  region _ _ _ _ _ := trivial
  newInvalidation _ _ _ := trivial
  invalidation _ _ _ _ _ := trivial
  newSync _ _ _ := trivial
  sync _ _ _ _ _ := trivial
  newPolicy _ _ _ := trivial
  pending _ _ _ _ := trivial

lemma persists_fenceable : Persists .fenceable .fenceable := by
  constructor <;> intros <;> assumption

lemma restores_fenceable {image} (h : image.Sat .fenceable) : Restores .fenceable image where
  domain _ _ _ := trivial
  participant record _ hrecord := h.participants _ record hrecord
  object object epoch sequence hobject := by
    have hopen := h.objects _ object hobject
    rw [image.restoreObject_eq]
    unfold ObjectRecord.restorePending
    split
    · split
      · nofun
      · exact fun _ => rfl
    · split
      · nofun
      · exact hopen
  region _ _ _ _ := trivial
  invalidation _ _ _ := trivial
  sync _ _ _ := trivial
  policy _ _ := trivial

end Fenceable

/-! ### A fence as a whole -/

/-- Nothing is left to an incarnation that has been fenced. -/
structure Records.FencedOff (r : Records) (id : ParticipantId) (boot : ParticipantBootId) :
    Prop where
  participant : ∃ participant, r.participants[id]? = some participant ∧ participant.boot = boot ∧
    participant.lifecycle = .fenced ∧ participant.live = false
  writer : All (fun _ object => ¬ (object.writer = id ∧ object.writerBoot = boot)) r.objects
  reads : All (fun _ object => ∀ grant ∈ object.reads, grant.released = false →
    ¬ (grant.participant = id ∧ grant.boot = boot)) r.objects
  regions : All (fun _ region => region.participant = id → region.boot = boot →
    region.state = .fenced ∨ region.state = .retired) r.regions
  invalidations : All (fun _ record => record.targetParticipant = id → record.targetBoot = boot →
    record.state ≠ .requested) r.invalidations
  syncs : All (fun _ sync => sync.destinationParticipant = id → sync.destinationBoot = boot →
    sync.state ≠ .planned ∧ sync.state ≠ .requested ∧ sync.state ≠ .inProgress) r.syncs

/-- The object has no unpublished modification and no publication in flight. -/
structure ObjectRecord.Relieved (object : ObjectRecord) : Prop where
  clean : object.hasUnpublishedDirty = false
  pending : object.pendingPublication = .nil
  settled : object.publicationState ≠ .pendingDurable

section CutOff

variable {object : ObjectRecord} {id : ParticipantId} {boot : ParticipantBootId}
  {policy : DirtyLossPolicy} {sequence : OperationSequence} {grant : ReadGrant}

lemma ObjectRecord.cutOff_writer (hboot : boot.defined = true) :
    ¬ ((object.cutOff id boot policy sequence).writer = id ∧
      (object.cutOff id boot policy sequence).writerBoot = boot) := by
  rintro ⟨hwriter, hwriterBoot⟩
  obtain ⟨reads, touched, -, ⟨-, -, hcut⟩ | ⟨hother, hcut⟩⟩ :=
    object.cutOff_cases id boot policy sequence
  · rw [hcut] at hwriterBoot
    rw [← hwriterBoot, (object.revokeWriter_spec policy sequence).writerBoot] at hboot
    cases hboot
  · rw [hcut] at hwriter hwriterBoot
    exact hother ⟨hwriter, hwriterBoot⟩

lemma ObjectRecord.releaseReads_selected {p}
    (hmem : grant ∈ (object.releaseReads p).reads) (hlive : grant.released = false) :
    p grant = false := by
  obtain ⟨before, -, rfl⟩ := List.mem_map.mp hmem
  split at hlive
  · cases hlive
  rename_i hkept
  rw [if_neg hkept]
  simpa [hlive] using hkept

lemma ObjectRecord.cutOff_reads (hmem : grant ∈ (object.cutOff id boot policy sequence).reads)
    (hlive : grant.released = false) : ¬ (grant.participant = id ∧ grant.boot = boot) := by
  rintro ⟨rfl, rfl⟩
  unfold ObjectRecord.cutOff at hmem
  dsimp only at hmem
  generalize (if object.writer = _ ∧ object.writerBoot = _ then
    object.revokeWriter policy sequence else object) = revoked at hmem
  split at hmem
  · have hselected := ObjectRecord.releaseReads_selected hmem hlive
    simp at hselected
  · rename_i hnone
    refine hnone (List.any_eq_true.mpr ⟨grant, hmem, ?_⟩)
    simp [hlive]

lemma ObjectRecord.PendingOpen.relieved (h : object.PendingOpen) (hwriter : object.writer = id)
    (hboot : object.writerBoot = boot) (policy : DirtyLossPolicy) (sequence : OperationSequence) :
    (object.cutOff id boot policy sequence).Relieved := by
  obtain ⟨reads, touched, -, ⟨-, -, hcut⟩ | ⟨hother, -⟩⟩ :=
    object.cutOff_cases id boot policy sequence
  · have hspec := object.revokeWriter_spec policy sequence
    rw [hcut]
    refine ⟨hspec.clean, hspec.pending.trans ?_, hspec.settled⟩
    split
    · rfl
    rename_i hclosed
    by_contra hpending
    exact hclosed (h (StrongId.defined_eq_true.mpr hpending))
  · exact absurd ⟨hwriter, hboot⟩ hother

end CutOff

section Fence

variable [DurableStore σ] {e : Impl σ} {id : ParticipantId} {epoch : CoordinatorEpoch}
  {participant : ParticipantRecord}

lemma fenceParticipant_cases (e : Impl σ) (id : ParticipantId) (epoch : CoordinatorEpoch)
    (reason : Text) : (∃ status, (e.fenceParticipant id epoch reason).1 = .error status ∧
        (status.code = .unknownParticipant ∨ status.code = .staleEpoch ∨ status.code = .retired)) ∧
      (e.fenceParticipant id epoch reason).2 = e ∨
    epoch = e.epoch ∧ ∃ participant, e.participants[id]? = some participant ∧
      participant.lifecycle ≠ .retired := by
  unfold fenceParticipant
  cases known : e.participants[id]? with
  | none => exact .inl ⟨⟨_, rfl, .inl rfl⟩, rfl⟩
  | some participant =>
    dsimp only
    split
    · exact .inl ⟨⟨_, rfl, .inr (.inl rfl)⟩, rfl⟩
    rename_i hcurrent
    split
    · exact .inl ⟨⟨_, rfl, .inr (.inr rfl)⟩, rfl⟩
    · exact .inr ⟨not_not.mp hcurrent, participant, rfl, ‹_›⟩

lemma fenceParticipant_object (reason : Text) (current : epoch = e.epoch)
    (known : e.participants[id]? = some participant) (live : participant.lifecycle ≠ .retired)
    (key : ObjectId) : ∃ f : ObjectRecord → AuthorityMode,
      (e.fenceParticipant id epoch reason).2.objects[key]? = (e.objects[key]?).map fun object =>
        { object.cutOff id participant.boot (e.dirtyLossPolicyOf object) e.tick.sequence with
          authority := f object } := by
  obtain ⟨stage, hstage, hledger, -⟩ := fenceParticipant_cutsOff reason current known live
  refine ⟨fun object => (stage.recomputeAuthorityLocked (object.cutOff id participant.boot
    (e.dirtyLossPolicyOf object) e.tick.sequence)).authority, ?_⟩
  rw [hstage] at hledger
  rw [(Ledger.mk.inj hledger).1, (Ledger.mk.inj hstage).1]
  simp only [getElem?_map, Option.map_map]
  exact congrArg (Option.map · e.objects[key]?)
    (funext fun object => recomputeAuthorityLocked_eq ..)

lemma fenceParticipant_tables (reason : Text) (current : epoch = e.epoch)
    (known : e.participants[id]? = some participant) (live : participant.lifecycle ≠ .retired) :
    let e' := (e.fenceParticipant id epoch reason).2
    e'.participants = e.participants.insert id (participant.fence reason epoch) ∧
      (e'.regions = e.regions.map fun _ region =>
        region.cutOff id participant.boot reason e.tick.sequence) ∧
      (e'.invalidations = e.invalidations.map fun _ record =>
        record.cutOff id participant.boot e.tick.sequence) ∧
      e'.syncs = e.syncs.map fun _ sync => sync.cutOff id participant.boot e.tick.sequence := by
  obtain ⟨stage, hstage, hledger, hparticipants⟩ :=
    fenceParticipant_cutsOff reason current known live
  rw [hstage] at hledger
  exact ⟨hparticipants, (Ledger.mk.inj hledger).2⟩

/-- A fence leaves nothing to the incarnation, whether or not the journal accepts it. -/
theorem fenceParticipant_fencedOff (reason : Text) (current : epoch = e.epoch)
    (known : e.participants[id]? = some participant) (live : participant.lifecycle ≠ .retired)
    (hboot : participant.boot.defined = true) :
    (e.fenceParticipant id epoch reason).2.toRecords.FencedOff id participant.boot := by
  obtain ⟨hparticipants, hregions, hinvalidations, hsyncs⟩ :=
    fenceParticipant_tables reason current known live
  have hobject : ∀ (key : ObjectId) object', (e.fenceParticipant id epoch reason).2.objects[key]? =
      some object' → ∃ (object : ObjectRecord) (mode : AuthorityMode), object' =
        { object.cutOff id participant.boot (e.dirtyLossPolicyOf object) e.tick.sequence with
          authority := mode } := by
    intro key object' hobject'
    obtain ⟨f, hf⟩ := fenceParticipant_object reason current known live key
    obtain ⟨object, -, rfl⟩ := Option.map_eq_some_iff.mp (hf.symm.trans hobject')
    exact ⟨object, f object, rfl⟩
  refine ⟨⟨participant.fence reason epoch, ?_, rfl, rfl, rfl⟩, ?_, ?_, ?_, ?_, ?_⟩
  · rw [hparticipants]
    exact getElem?_insert_self
  · intro key object' hobject'
    obtain ⟨object, mode, rfl⟩ := hobject key object' hobject'
    exact ObjectRecord.cutOff_writer hboot
  · intro key object' hobject'
    obtain ⟨object, mode, rfl⟩ := hobject key object' hobject'
    exact fun grant hmem hlive => ObjectRecord.cutOff_reads hmem hlive
  · rw [hregions]
    refine FiniteMap.All.map (fun _ _ _ => trivial) fun _ region _ => ?_
    unfold RegionRecord.cutOff
    split
    · exact fun _ _ => .inl rfl
    · exact fun howner hboot => .inr (by tauto)
  · rw [hinvalidations]
    refine FiniteMap.All.map (fun _ _ _ => trivial) fun _ record _ => ?_
    unfold InvalidationRecord.cutOff
    split
    · nofun
    · exact fun howner hboot => by tauto
  rw [hsyncs]
  refine FiniteMap.All.map (fun _ _ _ => trivial) fun _ sync _ => ?_
  unfold SyncRecord.cutOff
  split
  · exact fun _ _ => ⟨nofun, nofun, nofun⟩
  rename_i hcut
  intro howner hboot
  have hsettled : sync.isSettled = true := by simpa [howner, hboot] using hcut
  unfold SyncRecord.isSettled at hsettled
  revert hsettled
  cases sync.state <;> simp

lemma fenceParticipant_relieves (reason : Text) (current : epoch = e.epoch)
    (known : e.participants[id]? = some participant) (live : participant.lifecycle ≠ .retired)
    {key : ObjectId} (hobject : e.objects[key]? = some object) (hopen : object.PendingOpen)
    (hwriter : object.writer = id) (hboot : object.writerBoot = participant.boot) :
    ∃ object', (e.fenceParticipant id epoch reason).2.objects[key]? = some object' ∧
      object'.Relieved := by
  obtain ⟨f, hf⟩ := fenceParticipant_object reason current known live key
  have hrelieved := hopen.relieved hwriter hboot (e.dirtyLossPolicyOf object) e.tick.sequence
  rw [hobject] at hf
  exact ⟨_, hf, { hrelieved with }⟩

end Fence

/-! ### In every reachable state -/

section Run

variable [ReplayStore σ]

lemma fenceable_run (hstore : ∀ st, store = some st → (stored st).Sat .fenceable)
    (as : List Action) : Invariant .fenceable .fenceable ((Sys.boot config store).run as) := by
  refine foldl_invariant (fun s a h => h.next persists_fenceable ?_)
    (Invariant.boot persists_fenceable hstore fun st hst => restores_fenceable (hstore st hst))
  cases a
  case restart => exact fun store hstore => restores_fenceable (h.medium_sat hstore)
  all_goals exact kept_fenceable

/-- **Fencing is complete**: a fence that is not refused leaves nothing to the incarnation, even if
its durable append fails, and relieves the objects the incarnation was writing. -/
theorem fence_complete (config : EngineConfig) (store : Option σ)
    (hstore : ∀ st, store = some st → (stored st).Sat .fenceable) (as : List Action)
    (id : ParticipantId) (epoch : CoordinatorEpoch) (reason : Text) :
    let s := (Sys.boot config store).run as
    let fenced := s.engine.fenceParticipant id epoch reason
    (∀ status, fenced.1 = .error status → status.code ≠ .unknownParticipant ∧
      status.code ≠ .staleEpoch ∧ status.code ≠ .retired) →
    ∃ participant, s.engine.participants[id]? = some participant ∧
      fenced.2.toRecords.FencedOff id participant.boot ∧
      ∀ (key : ObjectId) object, s.engine.objects[key]? = some object → object.writer = id →
        object.writerBoot = participant.boot →
        ∃ object', fenced.2.objects[key]? = some object' ∧ object'.Relieved := by
  intro s fenced hallowed
  obtain ⟨current, participant, known, live⟩ :=
    (fenceParticipant_cases s.engine id epoch reason).resolve_left
      fun ⟨⟨status, hstatus, hcode⟩, _⟩ => by
      have hnone := hallowed status hstatus
      tauto
  have hinv : Invariant .fenceable .fenceable s := fenceable_run hstore as
  refine ⟨participant, known, fenceParticipant_fencedOff reason current known live
    (hinv.live.participants id participant known), fun key object hobject hwriter hboot => ?_⟩
  exact fenceParticipant_relieves reason current known live hobject
    (hinv.live.objects key object hobject) hwriter hboot

end Run

theorem fence_complete_writer :
    let s : Sys LogStore := (Sys.boot {} (some {})).run (Duo.owned ++
      [Duo.markDirty, .publishReserve { Duo.publishRequest with allowWithoutDirty := false }])
    let fenced := s.engine.fenceParticipant ⟨1⟩ ⟨1⟩ [1]
    ((s.engine.objects[(⟨1⟩ : ObjectId)]?).any fun object =>
        object.hasUnpublishedDirty && object.pendingPublication.defined) = true ∧
      ∃ participant, s.engine.participants[(⟨1⟩ : ParticipantId)]? = some participant ∧
        fenced.2.toRecords.FencedOff ⟨1⟩ participant.boot := by
  have hresult : ((((Sys.boot {} (some ({} : LogStore))).run (Duo.owned ++ [Duo.markDirty,
      .publishReserve
        { Duo.publishRequest with allowWithoutDirty := false }])).engine.fenceParticipant
        ⟨1⟩ ⟨1⟩ [1]).1.isOk) = true := by decide +kernel
  refine ⟨by decide +kernel, ?_⟩
  obtain ⟨participant, hknown, hfenced, -⟩ := fence_complete {} (some ({} : LogStore))
    (fun st hst => by cases hst; exact DurableImage.sat_empty) (Duo.owned ++ [Duo.markDirty,
      .publishReserve { Duo.publishRequest with allowWithoutDirty := false }]) ⟨1⟩ ⟨1⟩ [1]
    (fun status hstatus => by rw [hstatus] at hresult; cases hresult)
  exact ⟨participant, hknown, hfenced⟩

/-! ### How long a fence lasts -/

/-- The replica is held by the recorded incarnation of a fenced participant. -/
def Records.FencedOwner (r : Records) (region : RegionRecord) : Prop :=
  ∃ participant ∈ r.participants[region.participant]?, participant.lifecycle = .fenced ∧
    participant.boot = region.boot

instance (r : Records) (region : RegionRecord) : Decidable (r.FencedOwner region) :=
  inferInstanceAs (Decidable (∃ participant ∈ r.participants[region.participant]?, _ ∧ _))

namespace RegionRecord

def Out (region : RegionRecord) : Prop := region.state = .fenced ∨ region.state = .retired

/-- Recovery leaves the replica out of service. -/
def StaysOut (region : RegionRecord) : Prop := region.isTerminal = true ∨ region.state = .fenced

instance (region : RegionRecord) : Decidable region.StaysOut := inferInstanceAs (Decidable (_ ∨ _))

variable {sequence : OperationSequence} {evidence : EvidenceId}

lemma restore_out : (region.restore evidence sequence).Out ↔ region.StaysOut := by
  unfold Out StaysOut
  rw [restore_state]
  split
  · simp [*]
  · split <;> simp [*]

lemma invalidate_not_out {id} : ¬ (region.invalidate id sequence).Out := by
  unfold Out invalidate
  split <;> simp

lemma requestSync_out {sync source} :
    (region.requestSync sync source sequence).Out ↔ region.Out := by
  unfold Out requestSync
  cases region.state <;> simp

lemma failed_not_out {request} : ¬ (region.refuseSync (failedDestination request).1
      (failedDestination request).2 sequence).Out := by
  unfold Out refuseSync failedDestination
  repeat' split
  all_goals simp

lemma revalidate_not_out {request authoritative ownership} :
    ¬ (region.revalidate request authoritative ownership evidence sequence).Out := by
  unfold Out revalidate
  dsimp only
  split <;> simp

end RegionRecord

lemma SyncEnd.not_out {s : Sys σ} {request record record'} {destination destination'}
    (h : SyncEnd s request record object destination record' destination') :
    ¬ destination'.Out := by
  cases h <;> simp [RegionRecord.Out, RegionRecord.refuseSync, RegionRecord.completeSync]

/-- Fenced participants are not live, and their replicas are out of service. -/
structure Records.FencesHold (r : Records) : Prop where
  live : All (fun _ participant => participant.lifecycle = .fenced → participant.live = false)
    r.participants
  regions : All (fun _ region => r.FencedOwner region → region.Out) r.regions

namespace DurableImage

/-- The replica is held by the recorded incarnation of a participant that is stored as fenced. -/
def FencedOwner (image : DurableImage) (region : RegionRecord) : Prop :=
  ∃ participant ∈ image.participants[region.participant]?, participant.lifecycle = .fenced ∧
    participant.boot = region.boot

instance (image : DurableImage) (region : RegionRecord) : Decidable (image.FencedOwner region) :=
  inferInstanceAs (Decidable (∃ participant ∈ image.participants[region.participant]?, _ ∧ _))

/-- What recovery restores the fences from: the replicas of fenced participants are stored out of
service, such replicas hold no modification, and invalidations and synchronizations name the
holders of replicas. -/
@[mk_iff]
structure KeepsFences (image : DurableImage) : Prop where
  regions : All (fun _ region => image.FencedOwner region → region.StaysOut) image.regions
  quiet : All (fun _ region => region.StaysOut → region.dirty ≠ .dirtyUnpublished) image.regions
  aimed : image.ledger.Aimed

instance (image : DurableImage) : Decidable image.KeepsFences :=
  decidable_of_iff' _ image.keepsFences_iff

end DurableImage

/-- The identity that a registration under the name writes. -/
def Impl.admittedId (s : Impl σ) (name : Text) : ParticipantId :=
  match s.participantIndex[name]? with
  | some id => ((s.participants[id]?).getD {}).id
  | none => ⟨s.nextParticipantId⟩

/-- The condition on a step: no fenced participant registers again under the same boot, no failure
report and no commit reaches a replica of a fenced incarnation, and a restart finds every fence in
the store. -/
def SparesFenced [ReplayStore σ] (s : Sys σ) (a : Action) : Prop :=
  (match a with
  | .registerParticipant name boot _ _ =>
    decide (∀ participant ∈ s.engine.participants[s.engine.admittedId name]?,
      participant.lifecycle = .fenced → participant.boot ≠ boot)
  | .failSync request =>
    decide (∀ region ∈ s.engine.failedRegion request, ¬ s.engine.FencedOwner region)
  | .publishCommit index =>
    decide (∀ region ∈ s.committedRegion index, ¬ s.engine.FencedOwner region)
  | .restart _ => decide (∀ store ∈ s.medium, (stored store).KeepsFences ∧
      All (fun id participant => participant.lifecycle = .fenced →
        ∀ kept ∈ (stored store).participants[id]?, kept.lifecycle = .fenced)
        s.engine.participants)
  | _ => true) = true

instance [ReplayStore σ] (s : Sys σ) (a : Action) : Decidable (SparesFenced s a) :=
  inferInstanceAs (Decidable (_ = true))

def FenceStep [StoreMedium σ] (s : Sys σ) (a : Action) : Prop :=
  ∀ (id : ParticipantId) participant participant',
    s.engine.participants[id]? = some participant → participant.lifecycle = .fenced →
    (s.step a).engine.participants[id]? = some participant' →
      participant'.lifecycle = .fenced ∨ ∃ name boot epoch label,
        a = .registerParticipant name boot epoch label ∧ boot ≠ participant.boot

/-! ### Participants -/

section Participants

variable [ReplayStore σ] {s : Sys σ} {a : Action}

omit [ReplayStore σ] in
lemma NewParticipant.admitted {id record}
    (h : NewParticipant s a id record) : ∃ name boot epoch label,
      a = .registerParticipant name boot epoch label ∧ id = s.engine.admittedId name := by
  cases h with
  | fresh _ unknown => exact ⟨_, _, _, _, rfl, by simp [admittedId, unknown, newParticipant]⟩
  | reregister _ indexed known | reincarnate _ indexed known =>
    exact ⟨_, _, _, _, rfl, by simp [admittedId, indexed, known]⟩

lemma NewParticipant.fenced {id : ParticipantId} {record}
    (h : NewParticipant s a id record) (hnamed : LiveNamed s)
    (hfenced : record.lifecycle = .fenced) : ∃ name boot epoch label participant,
      a = .registerParticipant name boot epoch label ∧
        s.engine.participants[s.engine.admittedId name]? = some participant ∧
        participant.lifecycle = .fenced ∧ participant.boot = boot := by
  cases h with
  | fresh | reincarnate => cases hfenced
  | @reregister name boot epoch label id record allowed indexed known same =>
    have hfound : s.engine.participants[id]? = some record := by
      cases hid : s.engine.participants[id]? with
      | some found => simpa [hid] using known.symm
      | none =>
        -- the boot of a record that is not there is not defined
        rw [hid] at known
        rw [known] at same
        rw [← same.1] at allowed
        exact nomatch registerParticipantRefusal_none allowed
    have hlifecycle : record.lifecycle = .fenced := by
      unfold ParticipantRecord.reregister at hfenced
      revert hfenced
      cases record.lifecycle <;> simp
    refine ⟨name, boot, epoch, label, record, rfl, ?_, hlifecycle, same.1⟩
    have hid : s.engine.admittedId name = id := by
      have hnamed : record.id = id := hnamed.live.participants id record hfound
      simp [admittedId, indexed, hfound, hnamed]
    rw [hid]
    exact hfound

lemma degraded_fenced {lifecycle : ParticipantLifecycle} :
    (if lifecycle = .active then .degraded else lifecycle) = .fenced ↔ lifecycle = .fenced := by
  split <;> simp [*]

lemma fenced_before (hnamed : LiveNamed s) (hok : SparesFenced s a)
    (ha : a.Runs) (hfence : ∀ id epoch reason, a ≠ .fenceParticipant id epoch reason)
    (hlive : All (fun _ participant => participant.lifecycle = .fenced → participant.live = false)
      s.engine.participants) {id : ParticipantId} {participant'}
    (hafter : (s.step a).engine.participants[id]? = some participant')
    (hfenced : participant'.lifecycle = .fenced) :
    participant'.live = false ∧ ∃ participant, s.engine.participants[id]? = some participant ∧
      participant.lifecycle = .fenced ∧ participant.boot = participant'.boot := by
  have hnew : ∀ record, NewParticipant s a id record → record.lifecycle ≠ .fenced := by
    intro record new hfenced
    obtain ⟨name, boot, epoch, label, participant, rfl, hfound, hlifecycle, hboot⟩ :=
      new.fenced hnamed hfenced
    exact of_decide_eq_true hok participant hfound hlifecycle hboot
  have horigin := (step_evolved a ha).records.participants.origin id participant' hafter
  refine horigin.induction (P := fun record => record.lifecycle = .fenced →
    record.live = false ∧ ∃ participant, s.engine.participants[id]? = some participant ∧
      participant.lifecycle = .fenced ∧ participant.boot = record.boot)
    (fun record hrecord hfenced => ⟨hlive id record hrecord hfenced, record, hrecord, hfenced, rfl⟩)
    (fun record new hfenced => absurd hfenced (hnew record new)) ?_ hfenced
  intro record record' h hstep hfenced
  cases hstep with
  | closeSession =>
    exact ⟨rfl, (h (degraded_fenced.mp hfenced)).2⟩
  | fence => exact absurd rfl (hfence _ _ _)
  | count => exact h hfenced
  | replace new => exact absurd hfenced (hnew _ new)

lemma fenceStep_of_spares (hok : SparesFenced s a) : FenceStep s a := by
  intro id participant participant' hbefore hfenced hafter
  rcases a.restart_or with ⟨config, rfl⟩ | ha
  · left
    obtain ⟨image, epoch, sequence, hfences, hrestored⟩ :=
      restart_image config (P := fun image =>
        ∀ kept ∈ image.participants[id]?, kept.lifecycle = .fenced) (by simp) fun store hstore =>
          (of_decide_eq_true hok store hstore).2 id participant hbefore hfenced
    obtain ⟨kept, count, hkept, -, rfl⟩ := hrestored.participant_origin hafter
    exact degraded_fenced.mpr (hfences kept hkept)
  have horigin := (step_evolved a ha).records.participants.origin id participant'
    hafter
  have hnew : ∀ record, NewParticipant s a id record → ∃ name boot epoch label,
      a = .registerParticipant name boot epoch label ∧ boot ≠ participant.boot := by
    intro record new
    obtain ⟨name, boot, epoch, label, rfl, rfl⟩ := new.admitted
    exact ⟨name, boot, epoch, label, rfl,
      (of_decide_eq_true hok participant hbefore hfenced).symm⟩
  refine horigin.induction (P := fun record => record.lifecycle = .fenced ∨ ∃ name boot epoch label,
    a = .registerParticipant name boot epoch label ∧ boot ≠ participant.boot)
    (fun record hrecord => ?_) (fun record new => .inr (hnew record new)) ?_
  · cases hbefore.symm.trans hrecord
    exact .inl hfenced
  intro record record' h hstep
  cases hstep with
  | closeSession => exact h.imp_left degraded_fenced.mpr
  | fence => exact .inl rfl
  | count => exact h
  | replace new => exact .inr (hnew _ new)

end Participants

/-! ### Replicas -/

section Replicas

variable [ReplayStore σ] {s : Sys σ} {a : Action} {region' : RegionRecord} {key : RegionId}

structure Fencing (s : Sys σ) : Prop where
  keyed : LiveKeyed s
  named : LiveNamed s
  holds : s.engine.FencesHold
  quiet : All (fun _ region => region.Out → region.dirty ≠ .dirtyUnpublished) s.engine.regions
  aimed : s.engine.ledger.Aimed

omit [ReplayStore σ] in
lemma not_fencedOwner_of_granted {ctx}
    (hgranted : s.engine.resolveLocked ctx = .granted object participant)
    (howner : region.participant = ctx.participant) : ¬ s.engine.FencedOwner region := by
  rintro ⟨fenced, hfenced, hlifecycle, -⟩
  have hauthorized := resolveLocked_granted hgranted
  rw [howner] at hfenced
  cases hauthorized.participant_found.symm.trans hfenced
  exact hauthorized.participant_live.1 hlifecycle

omit [ReplayStore σ] in
lemma RegionChange.quiet (h : RegionChange s a key region region')
    (hquiet : region.Out → region.dirty ≠ .dirtyUnpublished) :
    region'.Out → region'.dirty ≠ .dirtyUnpublished := by
  cases h with
  | markDirty | publish | supersede | release => rintro (hstate | hstate) <;> cases hstate
  | same | transfer | invalidateLater => exact hquiet
  | invalidateNow | acknowledge => exact fun hout => absurd hout RegionRecord.invalidate_not_out
  | requestSync => exact fun hout => hquiet (RegionRecord.requestSync_out.mp hout)
  | completeSync _ _ ends => exact fun hout => absurd hout ends.not_out
  | failSync => exact fun hout => absurd hout RegionRecord.failed_not_out
  | revalidate => exact fun hout => absurd hout RegionRecord.revalidate_not_out
  | rejoin | fence | retire | retireObject => exact fun _ => region.dirty.lost_ne

lemma RegionChange.out (h : RegionChange s a key region region') (hfencing : Fencing s)
    (hok : SparesFenced s a) (hfound : s.engine.regions[key]? = some region)
    (howner : s.engine.FencedOwner region) : region'.Out := by
  have hout := hfencing.holds.regions key region hfound howner
  have hquiet := hfencing.quiet key region hfound hout
  have hstate : region.state ≠ .current ∧ region.state ≠ .dirty := by
    rcases hout with hstate | hstate <;> rw [hstate] <;> exact ⟨nofun, nofun⟩
  cases h with
  | fence => exact .inl rfl
  | markDirty _ allowed =>
    exact (not_or.mpr hstate (markDirtyRefusal_ok allowed).2.2.2.1).elim
  | @publish index frame object _ _ ready target =>
    -- the condition keeps the source replica away from a fenced incarnation
    have hcommitted : s.committedRegion index = some region := by
      simp [Sys.committedRegion, ready, target, hfound]
    exact absurd howner (of_decide_eq_true hok region hcommitted)
  | supersede _ _ _ current => exact absurd current hstate.1
  | release _ _ _ _ dirty => exact absurd dirty hquiet
  | invalidateNow issues =>
    exact absurd (hout.elim (fun h => .inr (.inr h)) fun h => .inr (.inl h)) issues.live
  | same | transfer | invalidateLater => exact hout
  | @acknowledge ack record object _ _ acknowledges =>
    obtain ⟨holder, hholder, -, htarget, -⟩ :=
      hfencing.aimed.invalidations _ record acknowledges.issued
    cases hfound.symm.trans hholder
    obtain ⟨participant, hgranted⟩ := acknowledges.granted
    exact absurd howner (not_fencedOwner_of_granted hgranted
      (htarget.trans (acknowledgeRefusal_none acknowledges.allowed).2))
  | requestSync => exact RegionRecord.requestSync_out.mpr hout
  | @completeSync request record object _ _ _ completes =>
    obtain ⟨holder, hholder, -, htarget, -⟩ := hfencing.aimed.syncs _ record completes.planned
    cases hfound.symm.trans hholder
    obtain ⟨participant, hgranted⟩ := completes.granted
    obtain ⟨-, -, hcaller, -⟩ := completeSyncRefusal_none completes.allowed
    exact absurd howner (not_fencedOwner_of_granted hgranted
      (htarget.trans hcaller))
  | @failSync request record _ _ fails =>
    have hfailed : s.engine.failedRegion request = some region := by
      simp [failedRegion, fails.planned, fails.running, fails.caller, hfound]
    exact absurd howner (of_decide_eq_true hok region hfailed)
  | revalidate granted allowed =>
    obtain ⟨-, -, -, -, hcaller, -⟩ := revalidateRefusal_ok allowed
    exact absurd howner (not_fencedOwner_of_granted granted hcaller)
  | rejoin | retire | retireObject => exact .inr rfl

lemma FencesHold.step (h : Fencing s) (hok : SparesFenced s a) (ha : a.Runs)
    (hfence : ∀ id epoch reason, a ≠ .fenceParticipant id epoch reason) :
    (s.step a).engine.FencesHold := by
  have hbefore := @fenced_before _ _ s a h.named hok ha hfence h.holds.live
  refine ⟨fun id participant' hafter hfenced => (hbefore hafter hfenced).1,
    fun key region' hregion' howner => ?_⟩
  obtain ⟨participant', hafter, hfenced, hboot⟩ := howner
  obtain ⟨-, participant, hfound, hlifecycle, hsame⟩ := hbefore hafter hfenced
  rcases (step_changes h.keyed ha).regions.origin hregion' with
    ⟨region, hregion, hchange⟩ | ⟨-, hnew⟩
  · have hreplica : region.SameReplica region' := by
      obtain ⟨after, hregionAfter, hsteps⟩ :=
        (step_evolved a ha).records.regions.forward hregion
      cases hregion'.symm.trans hregionAfter
      exact regionSteps_sameReplica hsteps
    refine hchange.out h hok hregion ⟨participant, ?_, hlifecycle, ?_⟩
    · rw [← hreplica.participant]
      exact hfound
    · rw [hsame, hboot, hreplica.boot]
  -- a fenced participant registers no replica
  obtain ⟨allowed⟩ := hnew
  obtain ⟨-, hcaller, hlive, -⟩ := registerRegionRefusal_ok allowed
  have hid := h.named.live.participants _ _ hcaller
  change s.engine.participants[ParticipantRecord.id _]? = some participant at hfound
  rw [hid] at hfound
  cases hcaller.symm.trans hfound
  exact absurd hlifecycle hlive

lemma FencesHold.fence (h : Fencing s) (id : ParticipantId) (epoch : CoordinatorEpoch)
    (reason : Text) : (s.step (.fenceParticipant id epoch reason)).engine.FencesHold := by
  change (s.engine.fenceParticipant id epoch reason).2.FencesHold
  rcases fenceParticipant_cases s.engine id epoch reason with ⟨-, hsame⟩ |
    ⟨current, participant, known, live⟩
  · rw [hsame]
    exact h.holds
  obtain ⟨hparticipants, hregions, -⟩ := fenceParticipant_tables reason current known live
  refine ⟨?_, ?_⟩
  · rw [hparticipants]
    exact h.holds.live.insert fun _ => rfl
  intro key region' hregion'
  rw [hregions, getElem?_map] at hregion'
  obtain ⟨region, hregion, rfl⟩ := Option.map_eq_some_iff.mp hregion'
  rintro ⟨participant', hafter, hfenced, hboot⟩
  have hplace := region.cutOff_sameReplica id participant.boot reason s.engine.tick.sequence
  rw [hplace.participant, hparticipants] at hafter
  rw [hplace.boot] at hboot
  unfold RegionRecord.cutOff
  by_cases hcut : region.participant = id ∧ region.boot = participant.boot
  · by_cases hretired : region.state = .retired
    · rw [if_neg fun hlive => hlive.2.2 hretired]
      exact .inr hretired
    · rw [if_pos ⟨hcut.1, hcut.2, hretired⟩]
      exact .inl rfl
  rw [if_neg fun hmine => hcut ⟨hmine.1, hmine.2.1⟩]
  refine h.holds.regions key region hregion ⟨participant', ?_, hfenced, hboot⟩
  by_cases hid : id = region.participant
  · subst hid
    cases getElem?_insert_self.symm.trans hafter
    exact absurd ⟨rfl, hboot.symm⟩ hcut
  · exact (getElem?_insert_ne hid).symm.trans hafter

theorem Fencing.boot (hstore : ∀ st, store = some st → (stored st).KeepsFences) :
    Fencing (Sys.boot config store) := by
  obtain ⟨image, epoch, sequence, hkeeps, hrestored⟩ :=
    boot_image config ⟨all_empty, all_empty, ⟨all_empty, all_empty⟩⟩ hstore
  refine ⟨.boot, .boot, ⟨?_, ?_⟩, ?_, hrestored.aimed hkeeps.aimed⟩
  · intro id participant' hafter hfenced
    obtain ⟨kept, count, -, -, rfl⟩ := hrestored.participant_origin hafter
    rfl
  · intro key region' hregion' howner
    obtain ⟨region, evidence, hregion, -, rfl⟩ := hrestored.region_origin hregion'
    have hsame := region.sameReplica_restore evidence sequence
    obtain ⟨participant', hafter, hfenced, hboot⟩ := howner
    rw [hsame.participant] at hafter
    obtain ⟨kept, count, hkept, -, rfl⟩ := hrestored.participant_origin hafter
    exact RegionRecord.restore_out.mpr (hkeeps.regions key region hregion
      ⟨kept, hkept, degraded_fenced.mp hfenced, hboot.trans hsame.boot⟩)
  · intro key region' hregion' hout
    obtain ⟨region, evidence, hregion, -, rfl⟩ := hrestored.region_origin hregion'
    rw [RegionRecord.restore_dirty]
    exact hkeeps.quiet key region hregion (RegionRecord.restore_out.mp hout)

theorem Fencing.next (h : Fencing s) (hok : SparesFenced s a) : Fencing (s.step a) := by
  rcases a.restart_or with ⟨config, rfl⟩ | ha
  · exact Fencing.boot (stored_remount fun store hstore =>
      (of_decide_eq_true hok store hstore).1)
  refine ⟨h.keyed.step, h.named.step, ?_, ?_, h.aimed.step h.keyed ha⟩
  · by_cases hfence : ∃ id epoch reason, a = .fenceParticipant id epoch reason
    · obtain ⟨id, epoch, reason, rfl⟩ := hfence
      exact FencesHold.fence h id epoch reason
    · exact FencesHold.step h hok ha fun id epoch reason heq => hfence ⟨id, epoch, reason, heq⟩
  intro key region' hregion'
  rcases (step_changes h.keyed ha).regions.origin hregion' with
    ⟨region, hregion, hchange⟩ | ⟨-, hnew⟩
  · exact hchange.quiet (h.quiet key region hregion)
  · cases hnew
    exact fun _ => nofun

/-- **A fence lasts until a new boot**: in a run whose steps all spare fenced incarnations, fenced
participants are not live, their replicas are out of service, and they leave the lifecycle only
when they are admitted under another boot. -/
theorem fence_lasts (config : EngineConfig) (store : Option σ) (as : List Action)
    (hstore : ∀ st, store = some st → (stored st).KeepsFences)
    (hok : RunOk Sys.step SparesFenced (Sys.boot config store) as) :
    ((Sys.boot config store).run as).engine.FencesHold ∧
      RunOk Sys.step FenceStep (Sys.boot config store) as :=
  ⟨(run_invariant (fun _ _ hok h => h.next hok) (Fencing.boot hstore) hok).holds,
    runOk_of_invariant (fun _ _ hok h => h.next hok) (fun _ _ hok _ => fenceStep_of_spares hok)
      (Fencing.boot hstore) hok⟩

end Replicas

theorem fence_lasts_restart :
    let s : Sys LogStore := (Sys.boot {} (some {})).run
      (Duo.owned ++ [Duo.markDirty, Duo.fenceWriter, .restart {}])
    (s.engine.participants[(⟨1⟩ : ParticipantId)]?).map (·.lifecycle) = some .fenced ∧
      s.engine.FencesHold :=
  ⟨by decide +kernel, (fence_lasts {} (some ({} : LogStore)) _
    (fun st hst => by cases hst; exact ⟨all_empty, all_empty, ⟨all_empty, all_empty⟩⟩)
    (by decide +kernel)).1⟩

/-- A fenced participant registers again under its boot, reports a failed synchronization, or is
restored by a restart on a store that refused the fence. -/
theorem fence_undone :
    let owned := Duo.start.run (Duo.owned ++ [Duo.fenceWriter])
    let planned := Duo.start.run (Duo.planned ++ [Duo.fenceWriter])
    let refused :=
      (Sys.boot {} (some ({ script := List.replicate 12 true ++ [false] } : LogStore))).run
      (Duo.owned ++ [Duo.fenceWriter])
    let participant (s : Sys LogStore) := (s.engine.participants[(⟨1⟩ : ParticipantId)]?).map
      fun participant => (participant.lifecycle, participant.live)
    let region (s : Sys LogStore) := (s.engine.regions[(⟨1⟩ : RegionId)]?).map (·.state)
    participant owned = some (.fenced, false) ∧
      participant (owned.step (Duo.join 1)) = some (.fenced, true) ∧
      participant planned = some (.fenced, false) ∧ region planned = some .fenced ∧
      participant (planned.step Duo.fail) = some (.fenced, false) ∧
      region (planned.step Duo.fail) = some .invalid ∧
      participant refused = some (.fenced, false) ∧
      participant (refused.step (.restart {})) = some (.degraded, false) := by
  decide +kernel

end CoherenceFabric
