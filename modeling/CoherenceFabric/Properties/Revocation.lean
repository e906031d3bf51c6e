import CoherenceFabric.Deployment
import CoherenceFabric.Effects.Fields
import CoherenceFabric.Invariants.InFlight

/-!
Revocation and the publish calls in flight.

A call in flight commits only if its object still names it and still has its ownership
generation. Fencing the writer, retiring the object and shutting down make the object name no
publication; a release advances the ownership generation. Nothing brings either back: no grant is
made while a publication is pending, and no other call gets the identity of one in flight.
-/

namespace CoherenceFabric

open FiniteMap Transition Impl

variable {σ : Type} {object' : ObjectRecord} {config : EngineConfig} {store : Option σ} {e : Impl σ}
  {pending : PendingPublication}

namespace ObjectRecord

/-- The object is still held by the writer of a publication, under its ownership generation. -/
def HeldFor (object : ObjectRecord) (pending : PendingPublication) : Prop :=
  object.writer = pending.writer ∧ object.writerBoot = pending.writerBoot ∧
    object.ownershipGeneration = pending.ownershipGeneration

/-- The writer of a publication has released the object. -/
def GivenUp (object : ObjectRecord) (pending : PendingPublication) : Prop :=
  object.writer = .nil ∧ object.ownershipGeneration = pending.ownershipGeneration.next

/-- Nobody may write the object or read it. -/
structure Withdrawn (object : ObjectRecord) : Prop where
  writer : object.writer = .nil
  reads : ¬ object.Leased

end ObjectRecord

/-- The step takes the authority of a publication in flight: its writer is fenced, the writer
of its object releases, its object is retired, or the engine begins to shut down. -/
inductive Revokes [StoreMedium σ] (s : Sys σ) (pending : PendingPublication) : Action → Prop
  | fence {epoch reason participant} (current : epoch = s.engine.epoch)
      (known : s.engine.participants[pending.writer]? = some participant)
      (live : participant.lifecycle ≠ .retired) :
      Revokes s pending (.fenceParticipant pending.writer epoch reason)
  | release {request object} (target : request.context.object = pending.object)
      (releases : Releases s.engine request object) : Revokes s pending (.release request)
  | retire {generation epoch object}
      (retired : (s.step (.retireObject pending.object generation epoch)).engine.objects[
        pending.object]? = some object ∧ object.lifecycle = .retired) :
      Revokes s pending (.retireObject pending.object generation epoch)
  | shutdown {epoch} (current : epoch = s.engine.epoch) : Revokes s pending (.beginShutdown epoch)

def Action.fenced : Action → Option ParticipantId
  | .fenceParticipant id _ _ => some id
  | _ => none

/-- A fence meets the incarnation that made the reservations in flight: its participant has not
been admitted under another boot since. -/
def FenceReaches (s : Sys σ) (a : Action) : Prop :=
  ∀ id ∈ a.fenced, ∀ participant ∈ s.engine.participants[id]?, ∀ frame ∈ s.frames,
    frame.pending.writer = id → participant.boot = frame.pending.writerBoot

instance (s : Sys σ) (a : Action) : Decidable (FenceReaches s a) :=
  inferInstanceAs (Decidable (∀ id ∈ a.fenced, _))

/-! ### The object of a publication in flight -/

section Standing

variable {s : Sys σ} {a : Action} {key : ObjectId} {object object' : ObjectRecord}

lemma ObjectEffect.standing (h : ObjectEffect s a key object object') {id} (hid : id ≠ .nil)
    (hfresh : ∀ request, a = .publishReserve request → id ≠ ⟨s.engine.nextPublicationId⟩)
    (hwaiting : object.pendingPublication = id → object.publicationState = .pendingDurable)
    (hname : object'.pendingPublication = id) : object.pendingPublication = id ∧
      (object'.writer = object.writer ∧ object'.writerBoot = object.writerBoot ∧
          object'.ownershipGeneration = object.ownershipGeneration ∨
        object.writer ≠ .nil ∧ object'.writer = .nil ∧
          object'.ownershipGeneration = object.ownershipGeneration.next) := by
  cases h with
  | keep same =>
    exact ⟨same.pending.1.symm.trans hname,
      .inl ⟨same.writer.1, same.writer.2, same.ownership⟩⟩
  | revoke _ _ _ _ revoked =>
    have hpending := revoked.pending
    split at hpending
    · exact absurd (hname.symm.trans hpending) hid
    rename_i hopen
    have hstate := hwaiting (hpending.symm.trans hname)
    exact absurd (by simp [ObjectRecord.publicationOpen, hstate]) hopen
  | transferFailed transfers | transfer transfers => exact absurd (hwaiting hname) transfers.settled
  | markDirty => exact ⟨hname, .inl ⟨rfl, rfl, rfl⟩⟩
  | reserve reserves pending made =>
    have hnew : pending.id = ⟨s.engine.nextPublicationId⟩ := by
      rw [made]
      rfl
    exact absurd (hname.symm.trans hnew) (hfresh _ rfl)
  | relinquish granted writer ownership released =>
    have hcaller := (resolveLocked_granted_iff.mp granted).2.1
    exact ⟨released.pending.symm.trans hname,
      .inr ⟨writer.1 ▸ hcaller, released.writer, released.ownership⟩⟩
  | shutdown _ _ down =>
    have hpending := down.pending
    split at hpending
    · exact absurd (hname.symm.trans hpending) hid
    · rename_i hstate
      exact absurd (hwaiting (hpending.symm.trans hname)) hstate
  | _ => exact absurd hname.symm hid

end Standing

/-! ### Calls in flight -/

section Attended

variable [ReplayStore σ]

/-- The object that a call in flight has reserved is still held by the writer, or the writer has
released it. -/
structure Attended (s : Sys σ) : Prop extends Waiting s where
  holders : ∀ frame ∈ s.frames, ∀ object,
    s.engine.objects[frame.pending.object]? = some object →
      object.pendingPublication = frame.pending.id →
        object.HeldFor frame.pending ∨ object.GivenUp frame.pending

/-- The reservation of a publication has been taken back. -/
def Sys.Lost (s : Sys σ) (pending : PendingPublication) : Prop :=
  ∀ object, s.engine.objects[pending.object]? = some object →
    object.pendingPublication = pending.id →
      object.ownershipGeneration ≠ pending.ownershipGeneration

variable {s : Sys σ} {a : Action} {frame : PublishFrame}

lemma Waiting.standing (h : Waiting s) (ha : a.Runs)
    (hfresh : FreshIdentity s a) (hframe : frame ∈ s.frames)
    (hobject' : (s.step a).engine.objects[frame.pending.object]? = some object')
    (hname : object'.pendingPublication = frame.pending.id) :
    ∃ object, s.engine.objects[frame.pending.object]? = some object ∧
      object.pendingPublication = frame.pending.id ∧
      (object'.writer = object.writer ∧ object'.writerBoot = object.writerBoot ∧
          object'.ownershipGeneration = object.ownershipGeneration ∨
        object.writer ≠ .nil ∧ object'.writer = .nil ∧
          object'.ownershipGeneration = object.ownershipGeneration.next) := by
  have hnamed := h.named frame hframe
  rcases (step_changes h.keyed ha).objects.origin hobject' with
    ⟨object, hobject, hchange⟩ | ⟨-, hnew⟩
  · obtain ⟨hbefore, hcases⟩ := hchange.effect.standing hnamed (hfresh.ne hframe)
      (h.waiting frame hframe object hobject) hname
    exact ⟨object, hobject, hbefore, hcases⟩
  · exact absurd (hname.symm.trans hnew.pending_nil) hnamed

lemma Attended.held_after (h : Attended s) (ha : a.Runs)
    (hfresh : FreshIdentity s a) (hframe : frame ∈ s.frames)
    (hobject' : (s.step a).engine.objects[frame.pending.object]? = some object')
    (hname : object'.pendingPublication = frame.pending.id) :
    object'.HeldFor frame.pending ∨ object'.GivenUp frame.pending := by
  obtain ⟨object, hobject, hbefore, ⟨hwriter, hboot, hownership⟩ | ⟨hwriter, hnil, hnext⟩⟩ :=
    h.toWaiting.standing ha hfresh hframe hobject' hname
  · rcases h.holders frame hframe object hobject hbefore with hheld | hgiven
    · exact .inl ⟨hwriter.trans hheld.1, hboot.trans hheld.2.1, hownership.trans hheld.2.2⟩
    · exact .inr ⟨hwriter.trans hgiven.1, hownership.trans hgiven.2⟩
  · rcases h.holders frame hframe object hobject hbefore with hheld | hgiven
    · exact .inr ⟨hnil, hnext.trans (congrArg _ hheld.2.2)⟩
    · exact absurd hgiven.1 hwriter

lemma reserve_held (hkeyed : LiveKeyed s) {request}
    (hnew : (s.engine.publishReserve request).1 = .reserved frame) {object}
    (hobject : (s.step (.publishReserve request)).engine.objects[frame.pending.object]? =
      some object) : object.HeldFor frame.pending := by
  obtain ⟨before, participant, policy, region, receipt, hreserves, rfl, hengine⟩ :=
    publishReserve_reserved hnew
  have hgranted := resolveLocked_granted hreserves.granted
  have hid := hkeyed.live.objects _ _ hgranted.object_found
  have hwriter := (publishRefusal_ok hreserves.allowed).writer
  change (s.reserve request).engine.objects[before.id]? = some object at hobject
  rw [reserve_engine, hengine, hid] at hobject
  simp only [reservePublication, withPersistence_toRecords,
    withCounters_toRecords, withInFlight_toRecords, withRecords_toRecords,
    Records.setObject, getElem?_insert_self] at hobject
  cases hobject
  exact ⟨hwriter.2.1, hwriter.2.2.trans (hgranted.boot.symm.trans hreserves.boot.symm), rfl⟩

theorem Attended.step (h : Attended s) (ha : a.Runs)
    (hfresh : FreshIdentity s a) : Attended (s.step a) where
  toWaiting := h.toWaiting.step ha hfresh
  holders frame hframe object hobject hname := by
    rcases step_publication ha hframe with ⟨before, hbefore, hsame, -⟩ | ⟨request, rfl, hnew⟩
    · rw [hsame] at hobject hname ⊢
      exact h.held_after ha hfresh hbefore hobject hname
    · exact .inl (reserve_held h.keyed hnew hobject)

lemma Attended.boot : Attended (Sys.boot config store) :=
  { Waiting.boot with holders := fun _ h => absurd h not_mem_boot_frames }

lemma Attended.lost_after (h : Attended s) (ha : a.Runs)
    (hfresh : FreshIdentity s a) (hframe : frame ∈ s.frames) (hlost : s.Lost frame.pending) :
    (s.step a).Lost frame.pending := by
  intro object' hobject' hname
  obtain ⟨object, hobject, hbefore, ⟨-, -, hsame⟩ | ⟨hwriter, -, -⟩⟩ :=
    h.toWaiting.standing ha hfresh hframe hobject' hname
  · rw [hsame]
    exact hlost object hobject hbefore
  · -- the writer has already released, so it cannot release again
    rcases h.holders frame hframe object hobject hbefore with hheld | hgiven
    · exact absurd hheld.2.2 (hlost object hobject hbefore)
    · exact absurd hgiven.1 hwriter

end Attended

/-! ### Objects that refuse every request -/

/-- No request for the object passes `resolve_locked`. -/
def Impl.Refuses (e : Impl σ) (key : ObjectId) : Prop :=
  ∀ ctx object participant, e.resolveLocked ctx = .granted object participant → ctx.object ≠ key

section Refuses

variable {s : Sys σ} {a : Action} {key : ObjectId} {object object' : ObjectRecord}

lemma refuses_of_shuttingDown (h : e.shuttingDown = true) (key : ObjectId) : e.Refuses key := by
  intro ctx object participant hgranted
  exact absurd ((resolveLocked_granted hgranted).running.symm.trans h) nofun

lemma refuses_of_retired (hfound : e.objects[key]? = some object)
    (h : object.lifecycle = .retired) : e.Refuses key := by
  rintro ctx other participant hgranted rfl
  have hauthorized := resolveLocked_granted hgranted
  cases hauthorized.object_found.symm.trans hfound
  exact hauthorized.object_live.1 h

lemma ObjectRecord.shutdown_withdrawn (object : ObjectRecord) (sequence : OperationSequence) :
    (object.shutdown sequence).Withdrawn :=
  ⟨(object.shutdown_spec sequence).writer, object.shutdown_not_leased sequence⟩

lemma ObjectChange.withdrawn (h : ObjectChange s a key object object')
    (hrefuses : s.engine.Refuses key) (hw : object.Withdrawn) : object'.Withdrawn := by
  have hrecompute : ∀ (e : Impl σ) {object : ObjectRecord}, object.Withdrawn →
      (e.recomputeAuthorityLocked object).Withdrawn := by
    intro e object hw
    rw [recomputeAuthorityLocked_eq]
    exact ⟨hw.writer, hw.reads⟩
  cases h with
  | same => exact hw
  | @fence id _ _ participant _ _ seq e =>
    refine hrecompute e ?_
    obtain ⟨reads, touched, hreads, hcut⟩ :=
      object.cutOff_cases id participant.boot (s.engine.dirtyLossPolicyOf object) seq
    have hfree : ¬ ∃ grant ∈ reads, grant.released = false :=
      fun ⟨grant, hmem, hlive⟩ => hw.reads ⟨grant, hreads grant hmem hlive, hlive⟩
    rcases hcut with ⟨-, -, hcut⟩ | ⟨-, hcut⟩
    · rw [hcut]
      exact ⟨(object.revokeWriter_spec _ seq).writer, hfree⟩
    · rw [hcut]
      exact ⟨hw.writer, hfree⟩
  | @retireRegion _ _ _ region _ e =>
    refine hrecompute e ⟨hw.writer, fun ⟨grant, hmem, hlive⟩ => ?_⟩
    exact hw.reads ⟨grant, ObjectRecord.mem_releaseReads hmem hlive, hlive⟩
  | invalidateNow e => exact hrecompute e ⟨hw.writer, hw.reads⟩
  | retire => exact ⟨rfl, ObjectRecord.not_leased_of_released object.reads rfl⟩
  | shutdown => exact object.shutdown_withdrawn _
  | transferFailed transfers | transfer transfers =>
    exact absurd rfl (hrefuses _ _ _ transfers.granted)
  | prefer _ granted | grantRead _ granted | promote granted =>
    exact absurd rfl (hrefuses _ _ _ granted)
  | releaseLease _ granted | releaseAuthority _ granted => exact absurd rfl (hrefuses _ _ _ granted)
  | acknowledge _ acknowledges =>
    obtain ⟨participant, granted⟩ := acknowledges.granted
    exact absurd rfl (hrefuses _ _ _ granted)
  | _ => exact ⟨hw.writer, hw.reads⟩

lemma ObjectEffect.retired (h : ObjectEffect s a key object object')
    (hretired : object'.lifecycle = .retired) :
    object.lifecycle = .retired ∨ ∃ seq, object' = object.retire seq := by
  cases h with
  | keep same => exact .inl (same.lifecycle.symm.trans hretired)
  | revoke _ _ _ _ revoked =>
    rcases revoked.lifecycle with hsame | ⟨-, hrecovery⟩
    · exact .inl (hsame.symm.trans hretired)
    · cases hrecovery.symm.trans hretired
  | relinquish _ _ _ released =>
    rcases released.lifecycle with hsame | hrecovery
    · exact .inl (hsame.symm.trans hretired)
    · cases hrecovery.symm.trans hretired
  | resolveRecovery => cases hretired
  | retire => exact .inr ⟨_, rfl⟩
  | shutdown _ _ down => exact .inl (down.lifecycle.symm.trans hretired)
  | _ => exact .inl hretired

lemma ObjectEffect.retired_stays (h : ObjectEffect s a key object object')
    (hrefuses : s.engine.Refuses key) (hretired : object.lifecycle = .retired)
    (hclean : object.hasUnpublishedDirty = false) :
    object'.lifecycle = .retired ∧ object'.hasUnpublishedDirty = false := by
  cases h with
  | keep same => exact ⟨same.lifecycle.trans hretired, same.dirty.trans hclean⟩
  | revoke _ _ _ _ revoked =>
    refine ⟨(revoked.lifecycle.resolve_right ?_).trans hretired, revoked.clean⟩
    exact fun h => absurd (hclean.symm.trans h.1) nofun
  | commit => exact ⟨hretired, rfl⟩
  | markDirty granted | relinquish granted => exact absurd rfl (hrefuses _ _ _ granted)
  | resolveRecovery allowed =>
    cases hretired.symm.trans (resolveRecoveryRefusal_ok allowed).2
  | retire => exact ⟨rfl, rfl⟩
  | shutdown _ _ down => exact ⟨down.lifecycle.trans hretired, down.dirty.trans hclean⟩
  | _ => exact ⟨hretired, hclean⟩

end Refuses

/-! ### The effect of a revoking step -/

section Revoking

variable [DurableStore σ] {e : Impl σ}

lemma beginShutdown_shuttingDown {epoch} (h : epoch = e.epoch) :
    (e.beginShutdown epoch).2.shuttingDown = true := by
  unfold beginShutdown
  rw [if_neg (not_not.mpr h)]
  split
  · assumption
  · simp only [recordDecision_shuttingDown, takeDecisionId]
    exact appendEach_shuttingDown _ _

end Revoking

/-! ### Whole runs -/

section Run

variable [ReplayStore σ] {s : Sys σ} {a : Action} {frame : PublishFrame} {key : ObjectId}
  {as : List Action}

lemma withdrawn_after (hkeyed : LiveKeyed s)
    (hwithdrawn : s.engine.shuttingDown = true →
      All (fun _ object => object.Withdrawn) s.engine.objects)
    (ha : a.Runs)
    (hdown' : (s.step a).engine.shuttingDown = true) :
    All (fun _ object => object.Withdrawn) (s.step a).engine.objects := by
  intro key object' hobject'
  by_cases hdown : s.engine.shuttingDown = true
  · rcases (step_changes hkeyed ha).objects.origin hobject' with
      ⟨object, hobject, hchange⟩ | ⟨-, hnew⟩
    · exact hchange.withdrawn (refuses_of_shuttingDown hdown key)
        (hwithdrawn hdown key object hobject)
    · cases hnew with
      | register allowed => simp [registerObjectRefusal, hdown] at allowed
  -- the step is the shutdown
  rcases (step_evolved (s := s) a ha).frame.shuttingDown with hshuts | hsame
  · cases a <;> try cases hshuts
    rename_i epoch
    rcases beginShutdown_objects (e := s.engine) epoch with ⟨hsame, -⟩ | hshut
    · exact absurd ((congrArg shuttingDown hsame).symm.trans hdown') hdown
    · obtain ⟨object, sequence, hobject, rfl⟩ := hshut key object' hobject'
      exact object.shutdown_withdrawn sequence
  · exact absurd (hsame.symm.trans hdown') hdown

structure Quiet (s : Sys σ) : Prop extends Attended s where
  retired : ∀ (key : ObjectId) object, s.engine.objects[key]? = some object →
    object.lifecycle = .retired →
      object.Withdrawn ∧ object.hasUnpublishedDirty = false ∧
        ∀ frame ∈ s.frames, frame.pending.object = key →
          object.pendingPublication ≠ frame.pending.id
  down : s.engine.shuttingDown = true →
    All (fun _ object => object.Withdrawn) s.engine.objects

lemma Quiet.boot : Quiet (Sys.boot config store) := by
  refine { Attended.boot with
    retired := ?_
    down := fun h => absurd ((boot_shuttingDown config store).symm.trans h) nofun }
  have hobjects : All (fun _ object => object.Withdrawn ∧ object.hasUnpublishedDirty = false)
      (Sys.boot config store).engine.objects := by
    refine boot_objects fun image object previous epoch sequence => ?_
    have hrestored := image.restoreObject_restored object previous epoch sequence
    refine ⟨⟨hrestored.writer, ?_⟩, image.restoreObject_clean object previous epoch sequence⟩
    simp [ObjectRecord.Leased, hrestored.reads]
  intro key object hobject hretired
  obtain ⟨hw, hclean⟩ := hobjects key object hobject
  exact ⟨hw, hclean, fun _ h => absurd h not_mem_boot_frames⟩

lemma Quiet.unreserved_after (h : Quiet s) (ha : a.Runs) (hfresh : FreshIdentity s a) {object}
    (hobject : s.engine.objects[key]? = some object) (hretired : object.lifecycle = .retired)
    (hobject' : (s.step a).engine.objects[key]? = some object') (hframe : frame ∈ (s.step a).frames)
    (hkey : frame.pending.object = key) : object'.pendingPublication ≠ frame.pending.id := by
  subst hkey
  rcases step_publication ha hframe with ⟨frame', hmem, hpending, -⟩ | ⟨request, rfl, hnew⟩
  · intro hname
    rw [hpending] at hname hobject hobject'
    obtain ⟨before, hfound, hnamed, -⟩ := h.toWaiting.standing ha hfresh hmem hobject' hname
    cases hfound.symm.trans hobject
    exact (h.retired _ _ hobject hretired).2.2 frame' hmem rfl hnamed
  -- a retired object refuses the reservation
  obtain ⟨before, participant, policy, region, receipt, hreserves, rfl, -⟩ :=
    publishReserve_reserved hnew
  have hfound := hreserves.found
  exact absurd (h.keyed.live.objects _ _ hfound).symm
    (refuses_of_retired hobject hretired _ _ _ hreserves.granted)

lemma Quiet.retired_after (h : Quiet s) (ha : a.Runs)
    (hfresh : FreshIdentity s a) (hobject' : (s.step a).engine.objects[key]? = some object')
    (hretired' : object'.lifecycle = .retired) :
    object'.Withdrawn ∧ object'.hasUnpublishedDirty = false ∧
      ∀ frame ∈ (s.step a).frames, frame.pending.object = key →
        object'.pendingPublication ≠ frame.pending.id := by
  rcases (step_changes h.keyed ha).objects.origin hobject' with
    ⟨object, hobject, hchange⟩ | ⟨-, hnew⟩
  · rcases hchange.effect.retired hretired' with hretired | ⟨seq, rfl⟩
    · have hrefuses := refuses_of_retired hobject hretired
      obtain ⟨hw, hclean, -⟩ := h.retired key object hobject hretired
      exact ⟨hchange.withdrawn hrefuses hw,
        (hchange.effect.retired_stays hrefuses hretired hclean).2,
        fun frame => h.unreserved_after ha hfresh hobject hretired hobject'⟩
    · refine ⟨⟨rfl, ObjectRecord.not_leased_of_released object.reads rfl⟩, rfl, ?_⟩
      exact fun frame hframe _ =>
        ((h.toListed.step ha hfresh).named frame hframe).symm
  · cases hnew
    cases hretired'

theorem Quiet.step (h : Quiet s) (ha : a.Runs) (hfresh : FreshIdentity s a) : Quiet (s.step a) where
  toAttended := h.toAttended.step ha hfresh
  retired _ _ := h.retired_after ha hfresh
  down := withdrawn_after h.keyed h.down ha

theorem Quiet.revoked (h : Quiet s) (ha : a.Runs)
    (hfresh : FreshIdentity s a) (hreaches : FenceReaches s a) (hframe : frame ∈ s.frames)
    (hrevokes : Revokes s frame.pending a) : (s.step a).Lost frame.pending := by
  intro object' hobject' hname
  have hstanding := h.toWaiting.standing ha hfresh hframe hobject' hname
  cases hrevokes with
  | fence current known live =>
    obtain ⟨object, hobject, hbefore, hcases⟩ := hstanding
    rcases h.holders frame hframe object hobject hbefore with hheld | hgiven
    · -- the fence meets the writer, so the object names nothing afterwards
      have hboot := hreaches _ rfl _ known frame hframe rfl
      have hopen : object.publicationOpen = true := by
        simp [ObjectRecord.publicationOpen, h.waiting frame hframe object hobject hbefore]
      have hnil := fenceParticipant_aborts current known live hobject
        ⟨hheld.1, hheld.2.1.trans hboot.symm⟩ hopen hobject'
      exact absurd (hname.symm.trans hnil) (h.named frame hframe)
    · rcases hcases with ⟨-, -, hsame⟩ | ⟨hwriter, -, -⟩
      · rw [hsame, hgiven.2]
        exact frame.pending.ownershipGeneration.next_ne_self
      · exact absurd hgiven.1 hwriter
  | @release request object target releases =>
    obtain ⟨before, hobject, hbefore, -⟩ := hstanding
    obtain ⟨participant, granted⟩ := releases.granted
    have hfound := resolveLocked_found granted
    rw [target] at hfound
    cases hobject.symm.trans hfound
    rw [← target] at hobject'
    rw [releases.ownership_after hobject']
    rcases h.holders frame hframe object hobject hbefore with hheld | hgiven
    · rw [hheld.2.2]
      exact frame.pending.ownershipGeneration.next_ne_self
    · have hcaller := (resolveLocked_granted_iff.mp granted).2.1
      exact absurd (releases.writer.1.symm.trans hgiven.1) hcaller
  | retire retired =>
    cases retired.1.symm.trans hobject'
    exact absurd hname ((h.retired_after ha hfresh hobject' retired.2).2.2 frame hframe rfl)
  | shutdown current =>
    have hrunning := (h.toWaiting.step ha hfresh).running frame hframe ⟨object', hobject', hname⟩
    cases hrunning.symm.trans (beginShutdown_shuttingDown current)

omit [ReplayStore σ] in
lemma Sys.Lost.commitTarget (h : s.Lost frame.pending) : s.engine.commitTarget frame = none := by
  by_contra hsome
  obtain ⟨object, htarget⟩ := Option.ne_none_iff_exists'.mp hsome
  obtain ⟨-, hobject, hholds⟩ := commitTarget_some htarget
  exact h object hobject (holds_prior hholds).1 (holds_prior hholds).2.1

def Sys.version (s : Sys σ) (key : ObjectId) : Option VersionId :=
  (s.engine.objects[key]?).map (·.authoritativeVersion)

/-- Phase 3 of the call at a position does not commit: what it reports is not a commit, and it
changes no version and no replica. -/
structure Aborts (s : Sys σ) (index : Nat) (frame : PublishFrame) : Prop where
  receipt : ∀ receipt, (s.engine.publishCommit frame).1 = .ok receipt →
    receipt.state ≠ .committed
  version : ∀ key, (s.step (.publishCommit index)).version key = s.version key
  regions : (s.step (.publishCommit index)).engine.regions = s.engine.regions

lemma publishCommit_aborts (h : e.commitTarget frame = none) {receipt}
    (hreceipt : (e.publishCommit frame).1 = .ok receipt) : receipt.state = .aborted := by
  unfold publishCommit at hreceipt
  dsimp only at hreceipt
  split at hreceipt
  · cases hreceipt
  rename_i object hobject
  change e.objects[frame.pending.object]? = some object at hobject
  split at hreceipt
  · cases hreceipt
  rename_i hstatus
  have hok : (frame.durableStatus.getD .success).isOk = true := by simpa using hstatus
  have hholds : object.holds frame.pending = false := by
    simpa [commitTarget, hobject, hok] using h
  rw [hholds] at hreceipt
  simp only [Bool.not_false, if_true] at hreceipt
  cases hreceipt
  rfl

lemma aborts_of_lost (hkeyed : LiveKeyed s) {index} (hready : s.ready index = some frame)
    (hlost : s.Lost frame.pending) : Aborts s index frame := by
  have htarget := hlost.commitTarget
  have hends : Outcome s (.publishCommit index) _ _ :=
    step_outcome hkeyed.live.objects (.publishCommit index) nofun
  have hsame : (∀ key, (s.step (.publishCommit index)).version key = s.version key) ∧
      (s.step (.publishCommit index)).engine.regions = s.engine.regions := by
    change (∀ key, ((s.step _).engine.ledger.objects[key]?).map _ = _) ∧
      (s.step _).engine.ledger.regions = _
    generalize (s.step (.publishCommit index)).engine.ledger = l at hends ⊢
    cases hends with
    | idle => exact ⟨fun key => rfl, rfl⟩
    | @abort _ _ frame' object ready found lost =>
      refine ⟨fun key => ?_, rfl⟩
      change ((s.engine.objects.insert frame'.pending.object object.abortPending)[key]?).map _ = _
      rw [getElem?_insert, Sys.version]
      split
      · rename_i hkey
        cases Std.LawfulEqOrd.eq_of_compare hkey
        rw [found]
        rfl
      · rfl
    | commit ready target =>
      cases ready.symm.trans hready
      cases htarget.symm.trans target
    | prefer reads => simp at reads
  exact
    { receipt := fun receipt h => publishCommit_aborts htarget h ▸ nofun
      version := hsame.1
      regions := hsame.2 }

/-- The condition under which a revocation reaches the calls in flight: the identities of
publications have not come round, and a fence meets the incarnation that made the
reservations. -/
def RevocationReaches (s : Sys σ) (a : Action) : Prop := FreshIdentity s a ∧ FenceReaches s a

instance (s : Sys σ) (a : Action) : Decidable (RevocationReaches s a) :=
  inferInstanceAs (Decidable (_ ∧ _))

lemma Quiet.run (hlife : ∀ a ∈ as, a.restarts = false) : ∀ {s : Sys σ},
    Quiet s → RunOk Sys.step RevocationReaches s as → Quiet (s.run as) :=
  fun h hrun => run_invariant (fun _ _ hok h => h.step (Action.ne_restart hok.2) hok.1.1) h
    (hrun.and_mem hlife)

lemma Quiet.lost_run : ∀ {s : Sys σ}, Quiet s → s.Lost pending → (∀ a ∈ as, a.restarts = false) →
      RunOk Sys.step RevocationReaches s as →
      RunOk Sys.step (fun s _ => ∃ frame ∈ s.frames, frame.pending = pending) s as →
      (s.run as).Lost pending := by
  induction as with
  | nil => exact fun _ hlost _ _ _ => hlost
  | cons a as ih =>
    intro s h hlost hlife hok hflight
    have ha := Action.ne_restart (hlife a List.mem_cons_self)
    obtain ⟨frame, hframe, rfl⟩ := hflight.1
    exact ih (h.step ha hok.1.1) (h.lost_after ha hok.1.1 hframe hlost)
      (fun b hb => hlife b (List.mem_cons_of_mem a hb)) hok.2 hflight.2

lemma Quiet.retired_run : ∀ {s : Sys σ} {object : ObjectRecord},
    Quiet s → s.engine.objects[key]? = some object → object.lifecycle = .retired →
      (∀ a ∈ as, a.restarts = false) → RunOk Sys.step RevocationReaches s as →
      ∃ object', (s.run as).engine.objects[key]? = some object' ∧ object'.lifecycle = .retired ∧
        object'.authoritativeVersion = object.authoritativeVersion := by
  induction as with
  | nil => exact fun _ hobject hretired _ _ => ⟨_, hobject, hretired, rfl⟩
  | cons a as ih =>
    intro s object h hobject hretired hlife hok
    have ha := Action.ne_restart (hlife a List.mem_cons_self)
    obtain ⟨-, hclean, hunreserved⟩ := h.retired key object hobject hretired
    obtain ⟨object', hobject', hchange⟩ := (step_changes h.keyed ha).objects.forward hobject
    have hstays :=
      hchange.effect.retired_stays (refuses_of_retired hobject hretired) hretired hclean
    have hversion : object'.authoritativeVersion = object.authoritativeVersion := by
      refine hchange.effect.version.resolve_right ?_
      rintro ⟨index, frame, -, hready, hkey, htarget, -⟩
      exact hunreserved frame (List.mem_of_getElem? (ready_mem hready).1) hkey
        (holds_prior (commitTarget_some htarget).2.2).1
    obtain ⟨last, hlast, hretired', hsame⟩ := ih (h.step ha hok.1.1) hobject' hstays.1
      (fun b hb => hlife b (List.mem_cons_of_mem a hb)) hok.2
    exact ⟨last, hlast, hretired', hsame.trans hversion⟩

lemma shuttingDown_after (ha : a.Runs)
    (hdown : s.engine.shuttingDown = true) : (s.step a).engine.shuttingDown = true := by
  rcases (step_evolved (s := s) a ha).frame.shuttingDown with hshuts | hsame
  · cases a <;> try cases hshuts
    rename_i epoch
    change (s.engine.beginShutdown epoch).2.shuttingDown = true
    unfold beginShutdown
    simp only [hdown, if_true]
    split <;> exact hdown
  · exact hsame.trans hdown

lemma Quiet.version_after (h : Quiet s) (ha : a.Runs)
    (hdown : s.engine.shuttingDown = true) (key : ObjectId) :
    (s.step a).version key = s.version key := by
  have hchanges := (step_changes h.keyed ha).objects
  cases hobject : s.engine.objects[key]? with
  | some object =>
    obtain ⟨object', hobject', hchange⟩ := hchanges.forward hobject
    have hversion : object'.authoritativeVersion = object.authoritativeVersion := by
      refine hchange.effect.version.resolve_right ?_
      rintro ⟨index, frame, -, hready, hkey, htarget, -⟩
      obtain ⟨-, hfound, hholds⟩ := commitTarget_some htarget
      have hrunning := h.running frame (List.mem_of_getElem? (ready_mem hready).1)
        ⟨object, hfound, (holds_prior hholds).1⟩
      exact absurd (hrunning.symm.trans hdown) nofun
    change ((s.step a).engine.ledger.objects[key]?).map _ = _
    simp [Sys.version, hobject, hobject', hversion]
  | none =>
    cases hobject' : (s.step a).engine.objects[key]? with
    | none => simp [Sys.version, hobject, hobject']
    | some object' =>
      rcases hchanges.origin hobject' with ⟨object, hfound, -⟩ | ⟨-, hnew⟩
      · cases hobject.symm.trans hfound
      · cases hnew with
        | register allowed => simp [registerObjectRefusal, hdown] at allowed

lemma Quiet.down_run : ∀ {s : Sys σ}, Quiet s →
    s.engine.shuttingDown = true → (∀ a ∈ as, a.restarts = false) →
      RunOk Sys.step RevocationReaches s as →
      (s.run as).engine.shuttingDown = true ∧ ∀ key, (s.run as).version key = s.version key := by
  induction as with
  | nil => exact fun _ hdown _ _ => ⟨hdown, fun _ => rfl⟩
  | cons a as ih =>
    intro s h hdown hlife hok
    have ha := Action.ne_restart (hlife a List.mem_cons_self)
    obtain ⟨hlast, hversion⟩ := ih (h.step ha hok.1.1) (shuttingDown_after ha hdown)
      (fun b hb => hlife b (List.mem_cons_of_mem a hb)) hok.2
    exact ⟨hlast, fun key => (hversion key).trans (h.version_after ha hdown key)⟩

/-- From one state to a later one an object keeps its version and has no writer and no reader. -/
structure Settled (s s' : Sys σ) (key : ObjectId) : Prop where
  version : s'.version key = s.version key
  withdrawn : ∀ object, s'.engine.objects[key]? = some object → object.Withdrawn

lemma retireObject_retired {id generation epoch} (h : (e.retireObject id generation epoch).1.isOk) :
    ∃ object, (e.retireObject id generation epoch).2.objects[id]? = some object ∧
      object.lifecycle = .retired := by
  unfold retireObject at h ⊢
  dsimp only at h ⊢
  split at h
  · -- the object was retired before
    rename_i status hrefused
    unfold retireObjectRefusal at hrefused
    repeat' split at hrefused
    all_goals cases hrefused
    all_goals first
      | exact ⟨_, ‹_›, ‹_›⟩
      | cases h
  rename_i object hallowed
  split
  · exact ⟨object.retire e.tick.sequence, getElem?_insert_self, rfl⟩
  refine ⟨object.retire e.tick.sequence, ?_, rfl⟩
  change (List.foldl retireReplica _ object.replicas).ledger.objects[id]? = _
  rw [retireReplicas_ledger]
  exact getElem?_insert_self

/-- **Revocation beats a publication in flight**, in every run of one engine whose fences meet
the incarnation that made the reservations in flight. A publish call whose writer is fenced or
whose object is released or retired, or that meets a shutdown, does not commit; and after a
retirement or a shutdown the version of the object, or of every object, is final and nobody
writes or reads it. -/
theorem revocation_beats_publication (config : EngineConfig) (store : Option σ)
    (as bs : List Action) (a : Action) (hlife : ∀ b ∈ as ++ a :: bs, b.restarts = false)
    (hreaches : RunOk Sys.step RevocationReaches (Sys.boot config store) (as ++ a :: bs)) :
    let s := (Sys.boot config store).run as
    let t := (s.step a).run bs
    (∀ frame ∈ s.frames, Revokes s frame.pending a →
      RunOk Sys.step (fun s _ => ∃ frame' ∈ s.frames, frame'.pending = frame.pending)
        (s.step a) bs →
      ∀ index frame', t.ready index = some frame' → frame'.pending = frame.pending →
        Aborts t index frame') ∧
      (∀ id generation epoch, a = .retireObject id generation epoch →
        (s.engine.retireObject id generation epoch).1.isOk → Settled (s.step a) t id) ∧
      (∀ epoch, a = .beginShutdown epoch → (s.engine.beginShutdown epoch).1.isOk →
        ∀ id, Settled (s.step a) t id) := by
  intro s t
  have ha := Action.ne_restart (hlife a (by simp))
  have hbs : ∀ b ∈ bs, b.restarts = false := fun b hb => hlife b (by simp [hb])
  obtain ⟨hbefore, hstep, hafter⟩ := runOk_append.mp hreaches
  have hquiet := Quiet.boot.run (fun b hb => hlife b (by simp [hb])) hbefore
  have hquiet' := hquiet.step ha hstep.1
  have hlast := hquiet'.run hbs hafter
  refine ⟨?_, ?_, ?_⟩
  · intro frame hframe hrevokes hflight index frame' hready hpending
    have hlost := hquiet'.lost_run (hquiet.revoked ha hstep.1 hstep.2 hframe hrevokes) hbs hafter
      hflight
    exact aborts_of_lost hlast.keyed hready (hpending ▸ hlost)
  · rintro id generation epoch rfl hok
    obtain ⟨object, hobject, hretired⟩ := retireObject_retired hok
    change (s.step (.retireObject id generation epoch)).engine.objects[id]? = some object at hobject
    obtain ⟨object', hobject', hretired', hversion⟩ :=
      hquiet'.retired_run hobject hretired hbs hafter
    change t.engine.objects[id]? = some object' at hobject'
    refine ⟨by simp [Sys.version, hobject, hobject', hversion], fun last hlast' => ?_⟩
    cases hobject'.symm.trans hlast'
    exact (hlast.retired id object' hobject' hretired').1
  rintro epoch rfl hok id
  have hdown : (s.step (.beginShutdown epoch)).engine.shuttingDown = true := by
    refine beginShutdown_shuttingDown ?_
    by_contra hstale
    simp [Impl.beginShutdown, hstale, Status.isOk] at hok
  obtain ⟨hdown', hversion⟩ := hquiet'.down_run hdown hbs hafter
  exact ⟨hversion id, hlast.down hdown' id⟩

end Run

/-! ### A fence that does not reach the writer -/

lemma Duo.fenceWriter_revokes {s : Sys LogStore} (hwriter : pending.writer = ⟨1⟩)
    (hcurrent : (⟨1⟩ : CoordinatorEpoch) = s.engine.epoch)
    (hknown : (s.engine.participants[(⟨1⟩ : ParticipantId)]?).any fun record =>
      record.lifecycle ≠ .retired) : Revokes s pending Duo.fenceWriter := by
  obtain ⟨record, hrecord, hlive⟩ := (Option.any_eq_true _ _).mp hknown
  unfold Duo.fenceWriter
  rw [← hwriter] at hrecord ⊢
  exact .fence hcurrent hrecord (of_decide_eq_true hlive)

theorem revocation_beats_publication_fenced :
    let s := (Duo.start.run Duo.recorded).step Duo.fenceWriter
    ∃ frame, s.ready 0 = some frame ∧ Aborts s 0 frame := by
  intro s
  have hwriter : ((Duo.start.run Duo.recorded).ready 0).any fun frame =>
      frame.pending.writer = ⟨1⟩ := by decide +kernel
  obtain ⟨frame, hready, hframe⟩ := (Option.any_eq_true _ _).mp hwriter
  have haborts := (revocation_beats_publication {} (some ({} : LogStore)) Duo.recorded []
    Duo.fenceWriter (by decide) (by decide +kernel)).1
  exact ⟨frame, hready, haborts frame (List.mem_of_getElem? (ready_mem hready).1)
    (Duo.fenceWriter_revokes (of_decide_eq_true hframe) (by decide +kernel) (by decide +kernel))
    trivial 0 frame hready rfl⟩

/-- The writer is admitted under a new boot after phase 2 and is fenced then: the fence succeeds,
and phase 3 of its publication commits. -/
theorem readmitted_writer_commits :
    let s := Duo.start.run (Duo.recorded ++ [.registerParticipant [1] (Duo.bootOf 3) ⟨1⟩ []])
    (∃ frame, s.ready 0 = some frame ∧ Revokes s frame.pending Duo.fenceWriter) ∧
      (s.engine.fenceParticipant ⟨1⟩ ⟨1⟩ []).1.isOk ∧
      (s.step Duo.fenceWriter).version ⟨1⟩ = some .nil ∧
      ((s.step Duo.fenceWriter).step (.publishCommit 0)).version ⟨1⟩ = some ⟨1⟩ := by
  intro s
  have hwriter : (s.ready 0).any fun frame => frame.pending.writer = ⟨1⟩ := by decide +kernel
  obtain ⟨frame, hready, hframe⟩ := (Option.any_eq_true _ _).mp hwriter
  exact ⟨⟨frame, hready, Duo.fenceWriter_revokes (of_decide_eq_true hframe) (by decide +kernel)
    (by decide +kernel)⟩, by decide +kernel, by decide +kernel, by decide +kernel⟩

end CoherenceFabric
