import CoherenceFabric.Properties.VersionChain
import Mathlib.Data.List.InsertIdx

/-!
Publish calls that race for the same object.

An object has room for one reservation. A second call that reserves replaces the reservation of the
first one, and phase 3 of a call whose reservation is gone clears the one that is there. So of two
racing calls one commits only if the call that reserved last returns first; and then phase 3 of the
other call marks the committed publication as aborted.
-/

namespace CoherenceFabric

open FiniteMap Transition DurableStore Impl

variable {σ : Type} {frame : PublishFrame} {request : PublishRequest} {pending : PendingPublication}

/-! ### Two calls in flight -/

section Race

variable [ReplayStore σ]

def Leaves (id : ObjectId) (s : Sys σ) (a : Action) : Prop :=
  (s.step a).engine.objects[id]? = s.engine.objects[id]?

lemma run_leaves {id as} : ∀ {s : Sys σ},
    RunOk Sys.step (Leaves id) s as → (s.run as).engine.objects[id]? = s.engine.objects[id]? := by
  induction as with
  | nil => exact fun _ => rfl
  | cons a as ih => exact fun h => (ih h.2).trans h.1

/-- An interleaving of two publish calls: both reserve before one of them makes phase 3. -/
structure Schedule where
  early : PublishRequest
  between : List Action
  late : PublishRequest
  waiting : List Action
  first : Nat
  gap : List Action
  second : Nat

namespace Schedule

def reserved (r : Schedule) (s : Sys σ) : Sys σ :=
  ((s.step (.publishReserve r.early)).run r.between).step (.publishReserve r.late)

def returning (r : Schedule) (s : Sys σ) : Sys σ := (r.reserved s).run r.waiting

def remaining (r : Schedule) (s : Sys σ) : Sys σ :=
  ((r.returning s).step (.publishCommit r.first)).run r.gap

/-- The calls are on one object, no other step touches the object, and the store has taken both
pending records. The frames are given in the order of the reservations and of the returns. -/
structure Races (r : Schedule) (s : Sys σ) (earlier later first second : PublishFrame) :
    Prop where
  early_reserves : (s.engine.publishReserve r.early).1 = .reserved earlier
  late_reserves : (((s.step (.publishReserve r.early)).run r.between).engine.publishReserve
    r.late).1 = .reserved later
  same_object : later.pending.object = earlier.pending.object
  between : RunOk Sys.step (Leaves earlier.pending.object) (s.step (.publishReserve r.early))
    r.between
  waiting : RunOk Sys.step (Leaves earlier.pending.object) (r.reserved s) r.waiting
  gap : RunOk Sys.step (Leaves earlier.pending.object)
    ((r.returning s).step (.publishCommit r.first)) r.gap
  first_ready : (r.returning s).ready r.first = some first
  second_ready : (r.remaining s).ready r.second = some second
  calls : first.pending = earlier.pending ∧ second.pending = later.pending ∨
    first.pending = later.pending ∧ second.pending = earlier.pending
  recorded : (first.durableStatus.getD .success).isOk ∧ (second.durableStatus.getD .success).isOk

/-- One of the two calls commits, and the other one does not. -/
def OneCommits (r : Schedule) (s : Sys σ) (first second : PublishFrame) : Prop :=
  Xor ((r.returning s).committed (.publishCommit r.first) = some first.pending)
    ((r.remaining s).committed (.publishCommit r.second) = some second.pending)

end Schedule

variable {s : Sys σ} {index : Nat}

lemma reserve_object (hkeyed : LiveKeyed s)
    (h : (s.engine.publishReserve request).1 = .reserved frame) :
    ∃ object sequence, s.engine.objects[frame.pending.object]? = some object ∧
      (s.step (.publishReserve request)).engine.objects[frame.pending.object]? =
        some (object.reserve frame.pending sequence) ∧
      frame.pending.priorVersion = object.authoritativeVersion ∧
      frame.pending.ownershipGeneration = object.ownershipGeneration ∧
      frame.pending.version ≠ frame.pending.priorVersion := by
  obtain ⟨object, participant, policy, region, receipt, hreserves, rfl, hengine⟩ :=
    publishReserve_reserved h
  have hfound := hreserves.found
  have hid := hkeyed.live.objects _ _ hfound
  have hstep : (s.step (.publishReserve request)).engine = (s.engine.publishReserve request).2 :=
    reserve_engine request
  refine ⟨object, s.engine.sequence.next, (congrArg _ hid).trans hfound, ?_, rfl, rfl, ?_⟩
  · rw [hstep, hengine]
    refine (congrArg _ hid).trans ?_
    exact getElem?_insert_self
  change (if object.authoritativeVersion.defined then object.authoritativeVersion.next else ⟨1⟩) ≠
    object.authoritativeVersion
  split
  · exact StrongId.next_ne_self _
  rename_i hnil
  rintro heq
  exact hnil (heq ▸ rfl)

lemma commit_named {object} (hready : s.ready index = some frame)
    (hrecorded : (frame.durableStatus.getD .success).isOk)
    (hfound : s.engine.objects[frame.pending.object]? = some object)
    (hholds : object.holds frame.pending = true) :
    s.committed (.publishCommit index) = some frame.pending ∧
      ∃ object', (s.step (.publishCommit index)).engine.objects[frame.pending.object]? =
        some object' ∧ object'.authoritativeVersion = frame.pending.version := by
  have htarget : s.engine.commitTarget frame = some object :=
    (if_pos hrecorded).trans (Option.filter_eq_some_iff.mpr ⟨hfound, hholds⟩)
  refine ⟨by simp [Sys.committed, hready, htarget],
    (s.engine.settling frame).committedObject frame object, ?_, rfl⟩
  change (s.commit index).engine.objects[_]? = _
  rw [commit_engine hready, publishCommit_target htarget, commitPublication_objects]
  exact getElem?_insert_self

lemma commit_lost {object} (hready : s.ready index = some frame)
    (hlost : s.engine.commitTarget frame = none)
    (hfound : s.engine.objects[frame.pending.object]? = some object) :
    (s.step (.publishCommit index)).engine.objects =
      s.engine.objects.insert frame.pending.object object.abortPending := by
  change (s.commit index).engine.objects = _
  rw [commit_engine hready]
  have hcases := publishCommit_cases (e := s.engine) frame
  generalize (s.engine.publishCommit frame).2 = e at hcases ⊢
  cases hcases with
  | missing absent => cases absent.symm.trans hfound
  | failed found =>
    cases hfound.symm.trans found
    rw [recordDecision_toRecords]
    rfl
  | superseded found =>
    cases hfound.symm.trans found
    rw [recordDecision_toRecords, clearPending_toRecords]
    exact congrArg (fun r : Records => r.objects.insert _ _) (settling_toRecords frame)
  | committed target => cases hlost.symm.trans target

/-- What a reservation needs of the object apart from its name, for two calls at once. -/
structure Contended (object : ObjectRecord) (pending : PendingPublication) : Prop where
  ownership : object.ownershipGeneration = pending.ownershipGeneration
  prior : object.authoritativeVersion = pending.priorVersion
  next : pending.version ≠ pending.priorVersion

lemma Contended.holds_iff {object} (h : Contended object pending) :
    object.holds pending = true ↔ object.pendingPublication = pending.id := by
  simp [ObjectRecord.holds, h.ownership, h.prior]

namespace Schedule.Races

variable {r : Schedule} {earlier later first second : PublishFrame}

lemma named (h : r.Races s earlier later first second) (hkeyed : LiveKeyed s) :
    ∃ object, (r.returning s).engine.objects[earlier.pending.object]? = some object ∧
      object.pendingPublication = later.pending.id ∧ Contended object earlier.pending ∧
      Contended object later.pending := by
  obtain ⟨object, sequence, -, hreserved, hprior, hownership, hnext⟩ :=
    reserve_object hkeyed h.early_reserves
  have hkeyed' : LiveKeyed ((s.step (.publishReserve r.early)).run r.between) :=
    foldl_invariant (fun _ _ h => h.step) hkeyed.step
  obtain ⟨object', sequence', hfound, hreserved', hprior', hownership', hnext'⟩ :=
    reserve_object hkeyed' h.late_reserves
  rw [h.same_object] at hfound hreserved'
  cases hfound.symm.trans ((run_leaves h.between).trans hreserved)
  refine ⟨_, (run_leaves h.waiting).trans hreserved', rfl, ⟨?_, ?_, hnext⟩, ⟨?_, ?_, hnext'⟩⟩
  · exact hownership.symm
  · exact hprior.symm
  · exact hownership'.symm
  · exact hprior'.symm

/-- Of two racing calls exactly one commits if and only if the call that reserved last returns
first. (The undefined identity, which the counter of publications reaches when it comes round,
cannot be told from a cleared one.) -/
lemma oneCommits_iff (h : r.Races s earlier later first second) (hkeyed : LiveKeyed s) :
    r.OneCommits s first second ↔
      first.pending.id = later.pending.id ∨ later.pending.id = .nil := by
  obtain ⟨object, hobject, hnamed, hearlier, hlater⟩ := h.named hkeyed
  have hfirst : Contended object first.pending ∧
      first.pending.object = earlier.pending.object := by
    rcases h.calls with ⟨hone, -⟩ | ⟨hone, -⟩
    · exact ⟨hone ▸ hearlier, by rw [hone]⟩
    · exact ⟨hone ▸ hlater, by rw [hone, h.same_object]⟩
  have hsecond : Contended object second.pending ∧
      second.pending.object = earlier.pending.object := by
    rcases h.calls with ⟨-, htwo⟩ | ⟨-, htwo⟩
    · exact ⟨htwo ▸ hlater, by rw [htwo, h.same_object]⟩
    · exact ⟨htwo ▸ hearlier, by rw [htwo]⟩
  have hgap := run_leaves h.gap
  by_cases hlast : first.pending.id = later.pending.id
  · -- the object names the call: it commits, and the version has moved for the other one
    obtain ⟨hcommitted, object', hobject', hversion⟩ := commit_named h.first_ready h.recorded.1
      (by rw [hfirst.2]; exact hobject) (hfirst.1.holds_iff.mpr (hnamed.trans hlast.symm))
    rw [hfirst.2] at hobject'
    have hlost : (r.remaining s).engine.commitTarget second = none := by
      refine Option.eq_none_iff_forall_not_mem.mpr fun target htarget => ?_
      obtain ⟨-, hfound, hholds⟩ := commitTarget_some htarget
      rw [hsecond.2] at hfound
      cases hfound.symm.trans (hgap.trans hobject')
      refine hfirst.1.next (hversion.symm.trans ((holds_prior hholds).2.2.trans ?_))
      exact hsecond.1.prior.symm.trans hfirst.1.prior
    have hnone : (r.remaining s).committed (.publishCommit r.second) = none := by
      simp [Sys.committed, h.second_ready, hlost]
    simp [Schedule.OneCommits, Xor, hcommitted, hnone, hlast]
  -- the first call clears the reservation of the other one
  have hlost : (r.returning s).engine.commitTarget first = none := by
    refine Option.eq_none_iff_forall_not_mem.mpr fun target htarget => hlast ?_
    obtain ⟨-, hfound, hholds⟩ := commitTarget_some htarget
    rw [hfirst.2] at hfound
    cases hfound.symm.trans hobject
    exact (holds_prior hholds).1.symm.trans hnamed
  have hobject' : (r.remaining s).engine.objects[second.pending.object]? =
      some object.abortPending := by
    rw [hsecond.2]
    refine hgap.trans ?_
    rw [commit_lost h.first_ready hlost (by rw [hfirst.2]; exact hobject), ← hfirst.2]
    exact getElem?_insert_self
  have htwo : second.pending.id = later.pending.id := by
    rcases h.calls with ⟨-, htwo⟩ | ⟨hone, -⟩
    · rw [htwo]
    · exact absurd (congrArg _ hone) hlast
  have hnone : (r.returning s).committed (.publishCommit r.first) = none := by
    simp [Sys.committed, h.first_ready, hlost]
  have hcontended : Contended object.abortPending second.pending :=
    ⟨hsecond.1.ownership, hsecond.1.prior, hsecond.1.next⟩
  have hcommits : (r.remaining s).committed (.publishCommit r.second) = some second.pending ↔
      later.pending.id = .nil := by
    constructor
    · intro hcommitted
      obtain ⟨index, frame, target, hindex, hready, htarget, -⟩ := committed_some hcommitted
      cases hindex
      cases h.second_ready.symm.trans hready
      obtain ⟨-, hfound, hholds⟩ := commitTarget_some htarget
      cases hfound.symm.trans hobject'
      exact htwo.symm.trans (hcontended.holds_iff.mp hholds).symm
    · intro hnil
      exact (commit_named h.second_ready h.recorded.2 hobject'
        (hcontended.holds_iff.mpr (htwo.trans hnil).symm)).1
  simp [Schedule.OneCommits, Xor, hnone, hcommits, hlast]

end Schedule.Races

end Race

/-! ### A call that returns without a commit -/

section Loser

variable [ReplayStore σ]

def Sys.returns (s : Sys σ) : Action → Option PublishFrame
  | .publishCommit index => s.ready index
  | _ => none

/-- The image has no pending record of another publication of the object. -/
def DurableImage.Sole (image : DurableImage) (pending : PendingPublication) : Prop :=
  All (fun id other => other.object = pending.object → id = pending.id) image.pendingPublications

instance (image : DurableImage) (pending : PendingPublication) : Decidable (image.Sole pending) :=
  inferInstanceAs (Decidable (All _ _))

def DurableImage.KeepsOthers (image image' : DurableImage) (id : PublicationId) : Prop :=
  ∀ (other : PublicationId) pending, other ≠ id → image.pendingPublications[other]? = some pending →
    image'.pendingPublications[other]? = some pending

/-- The other publications are as they were: their reservations and pending records are in place,
and what has committed is not marked as aborted. -/
structure OthersKept (s s' : Sys σ) (id : PublicationId) : Prop where
  reservations {key : ObjectId} {object : ObjectRecord} : s.engine.objects[key]? = some object →
    object.pendingPublication ≠ .nil → object.pendingPublication ≠ id →
    ∃ object', s'.engine.objects[key]? = some object' ∧
      object'.pendingPublication = object.pendingPublication ∧
      object'.pendingVersion = object.pendingVersion ∧
      object'.pendingContent = object.pendingContent
  inFlight {other : PublicationId} {pending : PendingPublication} : other ≠ id →
    s.engine.inFlightPublications[other]? = some pending →
    s'.engine.inFlightPublications[other]? = some pending
  image : s.engine.durable.KeepsOthers s'.engine.durable id
  medium {store store' : σ} : s.medium = some store → s'.medium = some store' →
    (stored store).KeepsOthers (stored store') id
  committed {key : ObjectId} {object object' : ObjectRecord} :
    s.engine.objects[key]? = some object →
    object.publicationState = .committed → s'.engine.objects[key]? = some object' →
    object'.publicationState ≠ .aborted

/-- A call that returns without a commit leaves the other publications as they were. -/
def Tolerant (s : Sys σ) (a : Action) : Prop :=
  ∀ frame, s.returns a = some frame → s.committed a = none →
    OthersKept s (s.step a) frame.pending.id

/-- A call that returns without a commit finds no other publication of its object: no other
reservation, no committed publication since its own reservation, and no other pending record
where it clears its own. -/
def Unrivalled (s : Sys σ) (a : Action) : Prop :=
  ∀ frame ∈ s.returns a, s.committed a = none →
    ∀ object ∈ s.engine.objects[frame.pending.object]?,
      (object.pendingPublication = .nil ∨ object.pendingPublication = frame.pending.id) ∧
        object.publicationState ≠ .committed ∧
        (frame.durableRequired = true → (frame.durableStatus.getD .success).isOk = true →
          s.engine.durable.Sole frame.pending ∧
            ∀ store ∈ s.engine.store, (stored store).Sole frame.pending)

instance (s : Sys σ) (a : Action) : Decidable (Unrivalled s a) :=
  inferInstanceAs (Decidable (∀ frame ∈ s.returns a, _))

variable {s : Sys σ} {a : Action} {image' image : DurableImage} {e : Impl σ}

lemma DurableImage.KeepsOthers.trans {image'' id}
    (h : image.KeepsOthers image' id) (h' : image'.KeepsOthers image'' id) :
    image.KeepsOthers image'' id :=
  fun _ _ hother hfound => h' _ _ hother (h _ _ hother hfound)

lemma DurableImage.KeepsOthers.refl (image : DurableImage) (id : PublicationId) :
    image.KeepsOthers image id :=
  fun _ _ _ hfound => hfound

lemma applyJournalEntry_keepsOthers {entry}
    (hentry : entry.payload = .setPendingPublication pending ∨
      entry.payload = .clearPendingPublication pending.object ∧ image.Sole pending)
    (h : applyJournalEntry image entry = .ok image') : image.KeepsOthers image' pending.id := by
  intro other record hother hfound
  obtain ⟨position, rfl⟩ := applyJournalEntry_ok h
  rcases hentry with hset | ⟨hclear, hsole⟩
  · rw [hset]
    exact (getElem?_insert_ne hother.symm).trans hfound
  · rw [hclear]
    have hobject : record.object ≠ pending.object := fun heq => hother (hsole _ _ hfound heq)
    simp [JournalPayload.apply, Std.ExtTreeMap.getElem?_filter, hfound, hobject]

omit [ReplayStore σ] in
lemma settling_keepsOthers (e : Impl σ) (frame : PublishFrame) :
    e.durable.KeepsOthers (e.settling frame).durable frame.pending.id := by
  unfold settling applyPending applyDurable
  dsimp only
  split
  · split
    · rename_i happly
      exact applyJournalEntry_keepsOthers (.inl rfl) happly
    · exact .refl _ _
  · exact .refl _ _

lemma clearPending_keepsOthers (frame : PublishFrame)
    (hsole : frame.durableRequired = true → e.durable.Sole frame.pending ∧
      ∀ store ∈ e.store, (stored store).Sole frame.pending) :
    e.durable.KeepsOthers (e.clearPending frame frame.pending.object).durable frame.pending.id ∧
      ∀ store ∈ e.store, ∃ store' ∈ (e.clearPending frame frame.pending.object).store,
        (stored store).KeepsOthers (stored store') frame.pending.id := by
  unfold clearPending
  split
  · exact ⟨.refl _ _, fun store hstore => by simp_all⟩
  rename_i store hstore
  split
  · exact ⟨.refl _ _, fun store hstore => ⟨store, hstore, .refl _ _⟩⟩
  rename_i hdurable
  obtain ⟨himage, hstored⟩ := hsole (by simpa using hdurable)
  let entry : JournalEntry :=
    ⟨.clearPendingPublication frame.pending.object, e.nextJournalSequence⟩
  have hstores : ∀ store' ∈ e.store, (stored store').KeepsOthers
      (stored (append store entry).2) frame.pending.id := by
    intro store' hstore'
    cases hstore.symm.trans hstore'
    rcases ReplayStore.append_stored store entry with hsame | happly
    · rw [hsame]
      exact .refl _ _
    · exact applyJournalEntry_keepsOthers (.inr ⟨rfl, hstored store hstore⟩) happly
  dsimp only [applyDurable]
  split
  · rename_i happly
    exact ⟨applyJournalEntry_keepsOthers (.inr ⟨rfl, himage⟩) happly,
      fun store' hstore' => ⟨_, rfl, hstores store' hstore'⟩⟩
  · exact ⟨.refl _ _, fun store' hstore' => ⟨_, rfl, hstores store' hstore'⟩⟩

omit [ReplayStore σ] in
lemma settling_sole (h : e.durable.Sole frame.pending) :
    (e.settling frame).durable.Sole frame.pending := by
  unfold settling applyPending applyDurable
  dsimp only
  split
  · split
    · rename_i happly
      obtain ⟨position, himage⟩ := applyJournalEntry_ok happly
      rw [himage]
      exact All.insert h fun _ => rfl
    · exact h
  · exact h

lemma publishCommit_keepsOthers
    (hkeyed : ∀ object ∈ e.objects[frame.pending.object]?, object.id = frame.pending.object)
    (hlost : e.commitTarget frame = none)
    (hsole : ∀ object ∈ e.objects[frame.pending.object]?, frame.durableRequired = true →
      (frame.durableStatus.getD .success).isOk = true → e.durable.Sole frame.pending ∧
        ∀ store ∈ e.store, (stored store).Sole frame.pending) :
    e.durable.KeepsOthers (e.publishCommit frame).2.durable frame.pending.id ∧
      ∀ store ∈ e.store, ∃ store' ∈ (e.publishCommit frame).2.store,
        (stored store).KeepsOthers (stored store') frame.pending.id := by
  have hcases := publishCommit_cases (e := e) frame
  generalize (e.publishCommit frame).2 = e' at hcases ⊢
  cases hcases with
  | missing => exact ⟨.refl _ _, fun store hstore => ⟨store, hstore, .refl _ _⟩⟩
  | failed found =>
    rw [recordDecision_toPersistence]
    exact ⟨.refl _ _, fun store hstore => ⟨store, hstore, .refl _ _⟩⟩
  | @superseded object _ _ _ _ found lost recorded =>
    rw [recordDecision_toPersistence, hkeyed object found]
    obtain ⟨himage, hstored⟩ := clearPending_keepsOthers frame
      (e := (e.settling frame).setObject frame.pending.object object.abortPending)
      fun hdurable => ⟨settling_sole (hsole object found hdurable recorded).1, fun store hstore =>
        (hsole object found hdurable recorded).2 store ((settling_store frame).symm.trans hstore)⟩
    refine ⟨(settling_keepsOthers e frame).trans himage, fun store hstore =>
      hstored store ((settling_store frame).trans hstore)⟩
  | committed target => cases hlost.symm.trans target

lemma Unrivalled.tolerant (h : Unrivalled s a) (hkeyed : LiveKeyed s) : Tolerant s a := by
  intro frame hreturns hnone
  cases a
  case publishCommit index =>
    have hready : s.ready index = some frame := hreturns
    have hlost : s.engine.commitTarget frame = none := by
      simpa [Sys.committed, hready] using hnone
    have hengine : (s.step (.publishCommit index)).engine = (s.engine.publishCommit frame).2 :=
      commit_engine hready
    have hrival := h frame hreturns hnone
    obtain ⟨himage, hstores⟩ := publishCommit_keepsOthers (hkeyed.live.objects _) hlost
      fun object hobject => (hrival object hobject).2.2
    -- the objects other than the one of the call are left alone
    have hobjects : ∀ key, key ≠ frame.pending.object →
        (s.engine.publishCommit frame).2.objects[key]? = s.engine.objects[key]? := by
      intro key hkey
      rcases publishCommit_objects (e := s.engine) frame with
        hsame | ⟨object, -, habort | ⟨hcommits, -⟩⟩
      · rw [hsame]
      · rw [habort, getElem?_insert_ne hkey.symm]
      · cases hlost.symm.trans hcommits
    refine ⟨fun {key object} hobject hdefined hother => ?_, fun hother hfound => ?_, ?_, ?_,
      fun {key object object'} hobject hcommitted hobject' => ?_⟩
    · rw [hengine]
      by_cases hkey : key = frame.pending.object
      · subst hkey
        rcases (hrival object hobject).1 with hnil | hown
        · exact absurd hnil hdefined
        · exact absurd hown hother
      · exact ⟨object, (hobjects key hkey).trans hobject, rfl, rfl, rfl⟩
    · rw [hengine, publishCommit_inFlight]
      exact (getElem?_erase_ne hother.symm).trans hfound
    · rw [hengine]
      exact himage
    · intro store store' hstore hstore'
      rw [Sys.medium, step_shelf (by simp), hengine] at hstore'
      rw [Sys.medium] at hstore
      cases hattached : s.engine.store with
      | none =>
        have hdetached :=
          (step_evolved (s := s) (.publishCommit index) (by simp)).persist.store_isSome
        rw [hengine, hattached] at hdetached
        have hnone : (s.engine.publishCommit frame).2.store = none := by simpa using hdetached
        rw [hattached] at hstore
        rw [hnone] at hstore'
        cases hstore.symm.trans hstore'
        exact .refl _ _
      | some attached =>
        obtain ⟨after, hafter, hkeeps⟩ := hstores attached hattached
        rw [hattached] at hstore
        rw [show (s.engine.publishCommit frame).2.store = some after from hafter] at hstore'
        cases hstore
        cases hstore'
        exact hkeeps
    by_cases hkey : key = frame.pending.object
    · subst hkey
      exact absurd hcommitted (hrival object hobject).2.1
    · rw [hengine, hobjects key hkey] at hobject'
      cases hobject.symm.trans hobject'
      simp [hcommitted]
  all_goals cases hreturns

/-- **Racing publications**: from every reachable state exactly one of two calls that race for an
object commits if and only if the call that reserved last returns first; and in every run a call
that returns without a commit leaves the other publications as they were if it finds no other
publication of its object. -/
theorem racing_publications (config : EngineConfig) (store : Option σ) (before : List Action) :
    let s := (Sys.boot config store).run before
    (∀ (r : Schedule) (earlier later first second : PublishFrame),
      r.Races s earlier later first second →
        (r.OneCommits s first second ↔
          first.pending.id = later.pending.id ∨ later.pending.id = .nil)) ∧
      ∀ as, RunOk Sys.step Unrivalled s as → RunOk Sys.step Tolerant s as := by
  intro s
  have hkeyed : LiveKeyed s :=
    foldl_invariant (fun _ _ h => h.step) LiveKeyed.boot
  refine ⟨fun r earlier later first second h => h.oneCommits_iff hkeyed, fun as h => ?_⟩
  exact runOk_of_invariant (fun _ _ _ h => h.step) (fun _ _ h hkeyed => h.tolerant hkeyed) hkeyed h

end Loser

/-! ### The writer races with itself -/

section Twice

variable [ReplayStore σ] {s : Sys σ} {a : Action}

def Schedule.twice (request : PublishRequest) (first : Nat) : Schedule where
  early := request
  between := []
  late := request
  waiting := [.publishAppend 0, .publishAppend 1]
  first := first
  gap := []
  second := 0

lemma append_leaves (id : ObjectId) (s : Sys σ) (index : Nat) :
    Leaves id s (.publishAppend index) := by
  change (s.append index).engine.objects[id]? = _
  unfold Sys.append publishAppend
  repeat' split
  all_goals rfl

def PublishFrame.taken (frame : PublishFrame) : Bool := (frame.durableStatus.getD .success).isOk

lemma Schedule.twice_races {i earlier later} (hidle : s.frames = [])
    (hearly : (s.engine.publishReserve request).1 = .reserved earlier)
    (hlate : ((s.step (.publishReserve request)).engine.publishReserve request).1 =
      .reserved later) (hsame : later.pending.object = earlier.pending.object) (hi : i < 2)
    (hfirst : (((twice request i).returning s).ready i).any PublishFrame.taken = true)
    (hsecond : (((twice request i).remaining s).ready 0).any PublishFrame.taken = true) :
    ∃ first second, (twice request i).Races s earlier later first second ∧
      first.pending = if i = 0 then earlier.pending else later.pending := by
  have hframes : ((twice request i).returning s).frames.map (·.pending) =
      [earlier.pending, later.pending] := by
    change (((((twice request i).reserved s).append 0).append 1).frames.map (·.pending)) = _
    rw [append_frames, append_frames]
    change ((s.step (.publishReserve request)).step (.publishReserve request)).frames.map _ = _
    rw [reserve_frames hlate, reserve_frames hearly, hidle]
    rfl
  obtain ⟨first, hready, htaken⟩ := (Option.any_eq_true ..).mp hfirst
  obtain ⟨second, hready', htaken'⟩ := (Option.any_eq_true ..).mp hsecond
  have hpending := congrArg (·[i]?) hframes
  have hrest := congrArg (fun l => (l.eraseIdx i)[0]?) hframes
  simp only [List.getElem?_map, (ready_mem hready).1, Option.map_some] at hpending
  have hsecond' : (((twice request i).returning s).frames.eraseIdx i)[0]? = some second := by
    rw [← commit_frames hready]
    exact (ready_mem hready').1
  rw [List.eraseIdx_map, List.getElem?_map, hsecond', Option.map_some] at hrest
  refine ⟨first, second, ⟨hearly, hlate, hsame, trivial, ?_, trivial, hready, hready', ?_,
    htaken, htaken'⟩, ?_⟩
  · exact ⟨append_leaves .., append_leaves .., trivial⟩
  · obtain rfl | rfl : i = 0 ∨ i = 1 := by omega
    · exact .inl ⟨by simpa using hpending, by simpa using hrest⟩
    · exact .inr ⟨by simpa using hpending, by simpa using hrest⟩
  · obtain rfl | rfl : i = 0 ∨ i = 1 := by omega
    · simpa using hpending
    · simpa using hpending

lemma not_tolerant_reserved (key : ObjectId) (id other : PublicationId)
    (hreturns : (s.returns a).map (·.pending.id) = some id) (hnone : (s.committed a).isNone)
    (hbefore : (s.engine.objects[key]?).map (·.pendingPublication) = some other)
    (hafter : ((s.step a).engine.objects[key]?).map (·.pendingPublication) = some .nil)
    (hdefined : other ≠ .nil) (hother : other ≠ id) : ¬ Tolerant s a := by
  intro h
  obtain ⟨frame, hframe, rfl⟩ := Option.map_eq_some_iff.mp hreturns
  obtain ⟨object, hobject, rfl⟩ := Option.map_eq_some_iff.mp hbefore
  obtain ⟨object', hobject', hkept, -⟩ := (h frame hframe
    (Option.isNone_iff_eq_none.mp hnone)).reservations hobject hdefined hother
  rw [hobject', Option.map_some, hkept] at hafter
  exact hdefined (Option.some.inj hafter)

lemma not_tolerant_committed (key : ObjectId) (hreturns : (s.returns a).isSome)
    (hnone : (s.committed a).isNone)
    (hbefore : (s.engine.objects[key]?).map (·.publicationState) = some .committed)
    (hafter : ((s.step a).engine.objects[key]?).map (·.publicationState) = some .aborted) :
    ¬ Tolerant s a := by
  intro h
  obtain ⟨frame, hframe⟩ := Option.isSome_iff_exists.mp hreturns
  obtain ⟨object, hobject, hcommitted⟩ := Option.map_eq_some_iff.mp hbefore
  obtain ⟨object', hobject', haborted⟩ := Option.map_eq_some_iff.mp hafter
  exact (h frame hframe (Option.isNone_iff_eq_none.mp hnone)).committed hobject hcommitted hobject'
    haborted

end Twice

namespace Duo

abbrev writing : Sys LogStore := start.run owned

lemma race_reserved : ∃ earlier later,
    (writing.engine.publishReserve publishRequest).1 = .reserved earlier ∧
      ((writing.step (.publishReserve publishRequest)).engine.publishReserve publishRequest).1 =
        .reserved later ∧ (earlier.pending.object = ⟨1⟩ ∧ earlier.pending.id = ⟨1⟩) ∧
      (later.pending.object = ⟨1⟩ ∧ later.pending.id = ⟨2⟩) := by
  have hearly : (writing.engine.publishReserve publishRequest).1.frame?.any (fun frame =>
      frame.pending.object = ⟨1⟩ ∧ frame.pending.id = ⟨1⟩) = true := by decide +kernel
  have hlate : ((writing.step (.publishReserve publishRequest)).engine.publishReserve
      publishRequest).1.frame?.any (fun frame =>
        frame.pending.object = ⟨1⟩ ∧ frame.pending.id = ⟨2⟩) = true := by decide +kernel
  obtain ⟨earlier, hearlier, hfirst⟩ := (Option.any_eq_true ..).mp hearly
  obtain ⟨later, hlater, hsecond⟩ := (Option.any_eq_true ..).mp hlate
  exact ⟨earlier, later, Impl.Reservation.eq_reserved hearlier, Impl.Reservation.eq_reserved hlater,
    of_decide_eq_true hfirst, of_decide_eq_true hsecond⟩

/-- Two calls race, and the one that reserved last returns first; and a call whose writer is fenced
while it waits returns without a commit and without a rival. -/
theorem racing_publications_late_first :
    (∃ earlier later first second,
      (Schedule.twice publishRequest 1).Races writing earlier later first second ∧
        (Schedule.twice publishRequest 1).OneCommits writing first second) ∧
      let as : List Action := [.publishReserve publishRequest, .publishAppend 0,
        .fenceParticipant ⟨1⟩ ⟨1⟩ [], .publishCommit 0]
      writing.commits as = [] ∧ RunOk Sys.step Tolerant writing as := by
  have hidle : writing.frames.isEmpty = true := by decide +kernel
  have hfirst : (((Schedule.twice publishRequest 1).returning writing).ready 1).any
      PublishFrame.taken = true := by decide +kernel
  have hsecond : (((Schedule.twice publishRequest 1).remaining writing).ready 0).any
      PublishFrame.taken = true := by decide +kernel
  have hnone : (writing.commits [.publishReserve publishRequest, .publishAppend 0,
      .fenceParticipant ⟨1⟩ ⟨1⟩ [], .publishCommit 0]).isEmpty = true := by decide +kernel
  have hrun : RunOk Sys.step Unrivalled writing [.publishReserve publishRequest, .publishAppend 0,
      .fenceParticipant ⟨1⟩ ⟨1⟩ [], .publishCommit 0] := by decide +kernel
  obtain ⟨earlier, later, hearly, hlate, ⟨hobject, hid⟩, ⟨hobject', hid'⟩⟩ := race_reserved
  obtain ⟨hrace, htolerant⟩ := racing_publications {} (some ({} : LogStore)) owned
  obtain ⟨first, second, hraces, hpending⟩ := Schedule.twice_races (List.isEmpty_iff.mp hidle)
    hearly hlate (hobject'.trans hobject.symm) Nat.one_lt_two hfirst hsecond
  refine ⟨⟨earlier, later, first, second, hraces, (hrace _ _ _ _ _ hraces).mpr (.inl ?_)⟩,
    List.isEmpty_iff.mp hnone, htolerant _ hrun⟩
  rw [hpending]
  rfl

/-- The call that reserved first returns first: none of the two calls commits, and the reservation
of the other one is gone. If it returns last, the committed publication is marked as aborted. -/
theorem race_disturbs :
    (∃ earlier later first second,
      (Schedule.twice publishRequest 0).Races writing earlier later first second ∧
        ¬ (Schedule.twice publishRequest 0).OneCommits writing first second) ∧
      ¬ Tolerant ((Schedule.twice publishRequest 0).returning writing) (.publishCommit 0) ∧
      ¬ Tolerant ((Schedule.twice publishRequest 1).remaining writing) (.publishCommit 0) := by
  have hidle : writing.frames.isEmpty = true := by decide +kernel
  have hfirst : (((Schedule.twice publishRequest 0).returning writing).ready 0).any
      PublishFrame.taken = true := by decide +kernel
  have hsecond : (((Schedule.twice publishRequest 0).remaining writing).ready 0).any
      PublishFrame.taken = true := by decide +kernel
  have hnone : (((Schedule.twice publishRequest 0).returning writing).committed
      (.publishCommit 0)).isNone = true := by decide +kernel
  have hnone' : (((Schedule.twice publishRequest 0).remaining writing).committed
      (.publishCommit 0)).isNone = true := by decide +kernel
  obtain ⟨earlier, later, hearly, hlate, ⟨hobject, hid⟩, ⟨hobject', hid'⟩⟩ := race_reserved
  obtain ⟨first, second, hraces, hpending⟩ := Schedule.twice_races (List.isEmpty_iff.mp hidle)
    hearly hlate (hobject'.trans hobject.symm) Nat.two_pos hfirst hsecond
  refine ⟨⟨earlier, later, first, second, hraces, ?_⟩, ?_, ?_⟩
  · rintro (⟨hcommitted, -⟩ | ⟨hcommitted, -⟩)
    · cases (Option.isNone_iff_eq_none.mp hnone).symm.trans hcommitted
    · cases (Option.isNone_iff_eq_none.mp hnone').symm.trans hcommitted
  · exact not_tolerant_reserved ⟨1⟩ ⟨1⟩ ⟨2⟩ (by decide +kernel) hnone
      (by decide +kernel) (by decide +kernel) (by decide) (by decide)
  · exact not_tolerant_committed ⟨1⟩ (by decide +kernel) (by decide +kernel)
      (by decide +kernel) (by decide +kernel)

end Duo

end CoherenceFabric
