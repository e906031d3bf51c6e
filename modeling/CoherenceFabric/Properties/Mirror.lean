import CoherenceFabric.Effects.Unfailed
import CoherenceFabric.Invariants.InFlight
import CoherenceFabric.Properties.Recovery

/-!
The durable image mirrors the log.

An operation writes its entries to the store and applies them to the image in one step. Only a
publish call does the two apart: phase 2 writes the pending record, and phase 3 applies it. Between
the two the store is ahead of the image by the pending records of the calls in flight, and every
such call clears its record when it returns.
-/

namespace CoherenceFabric

open FiniteMap Relation Transition DurableStore Impl PublishFrame
open Persistence (applyAll stamp)

variable {σ : Type} {frame : PublishFrame} {frames : List PublishFrame} {image : DurableImage}

/-! ### The store ahead of the image -/

/-- Phase 2 has appended the pending record of the call. -/
def PublishFrame.awaited (frame : PublishFrame) : Bool :=
  frame.durableRequired && frame.durableStatus.isSome

def PublishFrame.mark (frame : PublishFrame) : Nat :=
  if frame.awaited then frame.position.toNat else 0

/-- The last of a position and the positions of appended records. -/
def latest (frames : List PublishFrame) (position : Nat) : Nat :=
  frames.foldr (fun frame position => max frame.mark position) position

lemma latest_max (frames : List PublishFrame) (position n : Nat) :
    latest frames (max position n) = max (latest frames position) n := by
  induction frames with
  | nil => rfl
  | cons frame rest ih =>
    change max frame.mark (latest rest (max position n)) =
      max (max frame.mark (latest rest position)) n
    rw [ih, max_assoc]

lemma latest_append (frames : List PublishFrame) (h : frame.awaited = false) (position : Nat) :
    latest (frames ++ [frame]) position = latest frames position := by
  simp [latest, mark, h]

lemma latest_idle (h : ∀ frame ∈ frames, frame.awaited = false) (position : Nat) :
    latest frames position = position := by
  induction frames with
  | nil => rfl
  | cons frame rest ih =>
    change max frame.mark (latest rest position) = position
    rw [ih fun frame hframe => h frame (List.mem_cons_of_mem _ hframe), mark,
      h frame List.mem_cons_self]
    simp

lemma latest_eraseIdx : ∀ {index : Nat} {frame : PublishFrame}
    (position : Nat), frames[index]? = some frame →
      latest (frames.eraseIdx index) (max position frame.mark) = latest frames position := by
  induction frames with
  | nil => exact fun _ h => by simp at h
  | cons first rest ih =>
    rintro (_ | index) frame position h
    · obtain rfl : first = frame := by simpa using h
      rw [List.eraseIdx_cons_zero, latest_max]
      exact max_comm _ _
    · rw [List.eraseIdx_cons_succ]
      change max first.mark (latest (rest.eraseIdx index) (max position frame.mark)) = _
      rw [ih position (by simpa using h)]
      rfl

lemma latest_set : ∀ {index : Nat} {frame : PublishFrame}
    (frame' : PublishFrame) (position : Nat), frames[index]? = some frame → frame.awaited = false →
      latest (frames.set index frame') position = max (latest frames position) frame'.mark := by
  induction frames with
  | nil => exact fun _ _ h => by simp at h
  | cons first rest ih =>
    rintro (_ | index) frame frame' position h hidle
    · obtain rfl : first = frame := by simpa using h
      rw [List.set_cons_zero]
      change max frame'.mark (latest rest position) = max (max first.mark (latest rest position)) _
      rw [mark.eq_def first, hidle]
      simp [max_comm]
    · rw [List.set_cons_succ]
      change max first.mark (latest (rest.set index frame') position) = _
      rw [ih frame' position (by simpa using h) hidle, ← max_assoc]
      rfl

/-- An image without its position and its pending publications. -/
def DurableImage.settled (image : DurableImage) : DurableImage :=
  { image with sequence := 0, pendingPublications := ∅ }

lemma JournalPayload.apply_settled {image'} (payload : JournalPayload)
    (h : image.settled = image'.settled) :
    (payload.apply image).settled = (payload.apply image').settled := by
  simp only [DurableImage.settled, DurableImage.mk.injEq] at h
  obtain ⟨-, hepoch, hdomains, hparticipants, hobjects, hregions, hinvalidations, hsyncs, hpolicies,
    -⟩ := h
  cases payload <;>
    simp [DurableImage.settled, JournalPayload.apply, hepoch, hdomains, hparticipants, hobjects,
      hregions, hinvalidations, hsyncs, hpolicies]

/-- What a store holds is ahead of an image by pending records: those of calls in flight. Besides
them both have at most the given ones. -/
structure DurableImage.Ahead (image : DurableImage) (pending : List PendingPublication)
    (frames : List PublishFrame) (held : DurableImage) : Prop where
  records : held.settled = image.settled
  shared : All (fun _ record => record ∈ pending) image.pendingPublications
  appended : All (fun _ record => record ∈ pending ∨
    ∃ frame ∈ frames, frame.awaited ∧ frame.pending = record) held.pendingPublications
  position : held.sequence.toNat = latest frames image.sequence.toNat

lemma JournalPayload.Steady.pending {payload : JournalPayload} (h : payload.Steady) {P} {image}
    (himage : All P image.pendingPublications) :
    All P (payload.apply image).pendingPublications := by
  cases payload with
  | setPendingPublication => exact h.elim
  | clearPendingPublication id => exact himage.filter _
  | _ => exact himage

namespace DurableImage.Ahead

variable {image held held' : DurableImage} {pending : List PendingPublication}
  {frames : List PublishFrame} {entry : JournalEntry} {entries : List JournalEntry} {id : ObjectId}

lemma apply (h : image.Ahead pending frames held) (hsteady : entry.payload.Steady)
    (happly : applyJournalEntry held entry = .ok held') :
    ∃ image', applyJournalEntry image entry = .ok image' ∧ image'.Ahead pending frames held' := by
  have hposition := applyJournalEntry_stamped happly
  have hsnapshot : entry.payload ≠ .snapshot := fun heq => by rw [heq] at hsteady; exact hsteady
  have hinvalid : entry.payload ≠ .invalid := fun heq => by rw [heq] at hsteady; exact hsteady
  obtain ⟨image', himage, hrecords, hlast⟩ :=
    @applyJournalEntry_position image entry hposition hsnapshot hinvalid
  obtain ⟨_, hheld, hrecords', hlast'⟩ :=
    @applyJournalEntry_position held entry hposition hsnapshot hinvalid
  cases hheld.symm.trans happly
  refine ⟨image', himage, ?_, ?_, ?_, ?_⟩
  · rw [hrecords, hrecords']
    exact entry.payload.apply_settled h.records
  · rw [hrecords]
    exact hsteady.pending h.shared
  · rw [hrecords']
    exact hsteady.pending h.appended
  · rw [hlast', hlast, h.position, latest_max]

lemma applyAll (hsteady : ∀ entry ∈ entries, entry.payload.Steady) :
    ∀ {image held : DurableImage}, image.Ahead pending frames held →
      Persistence.applyAll held entries = (.success, held') →
      (Persistence.applyAll image entries).2.Ahead pending frames held' := by
  induction entries with
  | nil =>
    intro image held h hheld
    obtain rfl : held = held' := congrArg Prod.snd hheld
    exact h
  | cons entry rest ih =>
    intro image held h hheld
    rw [Persistence.applyAll] at hheld ⊢
    split at hheld
    · rename_i status herror
      cases (Prod.mk.inj hheld).1 ▸ applyJournalEntry_error herror
    · rename_i next hnext
      obtain ⟨image', himage, hahead⟩ := h.apply (hsteady entry List.mem_cons_self) hnext
      rw [himage]
      exact ih (fun entry hentry => hsteady entry (List.mem_cons_of_mem _ hentry)) hahead hheld

lemma clear (h : image.Ahead pending frames held)
    (hclear : entry.payload = .clearPendingPublication id)
    (hpending : ∀ record ∈ pending, record.object = id)
    (happly : applyJournalEntry held entry = .ok held') :
    ∃ image', applyJournalEntry image entry = .ok image' ∧ image'.Ahead [] frames held' := by
  obtain ⟨image', himage, hahead⟩ := h.apply (hclear ▸ trivial) happly
  have hcleared : ∀ {before after : DurableImage}, applyJournalEntry before entry = .ok after →
      All (fun _ record => record ∉ pending) after.pendingPublications := by
    intro before after hafter key record hrecord hmem
    obtain ⟨position, rfl⟩ := applyJournalEntry_ok hafter
    simp only [hclear, JournalPayload.apply, Std.ExtTreeMap.getElem?_filter',
      Option.filter_eq_some_iff] at hrecord
    simp [hpending record hmem] at hrecord
  refine ⟨image', himage, hahead.records, fun key record hrecord => ?_,
    fun key record hrecord => ?_, hahead.position⟩
  · exact absurd (hahead.shared key record hrecord) (hcleared himage key record hrecord)
  · exact .inr ((hahead.appended key record hrecord).resolve_left
      (hcleared happly key record hrecord))

lemma applyAll_clear (hsteady : ∀ entry ∈ entries, entry.payload.Steady)
    (hpending : ∀ record ∈ pending, record.object = id)
    (hclear : ∃ entry ∈ entries, entry.payload = .clearPendingPublication id) :
    ∀ {image held : DurableImage}, image.Ahead pending frames held →
      Persistence.applyAll held entries = (.success, held') →
      (Persistence.applyAll image entries).2.Ahead [] frames held' := by
  induction entries with
  | nil => simp at hclear
  | cons entry rest ih =>
    intro image held h hheld
    have hrest : ∀ entry ∈ rest, entry.payload.Steady := fun entry hentry =>
      hsteady entry (List.mem_cons_of_mem _ hentry)
    rw [Persistence.applyAll] at hheld ⊢
    split at hheld
    · rename_i status herror
      cases (Prod.mk.inj hheld).1 ▸ applyJournalEntry_error herror
    rename_i next hnext
    by_cases hfirst : entry.payload = .clearPendingPublication id
    · obtain ⟨image', himage, hahead⟩ := h.clear hfirst hpending hnext
      rw [himage]
      exact hahead.applyAll hrest hheld
    obtain ⟨image', himage, hahead⟩ := h.apply (hsteady entry List.mem_cons_self) hnext
    rw [himage]
    refine ih hrest ?_ hahead hheld
    obtain ⟨clear, hmem, heq⟩ := hclear
    rcases List.mem_cons.mp hmem with rfl | hmem
    · exact absurd heq hfirst
    · exact ⟨clear, hmem, heq⟩

lemma weaken (h : image.Ahead [] frames held) : image.Ahead pending frames held where
  records := h.records
  shared := h.shared.mono fun _ _ hmem => absurd hmem List.not_mem_nil
  appended := h.appended.mono fun _ _ hmem => .inr (hmem.resolve_left List.not_mem_nil)
  position := h.position

lemma reserve (h : image.Ahead pending frames held) (hframe : frame.awaited = false) :
    image.Ahead pending (frames ++ [frame]) held where
  records := h.records
  shared := h.shared
  appended := h.appended.mono fun _ _ hrecord => hrecord.imp_right
    fun ⟨frame, hmem, hrest⟩ => ⟨frame, List.mem_append_left _ hmem, hrest⟩
  position := h.position.trans (latest_append frames hframe _).symm

section Phases

variable {index : Nat} {frame frame' : PublishFrame} {record : PendingPublication}

lemma awaiting (hfound : frames[index]? = some frame) (hidle : frame.awaited = false)
    (h : ∃ frame ∈ frames, frame.awaited ∧ frame.pending = record) :
    ∃ frame ∈ frames.set index frame', frame.awaited ∧ frame.pending = record := by
  obtain ⟨other, hmem, hawaited, hrecord⟩ := h
  obtain ⟨i, hother⟩ := List.mem_iff_getElem?.mp hmem
  refine ⟨other, List.mem_iff_getElem?.mpr ⟨i, ?_⟩, hawaited, hrecord⟩
  rw [List.getElem?_set_ne, hother]
  rintro rfl
  cases hfound.symm.trans hother
  rw [hidle] at hawaited
  cases hawaited

lemma skip (h : image.Ahead pending frames held) (hfound : frames[index]? = some frame)
    (hidle : frame.awaited = false) (hidle' : frame'.awaited = false) :
    image.Ahead pending (frames.set index frame') held where
  records := h.records
  shared := h.shared
  appended := h.appended.mono fun _ _ hrecord => hrecord.imp_right (awaiting hfound hidle)
  position := by
    rw [h.position, latest_set frame' _ hfound hidle, mark, hidle']
    simp

lemma append (h : image.Ahead pending frames held) (hfound : frames[index]? = some frame)
    (hidle : frame.awaited = false) (hawaited : frame'.awaited = true)
    (happly : applyJournalEntry held ⟨.setPendingPublication frame'.pending, frame'.position⟩ =
      .ok held') : image.Ahead pending (frames.set index frame') held' := by
  have hposition := applyJournalEntry_stamped happly
  obtain ⟨_, hheld, hrecords, hlast⟩ := @applyJournalEntry_position held
    ⟨.setPendingPublication frame'.pending, frame'.position⟩ hposition nofun nofun
  cases hheld.symm.trans happly
  refine ⟨?_, h.shared, ?_, ?_⟩
  · rw [hrecords, ← h.records]
    rfl
  · intro key record hrecord
    rw [hrecords] at hrecord
    rcases insert_cases hrecord with ⟨-, rfl⟩ | ⟨-, hrecord⟩
    · have hlt := (List.getElem?_eq_some_iff.mp hfound).1
      exact .inr ⟨frame', List.mem_set hlt _, hawaited, rfl⟩
    · exact (h.appended key record hrecord).imp_right (awaiting hfound hidle)
  · rw [hlast, h.position, latest_set frame' _ hfound hidle, mark, hawaited]
    simp

lemma left_or_own (hfound : frames[index]? = some frame)
    (h : ∃ frame ∈ frames, frame.awaited ∧ frame.pending = record) :
    (frame.awaited = true ∧ record = frame.pending) ∨
      ∃ frame ∈ frames.eraseIdx index, frame.awaited ∧ frame.pending = record := by
  obtain ⟨other, hmem, hawaited, rfl⟩ := h
  obtain ⟨i, hother⟩ := List.mem_iff_getElem?.mp hmem
  by_cases hi : i = index
  · subst hi
    cases hfound.symm.trans hother
    exact .inl ⟨hawaited, rfl⟩
  · exact .inr ⟨other, List.mem_eraseIdx_iff_getElem?.mpr ⟨i, hi, hother⟩, hawaited, rfl⟩

lemma leave (h : image.Ahead [] frames held) (hfound : frames[index]? = some frame)
    (hidle : frame.awaited = false) : image.Ahead [] (frames.eraseIdx index) held where
  records := h.records
  shared := h.shared
  appended := h.appended.mono fun _ _ hrecord => .inr <|
    (left_or_own hfound (hrecord.resolve_left List.not_mem_nil)).resolve_left
      fun hown => by simp [hidle] at hown
  position := by
    rw [h.position, ← latest_eraseIdx image.sequence.toNat hfound, mark, hidle]
    simp

lemma settle (h : image.Ahead [] frames held) (hfound : frames[index]? = some frame)
    (hawaited : frame.awaited = true) (hposition : frame.position ≠ 0) :
    ∃ image', applyJournalEntry image ⟨.setPendingPublication frame.pending, frame.position⟩ =
        .ok image' ∧ image'.Ahead [frame.pending] (frames.eraseIdx index) held := by
  obtain ⟨image', himage, hrecords, hlast⟩ := @applyJournalEntry_position image
    ⟨.setPendingPublication frame.pending, frame.position⟩ hposition nofun nofun
  refine ⟨image', himage, ?_, ?_, ?_, ?_⟩
  · rw [h.records, hrecords]
    rfl
  · intro key record hrecord
    rw [hrecords] at hrecord
    rcases insert_cases hrecord with ⟨-, rfl⟩ | ⟨-, hrecord⟩
    · exact List.mem_singleton_self _
    · exact absurd (h.shared key record hrecord) List.not_mem_nil
  · intro key record hrecord
    rcases left_or_own hfound ((h.appended key record hrecord).resolve_left List.not_mem_nil)
      with ⟨-, rfl⟩ | hother
    · exact .inl (List.mem_singleton_self _)
    · exact .inr hother
  · rw [h.position, hlast, ← latest_eraseIdx _ hfound, mark, hawaited]
    simp

end Phases

end DurableImage.Ahead

/-! ### The persistence state -/

section Persistence

variable [LawfulStore σ] {p p' : Persistence (Monitored σ)} {pending : List PendingPublication}
  {frames : List PublishFrame} {C : Prop}

/-- While no call of the store has failed, the store is ahead of the image. -/
def Persistence.Ahead (p : Persistence (Monitored σ)) (pending : List PendingPublication)
    (frames : List PublishFrame) : Prop :=
  ∀ m, p.store = some m → m.failed = false → p.durable.Ahead pending frames (stored m)

lemma LockMove.ahead {Q} (hmove : LockMove Q C p p')
    (hQ : ∀ payload, Q payload → payload.Steady) (hC : C → ∀ frame ∈ frames, frame.awaited = false)
    (h : p.Ahead pending frames) : p'.Ahead pending frames := by
  intro m hm hfailed
  cases hmove with
  | journal entries allowed store_before writes =>
    rename_i before write
    have hsteady : ∀ entry ∈ entries, entry.payload.Steady := fun entry hentry =>
      hQ _ (allowed entry hentry)
    rw [Persistence.journal_store] at hm
    cases hm
    -- a group after which nothing has failed was taken and applied as a whole
    obtain ⟨hbefore, hok, hstored⟩ := unfailed_write writes hfailed
    rw [Persistence.journal_durable hok]
    exact (h before store_before hbefore).applyAll hsteady hstored
  | compact allowed store_before store_after image =>
    rename_i before
    cases store_after.symm.trans hm
    obtain ⟨hbefore, hok⟩ := Monitored.compact_failed hfailed
    have hahead := h before store_before hbefore
    rw [image, LawfulStore.compact_success hok]
    exact ⟨rfl, hahead.shared, hahead.shared.mono fun _ _ hmem => .inl hmem,
      (latest_idle (hC allowed) _).symm⟩
  | flush store_before store_after image =>
    rename_i before
    cases store_after.symm.trans hm
    rw [image, ReplayStore.flush_stored]
    exact h before store_before (Monitored.flush_failed hfailed)
  | idle store_after image =>
    rw [image]
    exact h m (store_after ▸ hm) hfailed

lemma Lockstep.ahead {Q} (hmoves : Lockstep Q C p p')
    (hQ : ∀ payload, Q payload → payload.Steady) (hC : C → ∀ frame ∈ frames, frame.awaited = false)
    (h : p.Ahead pending frames) : p'.Ahead pending frames := by
  induction hmoves with
  | refl => exact h
  | tail _ hmove ih => exact hmove.ahead hQ hC ih

end Persistence

/-! ### The system -/

section System

variable [LawfulStore σ] {s : Sys (Monitored σ)} {a : Action} {m : Monitored σ}
  {payloads : List JournalPayload}

/-- Phase 2 of the call, if it was made, did not fail. -/
def PublishFrame.Recorded (frame : PublishFrame) : Prop :=
  ∀ status, frame.durableStatus = some status →
    status.isOk = true ∧ (frame.durableRequired = true → frame.position ≠ 0)

/-- The invariant of a run without a store failure. -/
structure Mirrored (s : Sys (Monitored σ)) : Prop where
  listed : Listed s
  keyed : LiveKeyed s
  present : ∀ frame ∈ s.frames, (s.engine.objects[frame.pending.object]?).isSome
  ahead : s.engine.toPersistence.Ahead [] s.frames
  recorded : ∀ m, s.engine.store = some m → m.failed = false → ∀ frame ∈ s.frames,
    frame.Recorded
  enabled : s.engine.config.enableDurability = true
  running : s.engine.shuttingDown = false

omit [LawfulStore σ] in
lemma Written.steady {payload} (h : Written s a payload)
    (ha : a.outOfStep = false) : payload.Steady := by
  cases h.journalled with
  | pending phase =>
    rcases phase with rfl | rfl <;> cases ha
  | _ => trivial

omit [LawfulStore σ] in
lemma Listed.idle_of_compacts (h : Listed s) (ha : a.outOfStep = false) (hc : Compacts s a) :
    s.frames = [] := by
  cases a with
  | acquireRead =>
    refine List.eq_nil_iff_forall_not_mem.mpr fun frame hframe => ?_
    have hregistered := h.registered frame hframe
    rw [Std.ExtTreeMap.isEmpty_iff.mp hc] at hregistered
    simp at hregistered
  | publishAppend => cases ha
  | publishCommit => cases ha
  | completeShutdown => cases ha
  | _ => exact hc.elim

omit [LawfulStore σ] in
lemma frames_inStep [StoreMedium σ] {s : Sys σ} (ha : a.outOfStep = false)
    (hrestart : a.Runs) : (s.step a).frames = s.frames ∨
      ∃ frame, (s.step a).frames = s.frames ++ [frame] ∧ frame.durableStatus = none := by
  cases a with
  | publishReserve request =>
    cases hresult : (s.engine.publishReserve request).1 with
    | done result =>
      left
      change (s.reserve request).frames = _
      unfold Sys.reserve
      simp only [hresult]
    | reserved frame =>
      refine .inr ⟨frame, reserve_frames hresult, ?_⟩
      obtain ⟨_, _, _, _, _, -, rfl, -⟩ := publishReserve_reserved hresult
      rfl
  | publishAppend => cases ha
  | publishCommit => cases ha
  | restart config => exact absurd rfl (hrestart config)
  | _ => exact .inl rfl

lemma Mirrored.present_after (h : Mirrored s) (ha : a.Runs) :
    ∀ frame ∈ (s.step a).frames, ((s.step a).engine.objects[frame.pending.object]?).isSome := by
  intro frame hframe
  have hkept : ∀ {id : ObjectId}, (s.engine.objects[id]?).isSome →
      ((s.step a).engine.objects[id]?).isSome := by
    intro id hid
    obtain ⟨object, hobject⟩ := Option.isSome_iff_exists.mp hid
    obtain ⟨object', hobject', -⟩ := (step_evolved a ha).records.objects.forward hobject
    rw [hobject']
    rfl
  rcases step_publication ha hframe with ⟨before, hbefore, hsame, -⟩ | ⟨request, rfl, hnew⟩
  · exact hsame ▸ hkept (h.present before hbefore)
  obtain ⟨object, _, _, _, _, hreserves, rfl, -⟩ := publishReserve_reserved hnew
  have hfound := hreserves.found
  have hid := h.keyed.live.objects _ _ hfound
  refine hkept ?_
  change (s.engine.objects[object.id]?).isSome
  rw [hid, hfound]
  rfl

lemma Mirrored.enabled_after (h : Mirrored s) (ha : a.Runs) :
    (s.step a).engine.config.enableDurability = true := by
  rw [(step_evolved a ha).frame.config]
  exact h.enabled

lemma Mirrored.running_after (h : Mirrored s) (ha : a.Runs)
    (hruns : a.shutsDown = false) : (s.step a).engine.shuttingDown = false := by
  rw [(step_evolved a ha).frame.shuttingDown.resolve_left (by simp [hruns])]
  exact h.running

lemma Mirrored.recorded_before (h : Mirrored s) (ha : a.Runs)
    (hm : (s.step a).engine.store = some m) (hfailed : m.failed = false) :
    ∀ frame ∈ s.frames, frame.Recorded := by
  obtain ⟨m', hm', hfailed'⟩ := (step_evolved a ha).persist.failed hm hfailed
  exact h.recorded m' hm' hfailed'

lemma Mirrored.inStep (h : Mirrored s) (ha : a.outOfStep = false)
    (hrestart : a.Runs) (hruns : a.shutsDown = false)
    (hfresh : FreshIdentity s a) : Mirrored (s.step a) := by
  have hlockstep := (step_evolved (s := s) a hrestart).lockstep.resolve_left (by simp [ha])
  have hahead := hlockstep.ahead (fun _ hwritten => hwritten.steady ha) (fun hcompacts => by
      simp [h.listed.idle_of_compacts ha hcompacts]) h.ahead
  refine ⟨h.listed.step hrestart hfresh, h.keyed.step, h.present_after hrestart, ?_, ?_,
    h.enabled_after hrestart, h.running_after hrestart hruns⟩
  · rcases frames_inStep (s := s) ha hrestart with hframes | ⟨frame, hframes, hnew⟩
    · rw [hframes]
      exact hahead
    · rw [hframes]
      exact fun m hm hfailed => (hahead m hm hfailed).reserve (by simp [awaited, hnew])
  intro m hm hfailed frame hframe
  have hrecorded := h.recorded_before hrestart hm hfailed
  rcases frames_inStep (s := s) ha hrestart with hframes | ⟨new, hframes, hnew⟩
  · rw [hframes] at hframe
    exact hrecorded frame hframe
  · rw [hframes, List.mem_append, List.mem_singleton] at hframe
    rcases hframe with hframe | rfl
    · exact hrecorded frame hframe
    · exact fun status hstatus => by cases hnew.symm.trans hstatus

omit [LawfulStore σ] in
lemma append_cases [StoreMedium σ] (s : Sys σ) (index : Nat) :
    s.append index = s ∨ ∃ frame, s.frames[index]? = some frame ∧ frame.durableStatus = none ∧
      s.append index =
        { s with
          engine := (s.engine.publishAppend frame).2
          frames := s.frames.set index (s.engine.publishAppend frame).1 } := by
  unfold Sys.append
  split
  · exact .inl rfl
  rename_i frame hframe
  split
  · exact .inl rfl
  · rename_i hidle
    exact .inr ⟨frame, hframe, by simpa using hidle, rfl⟩

lemma publishAppend_mirrors {e : Impl (Monitored σ)} {index}
    (hfound : frames[index]? = some frame) (hidle : frame.durableStatus = none)
    (hahead : e.toPersistence.Ahead [] frames) (hm : (e.publishAppend frame).2.store = some m)
    (hfailed : m.failed = false) :
    (e.publishAppend frame).2.durable.Ahead [] (frames.set index (e.publishAppend frame).1)
        (stored m) ∧ (e.publishAppend frame).1.Recorded := by
  have hwaits : frame.awaited = false := by simp [awaited, hidle]
  unfold publishAppend at hm ⊢
  split at hm
  · rename_i hstore
    cases hstore.symm.trans hm
  rename_i store hstore
  split at hm
  · rename_i hskip
    have hrequired : frame.durableRequired = false := by simpa using hskip
    rw [if_pos hskip]
    refine ⟨(hahead m hm hfailed).skip hfound hwaits ?_, fun status hstatus => ?_⟩
    · simp [awaited, hrequired]
    · cases hstatus
      exact ⟨rfl, fun h => by cases hrequired.symm.trans h⟩
  rename_i hneeded
  have hrequired : frame.durableRequired = true := by simpa using hneeded
  rw [if_neg hneeded]
  cases hm
  obtain ⟨hbefore, hok⟩ := Monitored.append_failed hfailed
  have happly := LawfulStore.append_success hok
  refine ⟨(hahead store hstore hbefore).append hfound hwaits ?_ happly, fun status hstatus => ?_⟩
  · simp [awaited, hrequired]
  · cases hstatus
    exact ⟨hok, fun _ => applyJournalEntry_stamped happly⟩

lemma Mirrored.append (h : Mirrored s) (index : Nat) :
    Mirrored (s.step (.publishAppend index)) := by
  refine ⟨h.listed.append index, h.keyed.step, h.present_after (by simp), ?_, ?_,
    h.enabled_after (by simp), h.running_after (by simp) rfl⟩
  · change (s.append index).engine.toPersistence.Ahead [] (s.append index).frames
    rcases append_cases s index with hsame | ⟨frame, hfound, hidle, heq⟩
    · rw [hsame]
      exact h.ahead
    · rw [heq]
      exact fun m hm hfailed => (publishAppend_mirrors hfound hidle h.ahead hm hfailed).1
  intro m hm hfailed frame' hframe'
  have hrecorded := h.recorded_before (by simp) hm hfailed
  change (s.append index).engine.store = some m at hm
  change frame' ∈ (s.append index).frames at hframe'
  rcases append_cases s index with hsame | ⟨frame, hfound, hidle, heq⟩
  · rw [hsame] at hframe'
    exact hrecorded frame' hframe'
  · rw [heq] at hframe' hm
    rcases List.mem_or_eq_of_mem_set hframe' with hframe' | rfl
    · exact hrecorded frame' hframe'
    · exact (publishAppend_mirrors hfound hidle h.ahead hm hfailed).2

/-! ### Phase 3 -/

section Commit

variable {e : Impl (Monitored σ)} {frames : List PublishFrame} {index : Nat} {frame : PublishFrame}
  {object : ObjectRecord} {pending : List PendingPublication}

lemma settling_ahead (hfound : frames[index]? = some frame) (hmade : frame.durableStatus.isSome)
    (hrecorded : ∀ m, e.store = some m → m.failed = false → frame.Recorded)
    (hahead : e.toPersistence.Ahead [] frames) :
    (e.settling frame).toPersistence.Ahead [frame.pending] (frames.eraseIdx index) := by
  intro m hm hfailed
  rw [settling_store] at hm
  have h := hahead m hm hfailed
  obtain ⟨status, hstatus⟩ := Option.isSome_iff_exists.mp hmade
  obtain ⟨-, hposition⟩ := hrecorded m hm hfailed status hstatus
  unfold settling
  dsimp only
  split
  · rename_i hrequired
    obtain ⟨image', himage, hafter⟩ :=
      h.settle hfound (by simp [awaited, hrequired, hmade]) (hposition hrequired)
    have himage' : applyJournalEntry
        (e.withInFlight (e.inFlightPublications.erase frame.pending.id)).durable
        ⟨.setPendingPublication frame.pending, frame.position⟩ = .ok image' := himage
    unfold applyPending applyDurable
    rw [himage']
    exact hafter
  · rename_i hskip
    exact (h.leave hfound (by simp [awaited, hskip])).weaken

lemma clearPending_ahead (hrequired : frame.durableRequired = true)
    (hahead : e.toPersistence.Ahead [frame.pending] frames) :
    (e.clearPending frame frame.pending.object).toPersistence.Ahead [] frames := by
  intro m hm hfailed
  unfold clearPending at hm ⊢
  split at hm
  · rename_i hstore
    cases hstore.symm.trans hm
  rename_i store hstore
  simp only [hrequired, Bool.not_true, Bool.false_eq_true, if_false] at hm ⊢
  have hstored : some (DurableStore.append store
      ⟨.clearPendingPublication frame.pending.object, e.nextJournalSequence⟩).2 = some m := by
    refine Eq.trans ?_ hm
    unfold applyDurable
    split <;> rfl
  cases hstored
  obtain ⟨hbefore, hok⟩ := Monitored.append_failed hfailed
  obtain ⟨image', himage, hafter⟩ := (hahead store hstore hbefore).clear rfl
    (by simp) (LawfulStore.append_success hok)
  unfold applyDurable
  simp only [withPersistence_toPersistence]
  rw [himage]
  exact hafter

lemma clearPending_skip (hskip : frame.durableRequired = false) (id : ObjectId) :
    e.clearPending frame id = e := by
  unfold clearPending
  split
  · rfl
  · rw [if_pos (by simp [hskip])]

lemma maybeCompactLocked_ahead
    (hidle : e.inFlightPublications.isEmpty → ∀ frame ∈ frames, frame.awaited = false)
    (hahead : e.toPersistence.Ahead pending frames) :
    e.maybeCompactLocked.2.toPersistence.Ahead pending frames := by
  have hlockstep : Lockstep (fun _ => False) (e.inFlightPublications.isEmpty)
      e.toPersistence e.maybeCompactLocked.2.toPersistence := by
    unfold maybeCompactLocked
    split
    · exact .refl
    rename_i store hstore
    split
    · exact .refl
    rename_i hcompacts
    have hempty : e.inFlightPublications.isEmpty = true := by
      simp only [Bool.or_eq_true, not_or] at hcompacts
      simpa using hcompacts.1.2
    exact .single (.compact hempty hstore rfl rfl)
  exact hlockstep.ahead (fun _ h => h.elim) hidle hahead

omit [LawfulStore σ] in
lemma commitEntries_steady {e : Impl σ} :
    ∀ payload ∈ e.commitEntries frame object, payload.Steady := by
  unfold commitEntries
  refine forall_mem_append (forall_mem_append
    (forall_mem_two trivial trivial) fun payload hmem => ?_) fun payload hmem => ?_
  · obtain ⟨region, -, rfl⟩ := List.mem_map.mp hmem
    trivial
  · obtain ⟨region, -, rfl⟩ := List.mem_map.mp hmem
    trivial

lemma appendMany_clears {p : Persistence (Monitored σ)} (id : ObjectId)
    (hsteady : ∀ payload ∈ payloads, payload.Steady)
    (hpending : ∀ record ∈ pending, record.object = id)
    (hclear : .clearPendingPublication id ∈ payloads) (hahead : p.Ahead pending frames) :
    (p.appendMany true payloads).2.Ahead [] frames := by
  intro m hm hfailed
  unfold Persistence.appendMany at hm ⊢
  split at hm
  · rename_i hstore
    cases hstore.symm.trans hm
  rename_i store hstore
  have hsome : ¬ (!true || payloads.isEmpty) = true := by
    simpa using List.ne_nil_of_mem hclear
  simp only [if_neg hsome] at hm ⊢
  rw [Persistence.journal_store] at hm
  cases hm
  obtain ⟨hbefore, hok⟩ := Monitored.appendBatch_failed hfailed
  rw [Persistence.journal_durable hok]
  refine (hahead store hstore hbefore).applyAll_clear
    (fun entry hentry => hsteady _ (payload_of_mem_stamp entry hentry)) hpending ?_
    (appendBatch_success hok)
  rw [← @payloads_stamp payloads p.nextJournalSequence] at hclear
  exact List.mem_map.mp hclear

lemma commitPublication_ahead (henabled : e.config.enableDurability = true)
    (hid : frame.pending.object = object.id)
    (hidle : e.inFlightPublications.isEmpty → ∀ frame ∈ frames, frame.awaited = false)
    (hahead : e.toPersistence.Ahead [frame.pending] frames) :
    (e.commitPublication frame object).2.toPersistence.Ahead [] frames := by
  have hinFlight := commitPublication_inFlight (e := e) frame object
  obtain ⟨context, rationale, heq⟩ := commitPublication_engine (e := e) frame object
  rw [heq, maybeCompactLocked_inFlight] at hinFlight
  rw [heq]
  refine maybeCompactLocked_ahead (fun hempty => hidle (hinFlight ▸ hempty)) ?_
  rw [recordDecision_toPersistence]
  -- the marking of the other replicas is written and applied replica by replica
  obtain ⟨regions, p, hmarked, hlockstep⟩ := markRegionsStaleLocked_eq
    (e := e.committing frame object) object.id frame.pending.version frame.region
  have hcommitting : (e.committing frame object).toPersistence = e.toPersistence ∧
      (e.committing frame object).config = e.config := by
    unfold committing publishRegion
    split <;> exact ⟨rfl, rfl⟩
  have hmarkedAhead : (e.marked frame object).toPersistence.Ahead [frame.pending] frames := by
    unfold marked
    rw [hmarked]
    rw [hcommitting.1] at hlockstep
    exact hlockstep.ahead (fun _ ⟨_, hregion⟩ => hregion ▸ trivial) nofun hahead
  have hconfig : (e.marked frame object).config.enableDurability = true := by
    unfold marked
    rw [hmarked]
    exact hcommitting.2 ▸ henabled
  unfold appendManyLocked
  rw [hconfig]
  refine appendMany_clears frame.pending.object commitEntries_steady (by simp) ?_ hmarkedAhead
  rw [hid]
  unfold markers commitEntries
  simp [committedObject, ObjectRecord.commit]

lemma publishCommit_ahead (hfound : frames[index]? = some frame)
    (hmade : frame.durableStatus.isSome) (hpresent : (e.objects[frame.pending.object]?).isSome)
    (hkeyed : ∀ object, e.objects[frame.pending.object]? = some object →
      frame.pending.object = object.id)
    (hidle : (e.inFlightPublications.erase frame.pending.id).isEmpty →
      ∀ frame ∈ frames.eraseIdx index, frame.awaited = false)
    (henabled : e.config.enableDurability = true)
    (hrecorded : ∀ m, e.store = some m → m.failed = false → frame.Recorded)
    (hahead : e.toPersistence.Ahead [] frames) :
    (e.publishCommit frame).2.toPersistence.Ahead [] (frames.eraseIdx index) := by
  have hsettled := settling_ahead hfound hmade hrecorded hahead
  have hcases := publishCommit_cases (e := e) frame
  generalize (e.publishCommit frame).2 = e' at hcases ⊢
  cases hcases with
  | missing absent =>
    rw [absent] at hpresent
    cases hpresent
  | failed found refused =>
    -- a record that was not taken is a failure of the store
    rw [recordDecision_toPersistence]
    intro m hm hfailed
    obtain ⟨status, hstatus⟩ := Option.isSome_iff_exists.mp hmade
    rw [hstatus, Option.getD_some, (hrecorded m hm hfailed status hstatus).1] at refused
    cases refused
  | superseded found =>
    rw [recordDecision_toPersistence, ← hkeyed _ found]
    cases hrequired : frame.durableRequired with
    | true => exact clearPending_ahead hrequired hsettled
    | false =>
      rw [clearPending_skip hrequired]
      unfold settling
      simp only [hrequired, Bool.false_eq_true, if_false]
      exact fun m hm hfailed => (hahead m hm hfailed).leave hfound
        (by simp [awaited, hrequired])
  | committed target =>
    refine commitPublication_ahead ?_ (hkeyed _ (commitTarget_some target).2.1) ?_ hsettled
    · rw [settling_config]
      exact henabled
    · rw [settling_inFlight]
      exact hidle

end Commit

lemma Mirrored.commit (h : Mirrored s) (index : Nat) :
    Mirrored (s.step (.publishCommit index)) := by
  have hlisted := h.listed.commit index
  refine ⟨hlisted, h.keyed.step, h.present_after (by simp), ?_, ?_, h.enabled_after (by simp),
    h.running_after (by simp) rfl⟩
  · cases hready : s.ready index with
    | none =>
      change (s.commit index).engine.toPersistence.Ahead [] (s.commit index).frames
      rw [commit_idle hready]
      exact h.ahead
    | some frame =>
      obtain ⟨hfound, hmade⟩ := ready_mem hready
      have hmem := List.mem_of_getElem? hfound
      change Listed (s.commit index) at hlisted
      change (s.commit index).engine.toPersistence.Ahead [] (s.commit index).frames
      rw [commit_eq hready] at hlisted ⊢
      refine publishCommit_ahead hfound hmade (h.present frame hmem)
        (fun object hobject => (h.keyed.live.objects _ _ hobject).symm) (fun hempty => ?_) h.enabled
        (fun m hm hfailed => h.recorded m hm hfailed frame hmem) h.ahead
      -- the engine lists no other call
      intro other hother
      have hregistered := hlisted.registered other hother
      rw [publishCommit_inFlight, Std.ExtTreeMap.isEmpty_iff.mp hempty] at hregistered
      simp at hregistered
  intro m hm hfailed frame hframe
  have hrecorded := h.recorded_before (by simp) hm hfailed
  refine hrecorded frame ?_
  change frame ∈ (s.commit index).frames at hframe
  cases hready : s.ready index with
  | none => rwa [commit_idle hready] at hframe
  | some ready =>
    rw [commit_frames hready] at hframe
    exact List.mem_of_mem_eraseIdx hframe

lemma Mirrored.shutdown (h : Mirrored s) (epoch : CoordinatorEpoch) :
    Mirrored (s.step (.completeShutdown epoch)) := by
  have hsame : s.step (.completeShutdown epoch) = s := by
    have hrefused : (s.engine.completeShutdown epoch).2 = s.engine := by
      unfold completeShutdown
      rw [h.running]
      split <;> rfl
    change { s with engine := (s.engine.completeShutdown epoch).2 } = s
    rw [hrefused]
  rw [hsame]
  exact h

/-! ### Recovery -/

lemma DurableImage.after_uncleared (hsteady : ∀ payload ∈ payloads, payload.Steady) :
    ∀ {image : DurableImage}, All (fun id record => image.pendingPublications[id]? = some record ∧
        .clearPendingPublication record.object ∉ payloads)
        (image.after payloads).pendingPublications := by
  induction payloads with
  | nil => exact fun _ _ hrecord => ⟨hrecord, List.not_mem_nil⟩
  | cons payload rest ih =>
    intro image id record hrecord
    obtain ⟨hfound, hrest⟩ :=
      ih (fun payload hmem => hsteady payload (List.mem_cons_of_mem _ hmem)) id record hrecord
    have hfirst := hsteady payload List.mem_cons_self
    have hbefore : image.pendingPublications[id]? = some record ∧
        payload ≠ .clearPendingPublication record.object := by
      cases payload with
      | setPendingPublication => exact hfirst.elim
      | clearPendingPublication object =>
        simp only [JournalPayload.apply, Std.ExtTreeMap.getElem?_filter',
          Option.filter_eq_some_iff] at hfound
        refine ⟨hfound.1, fun heq => ?_⟩
        cases heq
        simp at hfound
      | _ => exact ⟨hfound, by simp⟩
    exact ⟨hbefore.1, fun hmem => (List.mem_cons.mp hmem).elim (fun h => hbefore.2 h.symm) hrest⟩

section Boot

variable {e : Impl (Monitored σ)} {image : DurableImage}

omit [LawfulStore σ] in
lemma recoveryEntries_steady {e : Impl σ} :
    ∀ payload ∈ e.recoveryEntries image, payload.Steady := by
  intro payload hmem
  rcases mem_recoveryEntries hmem with hwritten | ⟨object, rfl⟩
  · cases hwritten <;> trivial
  · trivial

lemma writeBack_ahead (henabled : e.config.enableDurability = true)
    (hidle : e.inFlightPublications.isEmpty)
    (himage : e.durable.pendingPublications = image.pendingPublications) :
    (e.writeBack image).2.toPersistence.Ahead [] [] := by
  intro m hm hfailed
  obtain ⟨e', heq, hstore', hdurable', hconfig', hinFlight'⟩ : ∃ e' : Impl (Monitored σ),
      (e.writeBack image).2 = e'.compactLocked ∧
      e'.store = (e.appendManyLocked (e.recoveryEntries image)).2.store ∧
      e'.durable = (e.appendManyLocked (e.recoveryEntries image)).2.durable ∧
      e'.config = e.config ∧ e'.inFlightPublications = e.inFlightPublications := by
    unfold writeBack
    dsimp only
    split <;> exact ⟨_, rfl, rfl, rfl, rfl, rfl⟩
  rw [heq] at hm ⊢
  unfold compactLocked at hm ⊢
  rw [hconfig', henabled, hinFlight', hidle] at hm ⊢
  split at hm
  · rename_i hnone
    cases hnone.symm.trans hm
  rename_i store' hbefore'
  cases hm
  obtain ⟨hstored', hcompacted⟩ := Monitored.compact_failed hfailed
  rw [hstore'] at hbefore'
  unfold appendManyLocked at hbefore' hdurable'
  rw [henabled] at hbefore' hdurable'
  obtain ⟨-, last, hafter⟩ := (appendMany_wrote recoveryEntries_steady).1 _ hbefore' hstored'
  -- every pending record of the image names an object that the write-back clears
  have hnone : All (fun _ record => record ∈ ([] : List PendingPublication))
      e'.durable.pendingPublications := by
    intro id record hrecord
    rw [hdurable', withPersistence_toPersistence, hafter] at hrecord
    obtain ⟨hfound, huncleared⟩ :=
      DurableImage.after_uncleared recoveryEntries_steady id record hrecord
    rw [himage] at hfound
    refine absurd ?_ huncleared
    unfold recoveryEntries
    refine List.mem_append_right _ (List.mem_map.mpr ⟨(id, record), ?_, rfl⟩)
    exact mem_toList_iff_getElem?_eq_some.mpr hfound
  rw [LawfulStore.compact_success hcompacted]
  exact ⟨rfl, hnone, hnone.mono fun _ _ hmem => .inl hmem, rfl⟩

lemma Mirrored.boot {config} (henabled : config.enableDurability = true)
    (store : Option (Monitored σ)) : Mirrored (Sys.boot config store) := by
  have hahead : (Sys.boot config store).engine.toPersistence.Ahead [] [] ∧
      (Sys.boot config store).engine.config.enableDurability = true := by
    have hboot := boot_cases config store
    generalize Sys.boot config store = s at hboot ⊢
    cases hboot with
    | detached | refused => exact ⟨nofun, henabled⟩
    | recovered opened =>
      rename_i store load image
      refine ⟨?_, ?_⟩
      · unfold recoverFrom
        rw [recordDecision_toPersistence]
        have hahead := writeBack_ahead
          (e := (attached config (openStore store).2).restoreImage image) henabled rfl rfl
        exact fun m hm hfailed => hahead m hm hfailed
      · rw [(recoverFrom_frame ..).2.2.1]
        exact henabled
  exact
    { listed := Listed.boot
      keyed := LiveKeyed.boot
      present := fun frame h => absurd h not_mem_boot_frames
      ahead := by rw [boot_frames]; exact hahead.1
      recorded := fun _ _ _ frame h => absurd h not_mem_boot_frames
      enabled := hahead.2
      running := boot_shuttingDown config store }

end Boot

def Action.enables : Action → Bool
  | .restart config => config.enableDurability
  | _ => true

/-- A step before a shutdown, with durability enabled, in which no publication takes the identity
of a call in flight. -/
def Mirrors (s : Sys σ) (a : Action) : Prop :=
  FreshIdentity s a ∧ a.shutsDown = false ∧ a.enables = true

instance (s : Sys σ) (a : Action) : Decidable (Mirrors s a) :=
  inferInstanceAs (Decidable (_ ∧ _))

theorem Mirrored.step (h : Mirrored s) (ha : Mirrors s a) : Mirrored (s.step a) := by
  obtain ⟨hfresh, hruns, henables⟩ := ha
  rcases a.restart_or with ⟨config, rfl⟩ | hrestart
  · exact Mirrored.boot henables _
  cases hstep : a.outOfStep with
  | false => exact h.inStep hstep hrestart hruns hfresh
  | true =>
    cases a with
    | publishAppend index => exact h.append index
    | publishCommit index => exact h.commit index
    | completeShutdown epoch => exact h.shutdown epoch
    | _ => cases hstep

end System

/-! ### The image is what the log replays to -/

lemma eq_empty_of_all {tag} {m : Map (StrongId tag) PendingPublication}
    (h : All (fun _ record => record ∈ ([] : List PendingPublication)) m) : m = ∅ := by
  refine Std.ExtTreeMap.ext_getElem? fun key => ?_
  cases hget : m[key]? with
  | none => simp
  | some record => exact absurd (h key record hget) List.not_mem_nil

lemma DurableImage.Ahead.eq {held : DurableImage} (h : image.Ahead [] [] held) : image = held := by
  have hpending := eq_empty_of_all <|
    h.appended.mono fun _ _ hmem => hmem.resolve_right fun ⟨_, hframe, _⟩ =>
      List.not_mem_nil hframe
  have hshared := eq_empty_of_all h.shared
  have hposition := UInt64.toNat_inj.mp h.position.symm
  have hrecords := h.records
  simp only [DurableImage.settled, DurableImage.mk.injEq] at hrecords
  obtain ⟨-, hepoch, hdomains, hparticipants, hobjects, hregions, hinvalidations, hsyncs, hpolicies,
    -⟩ := hrecords
  cases image
  cases held
  simp_all

/-- Without a store failure and before a shutdown, the durable image is what the store replays to,
in every state of a run in which no publish call is in flight. -/
theorem image_mirrors_log {σ : Type} [LawfulStore σ] (config : EngineConfig) (store : σ)
    (as : List Action) (henabled : config.enableDurability = true)
    (hrun : RunOk Sys.step Mirrors
      (Sys.boot config (some ({ inner := store } : Monitored σ))) as) :
    let s := (Sys.boot config (some ({ inner := store } : Monitored σ))).run as
    ∀ m, s.engine.store = some m → m.failed = false → s.frames = [] →
      s.engine.durable = stored m := by
  intro s m hm hfailed hidle
  have hmirrored : Mirrored s :=
    run_invariant (fun s a ha (h : Mirrored s) => h.step ha) (Mirrored.boot henabled _) hrun
  have hahead := hmirrored.ahead
  rw [hidle] at hahead
  exact (hahead m hm hfailed).eq

namespace Duo

/-- The writer is fenced while its pending record is written, so that its clear reaches the store
before the pending record reaches the image. -/
def overtaken : List Action := recorded ++ [.fenceParticipant ⟨1⟩ ⟨1⟩ [], .publishCommit 0]

/-- The log of a run with a superseded publication replays to the durable image. -/
theorem image_mirrors_log_overtaken :
    let s := (Sys.boot {} (some ({ inner := ⟨{}, [], rfl⟩ } : Monitored EntryStore))).run overtaken
    ∃ m, s.engine.store = some m ∧ m.failed = false ∧ m.inner.entries.length = 17 ∧
      s.engine.durable = (applyAll m.inner.snapshot m.inner.entries).2 := by
  intro s
  have hstore : (s.engine.store.map fun m => (m.failed, m.inner.entries.length)) =
      some (false, 17) := by decide +kernel
  obtain ⟨m, hm, hfacts⟩ := Option.map_eq_some_iff.mp hstore
  obtain ⟨hfailed, hlength⟩ := Prod.mk.inj hfacts
  exact ⟨m, hm, hfailed, hlength, image_mirrors_log {} (⟨{}, [], rfl⟩ : EntryStore) overtaken rfl
    (by decide +kernel) m hm hfailed (by decide +kernel)⟩

end Duo

/-- With durability disabled the store of an engine is still opened and recovered from, but the
epoch of the recovery is not written. -/
theorem disabled_image_differs :
    let config : EngineConfig := { enableDurability := false }
    let s := (Sys.boot config (some ({ inner := ⟨{}, [], rfl⟩ } : Monitored EntryStore))).run []
    (∃ m, s.engine.store = some m ∧ m.failed = false ∧ s.frames = [] ∧
      s.engine.durable ≠ (applyAll m.inner.snapshot m.inner.entries).2) := by
  intro config s
  have hstore : (s.engine.store.map fun m =>
      (m.failed, (applyAll m.inner.snapshot m.inner.entries).2.epoch)) =
      some (false, .nil) := by decide +kernel
  obtain ⟨m, hm, hfacts⟩ := Option.map_eq_some_iff.mp hstore
  obtain ⟨hfailed, hepoch⟩ := Prod.mk.inj hfacts
  refine ⟨m, hm, hfailed, by decide +kernel, fun heq => ?_⟩
  have hlive : s.engine.durable.epoch = ⟨1⟩ := by decide +kernel
  rw [heq, hepoch] at hlive
  cases hlive

end CoherenceFabric
