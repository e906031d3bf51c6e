import CoherenceFabric.Store.Contract

/-!
Groups of journal entries and where they can be interrupted.

An entry is durable by itself, so a group that the store does not take as a whole leaves a prefix
of it. The same holds for the durable image, which the entries reach one after the other.
-/

namespace CoherenceFabric

open DurableStore
open Persistence (stamp applyAll)

variable {σ : Type} {payloads : List JournalPayload}

/-- What a store may be when a group is interrupted: the process stops between two appends, or an
append fails, whatever it leaves behind. -/
inductive Interrupted [DurableStore σ] : σ → List JournalEntry → σ → Prop
  | stop {store entries} : Interrupted store entries store
  | failed {store entry rest} (refused : (append store entry).1.isOk = false) :
      Interrupted store (entry :: rest) (append store entry).2
  | next {store entry rest store'} (accepted : (append store entry).1.isOk)
      (later : Interrupted (append store entry).2 rest store') :
      Interrupted store (entry :: rest) store'

lemma Interrupted.applied [LawfulStore σ] {store store' : σ} {entries}
    (h : Interrupted store entries store') :
    ∀ {payloads : List JournalPayload} {position : UInt64}, entries = stamp position payloads →
      ∃ k, applyAll (stored store) (stamp position (payloads.take k)) =
        (.success, stored store') := by
  induction h with
  | stop => exact fun _ => ⟨0, rfl⟩
  | @failed store entry rest refused =>
    intro payloads position heq
    rcases ReplayStore.append_stored store entry with hsame | happlied
    · exact ⟨0, by rw [List.take_zero, hsame]; rfl⟩
    rcases payloads with _ | ⟨payload, rest⟩
    · cases heq
    simp only [stamp, List.cons.injEq] at heq
    obtain ⟨rfl, -⟩ := heq
    exact ⟨1, by simp [stamp, applyAll, happlied]⟩
  | next accepted later ih =>
    intro payloads position heq
    rcases payloads with _ | ⟨payload, rest⟩
    · cases heq
    simp only [stamp, List.cons.injEq] at heq
    obtain ⟨rfl, heq⟩ := heq
    obtain ⟨k, happly⟩ := ih heq
    refine ⟨k + 1, ?_⟩
    simp only [List.take_succ_cons, stamp, applyAll, LawfulStore.append_success accepted]
    exact happly

/-- However `append_batch` ends, it leaves what an interruption leaves, flushed at most. -/
lemma appendBatch_interrupted [DurableStore σ] {entries} : ∀ {store : σ},
    ∃ store', Interrupted store entries store' ∧
      ((appendBatch store entries).2 = store' ∨
        (appendBatch store entries).2 = (flush store').2) := by
  induction entries with
  | nil => exact fun {store} => ⟨store, .stop, .inr rfl⟩
  | cons entry rest ih =>
    intro store
    unfold appendBatch
    dsimp only
    cases hstatus : (append store entry).1.isOk with
    | true =>
      obtain ⟨store', hlater, hleft⟩ := @ih (append store entry).2
      exact ⟨store', .next hstatus hlater, by simpa using hleft⟩
    | false => exact ⟨_, .failed hstatus, .inl (by simp)⟩

lemma appendBatch_applied [LawfulStore σ] (store : σ) (position : UInt64)
    (payloads : List JournalPayload) : ∃ k, applyAll (stored store)
      (stamp position (payloads.take k)) =
        (.success, stored (appendBatch store (stamp position payloads)).2) := by
  obtain ⟨store', hstop, hleft⟩ := @appendBatch_interrupted σ _ (stamp position payloads) store
  obtain ⟨k, happlied⟩ := hstop.applied rfl
  refine ⟨k, happlied.trans (congrArg _ ?_)⟩
  rcases hleft with hsame | hflushed
  · rw [hsame]
  · rw [hflushed, ReplayStore.flush_stored]

/-! ### The images along a group -/

def DurableImage.after (image : DurableImage) (payloads : List JournalPayload) : DurableImage :=
  payloads.foldl (fun image payload => payload.apply image) image

/-- The image holds a prefix of a group, and all of it if the group was accepted. -/
structure GroupApplied (payloads : List JournalPayload) (accepted : Bool)
    (image image' : DurableImage) : Prop where
  applied : ∃ k position, image' = { image.after (payloads.take k) with sequence := position } ∧
    (accepted = true → payloads.take k = payloads)

lemma JournalPayload.apply_withSequence (payload : JournalPayload) (image : DurableImage)
    (position : UInt64) : payload.apply { image with sequence := position } =
      { payload.apply image with sequence := position } := by
  cases payload <;> rfl

lemma DurableImage.after_withSequence :
    ∀ (image : DurableImage) (position : UInt64),
      { image with sequence := position }.after payloads =
      { image.after payloads with sequence := position } := by
  induction payloads with
  | nil => exact fun _ _ => rfl
  | cons payload rest ih =>
    intro image position
    have hfirst := payload.apply_withSequence image position
    change (payload.apply { image with sequence := position }).after rest = _
    rw [hfirst]
    exact ih _ position

lemma applyAll_after (payloads : List JournalPayload) : ∀ (image : DurableImage)
    (position : UInt64), GroupApplied payloads (applyAll image (stamp position payloads)).1.isOk
      image (applyAll image (stamp position payloads)).2 := by
  induction payloads with
  | nil => exact fun image _ => ⟨0, image.sequence, rfl, fun _ => rfl⟩
  | cons payload rest ih =>
    intro image position
    simp only [stamp, applyAll]
    cases happly : applyJournalEntry image ⟨payload, position⟩ with
    | error status =>
      exact ⟨0, image.sequence, rfl, by simp [applyJournalEntry_error happly]⟩
    | ok image' =>
      obtain ⟨reached, rfl⟩ := applyJournalEntry_ok happly
      obtain ⟨k, last, himage, hall⟩ := (ih _ (position + 1)).applied
      refine ⟨k + 1, last, himage.trans ?_, fun hok => ?_⟩
      · rw [DurableImage.after_withSequence]
        rfl
      · rw [List.take_succ_cons, hall hok]

lemma applyAll_success {image image' position}
    (h : applyAll image (stamp position payloads) = (.success, image')) :
    ∃ last, image' = { image.after payloads with sequence := last } := by
  obtain ⟨k, last, himage, hall⟩ := (applyAll_after payloads image position).applied
  rw [h] at himage hall
  rw [hall rfl] at himage
  exact ⟨last, himage⟩

/-- What `append_many_locked` leaves of the durable image and of the store, if the engine
journals at all. -/
theorem appendMany_group [LawfulStore σ] {p : Persistence σ} {store}
    (hstore : p.store = some store) (payloads : List JournalPayload) :
    GroupApplied payloads (p.appendMany true payloads).1.isOk p.durable
        (p.appendMany true payloads).2.durable ∧
      ∀ store', (p.appendMany true payloads).2.store = some store' →
        GroupApplied payloads (p.appendMany true payloads).1.isOk
          (stored store) (stored store') := by
  unfold Persistence.appendMany
  simp only [hstore, Bool.not_true, Bool.false_or]
  split
  · rename_i hempty
    have hnil : payloads = [] := by simpa using hempty
    subst hnil
    refine ⟨⟨0, p.durable.sequence, rfl, fun _ => rfl⟩, fun store' hstore' => ?_⟩
    cases hstore.symm.trans hstore'
    exact ⟨0, (stored store).sequence, rfl, fun _ => rfl⟩
  unfold Persistence.journal
  dsimp only
  cases hok : (appendBatch store (stamp p.nextJournalSequence payloads)).1.isOk with
  | false =>
    rw [if_pos (by simp)]
    refine ⟨⟨0, p.durable.sequence, rfl, by simp [hok]⟩, fun store' hstore' => ?_⟩
    cases hstore'
    obtain ⟨k, happlied⟩ := appendBatch_applied store p.nextJournalSequence payloads
    obtain ⟨position, himage⟩ := applyAll_success happlied
    exact ⟨k, position, himage, by simp [hok]⟩
  | true =>
    rw [if_neg (by simp)]
    refine ⟨applyAll_after _ _ _, fun store' hstore' => ?_⟩
    cases hstore'
    obtain ⟨position, himage⟩ := applyAll_success (appendBatch_success hok)
    exact ⟨payloads.length, position, by rw [himage, List.take_length],
      fun _ => List.take_length⟩

end CoherenceFabric
