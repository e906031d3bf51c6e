import CoherenceFabric.Effects.Combinators
import CoherenceFabric.Store.Interruption
import CoherenceFabric.Store.Monitored

/-!
What is written to a store none of whose calls has failed.

Such a store has taken every entry it was given, and the image has had each of them applied.
-/

namespace CoherenceFabric

open DurableStore Persistence
open Persistence (applyAll stamp)

variable {σ : Type} {entries : List JournalEntry}

/-! ### Entries that apply -/

/-- The payloads that are written and applied in one step. -/
def JournalPayload.Steady : JournalPayload → Prop
  | .setPendingPublication _ | .snapshot | .invalid => False
  | _ => True

lemma applyJournalEntry_position {image entry}
    (hposition : entry.sequence ≠ 0) (hsnapshot : entry.payload ≠ .snapshot)
    (hinvalid : entry.payload ≠ .invalid) : ∃ image', applyJournalEntry image entry = .ok image' ∧
      image' = { entry.payload.apply image with sequence := image'.sequence } ∧
      image'.sequence.toNat = max image.sequence.toNat entry.sequence.toNat := by
  unfold applyJournalEntry
  rw [if_neg hposition]
  split
  · exact absurd ‹_› hsnapshot
  · exact absurd ‹_› hinvalid
  refine ⟨_, rfl, ?_, ?_⟩
  · split <;> rfl
  rw [JournalPayload.apply_sequence]
  split
  · rename_i hlater
    exact (max_eq_right (UInt64.le_iff_toNat_le.mp (UInt64.le_of_lt hlater))).symm
  · rename_i hlater
    rw [JournalPayload.apply_sequence]
    exact (max_eq_left (UInt64.le_iff_toNat_le.mp (UInt64.not_lt.mp hlater))).symm

lemma applyJournalEntry_stamped {image image' entry}
    (h : applyJournalEntry image entry = .ok image') : entry.sequence ≠ 0 := by
  unfold applyJournalEntry at h
  split at h
  · cases h
  · assumption

lemma applyAll_elsewhere (hsteady : ∀ entry ∈ entries, entry.payload.Steady) {held'} :
    ∀ {held : DurableImage} (image : DurableImage), applyAll held entries = (.success, held') →
      ∃ image', applyAll image entries = (.success, image') := by
  induction entries with
  | nil => exact fun image _ => ⟨image, rfl⟩
  | cons entry rest ih =>
    intro held image h
    have hfirst := hsteady entry List.mem_cons_self
    rw [applyAll] at h ⊢
    split at h
    · rename_i status herror
      cases (Prod.mk.inj h).1 ▸ applyJournalEntry_error herror
    rename_i next hnext
    obtain ⟨image', himage, -⟩ := @applyJournalEntry_position image entry
      (applyJournalEntry_stamped hnext) (fun heq => by rw [heq] at hfirst; exact hfirst)
      (fun heq => by rw [heq] at hfirst; exact hfirst)
    rw [himage]
    exact ih (fun entry hentry => hsteady entry (List.mem_cons_of_mem _ hentry)) image' h

/-! ### Writes that succeed -/

lemma Persistence.journal_store (p : Persistence σ) (store : σ)
    (entries : List JournalEntry) (write : σ → Status × σ) :
    (p.journal store entries write).2.store = some (write store).2 := by
  unfold journal
  dsimp only
  split <;> rfl

lemma Persistence.journal_durable {p : Persistence σ} {store write}
    (h : (write store).1.isOk = true) :
    (p.journal store entries write).2.durable = (applyAll p.durable entries).2 := by
  unfold journal
  simp [h]

section Monitored

variable [LawfulStore σ] {p p' p'' : Persistence (Monitored σ)} {payloads : List JournalPayload}
  {C : Prop}

/-- A failure is not forgotten. -/
lemma PersistMove.failed {Q} (hmove : PersistMove Q C p p')
    {m} (hm : p'.store = some m) (hfailed : m.failed = false) :
    ∃ m', p.store = some m' ∧ m'.failed = false := by
  cases hmove with
  | write entry allowed store_before store_after =>
    cases store_after.symm.trans hm
    exact ⟨_, store_before, (Monitored.append_failed hfailed).1⟩
  | compact allowed store_before store_after =>
    cases store_after.symm.trans hm
    exact ⟨_, store_before, (Monitored.compact_failed hfailed).1⟩
  | flush store_before store_after =>
    cases store_after.symm.trans hm
    exact ⟨_, store_before, Monitored.flush_failed hfailed⟩
  | close store_before store_after =>
    cases store_after.symm.trans hm
    exact ⟨_, store_before, Monitored.close_failed hfailed⟩
  | apply payload position allowed store_after | idle store_after =>
    exact ⟨m, store_after ▸ hm, hfailed⟩

lemma Persist.failed {Q} (hmoves : Persist Q C p p') :
    ∀ {m : Monitored σ}, p'.store = some m → m.failed = false →
      ∃ m', p.store = some m' ∧ m'.failed = false := by
  induction hmoves with
  | refl => exact fun hm hfailed => ⟨_, hm, hfailed⟩
  | tail _ hmove ih =>
    intro m hm hfailed
    obtain ⟨_, hm', hfailed'⟩ := hmove.failed hm hfailed
    exact ih hm' hfailed'

lemma unfailed_write {before} {write : Monitored σ → Status × Monitored σ}
    (writes : (∃ entry, entries = [entry] ∧ write = (DurableStore.append · entry)) ∨
      write = (DurableStore.appendBatch · entries)) (hfailed : (write before).2.failed = false) :
    before.failed = false ∧ (write before).1.isOk = true ∧
      applyAll (stored before) entries = (.success, stored (write before).2) := by
  rcases writes with ⟨entry, rfl, rfl⟩ | rfl
  · obtain ⟨hbefore, hok⟩ := Monitored.append_failed hfailed
    refine ⟨hbefore, hok, ?_⟩
    simp only [applyAll, LawfulStore.append_success hok]
  · obtain ⟨hbefore, hok⟩ := Monitored.appendBatch_failed hfailed
    exact ⟨hbefore, hok, appendBatch_success hok⟩

/-- If nothing has failed, the payloads were written and applied to the image. -/
def Persistence.Wrote (p p' : Persistence (Monitored σ)) (payloads : List JournalPayload) : Prop :=
  ∀ m, p'.store = some m → m.failed = false →
    (∃ m', p.store = some m' ∧ m'.failed = false) ∧
      ∃ last, p'.durable = { p.durable.after payloads with sequence := last }

namespace Persistence.Wrote

omit [LawfulStore σ] in
lemma idle (hstore : p'.store = p.store) (himage : p'.durable = p.durable) : p.Wrote p' [] :=
  fun m hm hfailed => ⟨⟨m, hstore ▸ hm, hfailed⟩, p.durable.sequence, himage⟩

end Persistence.Wrote

lemma journal_wrote {store : Monitored σ} (write : Monitored σ → Status × Monitored σ)
    (position : UInt64) (hstore : p.store = some store)
    (hsteady : ∀ payload ∈ payloads, payload.Steady)
    (writes : (∃ entry, stamp position payloads = [entry] ∧ write = (DurableStore.append · entry)) ∨
        write = (DurableStore.appendBatch · (stamp position payloads))) :
    p.Wrote (p.journal store (stamp position payloads) write).2 payloads ∧
      ((p.journal store (stamp position payloads) write).1.isOk = false →
        ∀ m, (p.journal store (stamp position payloads) write).2.store = some m →
          m.failed = true) := by
  have hwritten : ∀ m, (p.journal store (stamp position payloads) write).2.store = some m →
      m.failed = false → store.failed = false ∧ (write store).1.isOk = true ∧
        ∃ last, applyAll p.durable (stamp position payloads) =
          (.success, { p.durable.after payloads with sequence := last }) := by
    intro m hm hfailed
    rw [journal_store] at hm
    cases hm
    obtain ⟨hbefore, hok, happlied⟩ := unfailed_write writes hfailed
    obtain ⟨image, himage⟩ := applyAll_elsewhere
      (fun entry hentry => hsteady _ (payload_of_mem_stamp entry hentry)) p.durable happlied
    obtain ⟨last, rfl⟩ := applyAll_success himage
    exact ⟨hbefore, hok, last, himage⟩
  refine ⟨fun m hm hfailed => ?_, fun hrefused m hm => ?_⟩
  · obtain ⟨hbefore, hok, last, himage⟩ := hwritten m hm hfailed
    refine ⟨⟨store, hstore, hbefore⟩, last, ?_⟩
    rw [journal_durable hok, himage]
  · by_contra hfailed
    obtain ⟨-, hok, last, himage⟩ := hwritten m hm (Bool.eq_false_iff.mpr hfailed)
    unfold journal at hrefused
    simp [hok, himage] at hrefused

lemma appendMany_wrote (hsteady : ∀ payload ∈ payloads, payload.Steady) :
    p.Wrote (p.appendMany true payloads).2 payloads ∧ ((p.appendMany true payloads).1.isOk = false →
        ∀ m, (p.appendMany true payloads).2.store = some m → m.failed = true) := by
  unfold appendMany
  split
  · rename_i hnone
    exact ⟨fun m hm => (by cases hnone.symm.trans hm), fun h => (by cases h)⟩
  rename_i store hstore
  split
  · rename_i hempty
    obtain rfl : payloads = [] := by simpa using hempty
    exact ⟨.idle rfl rfl, fun h => (by cases h)⟩
  · exact journal_wrote _ p.nextJournalSequence hstore hsteady (.inr rfl)

end Monitored

end CoherenceFabric
