import CoherenceFabric.Store.Contract

/-!
A store that remembers whether one of its calls has failed.

The engine drops what some of its store calls report, so the state of the engine does not tell
whether a run had a store failure. The monitored store does.
-/

namespace CoherenceFabric

open DurableStore ReplayStore

structure Monitored (σ : Type) where
  inner : σ
  failed : Bool := false

variable {entries : List JournalEntry}

namespace Monitored

variable {σ : Type}

/-- Notes what a call of the watched store reports. -/
def note (m : Monitored σ) (result : Status × σ) : Status × Monitored σ :=
  (result.1, ⟨result.2, m.failed || !result.1.isOk⟩)

instance [StoreMedium σ] : StoreMedium (Monitored σ) where
  openStore m :=
    let opened := openStore m.inner
    (opened.1, ⟨opened.2, m.failed || opened.1.toOption.isNone⟩)
  append m entry := m.note (append m.inner entry)
  compact m image := m.note (compact m.inner image)
  flush m := m.note (flush m.inner)
  close m := m.note (close m.inner)
  journalBytes m := journalBytes m.inner
  remount m := { m with inner := StoreMedium.remount m.inner }

instance [ReplayStore σ] : ReplayStore (Monitored σ) where
  stored m := stored m.inner
  open_image h := open_image h
  open_stored m := open_stored m.inner
  append_stored m := append_stored m.inner
  compact_stored m := compact_stored m.inner
  flush_stored m := flush_stored m.inner
  close_stored m := close_stored m.inner
  remount_stored m := remount_stored m.inner

instance [LawfulStore σ] : LawfulStore (Monitored σ) where
  append_success h := LawfulStore.append_success h
  compact_success h := LawfulStore.compact_success h

/-! ### A call after which nothing has failed -/

section Succeeded

variable {m : Monitored σ} {result : Status × σ}

lemma note_failed (h : (m.note result).2.failed = false) :
    m.failed = false ∧ result.1.isOk = true := by
  simpa [note] using h

variable [StoreMedium σ]

lemma append_failed {entry} (h : (append m entry).2.failed = false) :
    m.failed = false ∧ (append m entry).1.isOk = true :=
  note_failed h

lemma compact_failed {image} (h : (compact m image).2.failed = false) :
    m.failed = false ∧ (compact m image).1.isOk = true :=
  note_failed h

lemma flush_failed (h : (flush m).2.failed = false) : m.failed = false :=
  (note_failed h).1

lemma close_failed (h : (close m).2.failed = false) : m.failed = false :=
  (note_failed h).1

lemma appendBatch_failed : ∀ {m : Monitored σ}, (appendBatch m entries).2.failed = false →
      m.failed = false ∧ (appendBatch m entries).1.isOk = true := by
  induction entries with
  | nil => exact fun h => note_failed h
  | cons entry rest ih =>
    intro m h
    rw [appendBatch] at h ⊢
    split at h
    · rename_i hok
      obtain ⟨hfailed, hrest⟩ := ih h
      simp only [hok, if_true]
      exact ⟨(append_failed hfailed).1, hrest⟩
    · rename_i hok
      exact absurd (append_failed h).2 hok

end Succeeded

end Monitored

end CoherenceFabric
