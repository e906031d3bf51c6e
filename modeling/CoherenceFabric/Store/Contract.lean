import CoherenceFabric.System

/-!
What the engine may rely on from a durable store.

`stored` is the image that the next open of the medium returns. The weak contract says how
each call may change it; it does not even promise that a successful append is kept. The
interface promises more: an append is durable before it returns success, and a compaction
replaces the whole image. Both are assumptions. A directory of files keeps them as long as its
journal is whole and what is written fits the limits of the reader; behind a torn or unreadable
record it accepts entries that no open replays.
-/

namespace CoherenceFabric

open DurableStore Persistence

/-- What the next process loads from a store. -/
def loads {σ : Type} [StoreMedium σ] (store : σ) : Option DurableImage :=
  (openStore (StoreMedium.remount store)).1.toOption.map Prod.snd

/-- A store whose calls change what it holds by whole entries and whole images only. -/
class ReplayStore (σ : Type) extends StoreMedium σ where
  stored : σ → DurableImage
  open_image {store : σ} {loaded : LoadReport × DurableImage} :
    (openStore store).1 = .ok loaded → loaded.2 = stored store
  open_stored (store : σ) : stored (openStore store).2 = stored store
  append_stored (store : σ) (entry : JournalEntry) :
    stored (append store entry).2 = stored store ∨
      applyJournalEntry (stored store) entry = .ok (stored (append store entry).2)
  compact_stored (store : σ) (image : DurableImage) :
    stored (compact store image).2 = stored store ∨ stored (compact store image).2 = image
  flush_stored (store : σ) : stored (flush store).2 = stored store
  close_stored (store : σ) : stored (close store).2 = stored store
  remount_stored (store : σ) : stored (StoreMedium.remount store) = stored store

export ReplayStore (stored)

/-- A store that keeps the promises of the interface, in particular that an append which returns
success is replayed by the next open. -/
class LawfulStore (σ : Type) extends ReplayStore σ where
  append_success {store : σ} {entry : JournalEntry} :
    (append store entry).1.isOk →
      applyJournalEntry (stored store) entry = .ok (stored (append store entry).2)
  compact_success {store : σ} {image : DurableImage} :
    (compact store image).1.isOk → stored (compact store image).2 = image

attribute [simp] ReplayStore.open_stored ReplayStore.flush_stored ReplayStore.close_stored
  ReplayStore.remount_stored

/-- The promises as a condition on a medium: they hold for some account of what it holds. -/
def KeepsPromises (σ : Type) [medium : StoreMedium σ] : Prop :=
  ∃ lawful : LawfulStore σ, lawful.toStoreMedium = medium

variable {σ : Type}

lemma loads_eq_some [StoreMedium σ] {store : σ} {image : DurableImage} :
    loads store = some image ↔
      ∃ load, (openStore (StoreMedium.remount store)).1 = .ok (load, image) := by
  unfold loads
  cases (openStore (StoreMedium.remount store)).1 with
  | error status => simp [Except.toOption]
  | ok loaded => rcases loaded with ⟨load, held⟩; simp [Except.toOption]

lemma appendBatch_success [LawfulStore σ] {entries} :
    ∀ {store : σ}, (appendBatch store entries).1.isOk = true →
      applyAll (stored store) entries = (.success, stored (appendBatch store entries).2) := by
  induction entries with
  | nil => simp [appendBatch, applyAll]
  | cons entry rest ih =>
    intro store h
    rw [appendBatch] at h ⊢
    split at h
    · rename_i hok
      simp only [hok, if_true, applyAll, LawfulStore.append_success hok]
      exact ih h
    · rename_i hok
      exact absurd h hok

/-! ### A store of entries -/

/-- A store that keeps the image itself. Its script says which appends are refused. -/
structure LogStore where
  image : DurableImage := {}
  script : List Bool := []

variable {entry : JournalEntry}

namespace LogStore

def append (store : LogStore) (entry : JournalEntry) : Status × LogStore :=
  match store.script with
  | false :: rest =>
    (.make .persistenceFailure (text "injected append failure"), { store with script := rest })
  | script =>
    match applyJournalEntry store.image entry with
    | .ok image => (.success, { image := image, script := script.tail })
    | .error status => (status, { store with script := script.tail })

instance (priority := low) : StoreMedium LogStore where
  openStore store := (.ok ({}, store.image), store)
  append := append
  compact store image := (.success, { store with image := image })
  flush store := (.success, store)
  close store := (.success, store)
  journalBytes _ := 0
  remount store := store

lemma append_image (store : LogStore) (entry : JournalEntry) :
    (append store entry).2.image = store.image ∨
      applyJournalEntry store.image entry = .ok (append store entry).2.image := by
  unfold append
  split
  · exact .inl rfl
  split
  · exact .inr ‹_›
  · exact .inl rfl

lemma append_ok {store} (h : (append store entry).1.isOk) :
    applyJournalEntry store.image entry = .ok (append store entry).2.image := by
  unfold append at h ⊢
  split at h
  · cases h
  split at h
  · assumption
  · rename_i happly
    simp [applyJournalEntry_error happly] at h

instance : LawfulStore LogStore where
  stored := image
  open_image h := by cases h; rfl
  open_stored _ := rfl
  append_stored := append_image
  compact_stored _ _ := .inr rfl
  flush_stored _ := rfl
  close_stored _ := rfl
  remount_stored _ := rfl
  append_success := append_ok
  compact_success _ := rfl

end LogStore

/-! ### A store of a snapshot and entries -/

/-- A snapshot and the journal entries after it, which replay over it. -/
structure EntryStore where
  snapshot : DurableImage
  entries : List JournalEntry
  replays : (Persistence.applyAll snapshot entries).1 = .success

lemma applyAll_concat {image entries} (entry : JournalEntry)
    (h : (applyAll image entries).1 = .success) :
    applyAll image (entries ++ [entry]) =
      match applyJournalEntry (applyAll image entries).2 entry with
      | .error status => (status, (applyAll image entries).2)
      | .ok image => (.success, image) := by
  induction entries generalizing image with
  | nil => rfl
  | cons first rest ih =>
    rw [List.cons_append]
    simp only [applyAll] at h ⊢
    split at h
    · rename_i status herror
      obtain rfl : status = .success := h
      cases applyJournalEntry_error herror
    · exact ih h

namespace EntryStore

/-- What a replay of the entries over the snapshot gives. -/
def image (store : EntryStore) : DurableImage :=
  (applyAll store.snapshot store.entries).2

def append (store : EntryStore) (entry : JournalEntry) : Status × EntryStore :=
  match h : applyJournalEntry store.image entry with
  | .ok image =>
    (.success, ⟨store.snapshot, store.entries ++ [entry], by
      rw [applyAll_concat entry store.replays]
      unfold EntryStore.image at h
      rw [h]⟩)
  | .error status => (status, store)

instance (priority := low) : StoreMedium EntryStore where
  openStore store := (.ok ({}, store.image), store)
  append := append
  compact _ image := (.success, ⟨image, [], rfl⟩)
  flush store := (.success, store)
  close store := (.success, store)
  journalBytes store := store.entries.length
  remount store := store

lemma append_image {store} : (append store entry).1.isOk = false ∧ (append store entry).2 = store ∨
      applyJournalEntry store.image entry = .ok (append store entry).2.image := by
  unfold append
  split
  · rename_i image happly
    refine .inr (happly.trans (congrArg Except.ok ?_))
    have hconcat := applyAll_concat entry store.replays
    unfold EntryStore.image at happly
    rw [happly] at hconcat
    exact (congrArg Prod.snd hconcat).symm
  · rename_i status herror
    exact .inl ⟨applyJournalEntry_error herror, rfl⟩

instance : LawfulStore EntryStore where
  stored := image
  open_image h := by cases h; rfl
  open_stored _ := rfl
  append_stored _ _ := append_image.imp (fun h => congrArg image h.2) id
  compact_stored _ _ := .inr rfl
  flush_stored _ := rfl
  close_stored _ := rfl
  remount_stored _ := rfl
  append_success h := append_image.resolve_left fun hrefused => by
    cases hrefused.1.symm.trans h
  compact_success _ := rfl

end EntryStore

end CoherenceFabric
