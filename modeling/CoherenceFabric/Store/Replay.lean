import CoherenceFabric.Lib.Run
import CoherenceFabric.Store.Durable
import CoherenceFabric.Store.Interruption

/-!
What the stores replay, and when they keep the promises of the interface.

A journal is the records of its entries one after the other. As long as it is whole, and what is
written fits the limits of the reader, a directory refines a store of entries: it loads what the
entries make of the snapshot, and a call that fails leaves the image before or after it. Replaying
a journal again changes nothing, so a compaction may stop at any step.
-/

namespace CoherenceFabric

open Codec DurableStore Persistence

variable {entry : JournalEntry}

lemma applyJournalEntry_accepts (hkind : entry.payload.kind ≠ .invalid)
    (hposition : entry.sequence ≠ 0) (image : DurableImage) :
    ∃ image', applyJournalEntry image entry = .ok image' := by
  unfold applyJournalEntry
  rw [if_neg hposition]
  split
  · exact ⟨_, rfl⟩
  · rename_i hpayload
    exact absurd (congrArg JournalPayload.kind hpayload) hkind
  · exact ⟨_, rfl⟩

lemma encodeJournalEntry_ne_nil (h : entry.payload.kind ≠ .invalid) :
    encodeJournalEntry entry ≠ [] := by
  intro hnil
  have hlength := length_encodeJournalEntry h
  rw [hnil] at hlength
  simp [kJournalHeaderSize] at hlength
  omega

/-- The entries that a journal can hold. -/
structure Journalable (limits : StoreLimits) (entry : JournalEntry) : Prop where
  storable : entry.Storable limits
  positioned : entry.sequence ≠ 0

lemma Journalable.encodes {limits} (h : Journalable limits entry) :
    (encodeJournalEntry entry).isEmpty = false := by
  simpa using encodeJournalEntry_ne_nil h.storable.within.kind_ne

lemma replay_stream {limits torn}
    (htorn : torn = [] ∨ ∀ r, (nextRecord limits).run torn ≠ .ok r) :
    ∀ {entries : List JournalEntry} {rounds : Nat} {image : DurableImage} {report : LoadReport},
      (∀ entry ∈ entries, Journalable limits entry) →
      (entries.flatMap encodeJournalEntry ++ torn).length ≤ rounds →
      replay limits rounds (entries.flatMap encodeJournalEntry ++ torn) image report =
        ((applyAll image entries).2,
          { report with
            journalRecordsReplayed := report.journalRecordsReplayed + entries.length
            truncatedTail := report.truncatedTail || !torn.isEmpty
            corruptRecords := report.corruptRecords + if torn.isEmpty then 0 else 1 }) := by
  intro entries
  induction entries with
  | nil =>
    intro rounds image report _ hrounds
    rw [List.flatMap_nil, List.nil_append] at hrounds ⊢
    cases rounds with
    | zero =>
      cases List.length_eq_zero_iff.mp (Nat.le_zero.mp hrounds)
      simp [replay, applyAll]
    | succ rounds =>
      rcases htorn with rfl | hrefused
      · simp [replay, applyAll]
      cases hrun : (nextRecord limits).run torn with
      | ok r => exact absurd hrun (hrefused r)
      | error e =>
        cases torn with
        | nil => simp [replay, applyAll]
        | cons b bs => simp [replay, applyAll, hrun]
  | cons entry entries ih =>
    intro rounds image report hentries hrounds
    obtain ⟨hstorable, hposition⟩ := hentries entry List.mem_cons_self
    have hkind := hstorable.within.kind_ne
    have hne := encodeJournalEntry_ne_nil hkind
    have hrest : ∀ entry ∈ entries, Journalable limits entry :=
      fun entry hmem => hentries entry (List.mem_cons_of_mem _ hmem)
    have hpos := List.length_pos_iff.mpr hne
    rw [List.flatMap_cons, List.append_assoc, List.length_append] at hrounds
    rw [List.flatMap_cons, List.append_assoc]
    obtain ⟨rounds, rfl⟩ : ∃ n, rounds = n + 1 := ⟨rounds - 1, by omega⟩
    obtain ⟨image', happly⟩ := applyJournalEntry_accepts hkind hposition image
    rw [replay, if_neg (by simp [hne]), (reads_record limits).round_trip hstorable]
    simp only [happly]
    rw [ih hrest (by omega)]
    simp only [applyAll, happly, List.length_cons, Prod.mk.injEq, true_and]
    congr 1
    omega

/-! ### Whole journals -/

/-- The journal is the records of entries that can be read back. -/
structure Whole (limits : StoreLimits) (journal : Bytes) (entries : List JournalEntry) : Prop where
  bytes : journal = entries.flatMap encodeJournalEntry
  journalable : ∀ entry ∈ entries, Journalable limits entry

namespace Whole

variable {limits : StoreLimits} {journal : Bytes} {entries : List JournalEntry}
  (h : Whole limits journal entries)
include h

lemma append (hentry : Journalable limits entry) :
    Whole limits (journal ++ encodeJournalEntry entry) (entries ++ [entry]) where
  bytes := by simp [h.bytes]
  journalable := by
    intro other hmem
    rcases List.mem_append.mp hmem with hmem | hmem
    · exact h.journalable other hmem
    · rwa [List.mem_singleton.mp hmem]

lemma replays (base : DurableImage) : (applyAll base entries).1 = .success := by
  have hentries := h.journalable
  clear h
  induction entries generalizing base with
  | nil => rfl
  | cons entry rest ih =>
    obtain ⟨hstorable, hposition⟩ := hentries entry List.mem_cons_self
    obtain ⟨image, happly⟩ := applyJournalEntry_accepts hstorable.within.kind_ne hposition base
    simp only [applyAll, happly]
    exact ih image fun other hmem => hentries other (List.mem_cons_of_mem _ hmem)

lemma replay_torn {torn} (htorn : torn = [] ∨ ∀ r, (nextRecord limits).run torn ≠ .ok r)
    (image : DurableImage) (report : LoadReport) :
    (replay limits (journal ++ torn).length (journal ++ torn) image report).1 =
      (applyAll image entries).2 := by
  rw [h.bytes, replay_stream htorn h.journalable (Nat.le_refl _)]

lemma replay_cut (hentry : Journalable limits entry) {count}
    (hcount : count < (encodeJournalEntry entry).length) (image : DurableImage)
    (report : LoadReport) :
    (replay limits (journal ++ (encodeJournalEntry entry).take count).length
      (journal ++ (encodeJournalEntry entry).take count) image report).1 =
      (applyAll image entries).2 := by
  refine h.replay_torn (.inr ?_) image report
  refine (reads_record limits).prefix_refused hentry.storable
    (List.take_append_drop count (encodeJournalEntry entry)) ?_
  simpa using hcount

end Whole

lemma stampEntry_positioned {next} (h : entry.sequence ≠ 0) :
    (stampEntry next entry).1 = entry := by
  unfold stampEntry
  rw [if_neg h]
  split <;> rfl

/-! ### A replay over its own result -/

open Std.ExtTreeMap in
lemma JournalPayload.apply_apply (p q : JournalPayload) (image : DurableImage) :
    p.apply (q.apply (p.apply image)) = p.apply (q.apply image) := by
  cases p <;> cases q <;> simp only [apply, DurableImage.mk.injEq, true_and, and_true]
  all_goals
    refine ext_getElem? fun k => ?_
    simp only [getElem?_insert, getElem?_erase, getElem?_filter, Option.pfilter_eq_filter]
    repeat' split
    all_goals simp [Option.filter_filter, Bool.and_comm]

/-- What an accepted entry makes of an image. -/
def DurableImage.overlay (image : DurableImage) (entry : JournalEntry) : DurableImage :=
  { entry.payload.apply image with
    sequence := if image.sequence < entry.sequence then entry.sequence else image.sequence }

lemma overlay_snapshot (image : DurableImage) : image.overlay ⟨.snapshot, 0⟩ = image := by
  simp [DurableImage.overlay, JournalPayload.apply]

lemma overlay_overlay (image : DurableImage) (a b : JournalEntry) :
    ((image.overlay a).overlay b).overlay a = (image.overlay b).overlay a := by
  simp only [DurableImage.overlay, JournalPayload.apply_withSequence, JournalPayload.apply_apply]
  congr 1
  grind

lemma applyJournalEntry_overlay :
    (∃ status, ∀ image, applyJournalEntry image entry = .error status) ∨
      ∃ accepted, ∀ image, applyJournalEntry image entry = .ok (image.overlay accepted) := by
  unfold applyJournalEntry
  repeat' split
  case h_1 => exact .inr ⟨_, fun image => congrArg _ (overlay_snapshot image).symm⟩
  case h_3 =>
    refine .inr ⟨entry, fun image => congrArg _ ?_⟩
    rw [DurableImage.overlay, ← entry.payload.apply_sequence image]
    split <;> rfl
  all_goals exact .inl ⟨_, fun _ => rfl⟩

lemma replay_overlay {limits n} : ∀ {bytes}, ∃ entries : List JournalEntry, ∀ image report,
    (replay limits n bytes image report).1 = entries.foldl .overlay image := by
  induction n with
  | zero => exact ⟨[], fun _ _ => rfl⟩
  | succ n ih =>
    intro bytes
    unfold replay
    split
    · exact ⟨[], fun _ _ => rfl⟩
    split
    · exact ⟨[], fun _ _ => rfl⟩
    rename_i entry rest _
    rcases @applyJournalEntry_overlay entry with ⟨status, hrefused⟩ | ⟨accepted, haccepted⟩
    · exact ⟨[], fun image _ => by simp [hrefused]⟩
    obtain ⟨entries, hentries⟩ := @ih rest
    exact ⟨accepted :: entries, fun image _ => by simp [haccepted, hentries]⟩

namespace FileDurableStore

lemma compactionTrace_files {before files image} (h : files ∈ compactionTrace before image) :
    files = before ∨ files.snapshot = some (encodeSnapshot image) ∧
      (files.journal = before.journal ∨ files.journal.getD [] = []) := by
  simp only [compactionTrace, List.mem_cons, List.not_mem_nil, or_false] at h
  refine h.imp_right fun h => ?_
  cases hjournal : before.journal <;> rcases h with rfl | rfl | rfl | rfl | rfl <;>
    simp [reopenJournal, removeCompacted, rotateJournal, dropBackup, replaceSnapshot, hjournal]

variable {store store' : FileDurableStore} {held base image : DurableImage}
  {entries : List JournalEntry}

lemma openStore_congr (hfiles : store'.files = store.files) (hlimits : store'.limits = store.limits)
    (hdirectory : store'.directory = store.directory) :
    store'.openStore.1 = store.openStore.1 := by
  have hsnapshot : store'.openSnapshot = store.openSnapshot := by
    unfold openSnapshot snapshotPath
    rw [hfiles, hlimits, hdirectory]
  unfold openStore
  rw [hsnapshot, hfiles, hlimits]
  split
  · rfl
  · dsimp only
    split <;> rfl

lemma compact_trace (store : FileDurableStore) (image : DurableImage) :
    (store.compact image).2.files ∈ compactionTrace store.files image ∧
      (store.compact image).2.limits = store.limits ∧
      (store.compact image).2.directory = store.directory := by
  unfold compact compactionTrace
  split
  · exact ⟨List.mem_cons_self, rfl, rfl⟩
  dsimp only
  split <;> simp

lemma openStore_trace {report files} (hopen : store.openStore.1 = .ok (report, held))
    (hstorable : held.Storable store.limits) (hfiles : files ∈ compactionTrace store.files held) :
    ∃ report, (remount { store with files := files }).openStore.1 = .ok (report, held) := by
  obtain ⟨entries, hreplay⟩ := @replay_overlay store.limits
    (store.files.journal.getD []).length (store.files.journal.getD [])
  unfold openStore at hopen
  split at hopen
  · cases hopen
  rename_i start loaded hsnapshot
  dsimp only at hopen
  split at hopen
  · cases hopen
  rename_i hbound
  cases hopen
  rw [hreplay] at hstorable hfiles ⊢
  rcases compactionTrace_files hfiles with rfl | ⟨hfile, hjournal⟩
  · have hloaded : (remount { store with files := store.files }).openSnapshot = _ := hsnapshot
    rw [openStore, hloaded]
    simp [remount, hbound, hreplay]
  have hloaded : (remount { store with files := files }).openSnapshot = .ok _ :=
    openSnapshot_loaded hfile (decodeSnapshot_encode hstorable)
  rw [openStore, hloaded]
  -- the new snapshot has what the journal says, so the journal may still be there
  rcases hjournal with hkept | hgone
  · simp [remount, hkept, hbound, hreplay,
      Transition.foldl_again overlay_overlay ⟨_, overlay_snapshot⟩ start]
  · simp [remount, hgone, replay]

/-! ### A directory as a store of entries -/

/-- The directory holds a snapshot and a whole journal behind it, within the bounds of the
reader. -/
structure Holds (store : FileDurableStore) (base : DurableImage) (entries : List JournalEntry) :
    Prop where
  snapshot : ∃ report, store.openSnapshot = .ok (base, report)
  whole : Whole store.limits (store.files.journal.getD []) entries
  bounded : (store.files.journal.getD []).length ≤ store.limits.maxJournalBytes.toNat

/-- The record of an entry can be read back from behind the journal. -/
structure Fits (store : FileDurableStore) (entry : JournalEntry) : Prop where
  journalable : Journalable store.limits entry
  bounded : (store.files.journal.getD []).length + (encodeJournalEntry entry).length ≤
    store.limits.maxJournalBytes.toNat

/-- The directory with more bytes at the end of its journal. -/
structure Extended (bytes : Bytes) (store store' : FileDurableStore) : Prop where
  snapshot : store'.openSnapshot = store.openSnapshot
  journal : store'.files.journal.getD [] = store.files.journal.getD [] ++ bytes
  limits : store'.limits = store.limits

/-- What an append leaves: a beginning of the record, and all of it if it reports success. -/
lemma append_extended (hentry : Journalable store.limits entry) :
    ∃ count, Extended ((encodeJournalEntry entry).take count) store (append store entry).2 ∧
      ((append store entry).1.isOk → (encodeJournalEntry entry).length ≤ count) := by
  unfold append
  split
  · exact ⟨0, ⟨rfl, by simp, rfl⟩, nofun⟩
  dsimp only
  rw [stampEntry_positioned hentry.positioned, hentry.encodes, if_neg Bool.false_ne_true]
  split
  · exact ⟨0, ⟨rfl, by simp, rfl⟩, nofun⟩
  unfold writeRecord
  dsimp only
  split
  · exact ⟨_, ⟨rfl, by rw [List.take_length]; rfl, rfl⟩, fun _ => Nat.le_refl _⟩
  · rename_i count _
    exact ⟨count, ⟨rfl, rfl, rfl⟩, nofun⟩
  · split <;> exact ⟨_, ⟨rfl, by rw [List.take_length]; rfl, rfl⟩, fun _ => Nat.le_refl _⟩

lemma loads_of_openStore {report} (h : (remount store).openStore.1 = .ok (report, image)) :
    loads store = some image :=
  loads_eq_some.mpr ⟨report, h⟩

lemma loads_replay {report} (hsnapshot : store.openSnapshot = .ok (base, report))
    (hbounded : (store.files.journal.getD []).length ≤ store.limits.maxJournalBytes.toNat) :
    ∃ report', loads store = some (replay store.limits (store.files.journal.getD []).length
      (store.files.journal.getD []) base report').1 := by
  have hloaded : (remount store).openSnapshot = .ok (base, report) := hsnapshot
  have hopen : ∃ report', (remount store).openStore.1 =
      .ok (replay store.limits (store.files.journal.getD []).length
        (store.files.journal.getD []) base report').swap := by
    refine ⟨{ report with journalBytes := (store.files.journal.getD []).length }, ?_⟩
    rw [openStore, hloaded]
    exact congrArg Prod.fst (if_neg (Nat.not_lt.mpr hbounded))
  obtain ⟨report', hopen⟩ := hopen
  exact ⟨report', loads_of_openStore hopen⟩

/-- A compaction into the image that the directory loads leaves what it loads. -/
theorem compact_loads (himage : image.Storable store.limits) (hloads : loads store = some image) :
    ((store.compact image).1.isOk → (store.compact image).2.Holds image []) ∧
      loads (store.compact image).2 = some image := by
  constructor
  · intro hok
    obtain ⟨hfile, hjournal, hlimits⟩ : (store.compact image).2.files.snapshot =
          some (encodeSnapshot image) ∧
        (store.compact image).2.files.journal.getD [] = [] ∧
        (store.compact image).2.limits = store.limits := by
      unfold compact at hok ⊢
      split at hok
      · cases hok
      rename_i hopened
      rw [if_neg hopened]
      dsimp only at hok ⊢
      split at hok <;> try cases hok
      cases hkept : store.files.journal <;>
        simp [reopenJournal, removeCompacted, rotateJournal, dropBackup, replaceSnapshot, hkept]
    generalize (store.compact image).2 = after at hfile hjournal hlimits
    refine ⟨⟨_, openSnapshot_loaded hfile ?_⟩,
      ⟨hjournal, fun _ hmem => absurd hmem List.not_mem_nil⟩, ?_⟩
    · rw [hlimits]
      exact decodeSnapshot_encode himage
    · rw [hjournal]
      exact Nat.zero_le _
  · obtain ⟨report, hopen⟩ := loads_eq_some.mp hloads
    obtain ⟨hfiles, hlimits, hdirectory⟩ := compact_trace store image
    have hsame : store.openStore.1 = .ok (report, image) := by
      rw [← hopen]
      exact openStore_congr rfl rfl rfl
    obtain ⟨report', hagain⟩ := openStore_trace hsame himage hfiles
    refine loads_of_openStore ((openStore_congr ?_ ?_ ?_).trans hagain)
    exacts [rfl, hlimits, hdirectory]

namespace Holds

variable (h : store.Holds base entries)
include h

lemma loads_eq : loads store = some (applyAll base entries).2 := by
  obtain ⟨report, hsnapshot⟩ := h.snapshot
  obtain ⟨report', hloads⟩ := loads_replay hsnapshot h.bounded
  have hreplay := h.whole.replay_torn (.inl rfl) base report'
  rw [List.append_nil] at hreplay
  rw [hloads, hreplay]

/-- An append of what fits is kept if it reports success, and leaves what the directory loads
as it was or with the entry. -/
theorem append (hfits : store.Fits entry) :
    ((append store entry).1.isOk → (append store entry).2.Holds base (entries ++ [entry])) ∧
      (loads (append store entry).2 = loads store ∨
        (append store entry).2.Holds base (entries ++ [entry])) := by
  obtain ⟨report, hsnapshot⟩ := h.snapshot
  obtain ⟨count, hextended, hok⟩ := append_extended hfits.journalable
  generalize (FileDurableStore.append store entry).2 = after at hextended ⊢
  have hafter : after.openSnapshot = .ok (base, report) := hextended.snapshot.trans hsnapshot
  have hlength : (after.files.journal.getD []).length ≤ after.limits.maxJournalBytes.toNat := by
    rw [hextended.journal, hextended.limits, List.length_append]
    exact Nat.le_trans (Nat.add_le_add_left (List.length_take_le' ..) _) hfits.bounded
  have hwhole : (encodeJournalEntry entry).length ≤ count →
      after.Holds base (entries ++ [entry]) := by
    intro hcount
    refine ⟨⟨report, hafter⟩, ?_, hlength⟩
    rw [hextended.journal, hextended.limits, List.take_of_length_le hcount]
    exact h.whole.append hfits.journalable
  refine ⟨fun haccepted => hwhole (hok haccepted), ?_⟩
  by_cases hcount : (encodeJournalEntry entry).length ≤ count
  · exact .inr (hwhole hcount)
  -- the beginning of a record is not replayed
  obtain ⟨report', hloads⟩ := loads_replay hafter hlength
  rw [hextended.journal, hextended.limits,
    h.whole.replay_cut hfits.journalable (Nat.lt_of_not_le hcount)] at hloads
  exact .inl (hloads.trans h.loads_eq.symm)

end Holds

end FileDurableStore

/-! ### The store in memory -/

namespace MemoryDurableStore

/-- The store holds a snapshot, if any, and a whole journal behind it. -/
structure Holds (store : MemoryDurableStore) (base : DurableImage) (entries : List JournalEntry) :
    Prop where
  snapshot : store.snapshot = [] ∧ base = {} ∨ decodeSnapshot store.limits store.snapshot = .ok base
  whole : Whole store.limits store.journal entries

variable {store : MemoryDurableStore} {base image : DurableImage} {entries : List JournalEntry}

lemma Holds.openStore (h : store.Holds base entries) (hclosed : store.closed = false) :
    ∃ report, store.openStore.1 = .ok (report, (applyAll base entries).2) := by
  have hjournal : ∀ report, ∃ report',
      (store.openJournal base report).1 = .ok (report', (applyAll base entries).2) := by
    intro report
    have hreplay := h.whole.replay_torn (.inl rfl) base
      { report with journalBytes := store.journal.length }
    rw [List.append_nil] at hreplay
    rw [← hreplay]
    exact ⟨_, rfl⟩
  rcases h.snapshot with ⟨hnone, rfl⟩ | hloaded
  · rw [MemoryDurableStore.openStore, if_neg (by simp [hclosed]), if_pos (by simp [hnone])]
    exact hjournal {}
  · rw [openStore_loaded hclosed hloaded]
    exact hjournal _

theorem Holds.append (h : store.Holds base entries) (hentry : Journalable store.limits entry) :
    (store.append entry).2.Holds base
      (if (store.append entry).1.isOk then entries ++ [entry] else entries) := by
  unfold MemoryDurableStore.append
  split
  · exact h
  dsimp only
  split
  · exact ⟨h.snapshot, h.whole⟩
  rw [stampEntry_positioned hentry.positioned, hentry.encodes, if_neg Bool.false_ne_true]
  exact ⟨h.snapshot, h.whole.append hentry⟩

theorem Holds.compact (h : store.Holds base entries) (himage : image.Storable store.limits) :
    if (store.compact image).1.isOk then (store.compact image).2.Holds image []
    else (store.compact image).2.Holds base entries := by
  unfold MemoryDurableStore.compact
  split
  · exact h
  · exact ⟨.inr (decodeSnapshot_encode himage), rfl, fun _ hmem => absurd hmem List.not_mem_nil⟩

end MemoryDurableStore

/-! ### Runs of calls -/

inductive StoreCall where
  | append (entry : JournalEntry)
  | compact (image : DurableImage)
  | flush

namespace StoreCall

def perform {σ : Type} [DurableStore σ] (store : σ) : StoreCall → Status × σ
  | .append entry => DurableStore.append store entry
  | .compact image => DurableStore.compact store image
  | .flush => DurableStore.flush store

/-- What the call writes can be read back, and a compaction is into the image of the store. -/
def Fits (store : FileDurableStore) : StoreCall → Prop
  | .append entry => store.Fits entry
  | .compact image => image.Storable store.limits ∧ loads store = some image
  | .flush => True

end StoreCall

lemma EntryStore.append_eq {store : EntryStore} {image}
    (h : applyJournalEntry store.image entry = .ok image) :
    (store.append entry).2.snapshot = store.snapshot ∧
      (store.append entry).2.entries = store.entries ++ [entry] ∧
      (store.append entry).2.image = image := by
  have himage : (applyAll store.snapshot (store.entries ++ [entry])).2 = image := by
    unfold EntryStore.image at h
    rw [applyAll_concat entry store.replays, h]
  unfold append
  split
  · exact ⟨rfl, rfl, himage⟩
  · rename_i status herror
    cases herror.symm.trans h

variable {store : FileDurableStore} {e : EntryStore}

/-- **Step lemma**: a call that fits is kept if it reports success, and leaves the image before or
after it. -/
theorem FileDurableStore.Holds.perform (h : store.Holds e.snapshot e.entries) {call : StoreCall}
    (hfits : call.Fits store) :
    ((call.perform store).1.isOk →
        (call.perform store).2.Holds (call.perform e).2.snapshot (call.perform e).2.entries) ∧
      (loads (call.perform store).2 = some e.image ∨
        loads (call.perform store).2 = some (call.perform e).2.image) := by
  have hloads : loads store = some e.image := h.loads_eq
  cases call with
  | append entry =>
    have hjournalable := FileDurableStore.Fits.journalable hfits
    obtain ⟨image, happly⟩ := applyJournalEntry_accepts
      hjournalable.storable.within.kind_ne hjournalable.positioned e.image
    obtain ⟨hsnapshot, hentries, -⟩ := EntryStore.append_eq happly
    obtain ⟨hkept, hleft⟩ := h.append hfits
    rw [← hsnapshot, ← hentries] at hkept hleft
    refine ⟨hkept, ?_⟩
    rcases hleft with hsame | hafter
    · exact .inl (hsame.trans hloads)
    · exact .inr hafter.loads_eq
  | compact image =>
    obtain ⟨hkept, hleft⟩ := FileDurableStore.compact_loads hfits.1 hfits.2
    exact ⟨hkept, .inr hleft⟩
  | flush =>
    have hsame : (StoreCall.perform store .flush).2 = store := by
      change (FileDurableStore.flush store).2 = store
      unfold FileDurableStore.flush
      split <;> rfl
    rw [hsame]
    exact ⟨fun _ => h, .inl hloads⟩

/-- **A directory refines a store of entries**: after calls that fit and report success the next
process loads what the entries make of the snapshot, and whatever becomes of one more call that
fits, it loads the image before or after it. -/
theorem FileDurableStore.Holds.run {calls : List StoreCall} (h : store.Holds e.snapshot e.entries)
    (hrun : Transition.RunOk (fun store call => (StoreCall.perform store call).2)
      (fun store call => call.Fits store ∧ (call.perform store).1.isOk) store calls)
    {last : StoreCall}
    (hlast : last.Fits (calls.foldl (fun store call => (call.perform store).2) store)) :
    let store' := calls.foldl (fun store call => (call.perform store).2) store
    let e' := calls.foldl (fun e call => (call.perform e).2) e
    loads store' = some e'.image ∧
      (loads (last.perform store').2 = some e'.image ∨
        loads (last.perform store').2 = some (last.perform e').2.image) := by
  induction calls generalizing store e with
  | nil => exact ⟨h.loads_eq, (h.perform hlast).2⟩
  | cons call calls ih => exact ih ((h.perform hrun.1.1).1 hrun.1.2) hrun.2 hlast

-- behind a torn record an append reports success, and no open replays its entry
example :
    let torn := (FileDurableStore.append { opened := true, handle := .live, writes := [.torn 9] }
      ⟨.setEpoch ⟨1⟩, 1⟩).2
    let accepted := torn.append ⟨.setEpoch ⟨2⟩, 2⟩
    accepted.1.isOk ∧ (loads accepted.2).map (·.epoch) = some .nil := by
  decide +kernel

end CoherenceFabric
