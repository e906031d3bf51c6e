import CoherenceFabric.Store.Replay

/-!
What a replay recovers from a journal.

Whatever byte a journal is cut at, opening the store applies the entries that are wholly there, in
order, and reports a torn tail if the cut is inside a record.
-/

namespace CoherenceFabric

open Codec FiniteMap Persistence

/-- A length at which a record of the journal ends, or the journal starts. -/
def Boundary (entries : List JournalEntry) (n : Nat) : Prop :=
  ∃ k ≤ entries.length, ((entries.take k).flatMap encodeJournalEntry).length = n

lemma replay_take {limits entries n} (hentries : ∀ entry ∈ entries, Journalable limits entry)
    (hn : n ≤ (entries.flatMap encodeJournalEntry).length) (image : DurableImage)
    (report : LoadReport) (hreport : report.truncatedTail = false) :
    ∃ report', replay limits ((entries.flatMap encodeJournalEntry).take n).length
        ((entries.flatMap encodeJournalEntry).take n) image report =
        ((applyAll image (entries.take (contained encodeJournalEntry entries n))).2, report') ∧
      (report'.truncatedTail = true ↔ ¬ Boundary entries n) := by
  obtain ⟨torn, htake, htorn⟩ := take_stream encodeJournalEntry entries n hn
  have hlength : n = ((entries.take (contained encodeJournalEntry entries n)).flatMap
      encodeJournalEntry).length + torn.length := by
    rw [← List.length_append, ← htake, List.length_take, Nat.min_eq_left hn]
  have hrefused : torn = [] ∨ ∀ r, (nextRecord limits).run torn ≠ .ok r := by
    refine htorn.imp_right ?_
    rintro ⟨entry, hmem, tail, htail, heq⟩ r
    exact (reads_record limits).prefix_refused (hentries entry hmem).storable heq htail r
  have hboundary : torn = [] ↔ Boundary entries n := by
    constructor
    · rintro rfl
      exact ⟨_, contained_le .., hlength.symm⟩
    rintro ⟨k, hk, heq⟩
    -- the first `k` records take all of the cut, so no byte is left for a torn one
    have hcontained := le_contained encodeJournalEntry entries hk (Nat.le_of_eq heq)
    have hmono := length_take_flatMap_mono encodeJournalEntry entries hcontained
    exact List.length_eq_zero_iff.mp (by omega)
  rw [htake]
  refine ⟨_, replay_stream hrefused
    (fun entry hmem => hentries entry (List.mem_of_mem_take hmem)) (Nat.le_refl _), ?_⟩
  rw [← hboundary, hreport]
  simp

/-- A store whose snapshot holds an image and whose journal is cut after `n` bytes loads the image
with the entries applied that are wholly within the cut, and reports a torn tail exactly if the cut
is inside a record. The file store also bounds the length of the journal. -/
theorem torn_journal_replays_whole_entries (limits : StoreLimits) (snapshot : Bytes)
    (image : DurableImage)
    (entries : List JournalEntry) (n : Nat) (hsnapshot : decodeSnapshot limits snapshot = .ok image)
    (hentries : ∀ entry ∈ entries, Journalable limits entry)
    (hn : n ≤ (entries.flatMap encodeJournalEntry).length) :
    (∀ store : MemoryDurableStore, store.limits = limits → store.closed = false →
      store.snapshot = snapshot → store.journal = (entries.flatMap encodeJournalEntry).take n →
      ∃ report, store.openStore.1 = .ok (report,
          (applyAll image (entries.take (contained encodeJournalEntry entries n))).2) ∧
        (report.truncatedTail = true ↔ ¬ Boundary entries n)) ∧
    ∀ store : FileDurableStore, store.limits = limits → store.files.snapshot = some snapshot →
      store.files.journal = some ((entries.flatMap encodeJournalEntry).take n) →
      n ≤ limits.maxJournalBytes.toNat →
      ∃ report, store.openStore.1 = .ok (report,
          (applyAll image (entries.take (contained encodeJournalEntry entries n))).2) ∧
        (report.truncatedTail = true ↔ ¬ Boundary entries n) := by
  constructor
  · rintro store rfl hclosed rfl hjournal
    obtain ⟨report, hreplay, htail⟩ := replay_take hentries hn image
      { snapshotLoaded := true, snapshotBytes := store.snapshot.length,
        journalBytes := store.journal.length } rfl
    refine ⟨report, ?_, htail⟩
    rw [← hjournal] at hreplay
    rw [MemoryDurableStore.openStore_loaded hclosed hsnapshot]
    simp only [MemoryDurableStore.openJournal]
    rw [hreplay]
  rintro store rfl hfile hjournal hlimit
  have hlength : ((entries.flatMap encodeJournalEntry).take n).length = n := by
    rw [List.length_take, Nat.min_eq_left hn]
  obtain ⟨report, hreplay, htail⟩ := replay_take hentries hn image
    { snapshotLoaded := true, snapshotBytes := snapshot.length,
      journalBytes := ((entries.flatMap encodeJournalEntry).take n).length } rfl
  refine ⟨report, ?_, htail⟩
  rw [FileDurableStore.openStore, FileDurableStore.openSnapshot_loaded hfile hsnapshot]
  simp only [hjournal, Option.getD_some]
  rw [if_neg (by omega), hreplay]

lemma emptyImage_storable (limits : StoreLimits) (hbytes : 1000 ≤ limits.maxSnapshotBytes.toNat) :
    DurableImage.Storable limits {} := by
  refine ⟨⟨.empty .., .empty .., .empty .., .empty .., .empty .., .empty .., .empty .., .empty ..⟩,
    ?_, ?_⟩
  · exact Nat.zero_le _
  · refine Nat.le_trans ?_ hbytes
    rw [length_encodeSnapshot]
    decide +kernel

def genesis (generation : UInt64) : JournalEntry :=
  { sequence := 1
    payload := .upsertDomain { id := ⟨1⟩, name := text "d", generation := generation } }

def cutStore (n : Nat) : MemoryDurableStore :=
  { snapshot := encodeSnapshot {}
    journal := ([genesis 1, genesis 2].flatMap encodeJournalEntry).take n }

theorem torn_journal_replays_whole_entries_genesis : ∃ report, (cutStore 100).openStore.1 =
        .ok (report, (applyAll {} ([genesis 1, genesis 2].take
          (contained encodeJournalEntry [genesis 1, genesis 2] 100))).2) ∧
      (report.truncatedTail = true ↔ ¬ Boundary [genesis 1, genesis 2] 100) := by
  refine (torn_journal_replays_whole_entries {} _ {} [genesis 1, genesis 2] 100
    (decodeSnapshot_encode (emptyImage_storable {} (by decide))) ?_ (by decide +kernel)).1
      (cutStore 100) rfl rfl rfl rfl
  intro entry hmem
  simp only [List.mem_cons, List.not_mem_nil, or_false] at hmem
  rcases hmem with rfl | rfl
  · exact ⟨⟨⟨by decide, by decide⟩, by decide +kernel⟩, by decide⟩
  · exact ⟨⟨⟨by decide, by decide⟩, by decide +kernel⟩, by decide⟩

def boundedStore : FileDurableStore :=
  { limits := { maxJournalBytes := 0 }
    files :=
      { snapshot := some (encodeSnapshot {}), journal := some (encodeJournalEntry (genesis 1)) } }

def unnumberedStore : MemoryDurableStore :=
  { snapshot := encodeSnapshot {}, journal := encodeJournalEntry (genesis 0) }

/-- A journal that is longer than its bound is refused whole by the file store, and a domain of
generation zero is taken for a torn record, whatever the limits of the reader. -/
theorem torn_journal_needs_bound_and_generation :
    (∃ status, boundedStore.openStore.1 = .error status) ∧ (genesis 0).payload.bytes.length ≤ 100 ∧
      ∃ report, unnumberedStore.openStore.1 = .ok (report, {}) ∧ report.truncatedTail = true := by
  refine ⟨?_, by decide +kernel, ?_⟩
  · have hload := decodeSnapshot_encode (emptyImage_storable boundedStore.limits (by decide))
    have hopen := FileDurableStore.openSnapshot_loaded rfl hload
    rw [FileDurableStore.openStore, hopen]
    exact ⟨_, congrArg Prod.fst (if_pos (by decide +kernel))⟩
  have hload := decodeSnapshot_encode (emptyImage_storable unnumberedStore.limits (by decide))
  have hrefused : ∀ r, (nextRecord {}).run (encodeJournalEntry (genesis 0)) ≠ .ok r := by
    intro r hrun
    have hfails : ((nextRecord {}).run (encodeJournalEntry (genesis 0))).isOk = false := by
      decide +kernel
    rw [hrun] at hfails
    cases hfails
  have hreplay := @replay_stream {} _ (.inr hrefused) [] _ {}
    { snapshotLoaded := true, snapshotBytes := unnumberedStore.snapshot.length,
      journalBytes := unnumberedStore.journal.length }
    (fun _ h => absurd h List.not_mem_nil) (Nat.le_refl _)
  rw [MemoryDurableStore.openStore_loaded rfl hload]
  refine ⟨_, congrArg (fun loaded : DurableImage × LoadReport =>
      Except.ok (loaded.2, loaded.1)) hreplay,
    ?_⟩
  decide +kernel

/-! ### Compaction -/

namespace FileDurableStore

/-- A directory compacted into the image that it opens with opens with it again, whichever step
fails or is the last. -/
theorem compaction_keeps_image (store : FileDurableStore) (held : DurableImage) {report}
    (hopen : store.openStore.1 = .ok (report, held)) (hstorable : held.Storable store.limits) :
    (store.compact held).2.files ∈ compactionTrace store.files held ∧
      ∀ files ∈ compactionTrace store.files held, ∃ report,
        (remount { store with files := files }).openStore.1 = .ok (report, held) :=
  ⟨(compact_trace store held).1, fun _ hfiles => openStore_trace hopen hstorable hfiles⟩

def domainsOf (sequence : UInt64) (ids : List CoherenceDomainId) : DurableImage :=
  { sequence := sequence
    domains := ids.foldl (fun domains id => domains.insert id { id := id, name := text "d" }) ∅ }

lemma domainsOf_storable {sequence} {ids : List CoherenceDomainId} {limits : StoreLimits}
    (hsize : (domainsOf sequence ids).domains.size ≤ defaultDecodeLimits.maxCollection.toNat)
    (hrecords : (domainsOf sequence ids).recordCount ≤ limits.maxRecords.toNat)
    (hbytes : (encodeImagePayload (domainsOf sequence ids)).length +
      (kSnapshotHeaderSize + kSnapshotTrailerSize) ≤ limits.maxSnapshotBytes.toNat) :
    (domainsOf sequence ids).Storable limits := by
  have hall : ∀ {P : CoherenceDomainId → DomainRecord → Prop},
      (∀ id, P id { id := id, name := text "d" }) → All P (domainsOf sequence ids).domains :=
    fun hnew => Transition.foldl_invariant (fun _ id h => h.insert (hnew id)) all_empty
  have hname : (text "d").length ≤ defaultDecodeLimits.maxText.toNat := by decide
  have hgeneration : (1 : UInt64) ≠ 0 := by decide
  have hdomains : Filed defaultDecodeLimits DomainRecord.id
      (DomainRecord.Within defaultDecodeLimits) (domainsOf sequence ids).domains :=
    ⟨hall fun _ => rfl, hall fun _ => ⟨hname, hgeneration⟩, hsize⟩
  refine ⟨⟨hdomains, .empty .., .empty .., .empty .., .empty .., .empty .., .empty .., .empty ..⟩,
    hrecords, ?_⟩
  rwa [length_encodeSnapshot]

def twoDomains : FileDurableStore :=
  { opened := true
    handle := .live
    files :=
      { snapshot := some (encodeSnapshot (domainsOf 1 [⟨1⟩]))
        journal := some (encodeJournalEntry
          ⟨.upsertDomain { id := ⟨2⟩, name := text "d" }, 2⟩) } }

lemma twoDomains_holds : twoDomains.Holds (domainsOf 1 [⟨1⟩])
    [⟨.upsertDomain { id := ⟨2⟩, name := text "d" }, 2⟩] := by
  have hstorable : (domainsOf 1 [⟨1⟩]).Storable twoDomains.limits :=
    domainsOf_storable (by decide +kernel) (by decide +kernel) (by decide +kernel)
  refine ⟨⟨_, openSnapshot_loaded rfl (decodeSnapshot_encode hstorable)⟩, ⟨?_, ?_⟩, by
    decide +kernel⟩
  · exact (List.append_nil _).symm
  · intro entry hmem
    cases List.mem_singleton.mp hmem
    exact ⟨⟨⟨by decide, by decide⟩, by decide +kernel⟩, by decide⟩

/-- Both domains are there after the compaction and after a stop at any of its steps. -/
theorem compaction_keeps_image_domains :
    (∃ report, twoDomains.openStore.1 = .ok (report, domainsOf 2 [⟨1⟩, ⟨2⟩])) ∧
      (twoDomains.compact (domainsOf 2 [⟨1⟩, ⟨2⟩])).1.isOk ∧
      (twoDomains.compact (domainsOf 2 [⟨1⟩, ⟨2⟩])).2.files ∈
        compactionTrace twoDomains.files (domainsOf 2 [⟨1⟩, ⟨2⟩]) ∧
      ∀ files ∈ compactionTrace twoDomains.files (domainsOf 2 [⟨1⟩, ⟨2⟩]), ∃ report,
        (remount { twoDomains with files := files }).openStore.1 =
          .ok (report, domainsOf 2 [⟨1⟩, ⟨2⟩]) := by
  have hstorable : (domainsOf 2 [⟨1⟩, ⟨2⟩]).Storable twoDomains.limits :=
    domainsOf_storable (by decide +kernel) (by decide +kernel) (by decide +kernel)
  have himage : (applyAll (domainsOf 1 [⟨1⟩])
      [⟨.upsertDomain { id := ⟨2⟩, name := text "d" }, 2⟩]).2 = domainsOf 2 [⟨1⟩, ⟨2⟩] := by
    simp [applyAll, applyJournalEntry, JournalPayload.apply, domainsOf]
  obtain ⟨report, hopen⟩ := loads_eq_some.mp twoDomains_holds.loads_eq
  rw [himage] at hopen
  have hloaded : twoDomains.openStore.1 = .ok (report, domainsOf 2 [⟨1⟩, ⟨2⟩]) := by
    rw [← hopen]
    exact openStore_congr rfl rfl rfl
  exact ⟨⟨report, hloaded⟩, rfl, compaction_keeps_image twoDomains _ hloaded hstorable⟩

end FileDurableStore

end CoherenceFabric
