import CoherenceFabric.Codec.Snapshot
import CoherenceFabric.System

/-!
The two durable stores, over bytes.

Both keep the bytes of a snapshot and of a journal behind it. Opening one decodes the snapshot and
replays the journal up to the first record that is torn, damaged or refused; the tail behind it is
left where it is, and later records are appended behind it.
-/

namespace CoherenceFabric

open Codec

/-! ### Replay -/

/-- The replay loop of `open` over what is left of a journal. Every round takes a record off it, so
the number of its bytes bounds the number of rounds. -/
def replay (limits : StoreLimits) :
    Nat → Bytes → DurableImage → LoadReport → DurableImage × LoadReport
  | 0, _, image, report => (image, report)
  | rounds + 1, data, image, report =>
    if data.isEmpty then (image, report)
    else match (nextRecord limits).run data with
      | .error _ =>
        (image, { report with
          truncatedTail := true, corruptRecords := report.corruptRecords + 1 })
      | .ok (entry, rest) =>
        match applyJournalEntry image entry with
        -- an entry that does not apply ends the replay, but is not reported as a torn tail
        | .error _ => (image, { report with corruptRecords := report.corruptRecords + 1 })
        | .ok image => replay limits rounds rest image
            { report with journalRecordsReplayed := report.journalRecordsReplayed + 1 }

def loadSnapshot (limits : StoreLimits) (bytes : Bytes) : Result (DurableImage × LoadReport) :=
  match decodeSnapshot limits bytes with
  | .error status =>
    .error ⟨status.code, text "durable snapshot rejected", status.toText⟩
  | .ok image => .ok (image, { snapshotLoaded := true, snapshotBytes := bytes.length })

variable {image : DurableImage} {bytes : Bytes}

lemma loadSnapshot_ok {limits} (h : decodeSnapshot limits bytes = .ok image) :
    loadSnapshot limits bytes =
      .ok (image, { snapshotLoaded := true, snapshotBytes := bytes.length }) := by
  rw [loadSnapshot, h]

/-- An entry without a position gets the next one; a position at or past it moves it on. -/
def stampEntry (next : UInt64) (entry : JournalEntry) : JournalEntry × UInt64 :=
  if entry.sequence = 0 then ({ entry with sequence := next }, next + 1)
  else if next ≤ entry.sequence then (entry, entry.sequence + 1)
  else (entry, next)

def notOpen : Status := .make .persistenceFailure (text "durable store is not open")

/-! ### In memory -/

structure MemoryDurableStore where
  limits : StoreLimits := {}
  snapshot : Bytes := []
  journal : Bytes := []
  sequence : UInt64 := 0
  nextSequence : UInt64 := 1
  appendCount : UInt64 := 0
  failAppendAt : UInt64 := 0
  closed : Bool := false
  opened : Bool := false

namespace MemoryDurableStore

variable (store : MemoryDurableStore)

def openJournal (image : DurableImage) (report : LoadReport) :
    Result (LoadReport × DurableImage) × MemoryDurableStore :=
  let loaded := replay store.limits store.journal.length store.journal image
    { report with journalBytes := store.journal.length }
  (.ok (loaded.2, loaded.1),
    { store with
      sequence := loaded.1.sequence, nextSequence := loaded.1.sequence + 1, opened := true })

def openStore : Result (LoadReport × DurableImage) × MemoryDurableStore :=
  if store.closed then
    (.error (.make .persistenceFailure (text "durable store is closed")), store)
  else if store.snapshot.isEmpty then store.openJournal {} {}
  else match loadSnapshot store.limits store.snapshot with
    | .error status => (.error status, store)
    | .ok (image, report) => store.openJournal image report

/-- A store whose snapshot decodes opens with the image of the snapshot and the journal replayed. -/
lemma openStore_loaded {store : MemoryDurableStore} (hclosed : store.closed = false)
    (hsnapshot : decodeSnapshot store.limits store.snapshot = .ok image) :
    store.openStore = store.openJournal image
      { snapshotLoaded := true, snapshotBytes := store.snapshot.length } := by
  have hne : store.snapshot ≠ [] := by
    intro hnil
    have hsize := (decodeSnapshot_sound hsnapshot).1
    rw [hnil] at hsize
    simp [kSnapshotHeaderSize, kSnapshotTrailerSize] at hsize
  rw [openStore, if_neg (by simp [hclosed]), if_neg (by simp [hne]), loadSnapshot_ok hsnapshot]

def append (entry : JournalEntry) : Status × MemoryDurableStore :=
  if store.closed || !store.opened then (notOpen, store)
  else
    let store := { store with appendCount := store.appendCount + 1 }
    if store.failAppendAt ≠ 0 ∧ store.appendCount = store.failAppendAt then
      (⟨.persistenceFailure, text "injected append failure", decimal store.appendCount.toNat⟩,
        store)
    else
      let stamped := stampEntry store.nextSequence entry
      let store := { store with nextSequence := stamped.2 }
      let frame := encodeJournalEntry stamped.1
      if frame.isEmpty then
        (.make .invalidArgument (text "journal entry could not be encoded"), store)
      else
        (.success,
          { store with journal := store.journal ++ frame, sequence := stamped.1.sequence })

def compact (image : DurableImage) : Status × MemoryDurableStore :=
  if store.closed || !store.opened then (notOpen, store)
  else
    (.success,
      { store with
        snapshot := encodeSnapshot image
        journal := []
        sequence := image.sequence
        nextSequence := image.sequence + 1 })

instance : DurableStore MemoryDurableStore where
  openStore := openStore
  append := append
  compact := compact
  flush store := (.success, store)
  close store := (.success, { store with closed := true, opened := false })
  journalBytes store := store.journal.length

end MemoryDurableStore

/-! ### In a directory -/

/-- The files of a durable directory. -/
structure Files where
  snapshot : Option Bytes := none
  journal : Option Bytes := none
  /-- The journal that a compaction has moved out of the way. -/
  compacted : Option Bytes := none

/-- What the operating system does with the bytes of a record. -/
inductive FileWrite where
  | written
  /-- The write fails after some of the bytes. -/
  | torn (count : Nat)
  /-- All bytes are written and the durability barrier fails. -/
  | unflushed

/-- A step of a compaction that the operating system refuses. -/
inductive CompactFault where
  | close | replace | rotate | remove | reopen

/-- The handle of the journal: `journal_` may be null, and may hold a closed handle. -/
inductive JournalHandle where
  | null | closed | live
  deriving DecidableEq

structure FileDurableStore where
  directory : Text := []
  limits : StoreLimits := {}
  files : Files := {}
  handle : JournalHandle := .null
  bytesSinceCompaction : UInt64 := 0
  nextSequence : UInt64 := 1
  opened : Bool := false
  /-- What happens to the writes to come; a write behind the end of the list succeeds. -/
  writes : List FileWrite := []
  /-- What happens to the compactions to come. -/
  compactions : List (Option CompactFault) := []

namespace FileDurableStore

variable (store : FileDurableStore)

def snapshotPath : Text :=
  store.directory ++ text "/coherence-fabric.snapshot"

def openSnapshot : Result (DurableImage × LoadReport) :=
  match store.files.snapshot with
  | none => .ok ({}, {})
  | some bytes =>
    if store.limits.maxSnapshotBytes.toNat < bytes.length then
      .error ⟨.oversizedInput, text "file exceeds the configured read bound",
        store.snapshotPath ++ text " size=" ++ decimal bytes.length ++ text " bound=" ++
          decimal store.limits.maxSnapshotBytes.toNat⟩
    else loadSnapshot store.limits bytes

def openStore : Result (LoadReport × DurableImage) × FileDurableStore :=
  match store.openSnapshot with
  | .error status => (.error status, store)
  | .ok (image, report) =>
    -- a journal that does not exist yet is created empty by opening it for append
    let journal := store.files.journal.getD []
    if store.limits.maxJournalBytes.toNat < journal.length then
      (.error ⟨.oversizedInput, text "journal exceeds the configured bound",
        decimal journal.length⟩, store)
    else
      let loaded := replay store.limits journal.length journal image
        { report with journalBytes := journal.length }
      (.ok (loaded.2, loaded.1),
        { store with
          files := { store.files with journal := some journal }
          handle := .live
          nextSequence := loaded.1.sequence + 1
          opened := true })

lemma openSnapshot_loaded {store : FileDurableStore} (hfile : store.files.snapshot = some bytes)
    (hsnapshot : decodeSnapshot store.limits bytes = .ok image) : store.openSnapshot =
      .ok (image, { snapshotLoaded := true, snapshotBytes := bytes.length }) := by
  have hbound := (decodeSnapshot_sound hsnapshot).2.1
  rw [openSnapshot, hfile]
  simp only
  rw [if_neg (Nat.not_lt.mpr hbound), loadSnapshot_ok hsnapshot]

def writeRecord (frame : Bytes) : Status × FileDurableStore :=
  let extend (bytes : Bytes) : FileDurableStore :=
    { store with
      files := { store.files with journal := some (store.files.journal.getD [] ++ bytes) }
      writes := store.writes.tail }
  let counted (store : FileDurableStore) : FileDurableStore :=
    { store with
      bytesSinceCompaction := store.bytesSinceCompaction + UInt64.ofNat frame.length }
  match store.writes.headD .written with
  | .written => (.success, counted (extend frame))
  | .torn count =>
    (.make .persistenceFailure (text "write failed"), extend (frame.take count))
  | .unflushed =>
    if store.limits.barrierPerAppend then
      (.make .persistenceFailure (text "durability barrier failed"), extend frame)
    else (.success, counted (extend frame))

def append (entry : JournalEntry) : Status × FileDurableStore :=
  if !store.opened || store.handle = .null then (notOpen, store)
  else
    let stamped := stampEntry store.nextSequence entry
    let store := { store with nextSequence := stamped.2 }
    let frame := encodeJournalEntry stamped.1
    -- only an entry of the kind `invalid` has no encoding
    if frame.isEmpty then
      (⟨.invalidArgument, text "journal entry could not be encoded", text "invalid"⟩, store)
    else if store.handle = .closed then
      (.make .persistenceFailure (text "write on a closed file handle"), store)
    else store.writeRecord frame

/-! The steps of a compaction on the files. Each of them is atomic. -/

def replaceSnapshot (files : Files) (image : DurableImage) : Files :=
  { files with snapshot := some (encodeSnapshot image) }

/-- `rotate_file` first removes an old backup; without a journal it does nothing. -/
def dropBackup (files : Files) : Files :=
  if files.journal.isSome then { files with compacted := none } else files

def rotateJournal (files : Files) : Files :=
  match files.journal with
  | none => files
  | some journal => { files with journal := none, compacted := some journal }

def removeCompacted (files : Files) : Files := { files with compacted := none }

def reopenJournal (files : Files) : Files :=
  { files with journal := some (files.journal.getD []) }

/-- What the directory holds before the first step of a compaction and after each of them. -/
def compactionTrace (files : Files) (image : DurableImage) : List Files :=
  let replaced := replaceSnapshot files image
  let dropped := dropBackup replaced
  let rotated := rotateJournal dropped
  let removed := removeCompacted rotated
  [files, replaced, dropped, rotated, removed, reopenJournal removed]

def compact (image : DurableImage) : Status × FileDurableStore :=
  if !store.opened then (notOpen, store)
  else
    let replaced := replaceSnapshot store.files image
    let dropped := dropBackup replaced
    let rotated := rotateJournal dropped
    let removed := removeCompacted rotated
    let fault := store.compactions.headD none
    let store := { store with compactions := store.compactions.tail }
    match fault with
    | some .close =>
      (.make .persistenceFailure (text "close failed"), { store with handle := .closed })
    | some .replace =>
      (.make .persistenceFailure (text "atomic replace failed"), { store with handle := .live })
    | some .rotate =>
      (.make .persistenceFailure (text "cannot rotate file"),
        { store with files := dropped, handle := .closed })
    | some .remove =>
      (.make .persistenceFailure (text "cannot remove file"),
        { store with files := rotated, handle := .closed })
    | some .reopen =>
      (.make .persistenceFailure (text "cannot open file for append"),
        { store with files := removed, handle := .closed })
    | none =>
      (.success,
        { store with
          files := reopenJournal removed
          handle := .live
          bytesSinceCompaction := 0
          nextSequence := image.sequence + 1 })

def flush : Status × FileDurableStore :=
  if store.opened ∧ store.handle = .closed then
    (.make .persistenceFailure (text "flush on a closed file handle"), store)
  else (.success, store)

def close : Status × FileDurableStore :=
  (.success, { store with handle := .null, opened := false })

/-- A new process on the same directory. -/
def remount : FileDurableStore :=
  { directory := store.directory, limits := store.limits, files := store.files,
    writes := store.writes, compactions := store.compactions }

instance : StoreMedium FileDurableStore where
  openStore := openStore
  append := append
  compact := compact
  flush := flush
  close := close
  journalBytes store := (store.files.journal.getD []).length
  remount := remount

end FileDurableStore

end CoherenceFabric
