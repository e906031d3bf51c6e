import CoherenceFabric.Model

/-!
The durable image, the journal entries that mutate it, and the interface of a durable store.

A store keeps a snapshot and a journal of entries after it. What it holds is read back by
replaying the journal over the snapshot, so the meaning of a journal is the fold of
`applyJournalEntry`.
-/

namespace CoherenceFabric

structure DurableImage where
  sequence : UInt64 := 0
  epoch : CoordinatorEpoch := .nil
  domains : Map CoherenceDomainId DomainRecord := ∅
  participants : Map ParticipantId ParticipantRecord := ∅
  objects : Map ObjectId ObjectRecord := ∅
  regions : Map RegionId RegionRecord := ∅
  invalidations : Map InvalidationId InvalidationRecord := ∅
  syncs : Map SyncOperationId SyncRecord := ∅
  policies : Map PolicyId CoherencePolicy := ∅
  pendingPublications : Map PublicationId PendingPublication := ∅

namespace DurableImage

def recordCount (image : DurableImage) : Nat :=
  image.domains.size + image.participants.size + image.objects.size + image.regions.size +
    image.invalidations.size + image.syncs.size + image.policies.size +
    image.pendingPublications.size

end DurableImage

/-- What an entry does. At most one payload is meaningful for a kind, so a kind carries it. -/
inductive JournalPayload where
  | invalid
  | snapshot
  | upsertDomain (domain : DomainRecord)
  | upsertParticipant (participant : ParticipantRecord)
  | upsertObject (object : ObjectRecord)
  | upsertRegion (region : RegionRecord)
  | upsertInvalidation (invalidation : InvalidationRecord)
  | upsertSync (sync : SyncRecord)
  | upsertPolicy (policy : CoherencePolicy)
  | setPendingPublication (pending : PendingPublication)
  | clearPendingPublication (object : ObjectId)
  | removeObject (object : ObjectId)
  | removeRegion (region : RegionId)
  | setEpoch (epoch : CoordinatorEpoch)
  | removeSync (sync : SyncOperationId)
  | removeParticipant (participant : ParticipantId)

structure JournalEntry where
  payload : JournalPayload
  sequence : UInt64 := 0

/-- The effect of a payload on the records of an image. -/
def JournalPayload.apply (image : DurableImage) : JournalPayload → DurableImage
  | .invalid => image
  | .snapshot => image
  | .upsertDomain d => { image with domains := image.domains.insert d.id d }
  | .upsertParticipant p => { image with participants := image.participants.insert p.id p }
  | .removeParticipant id => { image with participants := image.participants.erase id }
  | .upsertObject o => { image with objects := image.objects.insert o.id o }
  | .removeObject id => { image with objects := image.objects.erase id }
  | .upsertRegion r => { image with regions := image.regions.insert r.id r }
  | .removeRegion id => { image with regions := image.regions.erase id }
  | .upsertInvalidation i =>
    { image with invalidations := image.invalidations.insert i.id i }
  | .upsertSync s => { image with syncs := image.syncs.insert s.id s }
  | .removeSync id => { image with syncs := image.syncs.erase id }
  | .upsertPolicy p => { image with policies := image.policies.insert p.id p }
  | .setPendingPublication p =>
    { image with pendingPublications := image.pendingPublications.insert p.id p }
  -- every pending publication of the object goes, not one publication
  | .clearPendingPublication id =>
    { image with
      pendingPublications := image.pendingPublications.filter fun _ p => p.object != id }
  | .setEpoch e => { image with epoch := e }

def applyJournalEntry (image : DurableImage) (entry : JournalEntry) : Result DurableImage :=
  if entry.sequence = 0 then
    .error (.make .invalidArgument (text "journal entry carries no log position"))
  else match entry.payload with
    | .snapshot => .ok image
    | .invalid => .error (.make .protocolViolation (text "journal entry kind is not applicable"))
    | payload =>
      let image := payload.apply image
      .ok (if entry.sequence > image.sequence then { image with sequence := entry.sequence }
        else image)

variable {image image' : DurableImage} {entry : JournalEntry}

lemma applyJournalEntry_ok (h : applyJournalEntry image entry = .ok image') :
    ∃ position, image' = { entry.payload.apply image with sequence := position } := by
  unfold applyJournalEntry at h
  split at h
  · cases h
  split at h
  · rename_i hpayload
    cases h
    exact ⟨image.sequence, by rw [hpayload]; rfl⟩
  · cases h
  · cases h
    split
    · exact ⟨entry.sequence, rfl⟩
    · exact ⟨_, rfl⟩

lemma applyJournalEntry_error {status}
    (h : applyJournalEntry image entry = .error status) : status.isOk = false := by
  unfold applyJournalEntry at h
  repeat' split at h
  all_goals cases h
  all_goals rfl

@[simp] lemma JournalPayload.apply_sequence (payload : JournalPayload) (image : DurableImage) :
    (payload.apply image).sequence = image.sequence := by
  cases payload <;> rfl

lemma applyJournalEntry_sequence {payload position}
    (h : applyJournalEntry image ⟨payload, position⟩ = .ok image') (hpayload : payload ≠ .snapshot)
    (hnext : image.sequence < position) : image'.sequence = position := by
  unfold applyJournalEntry at h
  split at h
  · cases h
  split at h
  · exact absurd ‹_› hpayload
  · cases h
  · cases h
    rw [if_pos (by simpa using hnext)]

/-- Dynamic authority is removed before an object is written. -/
def scrubObjectForPersistence (record : ObjectRecord) : ObjectRecord :=
  { record with
    reads := []
    authority := .none
    writer := .nil
    writerBoot := .nil
    hasUnpublishedDirty := false }

/-- A session and its replay counter belong to a live connection. -/
def scrubParticipantForPersistence (record : ParticipantRecord) : ParticipantRecord :=
  { record with session := .nil, live := false, lastSequence := .nil }

/-! ### Durable stores -/

structure LoadReport where
  journalRecordsReplayed : Nat := 0
  corruptRecords : Nat := 0
  snapshotLoaded : Bool := false
  snapshotBytes : Nat := 0
  journalBytes : Nat := 0
  truncatedTail : Bool := false
  deriving DecidableEq

/-- The abstract class `DurableStore`. A call returns what it reports and the store after it. -/
class DurableStore (σ : Type) where
  openStore : σ → Result (LoadReport × DurableImage) × σ
  append : σ → JournalEntry → Status × σ
  compact : σ → DurableImage → Status × σ
  flush : σ → Status × σ
  close : σ → Status × σ
  journalBytes : σ → Nat

namespace DurableStore

variable {σ : Type} [DurableStore σ]

/-- `append_batch`: one entry after the other up to the first failure, then one flush. -/
def appendBatch (store : σ) : List JournalEntry → Status × σ
  | [] => flush store
  | entry :: rest =>
    let appended := append store entry
    if appended.1.isOk then appendBatch appended.2 rest else appended

end DurableStore

end CoherenceFabric
