import CoherenceFabric.Codec.Journal
import CoherenceFabric.Lib.Index

/-!
Snapshots as bytes.

A snapshot is a header of 32 bytes, the image, and a digest of both. The image is eight collections,
each behind its count and in key order; a decoder puts the records back under their own identities.
-/

namespace CoherenceFabric

open Codec FiniteMap ByteWriter

def kSnapshotMagic : UInt32 := 0x43465331

def kSnapshotFormatVersion : UInt16 := 1

def persistenceSchema : UInt32 := 1

def kSnapshotHeaderSize : Nat := 32

def kSnapshotTrailerSize : Nat := 32

/-! ### The image -/

section Collections

variable {κ α : Type} [Ord κ] [Std.TransOrd κ]

/-- The records of a map in key order, behind their number. -/
def encMap (encode : α → Bytes) (records : Map κ α) : Bytes :=
  encList encode (records.toList.map Prod.snd)

/-- `decode_collection`: of two records with one identity the first stays. -/
def decodeCollection (limits : DecodeLimits) (decode : ByteReader α) (key : α → κ) :
    ByteReader (Map κ α) :=
  (fun records => index key records ∅) <$> decList limits decode

end Collections

section Image

open ByteReader (u64 strongId)

def encodeImagePayload (image : DurableImage) : Bytes :=
  [u64 image.sequence, strongId image.epoch,
   encMap encodeDomain image.domains, encMap encodeParticipant image.participants,
   encMap encodePolicy image.policies, encMap encodeObject image.objects,
   encMap encodeRegion image.regions, encMap encodeInvalidation image.invalidations,
   encMap encodeSync image.syncs,
   encMap encodePendingPublication image.pendingPublications].flatten

def decodeImagePayload (limits : DecodeLimits) : ByteReader DurableImage := do
  let sequence ← u64
  let epoch ← strongId
  let domains ← decodeCollection limits (decodeDomain limits) DomainRecord.id
  let participants ← decodeCollection limits (decodeParticipant limits) ParticipantRecord.id
  let policies ← decodeCollection limits (decodePolicy limits) CoherencePolicy.id
  let objects ← decodeCollection limits (decodeObject limits) ObjectRecord.id
  let regions ← decodeCollection limits (decodeRegion limits) RegionRecord.id
  let invalidations ← decodeCollection limits (decodeInvalidation limits) InvalidationRecord.id
  let syncs ← decodeCollection limits (decodeSync limits) SyncRecord.id
  let pendingPublications ←
    decodeCollection limits (decodePendingPublication limits) PendingPublication.id
  return { sequence, epoch, domains, participants, policies, objects, regions, invalidations,
           syncs, pendingPublications }

end Image

/-! ### The file -/

section File

open ByteWriter (u16 u32 u64)

def snapshotHeader (payloadLength : UInt64) (payloadCrc headerCrc : UInt32) (sequence : UInt64) :
    Bytes :=
  u32 kSnapshotMagic ++ (u16 kSnapshotFormatVersion ++ (u16 persistenceSchema.toUInt16 ++
    (u64 payloadLength ++ (u32 payloadCrc ++ (u32 headerCrc ++ u64 sequence)))))

/-- The checksum of a header covers all but its last four bytes, with its own field zeroed. -/
def headerChecksum (header : Bytes) : UInt32 := crc32c 0 (header.take (kSnapshotHeaderSize - 4))

def encodeSnapshot (image : DurableImage) : Bytes :=
  let payload := encodeImagePayload image
  let header := snapshotHeader (UInt64.ofNat payload.length) (crc32c kPayloadCrcSeed payload)
  let bytes := header (headerChecksum (header 0 image.sequence)) image.sequence ++ payload
  bytes ++ Sha256.digest bytes

def storeU32 (dst : Bytes) (offset : Nat) (value : UInt32) : Bytes :=
  dst.take offset ++ u32 value ++ dst.drop (offset + 4)

def checkedAdd (a b : UInt64) : Option UInt64 :=
  if UInt64.size - 1 - b.toNat < a.toNat then none else some (a + b)

/-- The checks on the header of a snapshot, with the length that it declares in all. -/
def snapshotHeaderCheck (limits : StoreLimits) (bytes : Bytes) : Result UInt64 :=
  if bytes.length < kSnapshotHeaderSize + kSnapshotTrailerSize then
    .error (.make .truncatedInput (text "snapshot is shorter than its header and trailer"))
  else if loadU32 bytes 0 ≠ kSnapshotMagic then
    .error (.make .corruptionDetected (text "snapshot magic mismatch"))
  else if loadU16 bytes 4 ≠ kSnapshotFormatVersion then
    .error ⟨.unsupportedSchema, text "snapshot format version is not supported",
      decimal (loadU16 bytes 4).toNat⟩
  else if loadU16 bytes 6 ≠ persistenceSchema.toUInt16 then
    .error ⟨.unsupportedSchema, text "snapshot schema is not supported",
      decimal (loadU16 bytes 6).toNat⟩
  else match (checkedAdd (loadU64 bytes 8)
      (UInt64.ofNat (kSnapshotHeaderSize + kSnapshotTrailerSize))).filter
      (· ≤ limits.maxSnapshotBytes) with
    | none =>
      .error ⟨.oversizedInput, text "snapshot payload length exceeds the configured bound",
        text "declared=" ++ decimal (loadU64 bytes 8).toNat⟩
    | some expectedTotal => .ok expectedTotal

/-- The checks on the bytes of a snapshot, once its declared length is known. -/
def snapshotIntegrity (bytes : Bytes) (expectedTotal : UInt64) : Option Status :=
  let payloadLength := (loadU64 bytes 8).toNat
  if bytes.length ≠ expectedTotal.toNat then
    some ⟨.trailingGarbage, text "snapshot size does not match the declared payload length",
      text "declared=" ++ decimal expectedTotal.toNat ++ text " actual=" ++
        decimal bytes.length⟩
  else if headerChecksum (storeU32 (bytes.take kSnapshotHeaderSize) 20 0) ≠ loadU32 bytes 20 then
    some (.make .integrityFailure (text "snapshot header failed its CRC-32C check"))
  else if crc32c kPayloadCrcSeed ((bytes.drop kSnapshotHeaderSize).take payloadLength) ≠
      loadU32 bytes 16 then
    some (.make .integrityFailure (text "snapshot payload failed its CRC-32C check"))
  else if (bytes.drop (kSnapshotHeaderSize + payloadLength)).take kSnapshotTrailerSize ≠
      Sha256.digest (bytes.take (kSnapshotHeaderSize + payloadLength)) then
    some (.make .integrityFailure (text "snapshot failed its SHA-256 integrity check"))
  else none

def decodeSnapshot (limits : StoreLimits) (bytes : Bytes) : Result DurableImage := do
  let expectedTotal ← snapshotHeaderCheck limits bytes
  match snapshotIntegrity bytes expectedTotal with
  | some status => .error status
  | none =>
    let payload := (bytes.drop kSnapshotHeaderSize).take (loadU64 bytes 8).toNat
    match (decodeImagePayload defaultDecodeLimits).run payload with
    | .error failure =>
      let status := ByteReader.status failure payload.length
      .error (if status.code = .ok then .make .corruptionDetected
        (text "snapshot payload could not be decoded") else status)
    | .ok (image, rest) =>
      let finish := ByteReader.expectEnd (text "snapshot") rest
      if !finish.isOk then .error finish
      else if loadU64 bytes 24 ≠ image.sequence then
        .error (.make .integrityFailure (text "snapshot sequence disagrees with its payload"))
      else if limits.maxRecords.toNat < image.recordCount then
        .error (.make .oversizedInput (text "snapshot exceeds the configured record bound"))
      else .ok image

end File

/-! ### What is read back -/

variable {input rest bytes : Bytes} {image : DurableImage}

section Collections

variable {κ α : Type} [Ord κ] [Std.TransOrd κ]

/-- A collection that a decoder puts back together: every record is filed under its own identity
and passes the decoder, and there are not too many of them. -/
structure Filed (limits : DecodeLimits) (key : α → κ) (valid : α → Prop) (records : Map κ α) :
    Prop where
  keyed : All (fun k record => key record = k) records
  valid : All (fun _ record => valid record) records
  count : records.size ≤ limits.maxCollection.toNat

lemma Filed.empty (limits : DecodeLimits) (key : α → κ) (valid : α → Prop) :
    Filed limits key valid (∅ : Map κ α) :=
  ⟨all_empty, all_empty, by simp⟩

variable [Std.LawfulEqOrd κ]

lemma decodeCollection_encMap {limits decode encode key valid} {records : Map κ α}
    [hread : Field decode encode valid] (h : Filed limits key valid records) (rest : Bytes) :
    (decodeCollection limits decode key).run (encMap encode records ++ rest) =
      .ok (records, rest) := by
  refine map_run_ok.mpr ⟨records.toList.map Prod.snd, ?_, index_toList h.keyed⟩
  refine (reads_listOf limits hread.toReads).round_trip ⟨?_, ?_⟩ rest
  · rw [List.length_map, Std.ExtTreeMap.length_toList]
    exact h.count
  · intro record hmem
    obtain ⟨entry, hentry, rfl⟩ := List.mem_map.mp hmem
    exact h.valid _ _ (mem_toList_iff_getElem?_eq_some.mp hentry)

lemma decodeCollection_valid {limits decode encode key valid}
    {records : Map κ α} [hread : Field decode encode valid]
    (h : (decodeCollection limits decode key).run input = .ok (records, rest)) :
    Filed limits key valid records := by
  obtain ⟨list, hlist, rfl⟩ := map_run_ok.mp h
  obtain ⟨⟨hcount, hvalid⟩, -⟩ := (reads_listOf limits hread.toReads).iff.mp hlist
  have horigin : ∀ k record, (index key list ∅)[k]? = some record →
      record ∈ list ∧ key record = k := by
    intro k record hget
    exact (index_origin hget).resolve_left (by simp)
  refine ⟨fun k record hget => (horigin k record hget).2,
    fun k record hget => hvalid record (horigin k record hget).1, ?_⟩
  have hsize : (index key list ∅).size ≤ (∅ : Map κ α).size + list.length := size_index_le
  rw [Std.ExtTreeMap.size_empty, Nat.zero_add] at hsize
  exact Nat.le_trans hsize hcount

end Collections

/-- Every collection of the image is put back together by the decoder. -/
structure DurableImage.Filed (limits : DecodeLimits) (image : DurableImage) : Prop where
  domains : CoherenceFabric.Filed limits DomainRecord.id (DomainRecord.Within limits) image.domains
  participants : CoherenceFabric.Filed limits ParticipantRecord.id
    (ParticipantRecord.Within limits) image.participants
  policies : CoherenceFabric.Filed limits CoherencePolicy.id (CoherencePolicy.Within limits)
    image.policies
  objects : CoherenceFabric.Filed limits ObjectRecord.id (ObjectRecord.Within limits) image.objects
  regions : CoherenceFabric.Filed limits RegionRecord.id (RegionRecord.Within limits) image.regions
  invalidations : CoherenceFabric.Filed limits InvalidationRecord.id
    (InvalidationRecord.Within limits) image.invalidations
  syncs : CoherenceFabric.Filed limits SyncRecord.id (SyncRecord.Within limits) image.syncs
  pendingPublications : CoherenceFabric.Filed limits PendingPublication.id
    (PendingPublication.Within limits) image.pendingPublications

lemma decodeImagePayload_encode {limits : DecodeLimits} (h : image.Filed limits) :
    (decodeImagePayload limits).run (encodeImagePayload image) = .ok (image, []) := by
  unfold decodeImagePayload encodeImagePayload
  simp only [List.flatten_cons, List.flatten_nil]
  rw [bind_run_eq (ByteReader.reads_u64.round_trip trivial _),
    bind_run_eq (ByteReader.reads_strongId.round_trip trivial _),
    bind_run_eq (decodeCollection_encMap h.domains _),
    bind_run_eq (decodeCollection_encMap h.participants _),
    bind_run_eq (decodeCollection_encMap h.policies _),
    bind_run_eq (decodeCollection_encMap h.objects _),
    bind_run_eq (decodeCollection_encMap h.regions _),
    bind_run_eq (decodeCollection_encMap h.invalidations _),
    bind_run_eq (decodeCollection_encMap h.syncs _),
    bind_run_eq (decodeCollection_encMap h.pendingPublications _)]
  rfl

lemma decodeImagePayload_filed {limits : DecodeLimits}
    (h : (decodeImagePayload limits).run input = .ok (image, rest)) : image.Filed limits := by
  unfold decodeImagePayload at h
  obtain ⟨_, _, -, h⟩ := bind_run_ok.mp h
  obtain ⟨_, _, -, h⟩ := bind_run_ok.mp h
  obtain ⟨_, _, hdomains, h⟩ := bind_run_ok.mp h
  obtain ⟨_, _, hparticipants, h⟩ := bind_run_ok.mp h
  obtain ⟨_, _, hpolicies, h⟩ := bind_run_ok.mp h
  obtain ⟨_, _, hobjects, h⟩ := bind_run_ok.mp h
  obtain ⟨_, _, hregions, h⟩ := bind_run_ok.mp h
  obtain ⟨_, _, hinvalidations, h⟩ := bind_run_ok.mp h
  obtain ⟨_, _, hsyncs, h⟩ := bind_run_ok.mp h
  obtain ⟨_, _, hpending, h⟩ := bind_run_ok.mp h
  obtain ⟨rfl, rfl⟩ := pure_run_ok.mp h
  exact
    { domains := decodeCollection_valid hdomains
      participants := decodeCollection_valid hparticipants
      policies := decodeCollection_valid hpolicies
      objects := decodeCollection_valid hobjects
      regions := decodeCollection_valid hregions
      invalidations := decodeCollection_valid hinvalidations
      syncs := decodeCollection_valid hsyncs
      pendingPublications := decodeCollection_valid hpending }

/-! ### The header of a snapshot -/

lemma length_snapshotHeader (length : UInt64) (crc header : UInt32) (sequence : UInt64) :
    (snapshotHeader length crc header sequence).length = kSnapshotHeaderSize := by
  simp [snapshotHeader, kSnapshotHeaderSize]

/-- Zeroing the checksum field gives the header that the checksum was computed over. -/
lemma storeU32_snapshotHeader (length : UInt64) (crc header : UInt32) (sequence : UInt64) :
    storeU32 (snapshotHeader length crc header sequence) 20 0 =
      snapshotHeader length crc 0 sequence := by
  have hfront : ∀ header' : UInt32, snapshotHeader length crc header' sequence =
      (u32 kSnapshotMagic ++ u16 kSnapshotFormatVersion ++
        u16 persistenceSchema.toUInt16 ++ u64 length ++
          u32 crc) ++ (u32 header' ++ u64 sequence) := by
    simp [snapshotHeader]
  rw [storeU32, hfront, hfront, List.take_left' (by simp), ← List.drop_drop,
    List.drop_left' (by simp), List.drop_left' (by simp), List.append_assoc]

namespace DurableImage

def header (image : DurableImage) : Bytes :=
  let payload := encodeImagePayload image
  let fields := snapshotHeader (UInt64.ofNat payload.length) (crc32c kPayloadCrcSeed payload)
  fields (headerChecksum (fields 0 image.sequence)) image.sequence

variable (image : DurableImage) (rest : Bytes)

@[simp] lemma length_header : image.header.length = kSnapshotHeaderSize :=
  length_snapshotHeader ..

lemma header_magic : loadU32 (image.header ++ rest) 0 = kSnapshotMagic := by
  simp [loadU32, header, snapshotHeader]

lemma header_format : loadU16 (image.header ++ rest) 4 = kSnapshotFormatVersion := by
  simp [loadU16, header, snapshotHeader]

lemma header_schema : loadU16 (image.header ++ rest) 6 = persistenceSchema.toUInt16 := by
  simp only [loadU16, header, snapshotHeader, List.append_assoc, loadLe_u32, loadLe_u16,
    loadLe_u16_zero, UInt16.ofNat_toNat]

lemma header_length : loadU64 (image.header ++ rest) 8 =
    UInt64.ofNat (encodeImagePayload image).length := by
  simp only [loadU64, header, snapshotHeader, List.append_assoc, loadLe_u32, loadLe_u16,
    loadLe_u64_zero, UInt64.ofNat_toNat]

lemma header_crc : loadU32 (image.header ++ rest) 16 =
    crc32c kPayloadCrcSeed (encodeImagePayload image) := by
  simp [loadU32, header, snapshotHeader]

lemma header_checksum : loadU32 (image.header ++ rest) 20 =
    headerChecksum (storeU32 image.header 20 0) := by
  rw [header, storeU32_snapshotHeader]
  simp [loadU32, snapshotHeader]

lemma header_sequence : loadU64 (image.header ++ rest) 24 = image.sequence := by
  simp [loadU64, header, snapshotHeader]

end DurableImage

/-! ### Snapshots -/

lemma encodeSnapshot_eq (image : DurableImage) :
    encodeSnapshot image = image.header ++ (encodeImagePayload image ++
      Sha256.digest (image.header ++ encodeImagePayload image)) :=
  List.append_assoc ..

lemma length_encodeSnapshot (image : DurableImage) : (encodeSnapshot image).length =
      (encodeImagePayload image).length + (kSnapshotHeaderSize + kSnapshotTrailerSize) := by
  rw [encodeSnapshot_eq]
  simp [kSnapshotTrailerSize, kSnapshotHeaderSize]
  omega

/-- What an image must satisfy to be read back from its snapshot. -/
structure DurableImage.Storable (limits : StoreLimits) (image : DurableImage) : Prop where
  filed : image.Filed defaultDecodeLimits
  records : image.recordCount ≤ limits.maxRecords.toNat
  bytes : (encodeSnapshot image).length ≤ limits.maxSnapshotBytes.toNat

lemma checkedAdd_ofNat {a b} (h : a + b < UInt64.size) :
    checkedAdd (UInt64.ofNat a) (UInt64.ofNat b) = some (UInt64.ofNat (a + b)) := by
  have ha : (UInt64.ofNat a).toNat = a := UInt64.toNat_ofNat_of_lt' (by omega)
  have hb : (UInt64.ofNat b).toNat = b := UInt64.toNat_ofNat_of_lt' (by omega)
  rw [checkedAdd, ha, hb, if_neg (by omega), UInt64.ofNat_add]

lemma snapshotHeaderCheck_encode {limits}
    (h : (encodeSnapshot image).length ≤ limits.maxSnapshotBytes.toNat) :
    snapshotHeaderCheck limits (encodeSnapshot image) =
      .ok (UInt64.ofNat (encodeSnapshot image).length) := by
  have hsize := length_encodeSnapshot image
  have hword : (encodeSnapshot image).length < UInt64.size :=
    Nat.lt_of_le_of_lt h limits.maxSnapshotBytes.toNat_lt
  have htotal : (UInt64.ofNat (encodeSnapshot image).length).toNat =
      (encodeSnapshot image).length := UInt64.toNat_ofNat_of_lt' hword
  have hadd : (checkedAdd (UInt64.ofNat (encodeImagePayload image).length)
      (UInt64.ofNat (kSnapshotHeaderSize + kSnapshotTrailerSize))).filter
        (· ≤ limits.maxSnapshotBytes) = some (UInt64.ofNat (encodeSnapshot image).length) := by
    rw [checkedAdd_ofNat (by omega), ← hsize, Option.filter_some, if_pos]
    exact decide_eq_true (UInt64.le_iff_toNat_le.mpr (htotal.symm ▸ h))
  have hmagic : loadU32 (encodeSnapshot image) 0 = kSnapshotMagic := by
    rw [encodeSnapshot_eq, image.header_magic]
  have hformat : loadU16 (encodeSnapshot image) 4 = kSnapshotFormatVersion := by
    rw [encodeSnapshot_eq, image.header_format]
  have hschema : loadU16 (encodeSnapshot image) 6 = persistenceSchema.toUInt16 := by
    rw [encodeSnapshot_eq, image.header_schema]
  have hdeclared : loadU64 (encodeSnapshot image) 8 =
      UInt64.ofNat (encodeImagePayload image).length := by
    rw [encodeSnapshot_eq, image.header_length]
  unfold snapshotHeaderCheck
  rw [if_neg (by omega), if_neg (by simp [hmagic]), if_neg (by simp [hformat]),
    if_neg (by simp [hschema]), hdeclared, hadd]

lemma snapshotIntegrity_encode (h : (encodeSnapshot image).length < UInt64.size) :
    snapshotIntegrity (encodeSnapshot image) (UInt64.ofNat (encodeSnapshot image).length) =
      none := by
  have hsize := length_encodeSnapshot image
  have hlength : (loadU64 (encodeSnapshot image) 8).toNat = (encodeImagePayload image).length := by
    rw [encodeSnapshot_eq, image.header_length]
    exact UInt64.toNat_ofNat_of_lt' (by omega)
  have hheader : (encodeSnapshot image).take kSnapshotHeaderSize = image.header := by
    rw [encodeSnapshot_eq, List.take_left' (by simp)]
  have hchecksum : loadU32 (encodeSnapshot image) 20 =
      headerChecksum (storeU32 image.header 20 0) := by
    rw [encodeSnapshot_eq, image.header_checksum]
  have hpayload : ((encodeSnapshot image).drop kSnapshotHeaderSize).take
      (encodeImagePayload image).length = encodeImagePayload image := by
    rw [encodeSnapshot_eq, List.drop_left' (by simp), List.take_left]
  have hcrc : loadU32 (encodeSnapshot image) 16 =
      crc32c kPayloadCrcSeed (encodeImagePayload image) := by
    rw [encodeSnapshot_eq, image.header_crc]
  have hfront : (encodeSnapshot image).take (kSnapshotHeaderSize +
      (encodeImagePayload image).length) = image.header ++ encodeImagePayload image := by
    rw [encodeSnapshot_eq, ← List.append_assoc, List.take_left' (by simp)]
  have hback : (encodeSnapshot image).drop (kSnapshotHeaderSize +
      (encodeImagePayload image).length) =
        Sha256.digest (image.header ++ encodeImagePayload image) := by
    rw [encodeSnapshot_eq, ← List.append_assoc, List.drop_left' (by simp)]
  unfold snapshotIntegrity
  simp only [hlength, UInt64.toNat_ofNat_of_lt' h, hheader, hchecksum, hpayload, hcrc, hfront,
    hback]
  rw [if_neg (by simp), if_neg (by simp), if_neg (by simp), List.take_of_length_le (by rfl),
    if_neg (by simp)]

lemma decodeSnapshot_encode {limits} (h : image.Storable limits) :
    decodeSnapshot limits (encodeSnapshot image) = .ok image := by
  have hword : (encodeSnapshot image).length < UInt64.size :=
    Nat.lt_of_le_of_lt h.bytes limits.maxSnapshotBytes.toNat_lt
  have hsize := length_encodeSnapshot image
  have hpayload : ((encodeSnapshot image).drop kSnapshotHeaderSize).take
      (loadU64 (encodeSnapshot image) 8).toNat = encodeImagePayload image := by
    rw [encodeSnapshot_eq, image.header_length, UInt64.toNat_ofNat_of_lt' (by omega),
      List.drop_left' (by simp), List.take_left]
  have hsequence : loadU64 (encodeSnapshot image) 24 = image.sequence := by
    rw [encodeSnapshot_eq, image.header_sequence]
  unfold decodeSnapshot
  rw [snapshotHeaderCheck_encode h.bytes]
  simp only [snapshotIntegrity_encode hword, hpayload, decodeImagePayload_encode h.filed,
    hsequence, bind, Except.bind]
  rw [if_neg (by rw [expectEnd_isOk.mpr rfl]; decide), if_neg (by simp),
    if_neg (Nat.not_lt.mpr h.records)]

lemma checkedAdd_toNat {a b c} (h : checkedAdd a b = some c) : c.toNat = a.toNat + b.toNat := by
  unfold checkedAdd at h
  split at h
  · cases h
  cases h
  have hb := b.toNat_lt
  rw [UInt64.toNat_add]
  unfold UInt64.size at *
  omega

lemma snapshotHeaderCheck_total {limits total} (h : snapshotHeaderCheck limits bytes = .ok total) :
    total.toNat = (loadU64 bytes 8).toNat + (kSnapshotHeaderSize + kSnapshotTrailerSize) ∧
      total ≤ limits.maxSnapshotBytes := by
  unfold snapshotHeaderCheck at h
  split at h
  · cases h
  split at h
  · cases h
  split at h
  · cases h
  split at h
  · cases h
  split at h
  · cases h
  rename_i htotal
  cases h
  obtain ⟨hadd, hbound⟩ := Option.filter_eq_some_iff.mp htotal
  exact ⟨checkedAdd_toNat hadd, of_decide_eq_true hbound⟩

/-- An accepted snapshot is as long as its header says and not longer than the bound, and what it
holds is in order. -/
lemma decodeSnapshot_sound {limits} (h : decodeSnapshot limits bytes = .ok image) :
    bytes.length = (loadU64 bytes 8).toNat + (kSnapshotHeaderSize + kSnapshotTrailerSize) ∧
      bytes.length ≤ limits.maxSnapshotBytes.toNat ∧ image.Filed defaultDecodeLimits ∧
        image.recordCount ≤ limits.maxRecords.toNat := by
  unfold decodeSnapshot at h
  cases hcheck : snapshotHeaderCheck limits bytes with
  | error status => rw [hcheck] at h; cases h
  | ok total =>
    simp only [hcheck, bind, Except.bind] at h
    have hlength : bytes.length = total.toNat := by
      by_contra hne
      rw [snapshotIntegrity, if_pos hne] at h
      cases h
    split at h
    · cases h
    split at h
    · cases h
    rename_i hrun
    split at h
    · cases h
    split at h
    · cases h
    split at h
    · cases h
    rename_i hrecords
    cases h
    obtain ⟨htotal, hbound⟩ := snapshotHeaderCheck_total hcheck
    exact ⟨hlength.trans htotal, hlength ▸ UInt64.le_iff_toNat_le.mp hbound,
      decodeImagePayload_filed hrun, Nat.le_of_not_lt hrecords⟩

end CoherenceFabric
