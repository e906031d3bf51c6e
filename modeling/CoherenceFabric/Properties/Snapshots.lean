import CoherenceFabric.Codec.Snapshot

/-!
Snapshots are read back exactly, and only whole.

An image whose collections are filed under the identities of their records, and that lies within the
limits of the reader, comes back from its snapshot. Nothing shorter and nothing longer is accepted.
-/

namespace CoherenceFabric

open Codec FiniteMap

lemma decodeSnapshot_length {limits image decoded rest}
    (hword : (encodeSnapshot image).length < UInt64.size)
    (h : decodeSnapshot limits (image.header ++ rest) = .ok decoded) :
    (image.header ++ rest).length = (encodeSnapshot image).length := by
  have hsize := length_encodeSnapshot image
  obtain ⟨hlength, -⟩ := decodeSnapshot_sound h
  rw [image.header_length, UInt64.toNat_ofNat_of_lt' (by omega)] at hlength
  omega

/-- A storable image comes back from its snapshot, and neither a strict prefix nor a strict
extension of the snapshot is accepted. -/
theorem snapshot_round_trip (limits : StoreLimits) (image : DurableImage)
    (h : image.Storable limits) :
    decodeSnapshot limits (encodeSnapshot image) = .ok image ∧
      (∀ bytes, bytes <+: encodeSnapshot image → bytes ≠ encodeSnapshot image →
        ∀ decoded, decodeSnapshot limits bytes ≠ .ok decoded) ∧
      ∀ extra, extra ≠ [] →
        ∀ decoded, decodeSnapshot limits (encodeSnapshot image ++ extra) ≠ .ok decoded := by
  have hword := Nat.lt_of_le_of_lt h.bytes limits.maxSnapshotBytes.toNat_lt
  refine ⟨decodeSnapshot_encode h, ?_, ?_⟩
  · rintro bytes hcut hne decoded hdecode
    -- a prefix without the whole header is refused for its length
    have hheader : kSnapshotHeaderSize ≤ bytes.length := by
      have := (decodeSnapshot_sound hdecode).1
      omega
    have hsplit : bytes = image.header ++ bytes.drop kSnapshotHeaderSize := by
      obtain ⟨tail, htail⟩ := hcut
      have htake := congrArg (List.take kSnapshotHeaderSize) htail
      rw [List.take_append_of_le_length hheader, encodeSnapshot_eq,
        List.take_left' (by simp)] at htake
      rw [← htake, List.take_append_drop]
    rw [hsplit] at hdecode
    have hlength := decodeSnapshot_length hword hdecode
    rw [← hsplit] at hlength
    exact hne (hcut.eq_of_length hlength)
  intro extra hextra decoded hdecode
  rw [encodeSnapshot_eq, List.append_assoc] at hdecode
  have hlength := decodeSnapshot_length hword hdecode
  rw [← List.append_assoc, ← encodeSnapshot_eq, List.length_append] at hlength
  exact hextra (List.length_eq_zero_iff.mp (by omega))

def oneDomain (generation : UInt64) : DurableImage :=
  { sequence := 1
    epoch := ⟨1⟩
    domains := (∅ : Map CoherenceDomainId DomainRecord).insert ⟨1⟩
      { id := ⟨1⟩, name := text "d", generation := generation } }

theorem snapshot_round_trip_oneDomain :
    decodeSnapshot {} (encodeSnapshot (oneDomain 1)) = .ok (oneDomain 1) := by
  refine (snapshot_round_trip {} (oneDomain 1) ⟨?_, by decide +kernel, ?_⟩).1
  · have hdomains : Filed defaultDecodeLimits DomainRecord.id
        (DomainRecord.Within defaultDecodeLimits) (oneDomain 1).domains :=
      ⟨all_empty.insert rfl, all_empty.insert ⟨by decide, by decide⟩, by decide +kernel⟩
    exact ⟨hdomains, .empty .., .empty .., .empty .., .empty .., .empty .., .empty ..,
      .empty ..⟩
  · rw [length_encodeSnapshot]
    decide +kernel

/-- The limits say nothing about the generation of a domain, but a snapshot with a domain of
generation zero is refused. -/
theorem snapshot_round_trip_needs_generation :
    All (fun id (domain : DomainRecord) => domain.id = id ∧ domain.name.length ≤ 4096)
        (oneDomain 0).domains ∧
      (oneDomain 0).recordCount = 1 ∧ (encodeSnapshot (oneDomain 0)).length ≤ 1000 ∧
      decodeSnapshot {} (encodeSnapshot (oneDomain 0)) ≠ .ok (oneDomain 0) := by
  refine ⟨all_empty.insert ⟨rfl, by decide⟩, by decide +kernel, ?_, fun h => ?_⟩
  · rw [length_encodeSnapshot]
    decide +kernel
  · have hfiled := (decodeSnapshot_sound h).2.2.1.domains.valid
    exact (hfiled ⟨1⟩ _ getElem?_insert_self).generation rfl

end CoherenceFabric
