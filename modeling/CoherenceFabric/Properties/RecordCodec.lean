import CoherenceFabric.Codec.Decisions

/-!
The record codec: every encoder and decoder of a record, a request or a decision fit together.

A value within the limits of the decoder comes back with every field equal and with what follows
it left unread, no proper beginning of it is accepted, and whatever a decoder accepts is the
encoding of what it returns.
-/

namespace CoherenceFabric

open Codec

/-- The types that have an encoder and a decoder. -/
inductive CodedType where
  | fingerprint | policy | evidence | authorityContext | domain | participant | readGrant | object
  | region | invalidation | sync | pendingPublication | context | readDecision | writeGrant
  | publication | invalidationOutcome | syncOutcome | releaseOutcome | readRequest | writeRequest
  | dirtyRequest | publishRequest | releaseRequest | invalidationRequest | invalidationAck
  | syncRequest | syncComplete | syncFail | revalidateRequest | regionRegistration

namespace CodedType

def Value : CodedType → Type
  | .fingerprint => ContentFingerprint
  | .policy => CoherencePolicy
  | .evidence => EvidenceRecord
  | .authorityContext => AuthorityContext
  | .domain => DomainRecord
  | .participant => ParticipantRecord
  | .readGrant => ReadGrant
  | .object => ObjectRecord
  | .region => RegionRecord
  | .invalidation => InvalidationRecord
  | .sync => SyncRecord
  | .pendingPublication => PendingPublication
  | .context => DecisionContext
  | .readDecision => ReadDecision
  | .writeGrant => WriteGrant
  | .publication => PublicationReceipt
  | .invalidationOutcome => InvalidationOutcome
  | .syncOutcome => SyncOutcome
  | .releaseOutcome => ReleaseOutcome
  | .readRequest => ReadRequest
  | .writeRequest => WriteRequest
  | .dirtyRequest => DirtyRequest
  | .publishRequest => PublishRequest
  | .releaseRequest => ReleaseRequest
  | .invalidationRequest => InvalidationRequest
  | .invalidationAck => InvalidationAck
  | .syncRequest => SyncRequest
  | .syncComplete => SyncCompleteRequest
  | .syncFail => SyncFailRequest
  | .revalidateRequest => RevalidateRequest
  | .regionRegistration => RegionRegistration

def encode : (t : CodedType) → t.Value → Bytes
  | .fingerprint => encodeFingerprint
  | .policy => encodePolicy
  | .evidence => encodeEvidence
  | .authorityContext => encodeAuthorityContext
  | .domain => encodeDomain
  | .participant => encodeParticipant
  | .readGrant => encodeReadGrant
  | .object => encodeObject
  | .region => encodeRegion
  | .invalidation => encodeInvalidation
  | .sync => encodeSync
  | .pendingPublication => encodePendingPublication
  | .context => encContext
  | .readDecision => encodeReadDecision
  | .writeGrant => encodeWriteGrant
  | .publication => encodePublication
  | .invalidationOutcome => encodeInvalidationOutcome
  | .syncOutcome => encodeSyncOutcome
  | .releaseOutcome => encodeReleaseOutcome
  | .readRequest => encodeReadRequest
  | .writeRequest => encodeWriteRequest
  | .dirtyRequest => encodeDirtyRequest
  | .publishRequest => encodePublishRequest
  | .releaseRequest => encodeReleaseRequest
  | .invalidationRequest => encodeInvalidationRequest
  | .invalidationAck => encodeInvalidationAck
  | .syncRequest => encodeSyncRequest
  | .syncComplete => encodeSyncComplete
  | .syncFail => encodeSyncFail
  | .revalidateRequest => encodeRevalidateRequest
  | .regionRegistration => encodeRegionRegistration

def decode (limits : DecodeLimits) : (t : CodedType) → ByteReader t.Value
  | .fingerprint => decodeFingerprint limits
  | .policy => decodePolicy limits
  | .evidence => decodeEvidence limits
  | .authorityContext => decodeAuthorityContext
  | .domain => decodeDomain limits
  | .participant => decodeParticipant limits
  | .readGrant => decodeReadGrant
  | .object => decodeObject limits
  | .region => decodeRegion limits
  | .invalidation => decodeInvalidation limits
  | .sync => decodeSync limits
  | .pendingPublication => decodePendingPublication limits
  | .context => decContext
  | .readDecision => decodeReadDecision limits
  | .writeGrant => decodeWriteGrant limits
  | .publication => decodePublication limits
  | .invalidationOutcome => decodeInvalidationOutcome limits
  | .syncOutcome => decodeSyncOutcome limits
  | .releaseOutcome => decodeReleaseOutcome limits
  | .readRequest => decodeReadRequest
  | .writeRequest => decodeWriteRequest
  | .dirtyRequest => decodeDirtyRequest limits
  | .publishRequest => decodePublishRequest limits
  | .releaseRequest => decodeReleaseRequest
  | .invalidationRequest => decodeInvalidationRequest
  | .invalidationAck => decodeInvalidationAck
  | .syncRequest => decodeSyncRequest limits
  | .syncComplete => decodeSyncComplete limits
  | .syncFail => decodeSyncFail limits
  | .revalidateRequest => decodeRevalidateRequest limits
  | .regionRegistration => decodeRegionRegistration limits

/-- Every text, length and count of the value passes the bound of the decoder, and a domain has a
generation. -/
def Within (limits : DecodeLimits) : (t : CodedType) → t.Value → Prop
  | .fingerprint => ContentFingerprint.Within limits
  | .policy => CoherencePolicy.Within limits
  | .evidence => EvidenceRecord.Within limits
  | .domain => DomainRecord.Within limits
  | .participant => ParticipantRecord.Within limits
  | .object => ObjectRecord.Within limits
  | .region => RegionRecord.Within limits
  | .invalidation => InvalidationRecord.Within limits
  | .sync => SyncRecord.Within limits
  | .pendingPublication => PendingPublication.Within limits
  | .readDecision => ReadDecision.Within limits
  | .writeGrant => WriteGrant.Within limits
  | .publication => PublicationReceipt.Within limits
  | .invalidationOutcome => InvalidationOutcome.Within limits
  | .syncOutcome => SyncOutcome.Within limits
  | .releaseOutcome => ReleaseOutcome.Within limits
  | .dirtyRequest => DirtyRequest.Within limits
  | .publishRequest => PublishRequest.Within limits
  | .syncRequest => SyncRequest.Within limits
  | .syncComplete => SyncCompleteRequest.Within limits
  | .syncFail => SyncFailRequest.Within limits
  | .revalidateRequest => RevalidateRequest.Within limits
  | .regionRegistration => RegionRegistration.Within limits
  | .authorityContext
  | .readGrant
  | .context
  | .readRequest
  | .writeRequest
  | .releaseRequest
  | .invalidationRequest
  | .invalidationAck => fun _ => True

lemma reads (limits : DecodeLimits) (t : CodedType) :
    Reads (t.decode limits) t.encode (t.Within limits) := by
  cases t <;> dsimp only [Value, decode, encode, Within] <;> exact Field.toReads

end CodedType

/-- Under the default limits: round trip in front of any bytes, no strict prefix is accepted, and
every accepted byte string is the encoding of the value returned. -/
theorem record_codec (t : CodedType) :
    (∀ v, t.Within {} v → ∀ rest, (t.decode {}).run (t.encode v ++ rest) = .ok (v, rest)) ∧
      (∀ v, t.Within {} v → ∀ input, input <+: t.encode v → input ≠ t.encode v →
        ∀ r, (t.decode {}).run input ≠ .ok r) ∧
      ∀ b v rest, (t.decode {}).run (b ++ rest) = .ok (v, rest) → t.encode v = b := by
  have h := t.reads {}
  refine ⟨fun v hv rest => h.round_trip hv rest, ?_, ?_⟩
  · rintro v hv input ⟨tail, heq⟩ hne r
    refine h.prefix_refused hv heq ?_ r
    rintro rfl
    exact hne (by simpa using heq)
  · intro b v rest hread
    obtain ⟨-, heq⟩ := h.iff.mp hread
    exact (List.append_cancel_right heq).symm

/-- A domain is read back in front of other bytes. -/
theorem record_codec_domain : (CodedType.domain.decode {}).run
        (CodedType.domain.encode { id := ⟨1⟩, name := text "d", generation := 1 } ++ [7]) =
      .ok ({ id := ⟨1⟩, name := text "d", generation := 1 }, [7]) :=
  (record_codec .domain).1 { id := ⟨1⟩, name := text "d", generation := 1 }
    ⟨by decide, by decide⟩ [7]

end CoherenceFabric
