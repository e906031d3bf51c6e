import CoherenceFabric.Enums

/-!
Status codes, their stable names, and the result of a fallible call.
-/

namespace CoherenceFabric

inductive StatusCode where
  | ok | invalidArgument | invalidState | invalidTransition | unsupported | capacityExceeded
  | resourceExhausted | duplicateIdentity | unknownDomain | unknownObject | unknownRegion
  | unknownParticipant | unknownPolicy | unknownPublication | unknownInvalidation
  | unknownSyncOperation | unknownRequest | staleEpoch | staleBoot | staleObjectGeneration
  | staleRegionGeneration | staleReplicaGeneration | staleOwnership | stalePolicy
  | stalePublication | staleInvalidation | staleSyncOperation | staleSession | replayedRequest
  | notAuthoritative | readNotCurrent | writeConflict | exclusiveWriterConflict
  | notWriteAuthorized | fenced | retired | syncRequired | revalidationRequired
  | invalidationOutstanding | evidenceMissing | evidenceStale | dirtyUnpublished | dirtyLost
  | recoveryRequired | quiescing | shuttingDown | outcomeUnknown | contentMismatch
  | integrityFailure | corruptionDetected | truncatedInput | trailingGarbage | oversizedInput
  | protocolViolation | unsupportedSchema | persistenceFailure | transportFailure
  | connectionClosed | timeout | internalInvariantViolation | internalError
  deriving DecidableEq, Inhabited

/-- The status table: code, wire value and stable name. -/
def statusCodes : List (StatusCode × UInt16 × Text) :=
  [(.ok, 0, text "ok"),
   (.invalidArgument, 1, text "invalid_argument"),
   (.invalidState, 2, text "invalid_state"),
   (.invalidTransition, 3, text "invalid_transition"),
   (.unsupported, 4, text "unsupported"),
   (.capacityExceeded, 5, text "capacity_exceeded"),
   (.resourceExhausted, 6, text "resource_exhausted"),
   (.duplicateIdentity, 7, text "duplicate_identity"),
   (.unknownDomain, 20, text "unknown_domain"),
   (.unknownObject, 21, text "unknown_object"),
   (.unknownRegion, 22, text "unknown_region"),
   (.unknownParticipant, 23, text "unknown_participant"),
   (.unknownPolicy, 24, text "unknown_policy"),
   (.unknownPublication, 25, text "unknown_publication"),
   (.unknownInvalidation, 26, text "unknown_invalidation"),
   (.unknownSyncOperation, 27, text "unknown_sync_operation"),
   (.unknownRequest, 28, text "unknown_request"),
   (.staleEpoch, 40, text "stale_epoch"),
   (.staleBoot, 41, text "stale_boot"),
   (.staleObjectGeneration, 42, text "stale_object_generation"),
   (.staleRegionGeneration, 43, text "stale_region_generation"),
   (.staleReplicaGeneration, 44, text "stale_replica_generation"),
   (.staleOwnership, 45, text "stale_ownership"),
   (.stalePolicy, 46, text "stale_policy"),
   (.stalePublication, 47, text "stale_publication"),
   (.staleInvalidation, 48, text "stale_invalidation"),
   (.staleSyncOperation, 49, text "stale_sync_operation"),
   (.staleSession, 50, text "stale_session"),
   (.replayedRequest, 51, text "replayed_request"),
   (.notAuthoritative, 60, text "not_authoritative"),
   (.readNotCurrent, 61, text "read_not_current"),
   (.writeConflict, 62, text "write_conflict"),
   (.exclusiveWriterConflict, 63, text "exclusive_writer_conflict"),
   (.notWriteAuthorized, 64, text "not_write_authorized"),
   (.fenced, 65, text "fenced"),
   (.retired, 66, text "retired"),
   (.syncRequired, 80, text "sync_required"),
   (.revalidationRequired, 81, text "revalidation_required"),
   (.invalidationOutstanding, 82, text "invalidation_outstanding"),
   (.evidenceMissing, 83, text "evidence_missing"),
   (.evidenceStale, 84, text "evidence_stale"),
   (.dirtyUnpublished, 85, text "dirty_unpublished"),
   (.dirtyLost, 86, text "dirty_lost"),
   (.recoveryRequired, 87, text "recovery_required"),
   (.quiescing, 88, text "quiescing"),
   (.shuttingDown, 89, text "shutting_down"),
   (.outcomeUnknown, 100, text "outcome_unknown"),
   (.contentMismatch, 101, text "content_mismatch"),
   (.integrityFailure, 120, text "integrity_failure"),
   (.corruptionDetected, 121, text "corruption_detected"),
   (.truncatedInput, 122, text "truncated_input"),
   (.trailingGarbage, 123, text "trailing_garbage"),
   (.oversizedInput, 124, text "oversized_input"),
   (.protocolViolation, 125, text "protocol_violation"),
   (.unsupportedSchema, 126, text "unsupported_schema"),
   (.persistenceFailure, 127, text "persistence_failure"),
   (.transportFailure, 128, text "transport_failure"),
   (.connectionClosed, 129, text "connection_closed"),
   (.timeout, 130, text "timeout"),
   (.internalInvariantViolation, 140, text "internal_invariant_violation"),
   (.internalError, 141, text "internal_error")]

namespace StatusCode

def name (code : StatusCode) : Text :=
  match statusCodes.find? (fun entry => entry.1 = code) with
  | some entry => entry.2.2
  | none => text "unknown_status"

def toU16 (code : StatusCode) : UInt16 :=
  match statusCodes.find? (fun entry => entry.1 = code) with
  | some entry => entry.2.1
  | none => 0

end StatusCode

structure Status where
  code : StatusCode
  message : Text
  detail : Text
  deriving DecidableEq

namespace Status

def success : Status := ⟨.ok, [], []⟩

def make (code : StatusCode) (message : Text) : Status := ⟨code, message, []⟩

def isOk (st : Status) : Bool := st.code == .ok

/-- The single-line rendering `code: message (detail)`. -/
def toText (st : Status) : Text :=
  st.code.name ++ (if st.message.isEmpty then [] else text ": " ++ st.message) ++
    (if st.detail.isEmpty then [] else text " (" ++ st.detail ++ text ")")

@[simp] lemma isOk_success : success.isOk = true := rfl

end Status

/-- Exactly one of a value or a failure status. -/
abbrev Result (α : Type) := Except Status α

end CoherenceFabric
