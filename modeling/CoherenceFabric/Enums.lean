import CoherenceFabric.Ids

/-!
The enumerations of the fabric and their name tables.

An enumeration travels as one byte and is rendered as a stable token. Both come from one
name table, which is also what an incoming byte is validated against: a byte that no
declared member has is refused and never mapped to a default.
-/

namespace CoherenceFabric

/-- The name table of an enumeration: every member is in it, under its own byte. -/
class NameTable (α : Type) where
  code : α → UInt8
  names : List (α × Text)
  code_injective : ∀ a b, code a = code b → a = b := by
    intro a b; cases a <;> cases b <;> decide
  named : ∀ a, a ∈ names.map Prod.fst := by intro a; cases a <;> decide

namespace NameTable

variable {α : Type} [NameTable α]

/-- `lookup_token`. -/
def toToken [DecidableEq α] (a : α) : Text :=
  match names.find? (fun entry => entry.1 = a) with
  | some entry => entry.2
  | none => text "unknown"

/-- `enum_from_u8_impl`: the declared member with this byte. -/
def fromU8 (raw : UInt8) : Option α :=
  ((names).find? fun entry => code entry.1 = raw).map Prod.fst

lemma code_fromU8 {raw} {a : α} (h : fromU8 raw = some a) : code a = raw := by
  simp only [fromU8, Option.map_eq_some_iff] at h
  obtain ⟨entry, hfind, rfl⟩ := h
  simpa using List.find?_some hfind

@[simp] lemma fromU8_code (a : α) : fromU8 (code a) = some a := by
  cases h : fromU8 (α := α) (code a) with
  | some b => rw [code_injective _ _ (code_fromU8 h)]
  | none =>
    -- the table has an entry for `a`, so the search cannot come back empty
    obtain ⟨entry, hmem, rfl⟩ := List.mem_map.mp (named a)
    simp only [fromU8, Option.map_eq_none_iff, List.find?_eq_none] at h
    exact absurd (h entry hmem) (by simp)

end NameTable

open NameTable (toToken)

inductive MemoryDomain where
  | unknown | hostPageable | hostPinned | hostShared | acceleratorLocal | cxlClass
  | persistentMapped | remote | synthetic
  deriving DecidableEq, Inhabited

instance : NameTable MemoryDomain where
  code a := UInt8.ofNat a.ctorIdx
  names :=
    [(.unknown, text "unknown"), (.hostPageable, text "host_pageable"),
     (.hostPinned, text "host_pinned"), (.hostShared, text "host_shared"),
     (.acceleratorLocal, text "accelerator_local"), (.cxlClass, text "cxl_class"),
     (.persistentMapped, text "persistent_mapped"), (.remote, text "remote"),
     (.synthetic, text "synthetic")]

inductive EvidenceClass where
  | unsupported | synthetic | real
  deriving DecidableEq, Inhabited

instance : NameTable EvidenceClass where
  code a := UInt8.ofNat a.ctorIdx
  names :=
    [(.unsupported, text "unsupported"), (.synthetic, text "synthetic"), (.real, text "real")]

/-- Replica coherence state. `current` carries live evidence that the contents match the
authoritative version; `retired` is terminal. -/
inductive CoherenceState where
  | unknown | invalid | stale | current | syncRequired | revalidationRequired | dirty | fenced
  | retired
  deriving DecidableEq, Inhabited

instance : NameTable CoherenceState where
  code a := UInt8.ofNat a.ctorIdx
  names :=
    [(.unknown, text "unknown"), (.invalid, text "invalid"), (.stale, text "stale"),
     (.current, text "current"), (.syncRequired, text "sync_required"),
     (.revalidationRequired, text "revalidation_required"), (.dirty, text "dirty"),
     (.fenced, text "fenced"), (.retired, text "retired")]

inductive ObjectLifecycle where
  | created | active | quiescing | recoveryRequired | retired
  deriving DecidableEq, Inhabited

instance : NameTable ObjectLifecycle where
  code a := UInt8.ofNat a.ctorIdx
  names :=
    [(.created, text "created"), (.active, text "active"), (.quiescing, text "quiescing"),
     (.recoveryRequired, text "recovery_required"), (.retired, text "retired")]

inductive RegionLifecycle where
  | registered | active | quiescing | retired
  deriving DecidableEq, Inhabited

instance : NameTable RegionLifecycle where
  code a := UInt8.ofNat a.ctorIdx
  names :=
    [(.registered, text "registered"), (.active, text "active"), (.quiescing, text "quiescing"),
     (.retired, text "retired")]

inductive ParticipantLifecycle where
  | observed | admitted | active | degraded | fenced | retired
  deriving DecidableEq, Inhabited

instance : NameTable ParticipantLifecycle where
  code a := UInt8.ofNat a.ctorIdx
  names :=
    [(.observed, text "observed"), (.admitted, text "admitted"), (.active, text "active"),
     (.degraded, text "degraded"), (.fenced, text "fenced"), (.retired, text "retired")]

inductive DomainLifecycle where
  | created | active | quiescing | recoveryRequired | retired
  deriving DecidableEq, Inhabited

instance : NameTable DomainLifecycle where
  code a := UInt8.ofNat a.ctorIdx
  names :=
    [(.created, text "created"), (.active, text "active"), (.quiescing, text "quiescing"),
     (.recoveryRequired, text "recovery_required"), (.retired, text "retired")]

inductive ConsistencyModel where
  | unspecified | strict | releaseAcquire | snapshot | eventual
  deriving DecidableEq, Inhabited

instance : NameTable ConsistencyModel where
  code a := UInt8.ofNat a.ctorIdx
  names :=
    [(.unspecified, text "unspecified"), (.strict, text "strict"),
     (.releaseAcquire, text "release_acquire"), (.snapshot, text "snapshot"),
     (.eventual, text "eventual")]

inductive WriteOwnershipMode where
  | unspecified | singleWriterExclusive | readOnlyObject | multiWriterUnsupported
  deriving DecidableEq, Inhabited

instance : NameTable WriteOwnershipMode where
  code a := UInt8.ofNat a.ctorIdx
  names :=
    [(.unspecified, text "unspecified"),
     (.singleWriterExclusive, text "single_writer_exclusive"),
     (.readOnlyObject, text "read_only_object"),
     (.multiWriterUnsupported, text "multi_writer_unsupported")]

/-- The point at which a publication becomes authoritative. -/
inductive PublicationDurability where
  | unspecified | ephemeral | durableMetadata
  deriving DecidableEq, Inhabited

instance : NameTable PublicationDurability where
  code a := UInt8.ofNat a.ctorIdx
  names :=
    [(.unspecified, text "unspecified"), (.ephemeral, text "ephemeral"),
     (.durableMetadata, text "durable_metadata")]

inductive ConflictBehavior where
  | unspecified | reject | invalidateReaders
  deriving DecidableEq, Inhabited

instance : NameTable ConflictBehavior where
  code a := UInt8.ofNat a.ctorIdx
  names :=
    [(.unspecified, text "unspecified"), (.reject, text "reject"),
     (.invalidateReaders, text "invalidate_readers")]

/-- What a coordinator does after restart with a durable publication that was pending. -/
inductive RecoveryPolicy where
  | unspecified | conservative | completeDurablePending
  deriving DecidableEq, Inhabited

instance : NameTable RecoveryPolicy where
  code a := UInt8.ofNat a.ctorIdx
  names :=
    [(.unspecified, text "unspecified"), (.conservative, text "conservative"),
     (.completeDurablePending, text "complete_durable_pending")]

inductive StaleReadPolicy where
  | unspecified | never | bounded | always
  deriving DecidableEq, Inhabited

instance : NameTable StaleReadPolicy where
  code a := UInt8.ofNat a.ctorIdx
  names :=
    [(.unspecified, text "unspecified"), (.never, text "never"), (.bounded, text "bounded"),
     (.always, text "always")]

/-- What is reported when the only dirty holder disappears before publication. -/
inductive DirtyLossPolicy where
  | unspecified | reportUnknown | reportLost | requireRecovery
  deriving DecidableEq, Inhabited

instance : NameTable DirtyLossPolicy where
  code a := UInt8.ofNat a.ctorIdx
  names :=
    [(.unspecified, text "unspecified"), (.reportUnknown, text "report_unknown"),
     (.reportLost, text "report_lost"), (.requireRecovery, text "require_recovery")]

inductive ReadOutcome where
  | unknown | readCurrent | readAfterSync | readStaleAllowed | readBlocked | unsupported
  deriving DecidableEq, Inhabited

instance : NameTable ReadOutcome where
  code a := UInt8.ofNat a.ctorIdx
  names :=
    [(.unknown, text "unknown"), (.readCurrent, text "read_current"),
     (.readAfterSync, text "read_after_sync"), (.readStaleAllowed, text "read_stale_allowed"),
     (.readBlocked, text "read_blocked"), (.unsupported, text "unsupported")]

inductive AuthorityMode where
  | none | sharedReaders | exclusiveWriter | transferPending | revalidationRequired
  deriving DecidableEq, Inhabited

instance : NameTable AuthorityMode where
  code a := UInt8.ofNat a.ctorIdx
  names :=
    [(.none, text "none"), (.sharedReaders, text "shared_readers"),
     (.exclusiveWriter, text "exclusive_writer"), (.transferPending, text "transfer_pending"),
     (.revalidationRequired, text "revalidation_required")]

inductive PublicationState where
  | none | pendingDurable | committed | aborted | recoveryRequired
  deriving DecidableEq, Inhabited

instance : NameTable PublicationState where
  code a := UInt8.ofNat a.ctorIdx
  names :=
    [(.none, text "none"), (.pendingDurable, text "pending_durable"),
     (.committed, text "committed"), (.aborted, text "aborted"),
     (.recoveryRequired, text "recovery_required")]

inductive InvalidationState where
  | requested | acknowledged | superseded | unknown
  deriving DecidableEq, Inhabited

instance : NameTable InvalidationState where
  code a := UInt8.ofNat a.ctorIdx
  names :=
    [(.requested, text "requested"), (.acknowledged, text "acknowledged"),
     (.superseded, text "superseded"), (.unknown, text "unknown")]

inductive DirtyCondition where
  | clean | dirtyUnpublished | dirtyPublished | dirtyLost | dirtyUnknown
  deriving DecidableEq, Inhabited

instance : NameTable DirtyCondition where
  code a := UInt8.ofNat a.ctorIdx
  names :=
    [(.clean, text "clean"), (.dirtyUnpublished, text "dirty_unpublished"),
     (.dirtyPublished, text "dirty_published"), (.dirtyLost, text "dirty_lost"),
     (.dirtyUnknown, text "dirty_unknown")]

inductive SyncOperationKind where
  | copy | flush | invalidate | reload | publish | acquire | release | revalidate
  deriving DecidableEq, Inhabited

instance : NameTable SyncOperationKind where
  code a := UInt8.ofNat a.ctorIdx
  names :=
    [(.copy, text "copy"), (.flush, text "flush"), (.invalidate, text "invalidate"),
     (.reload, text "reload"), (.publish, text "publish"), (.acquire, text "acquire"),
     (.release, text "release"), (.revalidate, text "revalidate")]

inductive SyncState where
  | planned | requested | inProgress | completed | failed | outcomeUnknown | cancelled
  deriving DecidableEq, Inhabited

instance : NameTable SyncState where
  code a := UInt8.ofNat a.ctorIdx
  names :=
    [(.planned, text "planned"), (.requested, text "requested"),
     (.inProgress, text "in_progress"), (.completed, text "completed"), (.failed, text "failed"),
     (.outcomeUnknown, text "outcome_unknown"), (.cancelled, text "cancelled")]

inductive DecisionKind where
  | domainCreate | participantRegister | objectRegister | regionRegister | readAcquire
  | writeAcquire | markDirty | publish | invalidate | syncBegin | syncComplete | release | fence
  | recovery | audit | policyChange | regionRetire | objectRetire | shutdown | revalidate
  | recover
  deriving DecidableEq, Inhabited

inductive EvidenceKind where
  | none | runtimeObservation | byteComparison | backendCompletion | processLifecycle
  | explicitAck | persistedMetadata | hardwareQuery | syntheticFixture
  deriving DecidableEq, Inhabited

instance : NameTable EvidenceKind where
  code a := UInt8.ofNat a.ctorIdx
  names :=
    [(.none, text "none"), (.runtimeObservation, text "runtime_observation"),
     (.byteComparison, text "byte_comparison"), (.backendCompletion, text "backend_completion"),
     (.processLifecycle, text "process_lifecycle"), (.explicitAck, text "explicit_ack"),
     (.persistedMetadata, text "persisted_metadata"), (.hardwareQuery, text "hardware_query"),
     (.syntheticFixture, text "synthetic_fixture")]

/-! ### Transition legality -/

def isLegalCoherenceTransition (source target : CoherenceState) : Bool :=
  if source = target then true
  else match source with
    | .unknown => (target matches .invalid | .stale | .current | .syncRequired
        | .revalidationRequired | .dirty | .fenced | .retired)
    | .invalid => (target matches .stale | .current | .syncRequired | .revalidationRequired
        | .fenced | .retired | .unknown)
    | .stale => (target matches .current | .invalid | .syncRequired | .revalidationRequired
        | .fenced | .retired | .dirty)
    | .current => (target matches .stale | .invalid | .dirty | .fenced | .retired
        | .revalidationRequired)
    | .syncRequired => (target matches .current | .stale | .invalid | .revalidationRequired
        | .fenced | .retired)
    | .revalidationRequired => (target matches .current | .stale | .invalid | .syncRequired
        | .fenced | .retired | .dirty)
    | .dirty => (target matches .current | .stale | .invalid | .fenced | .retired)
    | .fenced => (target matches .retired | .invalid | .revalidationRequired)
    | .retired => false

def isLegalObjectTransition (source target : ObjectLifecycle) : Bool :=
  if source = target then true
  else match source with
    | .created => (target matches .active | .retired)
    | .active => (target matches .quiescing | .retired | .recoveryRequired)
    | .quiescing => (target matches .active | .retired | .recoveryRequired)
    | .recoveryRequired => (target matches .active | .retired)
    | .retired => false

def isLegalRegionTransition (source target : RegionLifecycle) : Bool :=
  if source = target then true
  else match source with
    | .registered => (target matches .active | .retired)
    | .active => (target matches .quiescing | .retired)
    | .quiescing => (target matches .active | .retired)
    | .retired => false

namespace CoherenceState

variable (state : CoherenceState)

def isWritable : Bool := state matches .current | .dirty

def isCurrent : Bool := state == .current

def isReadable : Bool := state matches .current | .stale | .dirty

/-- The replica still participates in the coherence domain. -/
def isLive : Bool :=
  !(state matches .retired | .fenced | .invalid | .unknown)

end CoherenceState

end CoherenceFabric
