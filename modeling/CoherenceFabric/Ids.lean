import Mathlib.Data.List.Sort

/-!
Identities, texts and ordered maps.

Every identity of the fabric is a 64-bit number under its own tag, so that two kinds of
identity cannot be mixed; zero is the nil identity. Identities that must not be reused
across process lifetimes are 128 bits wide. A text is its sequence of bytes.
-/

namespace CoherenceFabric

abbrev Bytes := List UInt8
abbrev Text := Bytes

/-- The bytes of a literal of the source (all of them are ASCII). -/
def text (s : String) : Text := s.toList.map fun c => c.toNat.toUInt8

/-- `std::to_string` of an unsigned number. -/
def decimal (n : Nat) : Text := (Nat.toDigits 10 n).map fun c => c.toNat.toUInt8

/-- `std::map`: at most one value for a key, iterated in key order. -/
abbrev Map (κ : Type) (α : Type) [Ord κ] := Std.ExtTreeMap κ α

inductive IdTag where
  | coherenceDomain | object | objectGeneration | region | regionGeneration
  | replica | replicaGeneration | participant | coordinatorEpoch
  | ownershipGeneration | version | publication | invalidation | syncOperation
  | lease | policy | policyGeneration | evidence | evidenceGeneration | decision
  | request | operationSequence
  deriving DecidableEq

@[ext] structure StrongId (tag : IdTag) where
  value : UInt64
  deriving DecidableEq

namespace StrongId

variable {tag : IdTag}

def nil : StrongId tag := ⟨0⟩

instance : Inhabited (StrongId tag) := ⟨nil⟩

def isNil (a : StrongId tag) : Bool := a.value == 0

def defined (a : StrongId tag) : Bool := !a.isNil

/-- The successor; the increment of a 64-bit number, so it wraps around. -/
def next (a : StrongId tag) : StrongId tag := ⟨a.value + 1⟩

def toText (a : StrongId tag) : Text := decimal a.value.toNat

instance : Ord (StrongId tag) := ⟨compareOn value⟩

instance : LawfulBEq (StrongId tag) := inferInstance

instance : Std.TransOrd (StrongId tag) := inferInstanceAs (Std.TransCmp (compareOn value))

instance : Std.LawfulEqOrd (StrongId tag) where
  eq_of_compare {a b} h := by
    have hv := h
    exact StrongId.ext (Std.LawfulEqOrd.eq_of_compare hv)

@[simp] lemma isNil_nil : (nil : StrongId tag).isNil = true := rfl

@[simp] lemma defined_nil : (nil : StrongId tag).defined = false := rfl

@[simp] lemma isNil_eq_true {a : StrongId tag} : a.isNil = true ↔ a = nil := by
  simp [isNil, nil, StrongId.ext_iff]

@[simp] lemma isNil_eq_false {a : StrongId tag} : a.isNil = false ↔ a ≠ nil := by
  rw [← Bool.not_eq_true, isNil_eq_true]

@[simp] lemma defined_eq_true {a : StrongId tag} : a.defined = true ↔ a ≠ nil := by
  simp [defined]

@[simp] lemma defined_eq_false {a : StrongId tag} : a.defined = false ↔ a = nil := by
  simp [defined]

lemma next_ne_self (a : StrongId tag) : a.next ≠ a := by
  intro h
  have hv : a.value + 1 = a.value := congrArg value h
  have := congrArg UInt64.toNat hv
  rw [UInt64.toNat_add] at this
  have hlt := a.value.toNat_lt
  simp only [UInt64.reduceToNat] at this
  omega

lemma next_toNat {a : StrongId tag} (h : a.value.toNat + 1 < UInt64.size) :
    a.next.value.toNat = a.value.toNat + 1 := by
  simp only [next, UInt64.toNat_add, UInt64.reduceToNat]
  unfold UInt64.size at h
  omega

end StrongId

abbrev CoherenceDomainId := StrongId .coherenceDomain
abbrev ObjectId := StrongId .object
abbrev ObjectGeneration := StrongId .objectGeneration
abbrev RegionId := StrongId .region
abbrev RegionGeneration := StrongId .regionGeneration
abbrev ReplicaId := StrongId .replica
abbrev ReplicaGeneration := StrongId .replicaGeneration
abbrev ParticipantId := StrongId .participant
abbrev CoordinatorEpoch := StrongId .coordinatorEpoch
abbrev OwnershipGeneration := StrongId .ownershipGeneration
abbrev VersionId := StrongId .version
abbrev PublicationId := StrongId .publication
abbrev InvalidationId := StrongId .invalidation
abbrev SyncOperationId := StrongId .syncOperation
abbrev LeaseId := StrongId .lease
abbrev PolicyId := StrongId .policy
abbrev PolicyGeneration := StrongId .policyGeneration
abbrev EvidenceId := StrongId .evidence
abbrev EvidenceGeneration := StrongId .evidenceGeneration
abbrev DecisionId := StrongId .decision
abbrev RequestId := StrongId .request
abbrev OperationSequence := StrongId .operationSequence

@[ext] structure UInt128 where
  high : UInt64
  low : UInt64
  deriving DecidableEq

namespace UInt128

def isZero (a : UInt128) : Bool := a.high == 0 && a.low == 0

/-- Sixteen lowercase hexadecimal digits of one half. -/
def hexHalf (v : UInt64) : Text :=
  (List.range 16).map fun i =>
    (Nat.digitChar (v.toNat / Nat.pow 16 (15 - i) % 16)).toNat.toUInt8

def toHex (a : UInt128) : Text := hexHalf a.high ++ hexHalf a.low

instance : Ord UInt128 := ⟨compareLex (compareOn high) (compareOn low)⟩

instance : Std.TransOrd UInt128 :=
  inferInstanceAs (Std.TransCmp (compareLex (compareOn high) (compareOn low)))

instance : Std.LawfulEqOrd UInt128 where
  eq_of_compare {a b} h := by
    have hl : compareLex (compareOn high) (compareOn low) a b = .eq := h
    rw [compareLex_eq_eq] at hl
    exact UInt128.ext (Std.LawfulEqOrd.eq_of_compare hl.1) (Std.LawfulEqOrd.eq_of_compare hl.2)

end UInt128

inductive WideTag where
  | participantBoot | session | contentDigest
  deriving DecidableEq

/-- An identity whose reuse across process lifetimes is dangerous. -/
@[ext] structure WideId (tag : WideTag) where
  value : UInt128
  deriving DecidableEq

namespace WideId

variable {tag : WideTag}

def nil : WideId tag := ⟨⟨0, 0⟩⟩

instance : Inhabited (WideId tag) := ⟨nil⟩

def isNil (a : WideId tag) : Bool := a.value.isZero

def defined (a : WideId tag) : Bool := !a.isNil

def toText (a : WideId tag) : Text := a.value.toHex

instance : Ord (WideId tag) := ⟨compareOn value⟩

instance : Std.TransOrd (WideId tag) := inferInstanceAs (Std.TransCmp (compareOn value))

instance : Std.LawfulEqOrd (WideId tag) where
  eq_of_compare {a b} h := by
    have hv := h
    exact WideId.ext (Std.LawfulEqOrd.eq_of_compare hv)

end WideId

/-- A name inside the identity that scopes it, ordered by the identity first. -/
@[ext] structure ScopedName (tag : IdTag) where
  scope : StrongId tag
  name : Text
  deriving DecidableEq

namespace ScopedName

variable {tag : IdTag}

instance : Ord (ScopedName tag) := ⟨compareLex (compareOn scope) (compareOn name)⟩

instance : Std.TransOrd (ScopedName tag) :=
  inferInstanceAs (Std.TransCmp (compareLex (compareOn scope) (compareOn name)))

instance : Std.LawfulEqOrd (ScopedName tag) where
  eq_of_compare {a b} h := by
    have hl : compareLex (compareOn scope) (compareOn name) a b = .eq := h
    rw [compareLex_eq_eq] at hl
    exact ScopedName.ext (Std.LawfulEqOrd.eq_of_compare hl.1) (Std.LawfulEqOrd.eq_of_compare hl.2)

end ScopedName

abbrev ParticipantBootId := WideId .participantBoot
abbrev SessionId := WideId .session
abbrev ContentDigest := WideId .contentDigest

end CoherenceFabric
