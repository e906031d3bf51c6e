import CoherenceFabric.Engine.State

/-!
The validation every participant-bound request passes, and the evidence that a replica is
current.

`resolveLocked` is one chain of checks: coordinator epoch, object generation, object
lifecycle, policy generation, participant lifecycle and boot identity. `resolveLocked_granted`
says once what a request that passes it has shown.
-/

namespace CoherenceFabric

variable {σ : Type} {ctx : AuthorityContext} {participant : ParticipantRecord} {s : Impl σ}

/-- The outcome of `resolve_locked`. A refusal carries the object it had already found. -/
inductive Resolution where
  | refused (status : Status) (object : Option ObjectRecord)
  | granted (object : ObjectRecord) (participant : ParticipantRecord)

namespace Resolution

/-- The ownership generation of the object found, as the decision context records it. -/
def ownership : Resolution → OwnershipGeneration
  | .refused _ object => (object.map (·.ownershipGeneration)).getD .nil
  | .granted object _ => object.ownershipGeneration

end Resolution

def staleDetail {tag : IdTag} (request current : StrongId tag) : Text :=
  text "request=" ++ request.toText ++ text " current=" ++ current.toText

def checkObject (ctx : AuthorityContext) (object : ObjectRecord) : Option Status :=
  if object.generation ≠ ctx.objectGeneration then
    some ⟨.staleObjectGeneration, text "request references a stale object generation",
      staleDetail ctx.objectGeneration object.generation⟩
  else if object.lifecycle = .retired then
    some ⟨.retired, text "the coherence object has been retired", object.name⟩
  else if object.lifecycle = .recoveryRequired then
    some ⟨.recoveryRequired,
      text "the coherence object requires explicit recovery before further use",
      object.recoveryNote⟩
  else if object.lifecycle = .quiescing then
    some ⟨.quiescing, text "the coherence object is quiescing", object.name⟩
  else if ctx.policyGeneration.defined ∧ ctx.policyGeneration ≠ object.policyGeneration then
    some ⟨.stalePolicy, text "request carries a stale policy generation",
      staleDetail ctx.policyGeneration object.policyGeneration⟩
  else none

def checkParticipant (ctx : AuthorityContext) (participant : ParticipantRecord) : Option Status :=
  if participant.lifecycle = .fenced then
    some ⟨.fenced, text "the participant has been fenced", participant.fenceReason⟩
  else if participant.lifecycle = .retired then
    some ⟨.retired, text "the participant has been retired", participant.name⟩
  else if participant.boot ≠ ctx.boot then
    some ⟨.staleBoot, text "request carries a boot identity that is not live",
      text "request=" ++ ctx.boot.toText ++ text " live=" ++ participant.boot.toText⟩
  else none

namespace Impl

def resolveLocked (s : Impl σ) (ctx : AuthorityContext) : Resolution :=
  if s.shuttingDown then
    .refused (.make .shuttingDown (text "the coherence engine is shutting down")) none
  else if ctx.participant.isNil then
    .refused (.make .invalidArgument
      (text "a participant-bound operation requires a participant identity")) none
  else if ctx.epoch ≠ s.epoch then
    .refused ⟨.staleEpoch, text "request carries a stale coordinator epoch",
      staleDetail ctx.epoch s.epoch⟩ none
  else match s.objects[ctx.object]? with
    | none =>
      .refused ⟨.unknownObject, text "no such coherence object", ctx.object.toText⟩ none
    | some object =>
      match checkObject ctx object with
      | some status => .refused status (some object)
      | none =>
        match s.participants[ctx.participant]? with
        | none =>
          .refused ⟨.unknownParticipant, text "no such participant", ctx.participant.toText⟩
            (some object)
        | some participant =>
          match checkParticipant ctx participant with
          | some status => .refused status (some object)
          | none => .granted object participant

/-- `resolve_internal_locked`: the coordinator acting on its own behalf, without a
participant. -/
def resolveInternalLocked (s : Impl σ) (ctx : AuthorityContext) : Result ObjectRecord :=
  if s.shuttingDown then
    .error (.make .shuttingDown (text "the coherence engine is shutting down"))
  else if ctx.epoch ≠ s.epoch then
    .error ⟨.staleEpoch, text "request carries a stale coordinator epoch",
      staleDetail ctx.epoch s.epoch⟩
  else match s.objects[ctx.object]? with
    | none => .error ⟨.unknownObject, text "no such coherence object", ctx.object.toText⟩
    | some object =>
      if object.generation ≠ ctx.objectGeneration then
        .error ⟨.staleObjectGeneration, text "request references a stale object generation",
          staleDetail ctx.objectGeneration object.generation⟩
      else if object.lifecycle = .retired then
        .error ⟨.retired, text "the coherence object has been retired", object.name⟩
      else .ok object

def resolveRegionLocked (s : Impl σ) (object : ObjectRecord) (id : RegionId)
    (generation : RegionGeneration) : Result RegionRecord :=
  match s.regions[id]? with
  | none => .error ⟨.unknownRegion, text "no such region", id.toText⟩
  | some region =>
    if region.object ≠ object.id then
      .error ⟨.invalidArgument, text "the region does not belong to the object", id.toText⟩
    else if generation.defined ∧ region.generation ≠ generation then
      .error ⟨.staleRegionGeneration, text "request references a stale region generation",
        staleDetail generation region.generation⟩
    else .ok region

def policyLocked (s : Impl σ) (object : ObjectRecord) : Option CoherencePolicy :=
  s.policies[object.policy]?

end Impl

/-! ### What a granted request has shown -/

lemma checkParticipant_none (h : checkParticipant ctx participant = none) :
    participant.lifecycle ≠ .fenced ∧ participant.lifecycle ≠ .retired ∧
      participant.boot = ctx.boot := by
  unfold checkParticipant at h
  split at h
  · cases h
  split at h
  · cases h
  · split at h
    · cases h
    · exact ⟨‹_›, ‹_›, not_not.mp ‹_›⟩

lemma checkObject_none {object} (h : checkObject ctx object = none) :
    object.generation = ctx.objectGeneration ∧ object.lifecycle ≠ .retired ∧
      object.lifecycle ≠ .recoveryRequired ∧ object.lifecycle ≠ .quiescing := by
  unfold checkObject at h
  split at h
  · cases h
  split at h
  · cases h
  split at h
  · cases h
  · split at h
    · cases h
    · exact ⟨not_not.mp ‹_›, ‹_›, ‹_›, ‹_›⟩

/-- What a request that passes `resolve_locked` has shown. -/
structure Authorized (s : Impl σ) (ctx : AuthorityContext) (object : ObjectRecord)
    (participant : ParticipantRecord) : Prop where
  running : s.shuttingDown = false
  epoch : ctx.epoch = s.epoch
  object_found : s.objects[ctx.object]? = some object
  generation : object.generation = ctx.objectGeneration
  object_live : object.lifecycle ≠ .retired ∧ object.lifecycle ≠ .recoveryRequired ∧
    object.lifecycle ≠ .quiescing
  participant_found : s.participants[ctx.participant]? = some participant
  participant_live : participant.lifecycle ≠ .fenced ∧ participant.lifecycle ≠ .retired
  boot : participant.boot = ctx.boot

/-- A request passes `resolve_locked` if and only if it passes each of its checks. -/
theorem resolveLocked_granted_iff {object} : s.resolveLocked ctx = .granted object participant ↔
      s.shuttingDown = false ∧ ctx.participant ≠ .nil ∧ ctx.epoch = s.epoch ∧
        s.objects[ctx.object]? = some object ∧ checkObject ctx object = none ∧
        s.participants[ctx.participant]? = some participant ∧
        checkParticipant ctx participant = none := by
  constructor
  · intro h
    unfold Impl.resolveLocked at h
    split at h
    · cases h
    split at h
    · cases h
    split at h
    · cases h
    split at h
    · cases h
    split at h
    · cases h
    split at h
    · cases h
    split at h
    · cases h
    · cases h
      have hcaller : ¬ ctx.participant.isNil = true := ‹_›
      exact ⟨Bool.eq_false_iff.mpr ‹_›, by simpa using hcaller, not_not.mp ‹_›, ‹_›,
        ‹_›, ‹_›, ‹_›⟩
  · rintro ⟨hrunning, hcaller, hepoch, hobject, hcheck, hparticipant, hlive⟩
    simp [Impl.resolveLocked, hrunning, hcaller, hepoch, hobject, hcheck, hparticipant, hlive]

theorem resolveLocked_granted {object} (h : s.resolveLocked ctx = .granted object participant) :
    Authorized s ctx object participant := by
  obtain ⟨hrunning, -, hepoch, hobject, hcheck, hparticipant, hlive⟩ :=
    resolveLocked_granted_iff.mp h
  have ho := checkObject_none hcheck
  have hp := checkParticipant_none hlive
  exact
    { running := hrunning
      epoch := hepoch
      object_found := hobject
      generation := ho.1
      object_live := ho.2
      participant_found := hparticipant
      participant_live := ⟨hp.1, hp.2.1⟩
      boot := hp.2.2 }

lemma resolveLocked_found {object} (h : s.resolveLocked ctx = .granted object participant) :
    s.objects[ctx.object]? = some object :=
  (resolveLocked_granted h).object_found

theorem resolveInternalLocked_ok {object} (h : s.resolveInternalLocked ctx = .ok object) :
    s.shuttingDown = false ∧ ctx.epoch = s.epoch ∧ s.objects[ctx.object]? = some object ∧
      object.generation = ctx.objectGeneration ∧ object.lifecycle ≠ .retired := by
  unfold Impl.resolveInternalLocked at h
  split at h
  · cases h
  split at h
  · cases h
  split at h
  · cases h
  split at h
  · cases h
  · split at h
    · cases h
    · cases h
      exact ⟨Bool.eq_false_iff.mpr ‹_›, not_not.mp ‹_›, ‹_›, not_not.mp ‹_›, ‹_›⟩

theorem resolveRegionLocked_ok {object id} {generation region}
    (h : s.resolveRegionLocked object id generation = .ok region) :
    s.regions[id]? = some region ∧ region.object = object.id := by
  unfold Impl.resolveRegionLocked at h
  split at h
  · cases h
  split at h
  · cases h
  · split at h
    · cases h
    · cases h
      exact ⟨‹_›, not_not.mp ‹_›⟩

end CoherenceFabric
