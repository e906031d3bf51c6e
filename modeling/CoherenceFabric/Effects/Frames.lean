import CoherenceFabric.Effects.Step

/-!
The publish calls in flight: what phase 1 has checked about a call it lets through, and
where a call in flight after a step comes from.
-/

namespace CoherenceFabric

variable {σ : Type} {region : RegionRecord}

/-- What phase 1 has checked about a request it reserves for. -/
structure Reserves (s : Impl σ) (request : PublishRequest) (object : ObjectRecord)
    (participant : ParticipantRecord) (policy : CoherencePolicy) (region : RegionRecord)
    (receipt : PublicationReceipt) : Prop where
  granted : s.resolveLocked request.context = .granted object participant
  policy_found : s.policyLocked object = some policy
  allowed : s.publishRefusal request policy object = .ok region
  boot : receipt.writerBoot = participant.boot

lemma Reserves.found {s : Impl σ} {request object participant policy region receipt}
    (h : Reserves s request object participant policy region receipt) :
    s.objects[request.context.object]? = some object :=
  resolveLocked_found h.granted

/-- The reservation phase 1 makes for such a request. -/
abbrev Impl.reservation (s : Impl σ) (request : PublishRequest) (policy : CoherencePolicy)
    (object : ObjectRecord) (receipt : PublicationReceipt) : PublishFrame × Impl σ :=
  s.takeDecisionId.reservePublication request policy object receipt

theorem publishReserve_reserved {s : Impl σ} {request frame}
    (h : (s.publishReserve request).1 = .reserved frame) :
    ∃ object participant policy region receipt,
      Reserves s request object participant policy region receipt ∧
        frame = (s.reservation request policy object receipt).1 ∧
        (s.publishReserve request).2 = (s.reservation request policy object receipt).2 := by
  revert h
  unfold Impl.publishReserve
  dsimp only
  split
  · rintro ⟨⟩
  rename_i object participant hgranted
  split
  · rintro ⟨⟩
  rename_i policy hpolicy
  split
  · rintro ⟨⟩
  split
  · rintro ⟨⟩
  rename_i region hallowed
  rintro ⟨⟩
  exact ⟨object, participant, policy, region, _, ⟨hgranted, hpolicy, hallowed, rfl⟩, rfl, rfl⟩

/-- What a publish call that passes phase 1 has shown about its replica. -/
structure Publishable (s : Impl σ) (request : PublishRequest) (policy : CoherencePolicy)
    (object : ObjectRecord) (region : RegionRecord) : Prop where
  writer : object.authority = .exclusiveWriter ∧ object.writer = request.context.participant ∧
    object.writerBoot = request.context.boot
  found : s.regions[request.region]? = some region
  owner : region.object = object.id ∧ region.participant = request.context.participant
  ownership : request.ownershipGeneration = object.ownershipGeneration
  base : request.expectedBaseVersion = object.authoritativeVersion
  content : policy.requireContentFingerprint → request.content.defined
  source : region.dirty = .dirtyUnpublished ∧
      region.dirtyBaseVersion = object.authoritativeVersion ∨
    (region.state = .current ∨ region.state = .dirty) ∧
      (object.authoritativeVersion.defined → region.version = object.authoritativeVersion)

lemma publishSourceRefusal_none {request base}
    (h : Impl.publishSourceRefusal request base region = none) :
    region.participant = request.context.participant ∧
      (region.dirty = .dirtyUnpublished ∧ region.dirtyBaseVersion = base ∨
        (region.state = .current ∨ region.state = .dirty) ∧
          (base.defined → region.version = base)) := by
  unfold Impl.publishSourceRefusal at h
  split at h
  · cases h
  rename_i howner
  refine ⟨not_not.mp howner, ?_⟩
  split at h
  · split at h
    · cases h
    split at h
    · cases h
    · exact .inl ⟨not_not.mp ‹_›, not_not.mp ‹_›⟩
  split at h
  · cases h
  split at h
  · cases h
  · exact .inr ⟨by tauto, by tauto⟩

theorem publishRefusal_ok {s : Impl σ} {request policy object}
    (h : s.publishRefusal request policy object = .ok region) :
    Publishable s request policy object region := by
  unfold Impl.publishRefusal at h
  dsimp only at h
  split at h
  · cases h
  rename_i hexclusive
  split at h
  · cases h
  rename_i hwriter
  split at h
  · cases h
  rename_i hownership
  split at h
  · cases h
  rename_i hbase
  split at h
  · cases h
  split at h
  · cases h
  rename_i hcontent
  split at h
  · cases h
  rename_i found hfound
  split at h
  · cases h
  rename_i hnone
  cases h
  obtain ⟨hregion, hobject⟩ := resolveRegionLocked_ok hfound
  obtain ⟨howner, hsource⟩ := publishSourceRefusal_none hnone
  push Not at hexclusive hwriter hownership hbase
  exact
    { writer := ⟨hexclusive, hwriter⟩
      found := hregion
      owner := ⟨hobject, howner⟩
      ownership := hownership
      base := hbase
      content := fun hrequired => by simpa [hrequired] using hcontent
      source := hsource }

variable [StoreMedium σ] {s : Sys σ} {a : Action}

/-- Where a call in flight after a step comes from. -/
inductive FrameOrigin (s : Sys σ) : Action → PublishFrame → Prop
  | kept {a frame} (mem : frame ∈ s.frames) : FrameOrigin s a frame
  | reserved {request frame} (new : (s.engine.publishReserve request).1 = .reserved frame) :
      FrameOrigin s (.publishReserve request) frame
  | appended {index frame} (found : s.frames[index]? = some frame)
      (waiting : frame.durableStatus = none) :
      FrameOrigin s (.publishAppend index) (s.engine.publishAppend frame).1

theorem step_frames {frame} (ha : a.Runs)
    (h : frame ∈ (s.step a).frames) : FrameOrigin s a frame := by
  cases a with
  | publishReserve request =>
    change frame ∈ (s.reserve request).frames at h
    unfold Sys.reserve at h
    dsimp only at h
    split at h
    · exact .kept h
    rename_i new hnew
    rcases List.mem_append.mp h with hmem | hmem
    · exact .kept hmem
    · rw [List.mem_singleton] at hmem
      exact .reserved (hmem ▸ hnew)
  | publishAppend index =>
    change frame ∈ (s.append index).frames at h
    unfold Sys.append at h
    split at h
    · exact .kept h
    rename_i waiting hfound
    split at h
    · exact .kept h
    rename_i hstatus
    rcases List.mem_or_eq_of_mem_set h with hmem | rfl
    · exact .kept hmem
    · exact .appended hfound (by simpa using hstatus)
  | publishCommit index =>
    change frame ∈ (s.commit index).frames at h
    unfold Sys.commit at h
    split at h
    · exact .kept h
    split at h
    · exact .kept h
    · exact .kept (List.mem_of_mem_eraseIdx h)
  | restart config => exact absurd rfl (ha config)
  | _ => exact .kept h

@[simp] lemma publishAppend_pending (e : Impl σ) (frame : PublishFrame) :
    (e.publishAppend frame).1.pending = frame.pending := by
  unfold Impl.publishAppend
  split
  · rfl
  · split <;> rfl

@[simp] lemma publishAppend_region (e : Impl σ) (frame : PublishFrame) :
    (e.publishAppend frame).1.region = frame.region := by
  unfold Impl.publishAppend
  split
  · rfl
  · split <;> rfl

/-- The publication of a call in flight after a step was in flight before it, or the step has
reserved it. -/
lemma step_publication {frame} (ha : a.Runs) (h : frame ∈ (s.step a).frames) :
    (∃ before ∈ s.frames, frame.pending = before.pending ∧ frame.region = before.region) ∨
      ∃ request, a = .publishReserve request ∧
        (s.engine.publishReserve request).1 = .reserved frame := by
  cases step_frames ha h with
  | kept mem => exact .inl ⟨frame, mem, rfl, rfl⟩
  | reserved new => exact .inr ⟨_, rfl, new⟩
  | appended found => exact .inl ⟨_, List.mem_of_getElem? found, by simp, by simp⟩

@[simp] lemma publishAppend_position (e : Impl σ) (frame : PublishFrame) :
    (e.publishAppend frame).1.position = frame.position := by
  unfold Impl.publishAppend
  split
  · rfl
  · split <;> rfl

@[simp] lemma publishAppend_durableRequired (e : Impl σ) (frame : PublishFrame) :
    (e.publishAppend frame).1.durableRequired = frame.durableRequired := by
  unfold Impl.publishAppend
  split
  · rfl
  · split <;> rfl

omit [StoreMedium σ] in
lemma reserve_shelf (request : PublishRequest) : (s.reserve request).shelf = s.shelf := by
  unfold Sys.reserve
  dsimp only
  split <;> rfl

lemma step_shelf (ha : a.Runs) : (s.step a).shelf = s.shelf := by
  cases a with
  | publishReserve request => exact reserve_shelf request
  | publishAppend index =>
    change (s.append index).shelf = s.shelf
    unfold Sys.append
    split
    · rfl
    · split <;> rfl
  | publishCommit index =>
    change (s.commit index).shelf = s.shelf
    unfold Sys.commit
    split
    · rfl
    · split <;> rfl
  | restart config => exact absurd rfl (ha config)
  | _ => rfl

end CoherenceFabric
