import CoherenceFabric.Invariants.Catalogue

/-!
What a step does to a replica and to the version of its object.

A replica and its object are two records, and most steps write at most one of them. Only a commit
moves the version, and then every replica of the object but the source is left not current: this
is where the catalogue is used.
-/

namespace CoherenceFabric

open FiniteMap RegionRecord

variable {σ : Type}

/-- What a step leaves of a replica and of the version of its object. -/
inductive ReplicaStep (s : Sys σ) : Action → RegionId → ObjectRecord → RegionRecord →
    ObjectRecord → RegionRecord → Prop
  | keep {a key object region object' region'} (same : region.SameCore region')
      (version : object'.authoritativeVersion = object.authoritativeVersion) :
      ReplicaStep s a key object region object' region'
  | lower {a key object region object' region'} (lowered : region.Lowered region')
      (version : object'.authoritativeVersion = object.authoritativeVersion) :
      ReplicaStep s a key object region object' region'
  | overtaken {index frame key object region object' region'} (lowered : region.Lowered region')
      (ready : s.ready index = some frame) (target : s.engine.commitTarget frame = some object)
      (version : object'.authoritativeVersion = frame.pending.version) :
      ReplicaStep s (.publishCommit index) key object region object' region'
  | publish {index frame object region object' seq} (ready : s.ready index = some frame)
      (target : s.engine.commitTarget frame = some object)
      (version : object'.authoritativeVersion = frame.pending.version) :
      ReplicaStep s (.publishCommit index) frame.region object region object'
        (region.publish frame.pending frame.pending.ownershipGeneration ⟨s.engine.nextEvidenceId⟩
          seq)
  | markDirty {request object participant region object' seq}
      (granted : s.engine.resolveLocked request.context = .granted object participant)
      (allowed : s.engine.markDirtyRefusal request object = .ok region)
      (version : object'.authoritativeVersion = object.authoritativeVersion) :
      ReplicaStep s (.markDirty request) request.region object region object'
        (region.markDirty request object.ownershipGeneration seq)
  | completeSync {request record object region object' seq}
      (completes : Completes s request record object region)
      (source : object.authoritativeVersion = record.sourceVersion)
      (content : (s.engine.policyLocked object).any (fun policy =>
          policy.requireContentFingerprint) → record.expectedContent.defined →
        request.observedContent.same record.expectedContent)
      (version : object'.authoritativeVersion = object.authoritativeVersion) :
      ReplicaStep s (.completeSync request) record.destinationRegion object region object'
        (region.completeSync (record.complete seq) object.ownershipGeneration
          request.observedContent ⟨s.engine.nextEvidenceId⟩ seq)
  | revalidate {request object participant region object' seq}
      (granted : s.engine.resolveLocked request.context = .granted object participant)
      (allowed : s.engine.revalidateRefusal request object = .ok region)
      (version : object'.authoritativeVersion = object.authoritativeVersion) :
      ReplicaStep s (.revalidateRegion request) request.region object region object'
        (region.revalidate request object.authoritativeVersion object.ownershipGeneration
          ⟨s.engine.nextEvidenceId⟩ seq)

/-! ### Commits -/

section Commit

variable {s : Sys σ} {index : Nat} {healthy : Bool} {l : Ledger}

lemma Outcome.commit_cases (h : Outcome s (.publishCommit index) healthy l) :
    (l.regions = s.engine.regions ∧ ∀ (key : ObjectId) object', l.objects[key]? = some object' →
        ∃ object, s.engine.objects[key]? = some object ∧
          object'.authoritativeVersion = object.authoritativeVersion) ∨
      ∃ frame object bound seq, s.ready index = some frame ∧
        s.engine.commitTarget frame = some object ∧
        l = { s.engine.ledger.setObject frame.pending.object
            (object.commit frame.pending frame.pending.writer frame.pending.writerBoot bound
              seq) with
          regions := s.engine.regions.map fun key region =>
            region.afterCommit key frame object.replicas ⟨s.engine.nextEvidenceId⟩ seq } := by
  cases h with
  | idle => exact .inl ⟨rfl, fun _ object' hobject' => ⟨object', hobject', rfl⟩⟩
  | prefer reads => simp at reads
  | @abort _ _ frame object ready found =>
    refine .inl ⟨rfl, fun key object' hobject' => ?_⟩
    by_cases hkey : frame.pending.object = key
    · subst hkey
      cases getElem?_insert_self.symm.trans hobject'
      exact ⟨object, found, rfl⟩
    · exact ⟨object', (getElem?_insert_ne hkey).symm.trans hobject', rfl⟩
  | commit ready target => exact .inr ⟨_, _, _, _, ready, target, rfl⟩

lemma RegionRecord.afterCommit_lowered {region : RegionRecord} {key frame replicas}
    (hkey : key ≠ frame.region)
    (hlisted : key ∈ replicas) (evidence : EvidenceId) (sequence : OperationSequence) :
    region.Lowered (region.afterCommit key frame replicas evidence sequence) := by
  unfold afterCommit
  rw [if_neg hkey]
  split
  · exact ⟨⟨rfl, rfl, rfl, rfl⟩, nofun, rfl, rfl, rfl, .inl rfl⟩
  rename_i hstate
  exact ⟨⟨rfl, rfl, rfl, rfl⟩, fun hcurrent => hstate ⟨hlisted, hcurrent⟩, rfl, rfl, rfl,
    .inl rfl⟩

end Commit

/-! ### All steps -/

section Step

variable [LawfulStore σ] {s : Sys σ} {a : Action} {key : RegionId} {region region' : RegionRecord}
  {object object' : ObjectRecord}

lemma RegionEffect.replicaStep (h : RegionEffect s a key region region')
    (ha : ∀ index, a ≠ .publishCommit index) (hkeyed : LiveKeyed s) (hcatalogued : Catalogued s)
    (hregion : s.engine.regions[key]? = some region)
    (hobject : s.engine.objects[region.object]? = some object)
    (hversion : object'.authoritativeVersion = object.authoritativeVersion) :
    ReplicaStep s a key object region object' region' := by
  have hthe : ∀ {ctx owner participant}, s.engine.resolveLocked ctx = .granted owner participant →
      region.object = owner.id → owner = object := by
    intro ctx owner participant hgranted howner
    have hfound := resolveLocked_found hgranted
    rw [howner, hkeyed.live.objects _ _ hfound] at hobject
    exact Option.some.inj (hfound.symm.trans hobject)
  cases h with
  | keep same => exact .keep same hversion
  | lower lowered => exact .lower lowered hversion
  | markDirty granted allowed =>
    obtain rfl := hthe granted (markDirtyRefusal_ok allowed).2.1
    exact .markDirty granted allowed hversion
  | publish => exact absurd rfl (ha _)
  | completeSync completes live version content =>
    obtain ⟨participant, granted⟩ := completes.granted
    obtain ⟨destination, hdestination, -, howner⟩ :=
      hcatalogued.live.plans _ _ completes.planned
    cases hregion.symm.trans hdestination
    obtain rfl := hthe granted (howner.trans completes.object.symm)
    exact .completeSync completes version content hversion
  | revalidate granted allowed =>
    obtain rfl := hthe granted (revalidateRefusal_ok allowed).2.2.1
    exact .revalidate granted allowed hversion

lemma commit_replicaStep {index : Nat} (hkeyed : LiveKeyed s) (hcatalogued : Catalogued s)
    (hregion' : (s.step (.publishCommit index)).engine.regions[key]? = some region')
    (hobject' : (s.step (.publishCommit index)).engine.objects[region'.object]? = some object') :
    ∃ object region, s.engine.objects[region.object]? = some object ∧
      s.engine.regions[key]? = some region ∧
      ReplicaStep s (.publishCommit index) key object region object' region' := by
  have houtcome := step_outcome hkeyed.live.objects (.publishCommit index) nofun
  rcases houtcome.commit_cases with ⟨hregions, hobjects⟩ |
    ⟨frame, target, bound, seq, hready, htarget, hledger⟩
  · have hregion : s.engine.regions[key]? = some region' := hregions ▸ hregion'
    obtain ⟨object, hobject, hversion⟩ := hobjects _ _ hobject'
    exact ⟨object, region', hobject, hregion, .keep (.refl region') hversion⟩
  change (s.step _).engine.ledger.regions[key]? = some region' at hregion'
  change (s.step _).engine.ledger.objects[region'.object]? = some object' at hobject'
  rw [hledger] at hregion' hobject'
  simp only [getElem?_map, Option.map_eq_some_iff] at hregion'
  obtain ⟨region, hregion, rfl⟩ := hregion'
  have hplace : (region.afterCommit key frame target.replicas ⟨s.engine.nextEvidenceId⟩
      seq).object = region.object := by
    unfold afterCommit
    repeat' split
    all_goals rfl
  rw [hplace] at hobject'
  obtain ⟨-, hfound, -⟩ := commitTarget_some htarget
  obtain ⟨object, hobject, -, hlisted⟩ := hcatalogued.live.covers key region hregion
  refine ⟨object, region, hobject, hregion, ?_⟩
  by_cases howner : frame.pending.object = region.object
  · -- a replica of the object: the source, or left not current
    rw [howner] at hfound hobject'
    cases hfound.symm.trans hobject
    cases getElem?_insert_self.symm.trans hobject'
    by_cases hkey : key = frame.region
    · subst hkey
      unfold afterCommit
      rw [if_pos rfl]
      exact .publish hready htarget rfl
    · exact .overtaken (afterCommit_lowered hkey hlisted _ _) hready htarget rfl
  -- a replica of another object; it is not the source
  have hsame := (getElem?_insert_ne howner).symm.trans hobject'
  cases hobject.symm.trans hsame
  have hkey : key ≠ frame.region := by
    rintro rfl
    obtain ⟨source, hsource, -, hsourceOwner⟩ :=
      hcatalogued.frames frame (List.mem_of_getElem? (ready_mem hready).1)
    cases hregion.symm.trans hsource
    exact howner hsourceOwner.symm
  by_cases hlisted' : key ∈ target.replicas
  · exact .lower (afterCommit_lowered hkey hlisted' _ _) rfl
  · unfold afterCommit
    rw [if_neg hkey, if_neg fun hboth => hlisted' hboth.1]
    exact .keep (.refl region) rfl

/-- Where a replica and the version of its object come from. -/
theorem step_replica (hkeyed : LiveKeyed s) (hcatalogued : Catalogued s) (ha : a.Runs)
    (hregion' : (s.step a).engine.regions[key]? = some region')
    (hobject' : (s.step a).engine.objects[region'.object]? = some object') :
    NewRegion s a key region' ∨ ∃ object region, s.engine.objects[region.object]? = some object ∧
      s.engine.regions[key]? = some region ∧ ReplicaStep s a key object region object' region' := by
  by_cases hcommit : ∃ index, a = .publishCommit index
  · obtain ⟨index, rfl⟩ := hcommit
    exact .inr (commit_replicaStep hkeyed hcatalogued hregion' hobject')
  have hchanges := step_changes hkeyed ha
  rcases hchanges.regions.origin hregion' with ⟨region, hregion, hchange⟩ | ⟨-, hnew⟩
  · right
    have heffect := hchange.effect
    obtain ⟨object, hobject, -, -⟩ := hcatalogued.live.covers key region hregion
    obtain ⟨after, hafter, hmove⟩ := hchanges.objects.forward hobject
    rw [heffect.samePlace.object] at hobject'
    cases hafter.symm.trans hobject'
    have hversion : object'.authoritativeVersion = object.authoritativeVersion := by
      refine hmove.effect.version.resolve_right ?_
      rintro ⟨index, _, hindex, -⟩
      exact hcommit ⟨index, hindex⟩
    exact ⟨object, region, hobject, hregion, heffect.replicaStep
      (fun index hindex => hcommit ⟨index, hindex⟩) hkeyed hcatalogued hregion hobject hversion⟩
  · exact .inl hnew

end Step

end CoherenceFabric
