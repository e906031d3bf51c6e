import CoherenceFabric.Deployment
import CoherenceFabric.Effects.Issue
import CoherenceFabric.Invariants.Keys

/-!
Write transfers.

A writer whose grant requires invalidations waits until none of them is requested any more.
A requested invalidation is settled by an acknowledgement, which invalidates the replica, by
fencing the replica's holder, or by a shutdown, which withdraws all authority. So while the
replica stays current the writer keeps waiting. Acknowledgements are taken to name the
generations of the replica they are about, and identities not to be issued twice.
-/

namespace CoherenceFabric

open FiniteMap Relation Transition Impl

/-- The replica is the one the invalidation was issued for. -/
structure InvalidationRecord.Targets (record : InvalidationRecord) (region : RegionRecord) :
    Prop where
  generation : region.generation = record.regionGeneration
  replicaGeneration : region.replicaGeneration = record.replicaGeneration
  participant : region.participant = record.targetParticipant
  boot : region.boot = record.targetBoot

/-- The target of an invalidation, at the generations the record names, is current. -/
def Records.TargetCurrent (r : Records) (record : InvalidationRecord) : Prop :=
  ∃ region, r.regions[record.region]? = some region ∧
    region.generation = record.regionGeneration ∧
    region.replicaGeneration = record.replicaGeneration ∧ region.state = .current

variable {σ : Type} {bound : Nat} {record : InvalidationRecord}

/-- The condition on a step: an acknowledgement of a requested invalidation whose target is
current names the generations of the replica, and the identities the step may take do not
exhaust the counter. -/
def Orderly (s : Sys σ) : Action → Prop
  | .acknowledgeInvalidation ack => ∀ record region,
    s.engine.invalidations[ack.invalidation]? = some record → record.state = .requested →
    s.engine.regions[record.region]? = some region → region.state = .current →
      region.generation = ack.regionGeneration ∧ region.replicaGeneration = ack.replicaGeneration
  | .acquireWrite request =>
    s.engine.nextInvalidationId.toNat + s.engine.replicaCount request.context.object < UInt64.size
  | .invalidate _ => s.engine.nextInvalidationId.toNat + 1 < UInt64.size
  | _ => True

/-- Every requested invalidation has an identity below the counter, and its target exists. -/
structure Impl.Tracked (s : Impl σ) : Prop where
  below : ∀ (id : InvalidationId) record, s.invalidations[id]? = some record →
    record.state = .requested → id.value.toNat < s.nextInvalidationId.toNat
  target : ∀ (id : InvalidationId) record, s.invalidations[id]? = some record →
    record.state = .requested →
      ∃ region, s.regions[record.region]? = some region ∧ record.Targets region

/-! ### The identities of a step -/

section Identities

variable {s : Sys σ} {a : Action}

lemma toNat_add_index {next index} (hindex : index < bound)
    (hbound : next.toNat + bound < UInt64.size) :
    (next + UInt64.ofNat index).toNat = next.toNat + index := by
  rw [UInt64.toNat_add, UInt64.toNat_ofNat']
  unfold UInt64.size at hbound
  omega

lemma NewInvalidation.above {id} (h : NewInvalidation s a id record)
    (hok : Orderly s a) : s.engine.nextInvalidationId.toNat ≤ id.value.toNat := by
  cases h with
  | transfer e index bounded =>
    rw [toNat_add_index bounded hok]
    exact Nat.le_add_right ..
  | requested e next | settled e next | inert e next => exact (congrArg UInt64.toNat next).ge

lemma NewInvalidation.target (hkeyed : s.engine.toRecords.Sat .keyed) {id}
    (h : NewInvalidation s a id record) :
    ∃ region, s.engine.regions[record.region]? = some region ∧ record.Targets region := by
  cases h with
  | @transfer request object ownership region key e index bounded records found =>
    obtain rfl : region.id = key := hkeyed.regions _ _ found
    refine ⟨region, found, rfl, rfl, ?_, ?_⟩ <;>
      simp [transferInvalidation, records, found]
  | @requested request object region e next found | @settled request object region e next found =>
    have hid := hkeyed.regions _ _ found
    exact ⟨region, by rw [← hid] at found; exact found, rfl, rfl, rfl, rfl⟩
  | @inert request object region e next found =>
    have hid := hkeyed.regions _ _ found
    exact ⟨region, by rw [← hid] at found; exact found, rfl, rfl, rfl, rfl⟩

lemma requested_origin {id} (h : InvalidationDerives s a id record)
    (hrequested : record.state = .requested) :
    s.engine.invalidations[id]? = some record ∨ NewInvalidation s a id record := by
  refine Derives.induction (P := fun record => record.state = .requested →
    s.engine.invalidations[id]? = some record ∨ NewInvalidation s a id record) h
    (fun _ found _ => .inl found) (fun _ hnew _ => .inr hnew) (fun _ _ _ hstep hreq => ?_)
    hrequested
  cases hstep with
  | replace new => exact .inr new
  | _ => cases hreq

end Identities

/-! ### Restarts -/

/-- What recovery makes of replicas and invalidations. -/
def RecordPred.downgraded : RecordPred where
  region _ region := region.state ≠ .current
  invalidation _ record := record.state ≠ .requested

lemma restores_downgraded (image : DurableImage) : Restores .downgraded image := by
  constructor
  case region =>
    intro region evidence sequence _
    change (region.restore evidence sequence).state ≠ .current
    rw [RegionRecord.restore_state]
    repeat' split
    all_goals nofun
  case invalidation =>
    intro record sequence _
    unfold InvalidationRecord.restore
    split
    · nofun
    · assumption
  all_goals intros; trivial

variable [ReplayStore σ] {e : Impl σ}

lemma boot_downgraded (config : EngineConfig) (store : Option σ) :
    (Sys.boot config store).engine.toRecords.Sat .downgraded :=
  (Invariant.boot (by constructor <;> intros <;> trivial)
    (fun _ _ => DurableImage.sat_trivial) fun st _ => restores_downgraded (stored st)).live

lemma Impl.Tracked.boot (config : EngineConfig) (store : Option σ) :
    (Sys.boot config store).engine.Tracked :=
  ⟨fun id record h hreq => absurd hreq ((boot_downgraded config store).invalidations id record h),
    fun id record h hreq => absurd hreq ((boot_downgraded config store).invalidations id record h)⟩

/-! ### Every requested invalidation is tracked -/

section Tracked

variable {s : Sys σ} {a : Action}

omit [ReplayStore σ] in
lemma IssuedBy.below {e'} (h : IssuedBy e e' bound)
    (hbound : e.nextInvalidationId.toNat + bound < UInt64.size)
    (hbelow : ∀ (id : InvalidationId) record, e.invalidations[id]? = some record →
      record.state = .requested → id.value.toNat < e.nextInvalidationId.toNat) {id : InvalidationId}
    (hrecord : e'.invalidations[id]? = some record) (hrequested : record.state = .requested) :
    id.value.toNat < e'.nextInvalidationId.toNat := by
  obtain ⟨n, hn, hnext, horigin⟩ := h
  have htoNat : e'.nextInvalidationId.toNat = e.nextInvalidationId.toNat + n := by
    rw [hnext, UInt64.toNat_add, UInt64.toNat_ofNat']
    unfold UInt64.size at hbound
    omega
  rcases horigin id record hrecord with hold | ⟨index, hindex, rfl⟩
  · have := hbelow id record hold hrequested
    omega
  · rw [toNat_add_index hindex (by omega), htoNat]
    omega

lemma Impl.Tracked.step (hkeyed : LiveKeyed s) (htracked : s.engine.Tracked) (hok : Orderly s a) :
    (s.step a).engine.Tracked := by
  rcases a.restart_or with ⟨config, rfl⟩ | ha
  · exact Impl.Tracked.boot ..
  have hevolved := step_evolved (s := s) a ha
  have horigin := fun id record hrecord hrequested =>
    requested_origin (hevolved.records.invalidations.origin id record hrecord) hrequested
  refine ⟨fun id record hrecord hrequested => ?_, fun id record hrecord hrequested => ?_⟩
  · cases a
    case acquireWrite request =>
      exact (acquireWrite_outcome hkeyed.live.invalidations request).issued.below hok
        htracked.below hrecord hrequested
    case invalidate request =>
      exact (invalidate_issued request).below hok htracked.below hrecord hrequested
    all_goals
      -- the other steps take no identity and issue no invalidation
      have hnext := hevolved.frame.counters.invalidation.resolve_left nofun
      rcases horigin id record hrecord hrequested with hold | hnew
      · exact (htracked.below id record hold hrequested).trans_eq (congrArg _ hnext.symm)
      · cases hnew
  have hbefore : ∃ region, s.engine.regions[record.region]? = some region ∧
      record.Targets region := by
    rcases horigin id record hrecord hrequested with hold | hnew
    · exact htracked.target id record hold hrequested
    · exact hnew.target hkeyed.live
  obtain ⟨region, hregion, htargets⟩ := hbefore
  obtain ⟨region', hregion', hsteps⟩ := hevolved.records.regions.forward hregion
  have hsame := regionSteps_sameReplica hsteps
  exact ⟨region', hregion', hsame.generation.trans htargets.generation,
    hsame.replicaGeneration.trans htargets.replicaGeneration,
    hsame.participant.trans htargets.participant, hsame.boot.trans htargets.boot⟩

end Tracked

/-! ### What settles a requested invalidation -/

section Settle

variable {s : Sys σ} {a : Action} {region region' : RegionRecord} {ack : InvalidationAck}

omit [ReplayStore σ] in
lemma releaseReadsForParticipantLocked_regions [DurableStore σ] (e : Impl σ)
    (participant : ParticipantId) (boot : ParticipantBootId) :
    (e.releaseReadsForParticipantLocked participant boot).regions = e.regions := by
  unfold releaseReadsForParticipantLocked
  rw [foldl_upsertDurableObjectLocked_toRecords]
  rfl

omit [ReplayStore σ] in
lemma fenceParticipant_offCurrent [DurableStore σ] {id epoch reason participant}
    {key : RegionId} (current : epoch = e.epoch)
    (known : e.participants[id]? = some participant) (live : participant.lifecycle ≠ .retired)
    (found : e.regions[key]? = some region) (held : region.participant = id)
    (boot : region.boot = participant.boot)
    (hafter : (e.fenceParticipant id epoch reason).2.regions[key]? = some region') :
    region'.state ≠ .current := by
  have hregions : (e.fenceParticipant id epoch reason).2.regions =
      (e.tick.fenceRecords id participant.boot reason).regions := by
    unfold fenceParticipant
    simp only [known]
    rw [if_neg (not_not.mpr current), if_neg live]
    split <;> exact releaseReadsForParticipantLocked_regions ..
  rw [hregions] at hafter
  simp only [fenceRecords, getElem?_map, Option.map_eq_some_iff] at hafter
  obtain ⟨before, hbefore, rfl⟩ := hafter
  obtain rfl : before = region := Option.some.inj (hbefore.symm.trans found)
  split
  · nofun
  rename_i hkept
  intro hcurrent
  exact hkept ⟨held, boot, by simp [hcurrent]⟩

omit [ReplayStore σ] in
lemma acknowledgedRegion_some (applied : e.acknowledgedRegion ack = some region)
    (found : e.invalidations[ack.invalidation]? = some record) :
    e.regions[record.region]? = some region ∧ region.generation = record.regionGeneration ∧
      region.replicaGeneration = record.replicaGeneration ∧
      region.generation = ack.regionGeneration ∧
      region.replicaGeneration = ack.replicaGeneration := by
  unfold acknowledgedRegion at applied
  rw [found] at applied
  split at applied
  · rename_i hrecord _
    cases hrecord
    split at applied
    · cases applied
    · simpa [Option.filter_eq_some_iff, and_assoc] using applied
  · cases applied

omit [ReplayStore σ] in
lemma acknowledgeApplied_regions [DurableStore σ] (e : Impl σ) (ack : InvalidationAck)
    (record : InvalidationRecord) (object : ObjectRecord) (region : RegionRecord)
    (outcome : InvalidationOutcome) :
    (e.acknowledgeApplied ack record object region outcome).2.regions =
      e.regions.insert record.region (region.invalidate record.id e.tick.sequence) := by
  unfold acknowledgeApplied
  dsimp only
  generalize record.acknowledge _ _ = record'
  split
  · rfl
  · rw [recordDecision_toRecords]
    rfl

omit [ReplayStore σ] in
lemma acknowledgeInvalidation_offCurrent [DurableStore σ]
    (hrecord : e.invalidations[ack.invalidation]? = some record)
    (applied : e.acknowledgedRegion ack = some region)
    (hafter : (e.acknowledgeInvalidation ack).2.regions[record.region]? = some region') :
    region'.state ≠ .current := by
  unfold acknowledgedRegion at applied
  rw [hrecord] at applied
  cases hgranted : e.resolveLocked ack.context with
  | refused => simp [hgranted] at applied
  | granted object participant =>
    simp only [hgranted] at applied
    split at applied
    · cases applied
    rename_i hopen
    simp only [not_or, Option.not_isSome_iff_eq_none] at hopen
    obtain ⟨hrefusal, hacknowledged, hsuperseded⟩ := hopen
    simp only [Option.filter_eq_some_iff, Bool.and_eq_true, beq_iff_eq] at applied
    obtain ⟨hregion, ⟨⟨hgen, hreplica⟩, hack⟩, hackReplica⟩ := applied
    have hregions : (e.acknowledgeInvalidation ack).2.regions =
        e.regions.insert record.region (region.invalidate record.id e.tick.sequence) := by
      unfold acknowledgeInvalidation
      have hregion : e.takeDecisionId.regions[record.region]? = some region := hregion
      simp only [hrecord, hgranted, hrefusal, if_neg hacknowledged, if_neg hsuperseded, hregion]
      rw [if_neg (by simp [hgen, hreplica, ← hack, ← hackReplica])]
      exact acknowledgeApplied_regions ..
    rw [hregions, getElem?_insert_self] at hafter
    cases hafter
    simp only [RegionRecord.invalidate]
    split <;> nofun

omit [ReplayStore σ] in
lemma beginShutdown_withdraws [DurableStore σ] (e : Impl σ) (epoch : CoordinatorEpoch) :
    (e.beginShutdown epoch).2.toRecords = e.toRecords ∨
      ∀ (id : ObjectId) object, (e.beginShutdown epoch).2.objects[id]? = some object →
        object.authority = .none := by
  unfold beginShutdown
  split
  · exact .inl rfl
  split
  · exact .inl rfl
  right
  intro id object hobject
  rw [recordDecision_toRecords] at hobject
  change ((appendEach _ _).toRecords).objects[id]? = some object at hobject
  rw [appendEach_toRecords] at hobject
  simp only [withRecords_toRecords, shutdownRecords, getElem?_map,
    Option.map_eq_some_iff] at hobject
  obtain ⟨before, -, rfl⟩ := hobject
  unfold ObjectRecord.shutdown
  dsimp only
  split <;> rfl

lemma InvalidationStep.offCurrent (htracked : s.engine.Tracked) (hok : Orderly s a) {id record'}
    (found : s.engine.invalidations[id]? = some record) (hrequested : record.state = .requested)
    (h : InvalidationStep s a id record record') :
    (∃ epoch, a = .beginShutdown epoch) ∨ ¬(s.step a).engine.TargetCurrent record := by
  obtain ⟨target, htarget, htargets⟩ := htracked.target id record found hrequested
  cases h with
  | fence current known live held =>
    right
    rintro ⟨region', hafter, -, -, hstate⟩
    exact fenceParticipant_offCurrent current known live htarget
      (htargets.participant.trans held.1) (htargets.boot.trans held.2) hafter hstate
  | missing absent => cases htarget.symm.trans absent
  | @replaced ack _ region _ hregion differs =>
    obtain rfl : target = region := Option.some.inj (htarget.symm.trans hregion)
    right
    rintro ⟨region', hafter, -, -, hstate⟩
    -- the acknowledgement is not applied, so the replica was current before
    obtain ⟨after, hafter', hsteps⟩ := (step_evolved (.acknowledgeInvalidation ack)
      nofun).records.regions.forward htarget
    cases hafter.symm.trans hafter'
    have hunchanged : region'.state = target.state := by
      clear hafter hafter' hstate
      induction hsteps with
      | refl => rfl
      | tail _ hstep ih =>
        cases hstep with
        | await => exact ih
        | acknowledge applied =>
          obtain ⟨hregion', hgenerations⟩ := acknowledgedRegion_some applied found
          cases htarget.symm.trans hregion'
          exact absurd differs (by tauto)
    have hnamed := hok record target found hrequested htarget (hunchanged ▸ hstate)
    rcases differs with h | h | h | h
    · exact h htargets.generation
    · exact h htargets.replicaGeneration
    · exact h hnamed.1
    · exact h hnamed.2
  | @acknowledge ack _ region _ _ hregion applied =>
    right
    rintro ⟨region', hafter, -, -, hstate⟩
    exact acknowledgeInvalidation_offCurrent found applied hafter hstate
  | abandon => exact .inl ⟨_, rfl⟩
  | replace new =>
    have hbelow := htracked.below id record found hrequested
    exact absurd (new.above hok) (not_le.mpr hbelow)

/-- A requested invalidation stays as it is, or a shutdown withdraws all authority, or the
target is not current after the step. -/
def SettlesOffCurrent (s : Sys σ) (a : Action) : Prop :=
  ∀ (id : InvalidationId) record, s.engine.invalidations[id]? = some record →
    record.state = .requested →
      (s.step a).engine.invalidations[id]? = some record ∨
      ((∃ epoch, a = .beginShutdown epoch) ∧ ∀ (id : ObjectId) object,
        (s.step a).engine.objects[id]? = some object → object.authority = .none) ∨
      ¬(s.step a).engine.TargetCurrent record

lemma Impl.Tracked.settles (htracked : s.engine.Tracked) (hok : Orderly s a) :
    SettlesOffCurrent s a := by
  intro id record found hrequested
  rcases a.restart_or with ⟨config, rfl⟩ | ha
  · right; right
    rintro ⟨region, hregion, -, -, hcurrent⟩
    exact (boot_downgraded _ _).regions _ _ hregion hcurrent
  have hevolved := step_evolved (s := s) a ha
  obtain ⟨record', hrecord', hsteps⟩ := hevolved.records.invalidations.forward found
  rcases hsteps.cases_head with rfl | ⟨_, hfirst, -⟩
  · exact .inl hrecord'
  rcases hfirst.offCurrent htracked hok found hrequested with ⟨epoch, rfl⟩ | hoff
  · rcases beginShutdown_withdraws s.engine epoch with hsame | hnone
    · refine .inl ?_
      change ((s.engine.beginShutdown epoch).2.toRecords).invalidations[id]? = some record
      rw [hsame]
      exact found
    · exact .inr (.inl ⟨⟨epoch, rfl⟩, hnone⟩)
  · exact .inr (.inr hoff)

end Settle

/-! ### The writer keeps waiting -/

/-- The object still waits for the invalidation, or its transfer is off. -/
structure ObjectRecord.Waits (key : ObjectId) (record : InvalidationRecord)
    (object : ObjectRecord) : Prop where
  id : object.id = key
  waits : object.authority = .transferPending ∧ record.id ∈ object.outstandingInvalidations ∨
    object.authority ≠ .transferPending ∧ object.authority ≠ .exclusiveWriter

section Waits

variable {s : Sys σ} {a : Action} {key : ObjectId} {record : InvalidationRecord}
  {object object' : ObjectRecord} {r : Records}

lemma anyRequested_of_mem {ids}
    (hrecord : r.invalidations[record.id]? = some record) (hrequested : record.state = .requested)
    (hmem : record.id ∈ ids) : r.anyRequested ids := by
  simp only [Records.anyRequested, List.any_eq_true]
  exact ⟨record.id, hmem, by simp [hrecord, hrequested]⟩

lemma hasOutstanding_of_mem (hobject : r.objects[key]? = some object)
    (hrecord : r.invalidations[record.id]? = some record) (hrequested : record.state = .requested)
    (hmem : record.id ∈ object.outstandingInvalidations) :
    r.hasOutstandingInvalidationsLocked key := by
  simp only [Records.hasOutstandingInvalidationsLocked, hobject]
  exact anyRequested_of_mem hrecord hrequested hmem

omit [ReplayStore σ] in
lemma recompute_waits (stored : e.objects[key]? = some object)
    (hrecord : e.invalidations[record.id]? = some record) (hrequested : record.state = .requested)
    (h : object.Waits key record) : (e.recomputeAuthorityLocked object).Waits key record := by
  refine ⟨(recomputeAuthorityLocked_id e object).trans h.id, ?_⟩
  rcases h.waits with ⟨hpending, hmem⟩ | ⟨hpending, hexclusive⟩
  · have houtstanding : e.hasOutstandingInvalidationsLocked object.id := by
      rw [h.id]
      exact hasOutstanding_of_mem stored hrecord hrequested hmem
    simp [recomputeAuthorityLocked, hpending, houtstanding, hmem]
  right
  unfold recomputeAuthorityLocked
  split
  · contradiction
  · exact ⟨hpending, hexclusive⟩
  · contradiction
  all_goals
    split <;> exact ⟨nofun, nofun⟩

omit [ReplayStore σ] in
lemma ObjectStep.waits (hlive : s.engine.toRecords.Sat .keyed) (htracked : s.engine.Tracked)
    (hok : Orderly s a) (hawaits : Awaits s.engine.toRecords key record)
    (hkept : (∃ epoch, a = .beginShutdown epoch) ∨
      ∀ record', ¬InvalidationStep s a record.id record record')
    (h : object.Waits key record) (hstep : ObjectStep s a key object object') :
    object'.Waits key record := by
  refine ⟨hstep.id_eq.trans h.id, ?_⟩
  obtain ⟨before, hbefore, hpending, hmem⟩ := hawaits.pending
  cases hstep with
  | recompute e running stored settled =>
    obtain ⟨after, hafter, hsteps⟩ := settled.forward hawaits.issued
    have hsame : after = record := by
      rcases hsteps.cases_head with rfl | ⟨_, hfirst, -⟩
      · rfl
      · rcases hkept with ⟨epoch, rfl⟩ | hkept
        · exact absurd rfl (running epoch)
        · exact absurd hfirst (hkept _)
    exact (recompute_waits stored (hsame ▸ hafter) hawaits.requested h).waits
  | addReadGrant e =>
    unfold addReadGrantLocked
    split
    · exact h.waits
    split
    · exact h.waits
    rename_i hidle
    split
    · exact h.waits
    right
    rcases h.waits with hw | ⟨hpending, hexclusive⟩
    · exact absurd (.inr hw.1) hidle
    · split
      · exact ⟨nofun, nofun⟩
      · exact ⟨hpending, hexclusive⟩
  | revokeWriter => exact .inr (by simp)
  | shutdown =>
    right
    unfold ObjectRecord.shutdown
    dsimp only
    split <;> exact ⟨nofun, nofun⟩
  | grantWrite found idle =>
    cases hbefore.symm.trans found
    exact absurd hpending idle
  | promote found settled =>
    cases hbefore.symm.trans found
    rw [h.id, hasOutstanding_of_mem hbefore hawaits.issued hawaits.requested hmem] at settled
    cases settled
  | releaseDirty =>
    unfold ObjectRecord.releaseDirty
    split <;> exact h.waits
  | addOutstanding =>
    refine h.waits.imp_left fun hw => ⟨hw.1, ?_⟩
    simp [ObjectRecord.addOutstanding, hw.2]
  | @dropIssued _ _ _ id _ new =>
    refine h.waits.imp_left fun hw => ⟨hw.1, ?_⟩
    have hbelow := htracked.below _ _ hawaits.issued hawaits.requested
    have hne : record.id ≠ id := fun heq => absurd (new.above hok) (not_le.mpr (heq ▸ hbelow))
    simp [ObjectRecord.dropOutstanding, hw.2, hne]
  | @dropSettled _ _ _ settled settled' found settles =>
    refine h.waits.imp_left fun hw => ⟨hw.1, ?_⟩
    have hid := settles.id_eq (hlive.invalidations _ _ found)
    have hne : record.id ≠ settled'.id := fun heq => by
      rw [hid] at heq
      rw [← heq] at found settles
      cases hawaits.issued.symm.trans found
      exact (hkept.resolve_left nofun) _ settles
    simp [ObjectRecord.dropOutstanding, hw.2, hne]
  | retire | rollbackWrite | releaseWriter => exact .inr ⟨nofun, nofun⟩
  | _ => exact h.waits

end Waits

def Sys.authorityOf (s : Sys σ) (key : ObjectId) : Option AuthorityMode :=
  (s.engine.objects[key]?).map (·.authority)

/-- An orderly step of a pending transfer after which the replica the invalidation targets is
still current. -/
def StaysCurrent (key : ObjectId) (record : InvalidationRecord) (s : Sys σ) (a : Action) : Prop :=
  Orderly s a ∧ s.authorityOf key = some .transferPending ∧
    (s.step a).engine.TargetCurrent record

structure WaitInvariant (key : ObjectId) (record : InvalidationRecord) (s : Sys σ) : Prop where
  keyed : LiveKeyed s
  tracked : s.engine.Tracked
  waits : s.authorityOf key = some .transferPending → Awaits s.engine.toRecords key record
  notExclusive : s.authorityOf key ≠ some .exclusiveWriter

section Run

variable {s : Sys σ} {a : Action} {key : ObjectId} {record : InvalidationRecord}

lemma WaitInvariant.step (h : WaitInvariant key record s) (hok : StaysCurrent key record s a) :
    WaitInvariant key record (s.step a) := by
  obtain ⟨horderly, hpending, hcurrent⟩ := hok
  have hawaits := h.waits hpending
  have ha : a.Runs := by
    rintro config rfl
    obtain ⟨region, hregion, -, -, hstate⟩ := hcurrent
    exact (boot_downgraded _ _).regions _ _ hregion hstate
  have hkept : (∃ epoch, a = .beginShutdown epoch) ∨
      ∀ record', ¬InvalidationStep s a record.id record record' := by
    refine or_iff_not_imp_left.mpr fun hrunning record' hstep => ?_
    rcases hstep.offCurrent h.tracked horderly hawaits.issued hawaits.requested with hdown | hoff
    · exact hrunning hdown
    · exact hoff hcurrent
  have hevolved := step_evolved (s := s) a ha
  obtain ⟨before, hbefore, hauthority, hmem⟩ := hawaits.pending
  obtain ⟨object, hobject, hsteps⟩ := hevolved.records.objects.forward hbefore
  have hwaits : object.Waits key record := by
    clear hobject
    induction hsteps with
    | refl => exact ⟨h.keyed.live.objects _ _ hbefore, .inl ⟨hauthority, hmem⟩⟩
    | tail _ hstep ih => exact hstep.waits h.keyed.live h.tracked horderly hawaits hkept ih
  have hafter : (s.step a).authorityOf key = some object.authority := by
    simp [Sys.authorityOf, hobject]
  refine ⟨h.keyed.step, Impl.Tracked.step h.keyed h.tracked horderly, fun hstill => ?_,
    fun hex => ?_⟩
  · obtain hstill : object.authority = .transferPending :=
      Option.some.inj (hafter.symm.trans hstill)
    have hlisted := (hwaits.waits.resolve_right fun hoff => hoff.1 hstill).2
    refine ⟨⟨object, hobject, hstill, hlisted⟩, ?_, hawaits.requested⟩
    rcases h.tracked.settles horderly record.id record hawaits.issued hawaits.requested with
      hsame | ⟨-, hnone⟩ | hoff
    · exact hsame
    · rw [hnone _ _ hobject] at hstill
      cases hstill
    · exact absurd hcurrent hoff
  have hexclusive : object.authority = .exclusiveWriter := Option.some.inj (hafter.symm.trans hex)
  rcases hwaits.waits with hwait | hoff
  · rw [hwait.1] at hexclusive
    cases hexclusive
  · exact hoff.2 hexclusive

lemma orderly_run {config} {store : Option σ} {as}
    (hrun : RunOk Sys.step Orderly (Sys.boot config store) as) :
    LiveKeyed ((Sys.boot config store).run as) ∧ ((Sys.boot config store).run as).engine.Tracked :=
  run_invariant (I := fun s => LiveKeyed s ∧ s.engine.Tracked)
    (fun _ _ hok h => ⟨h.1.step, Impl.Tracked.step h.1 h.2 hok⟩)
    ⟨LiveKeyed.boot, Impl.Tracked.boot config store⟩ hrun

end Run

/-- **Write transfers**: in every orderly run a requested invalidation is settled only by a
shutdown or by a step after which its target is not current. So an object whose grant
requires the invalidation does not become exclusive as long as the target has stayed
current since the grant. -/
theorem transfer_waits (config : EngineConfig) (store : Option σ) (as : List Action)
    (hrun : RunOk Sys.step Orderly (Sys.boot config store) as) :
    RunOk Sys.step SettlesOffCurrent (Sys.boot config store) as ∧
      ∀ (request : WriteRequest) (grant : WriteGrant) (record : InvalidationRecord)
        (bs : List Action),
        Orderly ((Sys.boot config store).run as) (.acquireWrite request) →
        (((Sys.boot config store).run as).engine.acquireWrite request).1 = .ok grant →
        record ∈ grant.requiredInvalidations →
        RunOk Sys.step (StaysCurrent request.context.object record)
          (((Sys.boot config store).run as).step (.acquireWrite request)) bs →
        ((((Sys.boot config store).run as).step (.acquireWrite request)).run bs).authorityOf
          request.context.object ≠ some .exclusiveWriter := by
  refine ⟨runOk_of_invariant (I := fun s => LiveKeyed s ∧ s.engine.Tracked)
    (fun _ _ hok h => ⟨h.1.step, Impl.Tracked.step h.1 h.2 hok⟩)
    (fun _ _ hok h => h.2.settles hok) ⟨LiveKeyed.boot, Impl.Tracked.boot config store⟩ hrun, ?_⟩
  intro request grant record bs horderly hgrant hmem hstays
  obtain ⟨hkeyed, htracked⟩ := orderly_run hrun
  generalize (Sys.boot config store).run as = s at horderly hgrant hstays hkeyed htracked ⊢
  have hawaits : Awaits (s.step (.acquireWrite request)).engine.toRecords request.context.object
      record :=
    (acquireWrite_outcome hkeyed.live.invalidations request).awaits horderly grant hgrant
      record hmem
  obtain ⟨object, hobject, hpending, -⟩ := hawaits.pending
  have hstart : WaitInvariant request.context.object record
      (s.step (.acquireWrite request)) := by
    refine ⟨hkeyed.step, Impl.Tracked.step hkeyed htracked horderly, fun _ => hawaits, ?_⟩
    rw [Sys.authorityOf, hobject]
    simp [hpending]
  exact (run_invariant (fun _ _ hok h => h.step hok) hstart hstays).notExclusive

def Duo.observed : List Action := Duo.enrol ++ [Duo.observe 1, Duo.observe 2]

def Duo.writeRequest : WriteRequest := { context := Duo.context 1, region := ⟨1⟩ }

def Duo.required : Option (List (RegionId × RegionGeneration × ReplicaGeneration)) :=
  match ((Duo.start.run Duo.observed).engine.acquireWrite Duo.writeRequest).1 with
  | .ok grant => some (grant.requiredInvalidations.map fun record =>
    (record.region, record.regionGeneration, record.replicaGeneration))
  | .error _ => none

theorem transfer_waits_asked_twice : ∃ grant, ∃ record ∈ grant.requiredInvalidations,
    ((Duo.start.run Duo.observed).engine.acquireWrite Duo.writeRequest).1 = .ok grant ∧
      record.region = ⟨2⟩ ∧
      (((Duo.start.run Duo.observed).step (.acquireWrite Duo.writeRequest)).run
        [.acquireWrite Duo.writeRequest]).authorityOf ⟨1⟩ ≠ some .exclusiveWriter := by
  have hrequired : Duo.required = some [(⟨2⟩, ⟨1⟩, ⟨1⟩)] := by decide +kernel
  unfold Duo.required at hrequired
  split at hrequired
  · rename_i grant hgrant
    obtain ⟨record, hsingle, hrecord⟩ : ∃ record, grant.requiredInvalidations = [record] ∧
        (record.region, record.regionGeneration, record.replicaGeneration) = (⟨2⟩, ⟨1⟩, ⟨1⟩) := by
      simpa [List.map_eq_singleton_iff] using hrequired
    simp only [Prod.mk.injEq] at hrecord
    obtain ⟨hregion, hgeneration, hreplica⟩ := hrecord
    have hmem : record ∈ grant.requiredInvalidations := by simp [hsingle]
    have hrun : RunOk Sys.step Orderly Duo.start Duo.observed := by
      simp [Duo.observed, Duo.enrol, Duo.join, Duo.region, Duo.observeAt, Orderly]
    have hfirst : Orderly (Duo.start.run Duo.observed) (.acquireWrite Duo.writeRequest) := by
      unfold Orderly
      decide +kernel
    have hsecond : Orderly ((Duo.start.run Duo.observed).step (.acquireWrite Duo.writeRequest))
        (.acquireWrite Duo.writeRequest) := by
      unfold Orderly
      decide +kernel
    have hcurrent : (((((Duo.start.run Duo.observed).step (.acquireWrite Duo.writeRequest)).step
        (.acquireWrite Duo.writeRequest)).engine.regions[(⟨2⟩ : RegionId)]?).map fun region =>
          (region.generation, region.replicaGeneration, region.state)) =
        some (⟨1⟩, ⟨1⟩, .current) := by
      decide +kernel
    have htarget : (((Duo.start.run Duo.observed).step (.acquireWrite Duo.writeRequest)).step
        (.acquireWrite Duo.writeRequest)).engine.TargetCurrent record := by
      obtain ⟨region, hfound, hstate⟩ := Option.map_eq_some_iff.mp hcurrent
      simp only [Prod.mk.injEq] at hstate
      exact ⟨region, hregion ▸ hfound, by rw [hstate.1, hgeneration],
        by rw [hstate.2.1, hreplica], hstate.2.2⟩
    exact ⟨grant, record, hmem, hgrant, hregion,
      (transfer_waits {} (some ({} : LogStore)) Duo.observed hrun).2 Duo.writeRequest grant record
        [.acquireWrite Duo.writeRequest] hfirst hgrant hmem
        ⟨⟨hsecond, by decide +kernel, htarget⟩, trivial⟩⟩
  · cases hrequired

/-- A shutdown gives up a requested invalidation while its target is current. -/
theorem beginShutdown_settles_current :
    let before := (Duo.start.run Duo.contested).engine
    let after := (Duo.start.run (Duo.contested ++ [.beginShutdown ⟨1⟩])).engine
    (before.invalidations[(⟨1⟩ : InvalidationId)]?).map (fun record =>
        (record.state, record.region, record.regionGeneration, record.replicaGeneration)) =
        some (.requested, ⟨2⟩, ⟨1⟩, ⟨1⟩) ∧
      (after.invalidations[(⟨1⟩ : InvalidationId)]?).map (·.state) = some .unknown ∧
      (after.regions[(⟨2⟩ : RegionId)]?).map (fun region =>
        (region.state, region.generation, region.replicaGeneration)) =
        some (.current, ⟨1⟩, ⟨1⟩) := by
  decide +kernel

end CoherenceFabric
