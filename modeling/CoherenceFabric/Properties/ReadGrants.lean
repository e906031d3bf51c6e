import CoherenceFabric.Properties.Containment

/-!
Live read grants.

A grant joins two parties: the participant that reads and the replica it reads, which another
participant may hold. It is given on a current replica to a live incarnation, and most steps leave
both in place or release the grant. The steps that look at one of the two parties only are the
ones that `Sys.disturbs` names.
-/

namespace CoherenceFabric

open FiniteMap Relation Transition

variable {σ : Type}

/-! ### What a live grant refers to -/

/-- The replica that the grant names is one of the object, in a state that can be read. -/
def ReadGrant.Readable (grant : ReadGrant) (r : Records) (key : ObjectId) : Prop :=
  ∃ region ∈ r.regions[grant.region]?, region.object = key ∧ region.state.isReadable = true

/-- The holder of the grant is live, under the boot that the grant was given to. -/
def ReadGrant.Held (grant : ReadGrant) (r : Records) : Prop :=
  ∃ participant ∈ r.participants[grant.participant]?, participant.boot = grant.boot ∧
    participant.lifecycle ≠ .fenced ∧ participant.lifecycle ≠ .retired

instance (grant : ReadGrant) (r : Records) (key : ObjectId) : Decidable (grant.Readable r key) :=
  inferInstanceAs (Decidable (∃ region ∈ r.regions[grant.region]?, _))

instance (grant : ReadGrant) (r : Records) : Decidable (grant.Held r) :=
  inferInstanceAs (Decidable (∃ participant ∈ r.participants[grant.participant]?, _))

/-- Every read grant that has not been released is `p`. -/
abbrev Records.AllGrants (r : Records) (p : ObjectId → ReadGrant → Prop) : Prop :=
  All (fun key object => ∀ grant ∈ object.reads, grant.released = false → p key grant) r.objects

/-- Live grants refer to a readable replica of their object and to a live holder. -/
def Records.GrantsValid (r : Records) : Prop :=
  r.AllGrants fun key grant => grant.Readable r key ∧ grant.Held r

instance (r : Records) : Decidable r.GrantsValid := inferInstanceAs (Decidable (All _ _))

/-- The step takes the replica or the holder of a live grant away and leaves the grant: it fences
the participant that holds the replica, or admits a new incarnation of it or of the reader; it
synchronizes the replica, or invalidates one that holds no version; it retires an object that lists
the replica of another one; or it admits a participant under an identity that is in use. -/
def Sys.disturbs (s : Sys σ) (a : Action) (key : ObjectId) (grant : ReadGrant) : Bool :=
  let replica := s.engine.regions[grant.region]?
  let on (record : ParticipantRecord) : Bool :=
    replica.any fun region => region.participant == record.id && region.boot == record.boot
  let unversioned := replica.any fun region => !region.version.defined
  match a with
  | .fenceParticipant id _ _ => grant.participant != id && (s.engine.participants[id]?).any on
  | .registerParticipant name boot _ _ =>
    match s.engine.participantIndex[name]? with
    | none => grant.participant == ⟨s.engine.nextParticipantId⟩
    | some id =>
      let record := (s.engine.participants[id]?).getD {}
      !(record.boot == boot && record.lifecycle != .retired) &&
        (grant.participant == record.id || on record)
  | .beginSync request => request.destinationRegion == grant.region
  | .completeSync request =>
    (s.engine.syncs[request.operation]?).any fun sync => sync.destinationRegion == grant.region
  | .failSync request =>
    (s.engine.syncs[request.operation]?).any fun sync => sync.destinationRegion == grant.region
  | .invalidate request => unversioned && request.targetRegion == grant.region
  | .acknowledgeInvalidation ack => unversioned &&
      (s.engine.invalidations[ack.invalidation]?).any fun record => record.region == grant.region
  | .retireObject id _ _ => id != key &&
      (s.engine.objects[id]?).any fun object => object.replicas.contains grant.region
  | _ => false

def Undisturbed (s : Sys σ) (a : Action) : Prop :=
  s.engine.toRecords.AllGrants fun key grant => s.disturbs a key grant = false

instance (s : Sys σ) (a : Action) : Decidable (Undisturbed s a) :=
  inferInstanceAs (Decidable (All _ _))

variable {s : Sys σ} {a : Action} {key : ObjectId} {grant : ReadGrant} {region : RegionRecord}

/-! ### Where the grants after a step come from -/

section Origin

variable {object object' : ObjectRecord}

lemma mem_addReadGrantLocked {e : Impl σ} {ctx lease}
    (hmem : grant ∈ (e.addReadGrantLocked object region ctx lease).reads) :
    grant ∈ object.reads ∨ grant.participant = ctx.participant ∧ grant.boot = ctx.boot ∧
      grant.region = region.id := by
  unfold Impl.addReadGrantLocked at hmem
  split at hmem
  · exact .inl hmem
  split at hmem
  · exact .inl hmem
  split at hmem
  · exact .inl hmem
  · rcases List.mem_append.mp hmem with hold | hnew
    · exact .inl hold
    · obtain rfl := List.mem_singleton.mp hnew
      exact .inr ⟨rfl, rfl, rfl⟩

lemma ObjectRecord.mem_cutOff {id boot} {policy sequence}
    (hmem : grant ∈ (object.cutOff id boot policy sequence).reads)
    (hlive : grant.released = false) : grant ∈ object.reads := by
  obtain ⟨reads, touched, hreads, ⟨-, -, hcut⟩ | ⟨-, hcut⟩⟩ :=
    object.cutOff_cases id boot policy sequence
  all_goals
    rw [hcut] at hmem
    exact hreads grant hmem hlive

lemma Impl.relinquish_reads (e : Impl σ) (object : ObjectRecord) :
    (e.relinquish object).reads = object.reads := by
  unfold Impl.relinquish ObjectRecord.releaseDirty
  dsimp only
  repeat' split
  all_goals rfl

lemma ObjectChange.grants (h : ObjectChange s a key object object') (hmem : grant ∈ object'.reads)
    (hlive : grant.released = false) : grant ∈ object.reads ∨
      ∃ request participant region, ∃ selected : RegionId, a = .acquireRead request ∧
        key = request.context.object ∧
        s.engine.resolveLocked request.context = .granted object participant ∧
        s.engine.regions[selected]? = some region ∧ region.object = object.id ∧
        region.state = .current ∧ grant.participant = request.context.participant ∧
        grant.boot = request.context.boot ∧ grant.region = region.id := by
  cases h with
  | fence e =>
    rw [recomputeAuthorityLocked_reads] at hmem
    exact .inl (ObjectRecord.mem_cutOff hmem hlive)
  | retireRegion e =>
    rw [recomputeAuthorityLocked_reads] at hmem
    exact .inl (ObjectRecord.mem_releaseReads hmem hlive)
  | grantRead e granted found belongs current =>
    rcases mem_addReadGrantLocked hmem with hold | ⟨hparticipant, hboot, hregion⟩
    · exact .inl hold
    · exact .inr ⟨_, _, _, _, rfl, rfl, granted, found, belongs, current, hparticipant, hboot,
        hregion⟩
  | releaseLease e =>
    rw [recomputeAuthorityLocked_reads] at hmem
    exact .inl (ObjectRecord.mem_releaseAt hmem hlive)
  | releaseAuthority e =>
    rw [recomputeAuthorityLocked_reads, Impl.relinquish_reads] at hmem
    exact .inl hmem
  | invalidateNow e | acknowledge e =>
    rw [recomputeAuthorityLocked_reads] at hmem
    exact .inl hmem
  | transferFailed | transfer | retire =>
    exact absurd ⟨grant, hmem, hlive⟩ (ObjectRecord.not_leased_of_released object.reads rfl)
  | shutdown => exact absurd ⟨grant, hmem, hlive⟩ (object.shutdown_not_leased _)
  | _ => exact .inl hmem

end Origin

/-! ### The replica and the holder of a grant -/

lemma RegionChange.readable {id region'}
    (h : RegionChange s a id region region') (hid : id = grant.region)
    (hfound : s.engine.regions[grant.region]? = some region)
    (hcalm : s.disturbs a key grant = false) (hreadable : region.state.isReadable = true)
    (hfence : ∀ id epoch reason, a ≠ .fenceParticipant id epoch reason)
    (hregion : ∀ id generation epoch, a ≠ .retireRegion id generation epoch)
    (hobject : ∀ id generation epoch, a ≠ .retireObject id generation epoch) :
    region'.state.isReadable = true := by
  have hinvalidate : ∀ id seq, region.version.defined = true →
      (region.invalidate id seq).state.isReadable = true := by
    intro id seq hversion
    simp [RegionRecord.invalidate, hversion, CoherenceState.isReadable]
  cases h with
  | rejoin known found differs held =>
    subst found
    refine absurd ?_ differs
    simpa [Sys.disturbs, known, hfound, held] using hcalm
  | fence => exact absurd rfl (hfence _ _ _)
  | retire => exact absurd rfl (hregion _ _ _)
  | markDirty | publish | supersede | release => rfl
  | invalidateNow => exact hinvalidate _ _ (by simpa [Sys.disturbs, hfound, hid] using hcalm)
  | same | transfer | invalidateLater => exact hreadable
  | acknowledge acknowledges =>
    exact hinvalidate _ _ (by simpa [Sys.disturbs, hfound, acknowledges.issued, hid] using hcalm)
  | requestSync => simp [Sys.disturbs, hid] at hcalm
  | completeSync completes => simp [Sys.disturbs, completes.planned, hid] at hcalm
  | failSync fails => simp [Sys.disturbs, fails.planned, hid] at hcalm
  | revalidate =>
    unfold RegionRecord.revalidate
    dsimp only
    split <;> rfl
  | retireObject => exact absurd rfl (hobject _ _ _)

lemma ParticipantStep.held {participant participant'}
    (h : ParticipantStep s a grant.participant participant participant')
    (hnamed : All (fun id participant => participant.id = id) s.engine.participants)
    (hheld : grant.Held s.engine.toRecords) (hcalm : s.disturbs a key grant = false)
    (hfence : ∀ id epoch reason, a ≠ .fenceParticipant id epoch reason)
    (hlive : participant.boot = grant.boot ∧ participant.lifecycle ≠ .fenced ∧
      participant.lifecycle ≠ .retired) :
    participant'.boot = grant.boot ∧ participant'.lifecycle ≠ .fenced ∧
      participant'.lifecycle ≠ .retired := by
  generalize hid : grant.participant = id at h
  cases h with
  | closeSession =>
    refine ⟨hlive.1, ?_⟩
    unfold ParticipantRecord.closeSession
    split
    · exact ⟨nofun, nofun⟩
    · exact hlive.2
  | fence => exact absurd rfl (hfence _ _ _)
  | count => exact hlive
  | replace new =>
    cases new with
    | fresh allowed unknown =>
      simp [Sys.disturbs, unknown, hid, Impl.newParticipant] at hcalm
    | @reregister _ _ _ _ id record allowed indexed known same =>
      cases hfound : s.engine.participants[id]? with
      | none =>
        rw [hfound] at known
        subst known
        cases same.1 ▸ registerParticipantRefusal_none allowed
      | some renewed =>
        -- the record that is renewed is the holder's
        rw [hfound, Option.getD_some] at known
        subst known
        obtain ⟨holder, hholder, hboot, hfenced, hretired⟩ := hheld
        rw [hid, hnamed id record hfound, hfound] at hholder
        cases hholder
        refine ⟨hboot, ?_⟩
        unfold ParticipantRecord.reregister
        revert hfenced hretired
        cases record.lifecycle <;> simp
    | reincarnate allowed indexed known differs live =>
      subst known
      refine absurd ?_ differs
      simp only [Sys.disturbs, indexed, hid, beq_self_eq_true, Bool.true_or, Bool.and_true,
        Bool.not_eq_eq_eq_not, Bool.not_false, Bool.and_eq_true, beq_iff_eq] at hcalm
      exact hcalm.1

section Step

variable [ReplayStore σ] {epoch : CoordinatorEpoch} {object' : ObjectRecord} {healthy : Bool}
  {l : Ledger}

lemma ReadGrant.Held.step (h : grant.Held s.engine.toRecords) (hnamed : LiveNamed s)
    (ha : a.Runs) (hcalm : s.disturbs a key grant = false)
    (hfence : ∀ id epoch reason, a ≠ .fenceParticipant id epoch reason) :
    grant.Held (s.step a).engine.toRecords := by
  obtain ⟨holder, hholder, hlive⟩ := id h
  obtain ⟨after, hafter, hsteps⟩ := (step_evolved a ha).records.participants.forward hholder
  refine ⟨after, hafter, ?_⟩
  clear hafter
  induction hsteps with
  | refl => exact hlive
  | tail _ hlast ih => exact hlast.held hnamed.live.participants h hcalm hfence ih

lemma ReadGrant.Readable.step (h : grant.Readable s.engine.toRecords key) (hkeyed : LiveKeyed s)
    (ha : a.Runs) (hcalm : s.disturbs a key grant = false)
    (hfence : ∀ id epoch reason, a ≠ .fenceParticipant id epoch reason)
    (hregion : ∀ id generation epoch, a ≠ .retireRegion id generation epoch)
    (hobject : ∀ id generation epoch, a ≠ .retireObject id generation epoch) :
    grant.Readable (s.step a).engine.toRecords key := by
  obtain ⟨region, hfound, hbelongs, hreadable⟩ := h
  obtain ⟨region', hfound', hchange⟩ := (step_changes hkeyed ha).regions.forward hfound
  exact ⟨region', hfound', hchange.effect.samePlace.object.trans hbelongs,
    hchange.readable rfl hfound hcalm hreadable hfence hregion hobject⟩

lemma fenceParticipant_grants (h : s.engine.toRecords.GrantsValid) (hnamed : LiveNamed s)
    {id reason} (hok : Undisturbed s (.fenceParticipant id epoch reason)) :
    (s.engine.fenceParticipant id epoch reason).2.toRecords.GrantsValid := by
  rcases fenceParticipant_cases s.engine id epoch reason with
    ⟨-, hsame⟩ | ⟨current, participant, known, live⟩
  · rwa [hsame]
  obtain ⟨hparticipants, hregions, -⟩ := fenceParticipant_tables reason current known live
  intro key object' hobject' grant hmem hlive
  obtain ⟨mode, hobjects⟩ := fenceParticipant_object reason current known live key
  obtain ⟨object, hobject, rfl⟩ := Option.map_eq_some_iff.mp (hobjects.symm.trans hobject')
  have hbefore := ObjectRecord.mem_cutOff hmem hlive
  obtain ⟨⟨region, hfound, hbelongs, hreadable⟩, holder, hholder, hboot, hholderLive⟩ :=
    h key object hobject grant hbefore hlive
  -- the holder is another participant: the grants of this one have been released
  have hother : grant.participant ≠ id := by
    rintro rfl
    cases hholder.symm.trans known
    exact ObjectRecord.cutOff_reads hmem hlive ⟨rfl, hboot.symm⟩
  have haway : ¬ (region.participant = id ∧ region.boot = participant.boot) := by
    have hreplica : s.engine.regions[grant.region]? = some region := hfound
    have hid : participant.id = id := hnamed.live.participants id participant known
    have hcalm := hok key object hobject grant hbefore hlive
    simpa [Sys.disturbs, known, hother, hreplica, hid] using hcalm
  refine ⟨⟨region, ?_, hbelongs, hreadable⟩, holder, ?_, hboot, hholderLive⟩
  · have hkept : region.cutOff id participant.boot reason s.engine.tick.sequence = region :=
      if_neg fun hcut => haway ⟨hcut.1, hcut.2.1⟩
    rw [hregions, getElem?_map, hfound]
    exact congrArg some hkept
  · rw [hparticipants, getElem?_insert]
    simpa [hother.symm] using hholder

lemma Outcome.retireRegion_spares {id generation}
    (h : Outcome s (.retireRegion id generation epoch) healthy l) (hkeyed : LiveKeyed s)
    (hobject' : l.objects[key]? = some object') (hmem : grant ∈ object'.reads)
    (hlive : grant.released = false) {object} (hobject : s.engine.objects[key]? = some object)
    (hreadable : grant.Readable s.engine.toRecords key) :
    l.regions[grant.region]? = s.engine.regions[grant.region]? := by
  obtain ⟨region, hfound, hbelongs, -⟩ := hreadable
  have hother : ∀ retired : RegionRecord, id ≠ grant.region →
      (s.engine.regions.insert id retired)[grant.region]? = s.engine.regions[grant.region]? :=
    fun retired hne => by simp [getElem?_insert, hne]
  cases h with
  | idle => rfl
  | retireOrphan allowed absent =>
    refine hother _ ?_
    rintro rfl
    cases (retireRegionRefusal_ok allowed).symm.trans hfound
    rw [hbelongs, hobject] at absent
    cases absent
  | retireRegion e allowed found stage =>
    rw [stage, Ledger.setObject_setObject] at hobject' ⊢
    refine hother _ ?_
    rintro rfl
    cases (retireRegionRefusal_ok allowed).symm.trans hfound
    subst hbelongs
    obtain rfl := Option.some.inj (getElem?_insert_self.symm.trans hobject')
    rw [recomputeAuthorityLocked_reads] at hmem
    have hspared := ObjectRecord.releaseReads_selected hmem hlive
    have hid : region.id = grant.region := hkeyed.live.regions _ region hfound
    simp [hid] at hspared
  | prefer reads => simp at reads

omit [ReplayStore σ] in
lemma Outcome.retireObject_spares {id generation}
    (h : Outcome s (.retireObject id generation epoch) healthy l)
    (hobject' : l.objects[key]? = some object') (hmem : grant ∈ object'.reads)
    (hlive : grant.released = false)
    (hcalm : s.disturbs (.retireObject id generation epoch) key grant = false) :
    l.regions[grant.region]? = s.engine.regions[grant.region]? := by
  cases h with
  | idle => rfl
  | retireObjectFailed => rfl
  | @retireObject _ _ _ _ object seq allowed =>
    have hfound := retireObjectRefusal_ok allowed
    have hother : key ≠ id := by
      rintro rfl
      obtain rfl := Option.some.inj (getElem?_insert_self.symm.trans hobject')
      exact ObjectRecord.not_leased_of_released object.reads rfl ⟨grant, hmem, hlive⟩
    have hunlisted : grant.region ∉ object.replicas := by
      simpa [Sys.disturbs, hfound, hother.symm] using hcalm
    rw [getElem?_map]
    simp only [hunlisted, if_false, Option.map_id_fun', id_eq]
  | prefer reads => simp at reads

theorem Records.GrantsValid.step (h : s.engine.toRecords.GrantsValid) (hkeyed : LiveKeyed s)
    (hnamed : LiveNamed s) (ha : a.Runs) (hok : Undisturbed s a) :
    (s.step a).engine.toRecords.GrantsValid := by
  by_cases hfence : ∃ id epoch reason, a = .fenceParticipant id epoch reason
  · obtain ⟨id, epoch, reason, rfl⟩ := hfence
    exact fenceParticipant_grants h hnamed hok
  have hfence : ∀ id epoch reason, a ≠ .fenceParticipant id epoch reason :=
    fun id epoch reason ha => hfence ⟨id, epoch, reason, ha⟩
  intro key object' hobject' grant hmem hlive
  obtain ⟨object, hobject, hchange⟩ | ⟨-, hnew⟩ :=
    (step_changes hkeyed ha).objects.origin hobject'
  swap
  · cases hnew
    cases hmem
  have hbefore : (grant.Readable s.engine.toRecords key ∧ grant.Held s.engine.toRecords) ∧
      s.disturbs a key grant = false := by
    rcases hchange.grants hmem hlive with hold | ⟨request, participant, region, selected, rfl, rfl,
      granted, found, belongs, current, hparticipant, hboot, hregion⟩
    · exact ⟨h key object hobject grant hold hlive, hok key object hobject grant hold hlive⟩
    -- a new grant is on a current replica, and its holder is the caller
    have hauthorized := resolveLocked_granted granted
    have hid := hkeyed.live.regions selected region found
    have hkey := hkeyed.live.objects _ object hobject
    refine ⟨⟨⟨region, ?_, belongs.trans hkey, by rw [current]; rfl⟩, participant, ?_,
      hauthorized.boot.trans hboot.symm, hauthorized.participant_live⟩, rfl⟩
    · rw [hregion, hid]
      exact found
    · rw [hparticipant]
      exact hauthorized.participant_found
  obtain ⟨⟨hreadable, hheld⟩, hcalm⟩ := hbefore
  refine ⟨?_, hheld.step hnamed ha hcalm hfence⟩
  have hends := step_outcome hkeyed.live.objects a ha
  by_cases hretires : (∃ id generation epoch, a = .retireRegion id generation epoch) ∨
      ∃ id generation epoch, a = .retireObject id generation epoch
  · have hregion : (s.step a).engine.regions[grant.region]? = s.engine.regions[grant.region]? := by
      rcases hretires with ⟨id, generation, epoch, rfl⟩ | ⟨id, generation, epoch, rfl⟩
      · exact hends.retireRegion_spares hkeyed hobject' hmem hlive hobject hreadable
      · exact hends.retireObject_spares hobject' hmem hlive hcalm
    obtain ⟨region, hfound, hrest⟩ := hreadable
    exact ⟨region, hregion.trans hfound, hrest⟩
  · exact hreadable.step hkeyed ha hcalm hfence
      (fun id generation epoch ha => hretires (.inl ⟨id, generation, epoch, ha⟩))
      fun id generation epoch ha => hretires (.inr ⟨id, generation, epoch, ha⟩)

end Step

/-! ### Along a run -/

section Run

variable [ReplayStore σ]

lemma boot_grantsValid (config : EngineConfig) (store : Option σ) :
    (Sys.boot config store).engine.toRecords.GrantsValid := by
  have hreads : All (fun _ object => object.reads = []) (Sys.boot config store).engine.objects :=
    boot_objects fun image object previous epoch sequence =>
      (image.restoreObject_restored object previous epoch sequence).reads
  intro key object hobject grant hmem
  rw [hreads key object hobject] at hmem
  cases hmem

/-- **Live read grants stay valid** in a run none of whose steps disturbs a grant. -/
theorem live_grants_valid (config : EngineConfig) (store : Option σ) (as : List Action)
    (hok : RunOk Sys.step Undisturbed (Sys.boot config store) as) :
    ((Sys.boot config store).run as).engine.toRecords.GrantsValid := by
  have hrun : ∀ s : Sys σ, LiveKeyed s ∧ LiveNamed s ∧ s.engine.toRecords.GrantsValid →
      RunOk Sys.step Undisturbed s as → LiveKeyed (s.run as) ∧ LiveNamed (s.run as) ∧
        (s.run as).engine.toRecords.GrantsValid := by
    intro s
    refine run_invariant (I := fun s => LiveKeyed s ∧ LiveNamed s ∧
      s.engine.toRecords.GrantsValid) fun s a hok ⟨hkeyed, hnamed, h⟩ => ?_
    refine ⟨hkeyed.step, hnamed.step, ?_⟩
    rcases a.restart_or with ⟨config, rfl⟩ | ha
    · exact boot_grantsValid config _
    · exact h.step hkeyed hnamed ha hok
  exact (hrun _ ⟨.boot, .boot, boot_grantsValid config store⟩ hok).2.2

end Run

namespace Duo

/-- The second participant reads the replica of the first one, which has published and given its
authority back. -/
def reading : List Action :=
  publishedOnce ++
    [.release
      { context := context 1, ownershipGeneration := ⟨2⟩, releaseWriteAuthority := true },
    .acquireRead { context := context 2, region := ⟨1⟩ }]

end Duo

theorem live_grants_valid_reading :
    let s : Sys LogStore := (Sys.boot {} (some {})).run Duo.reading
    ((s.engine.objects[(⟨1⟩ : ObjectId)]?).any fun object => object.anyLiveReads) = true ∧
      s.engine.toRecords.GrantsValid := by
  have hok : RunOk Sys.step Undisturbed (Sys.boot {} (some ({} : LogStore))) Duo.reading := by
    decide +kernel
  exact ⟨by decide +kernel, live_grants_valid {} (some ({} : LogStore)) Duo.reading hok⟩

/-- The first participant is fenced: the grant stays, on a replica that cannot be read. -/
theorem grant_on_fenced_replica :
    let s : Sys LogStore :=
      (Sys.boot {} (some {})).run (Duo.reading ++ [.fenceParticipant ⟨1⟩ ⟨1⟩ []])
    ¬ s.engine.toRecords.GrantsValid := by
  decide +kernel

end CoherenceFabric
