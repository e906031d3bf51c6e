import CoherenceFabric.Effects.Combinators

/-!
What the operations on domains, participants, objects and regions do, as evolutions.
-/

namespace CoherenceFabric

open FiniteMap Relation Impl

variable {σ : Type} {s : Sys σ} {a : Action} {e : Impl σ}

variable [DurableStore σ] {epoch : CoordinatorEpoch} {object : ObjectRecord}
  {registration : RegionRegistration}

/-! ### Domains and participants -/

theorem createDomain_evolved (name : Text) :
    Evolved s (.createDomain name) (s.engine.createDomain name).2 := by
  unfold createDomain
  dsimp only
  split
  · exact .init
  rename_i allowed
  have h : Evolved s (.createDomain name) ((s.engine.withCounters
      { s.engine.toCounters with nextDomainId := s.engine.nextDomainId + 1 }).appendLocked
        (.upsertDomain (s.engine.newDomain name))).2 :=
    Evolved.init.withCounters.appendLocked (.domain (.create allowed))
  split
  · exact h
  · exact evolved_tick.mpr (h.withRecords
      { h.records with domains := h.records.domains.add fun _ => .create allowed })

omit [DurableStore σ] in
lemma NewParticipant.admits {id record} (h : NewParticipant s a id record) : a.admits := by
  cases h <;> rfl

lemma admitParticipant_evolved (h : Evolved s a e) {record}
    (hnew : NewParticipant s a record.id record) : Evolved s a (e.admitParticipant record).2 := by
  unfold admitParticipant
  dsimp only
  have h := h.appendLocked (Journalled.participant hnew.derives)
  split
  · exact h
  exact evolved_tick.mpr (h.withRecords
    { h.records with
      participants := h.records.participants.put hnew.derives
      participantIndex := .inl hnew.admits })

lemma releaseRegionNameLocked_evolved (h : Evolved s a e) (region : RegionRecord) :
    Evolved s a (e.releaseRegionNameLocked region) := by
  unfold releaseRegionNameLocked
  dsimp only
  split
  · exact h.withRecords { h.records with }
  · exact h

lemma retireSupersededRegions_evolved {name boot label}
    (participant : ParticipantId) (old : ParticipantBootId) :
    Evolved s (.registerParticipant name boot epoch label)
      (s.engine.retireSupersededRegions participant old) := by
  unfold retireSupersededRegions
  dsimp only
  refine Evolved.foldl (Evolved.init.withRecords { Evolved.init.records with
    regions := Evolved.init.records.regions.map fun id region _ => ?_ }) fun e region hmem h => ?_
  · split
    · rename_i hlive
      simp only [Bool.and_eq_true, bne_iff_ne] at hlive
      exact .single (.supersedeBoot hlive.2)
    · exact .refl
  simp only [List.mem_map, List.mem_filter] at hmem
  obtain ⟨entry, ⟨hentry, hlive⟩, rfl⟩ := hmem
  rw [if_pos hlive]
  simp only [Bool.and_eq_true, bne_iff_ne] at hlive
  have hr : RegionDerives s (.registerParticipant name boot epoch label) entry.1
      (entry.2.supersedeBoot s.engine.sequence) :=
    .old (mem_toList_iff_getElem?_eq_some.mp hentry)
      (.single (.supersedeBoot hlive.2))
  exact (releaseRegionNameLocked_evolved h _).upsertDurableRegionLocked hr

theorem registerParticipant_evolved (name : Text) (boot : ParticipantBootId)
    (epoch : CoordinatorEpoch) (label : Text) :
    Evolved s (.registerParticipant name boot epoch label)
      (s.engine.registerParticipant name boot epoch label).2 := by
  unfold registerParticipant
  dsimp only
  split
  · exact .init
  rename_i allowed
  split
  · rename_i id indexed
    split
    · rename_i same
      have hnew : NewParticipant s (.registerParticipant name boot epoch label) _ _ :=
        .reregister allowed indexed rfl same
      exact evolved_tick.mpr
        ((Evolved.init.setParticipant hnew.derives).upsertDurableParticipantLocked hnew.derives)
    rename_i differs
    split
    · exact .init
    rename_i live
    exact admitParticipant_evolved (retireSupersededRegions_evolved _ _)
      (.reincarnate allowed indexed rfl (fun hsame => differs ⟨hsame, live⟩) live)
  · rename_i unknown
    exact admitParticipant_evolved Evolved.init.withCounters (.fresh allowed unknown)

theorem markSessionClosed_evolved (id : ParticipantId) (boot : ParticipantBootId) :
    Evolved s (.markSessionClosed id boot) (s.engine.markSessionClosed id boot).2 := by
  unfold markSessionClosed
  split
  · exact .init
  rename_i record found
  split
  · exact .init
  have hp : ParticipantDerives s (.markSessionClosed id boot) id record.closeSession :=
    .old found (.single .closeSession)
  exact evolved_tick.mpr ((Evolved.init.setParticipant hp).upsertDurableParticipantLocked hp)

/-! ### Fencing -/

lemma releaseReadsForParticipantLocked_evolved (h : Evolved s a e) (participant : ParticipantId)
    (boot : ParticipantBootId) :
    Evolved s a (e.releaseReadsForParticipantLocked participant boot) := by
  unfold releaseReadsForParticipantLocked
  dsimp only
  have hrelease : ∀ (id : ObjectId) (object : ObjectRecord) reads seq,
      ReflTransGen (ObjectStep s a id) object
        { object with reads := reads, updatedSequence := seq } := fun _ object reads _ =>
    .tail (b := { object with reads := reads }) (.single .setReads) .touch
  refine Evolved.foldl (h.withRecords { h.records with
    objects := h.records.objects.map fun id object _ => ?_ }) fun e' object hmem h' => ?_
  · split
    · exact hrelease _ _ _ _
    · exact .refl
  simp only [List.mem_map, List.mem_filter] at hmem
  obtain ⟨entry, ⟨hentry, hchanged⟩, rfl⟩ := hmem
  rw [if_pos hchanged]
  have hfound := mem_toList_iff_getElem?_eq_some.mp hentry
  exact h'.upsertDurableObjectLocked
    ((h.records.objects.origin _ _ hfound).trans (hrelease _ _ _ _))

lemma recomputeAllAuthorityLocked_evolved (h : Evolved s a e)
    (running : ∀ epoch, a ≠ .beginShutdown epoch) : Evolved s a e.recomputeAllAuthorityLocked :=
  h.withRecords { h.records with
    objects := h.records.objects.map fun _ _ stored =>
      .single (.recompute e running stored h.records.invalidations) }

section Fence

variable {id : ParticipantId} {epoch : CoordinatorEpoch} {reason : Text}

lemma fenceRecords_evolve (h : Evolved s (.fenceParticipant id epoch reason) e)
    {participant} (current : epoch = s.engine.epoch)
    (known : s.engine.participants[id]? = some participant)
    (live : participant.lifecycle ≠ .retired) : RecordsEvolve s (.fenceParticipant id epoch reason)
      (e.fenceRecords id participant.boot reason) where
  domains := h.records.domains
  participants := h.records.participants
  policies := h.records.policies
  participantIndex := h.records.participantIndex
  objects := h.records.objects.map fun _ object _ => by
    split
    · rename_i hwriter
      exact .single (.revokeWriter hwriter.1)
    · exact .refl
  regions := h.records.regions.map fun _ region _ => by
    split
    · rename_i hregion
      exact .single (.fence hregion.2.2)
    · exact .refl
  syncs := h.records.syncs.map fun _ sync _ => by
    split
    · rename_i hsync
      exact .single (.fence hsync.1)
    · exact .refl
  invalidations := h.records.invalidations.map fun _ invalidation _ => by
    split
    · rename_i hinvalidation
      exact .single (.fence current known live ⟨hinvalidation.1, hinvalidation.2.1⟩
        hinvalidation.2.2)
    · exact .refl

omit [DurableStore σ] in
lemma fenceEntries_journalled {participant} (current : epoch = s.engine.epoch)
    (known : s.engine.participants[id]? = some participant)
    (live : participant.lifecycle ≠ .retired) :
    ∀ payload ∈ s.engine.tick.fenceEntries id participant.boot reason,
      Journalled s (.fenceParticipant id epoch reason) payload := by
  unfold fenceEntries
  refine forall_mem_append (forall_mem_append (forall_mem_append ?_ ?_) ?_) ?_
  all_goals
    intro payload hmem
    obtain ⟨⟨key, record⟩, hentry, hpayload⟩ := List.mem_flatMap.mp hmem
    have hfound := mem_toList_iff_getElem?_eq_some.mp hentry
    dsimp only at hpayload hfound
    split at hpayload
    rotate_left
    · cases hpayload
    rename_i hcond
  · have ho : ObjectDerives s (.fenceParticipant id epoch reason) key
        (record.revokeWriter (s.engine.tick.dirtyLossPolicyOf record) s.engine.tick.sequence) :=
      .old hfound (.single (.revokeWriter hcond.1))
    rcases List.mem_append.mp hpayload with hclear | hobject
    · split at hclear
      · rename_i hopen
        rw [List.mem_singleton.mp hclear]
        exact .clear (.fence current known live hfound hcond hopen)
      · cases hclear
    · rw [List.mem_singleton.mp hobject]
      exact .object ho
  · rw [List.mem_singleton.mp hpayload]
    exact .region (.old hfound (.single (.fence hcond.2.2)))
  · rw [List.mem_singleton.mp hpayload]
    exact .sync (.old hfound (.single (.fence hcond.1)))
  · rw [List.mem_singleton.mp hpayload]
    exact .invalidation (.old hfound
      (.single (.fence current known live ⟨hcond.1, hcond.2.1⟩ hcond.2.2)))

theorem fenceParticipant_evolved : Evolved s (.fenceParticipant id epoch reason)
      (s.engine.fenceParticipant id epoch reason).2 := by
  unfold fenceParticipant
  dsimp only
  split
  · exact .init
  rename_i participant found
  split
  · exact .init
  rename_i hepoch
  split
  · exact .init
  rename_i hlive
  have hp : ParticipantDerives s (.fenceParticipant id epoch reason) id
      (participant.fence reason epoch) :=
    .old found (.single (.fence (not_not.mp hepoch) found hlive))
  have h₀ : Evolved s (.fenceParticipant id epoch reason) s.engine.tick :=
    evolved_tick.mpr .init
  have h₁ := releaseReadsForParticipantLocked_evolved
    (h₀.withRecords (fenceRecords_evolve h₀ (not_not.mp hepoch) found hlive)) id
    participant.boot
  have h := ((recomputeAllAuthorityLocked_evolved h₁ nofun).setParticipant hp).appendManyLocked
    (forall_mem_append (fenceEntries_journalled (not_not.mp hepoch) found hlive)
      (forall_mem_one (.participant hp)))
  split
  · exact h
  · exact evolved_tick.mpr h

end Fence

/-! ### Objects and policies -/

theorem registerObject_evolved (domain : CoherenceDomainId) (name : Text) (length : UInt64)
    (policy : CoherencePolicy) : Evolved s (.registerObject domain name length policy)
      (s.engine.registerObject domain name length policy).2 := by
  unfold registerObject
  dsimp only
  split
  · exact .init
  rename_i allowed
  have h : Evolved s (.registerObject domain name length policy)
      ((s.engine.withCounters { s.engine.toCounters with
        nextObjectId := s.engine.nextObjectId + 1
        nextPolicyId := s.engine.nextPolicyId + 1 }).appendManyLocked
        [.upsertPolicy (s.engine.newPolicy policy),
          .upsertObject (scrubObjectForPersistence
            (s.engine.newObject domain name length (s.engine.newPolicy policy)))]).2 :=
    Evolved.init.withCounters.appendManyLocked
      (forall_mem_two (.policy (.register allowed)) (.newObject (.register allowed)))
  split
  · exact h
  exact evolved_tick.mpr (h.withRecords
    { h.records with
      policies := h.records.policies.add fun _ => .register allowed
      objects := h.records.objects.add fun _ => .register allowed })

theorem setPolicy_evolved (id : ObjectId) (generation : ObjectGeneration)
    (expected : PolicyGeneration) (next : CoherencePolicy) :
    Evolved s (.setPolicy id generation expected next)
      (s.engine.setPolicy id generation expected next).2 := by
  unfold setPolicy
  dsimp only
  split
  · exact .init
  rename_i object allowed
  obtain ⟨found, hstate, -⟩ := setPolicyRefusal_ok allowed
  have hpolicy := NewPolicy.replacement allowed
  have ho : ObjectDerives s (.setPolicy id generation expected next) id
      (object.setPolicy (s.engine.replacementPolicy object next) s.engine.sequence) :=
    .old found (.single (.setPolicy hstate))
  have h := (Evolved.init.setObject ho).appendManyLocked
    (forall_mem_two (.policy hpolicy) (.object ho))
  split
  · exact h
  · simp only [evolved_recordDecision, evolved_takeDecisionId, evolved_tick]
    exact h.withRecords { h.records with policies := h.records.policies.put hpolicy.derives }

/-! ### Regions -/

lemma enrolRegion_evolved {participant record} (h : Evolved s (.registerRegion registration) e)
    (hobject : s.engine.objects[registration.context.object]? = some object)
    (hparticipant : s.engine.participants[registration.context.participant]? = some participant)
    (hnew : NewRegion s (.registerRegion registration) record.id record) :
    Evolved s (.registerRegion registration)
      (e.enrolRegion registration object participant record).2 := by
  unfold enrolRegion
  dsimp only
  have ho : ObjectDerives s (.registerRegion registration) registration.context.object
      (object.addReplica record.id e.sequence) := .old hobject (.single .addReplica)
  have hr : ∀ index, RecordsEvolve s (.registerRegion registration) { e.toRecords with
      regionIndex := index
      objects := e.objects.insert registration.context.object
        (object.addReplica record.id e.sequence) } := fun _ =>
    { h.records with objects := h.records.objects.put ho }
  have h := (h.withRecords (hr (e.regionIndex.erase ⟨object.id, record.name⟩))).appendManyLocked
    (forall_mem_two (.object ho) (.newRegion hnew))
  split
  · exact h
  exact evolved_tick.mpr (h.withRecords
    { h.records with
      regions := h.records.regions.add fun _ => hnew
      participants := h.records.participants.put (.old hparticipant (.single .count)) })

theorem registerRegion_evolved (registration : RegionRegistration) :
    Evolved s (.registerRegion registration) (s.engine.registerRegion registration).2 := by
  unfold registerRegion
  dsimp only
  split
  · exact .init
  rename_i object participant allowed
  obtain ⟨hobject, hparticipant, -⟩ := registerRegionRefusal_ok allowed
  split
  · exact Evolved.init.withCounters
  · exact enrolRegion_evolved Evolved.init.withCounters hobject hparticipant
      (.register allowed)

lemma releaseRegionReads_evolved (h : Evolved s a e)
    (running : ∀ epoch, a ≠ .beginShutdown epoch) (region : RegionRecord) :
    Evolved s a (e.releaseRegionReads region) := by
  unfold releaseRegionReads
  split
  · exact h
  rename_i object found
  have ho := (h.records.objects.origin _ _ found).tail
    (show ObjectStep s a _ object (object.releaseReads fun grant => grant.region == region.id)
      from .setReads)
  have h := h.setObject ho
  have ho' := h.recompute running getElem?_insert_self
  exact (h.setObject ho').upsertDurableObjectLocked ho'

theorem retireRegion_evolved (id : RegionId) (generation : RegionGeneration)
    (epoch : CoordinatorEpoch) : Evolved s (.retireRegion id generation epoch)
      (s.engine.retireRegion id generation epoch).2 := by
  unfold retireRegion
  dsimp only
  split
  · exact .init
  rename_i region allowed
  have hr : RegionDerives s (.retireRegion id generation epoch) id
      (region.retireSettled s.engine.tick.sequence) :=
    .old (retireRegionRefusal_ok allowed) (.single .retireSettled)
  set retired := region.retireSettled s.engine.tick.sequence
  have h := (releaseRegionReads_evolved (releaseRegionNameLocked_evolved
    ((evolved_tick.mpr .init).setRegion hr) retired) nofun retired).appendLocked (.region hr)
  split
  · exact h
  · exact evolved_tick.mpr h

/-! ### Recovery resolution, object retirement and shutdown -/

theorem resolveRecovery_evolved (id : ObjectId) (generation : ObjectGeneration)
    (epoch : CoordinatorEpoch) (note : Text) : Evolved s (.resolveRecovery id generation epoch note)
      (s.engine.resolveRecovery id generation epoch note).2 := by
  unfold resolveRecovery
  dsimp only
  split
  · exact .init
  rename_i object allowed
  have ho : ObjectDerives s (.resolveRecovery id generation epoch note) id
      (object.resolveRecovery note s.engine.tick.sequence) :=
    .old (resolveRecoveryRefusal_ok allowed).1 (.single .resolveRecovery)
  have h := ((evolved_tick.mpr .init).setObject ho).appendLocked (.object ho)
  split
  · exact h
  · simpa using h

lemma retireReplica_evolved {id generation}
    (h : Evolved s (.retireObject id generation epoch) e) (replica : RegionId) :
    Evolved s (.retireObject id generation epoch) (e.retireReplica replica) := by
  unfold retireReplica
  split
  · exact h
  rename_i region found
  have hr := (h.records.regions.origin _ _ found).tail
    (show RegionStep s (.retireObject id generation epoch) region (region.retire e.sequence)
      from .retire)
  exact (h.setRegion hr).appendEach (forall_mem_one (.region hr))

theorem retireObject_evolved (id : ObjectId) (generation : ObjectGeneration)
    (epoch : CoordinatorEpoch) : Evolved s (.retireObject id generation epoch)
      (s.engine.retireObject id generation epoch).2 := by
  unfold retireObject
  dsimp only
  split
  · exact .init
  rename_i object allowed
  have ho : ObjectDerives s (.retireObject id generation epoch) id
      (object.retire s.engine.tick.sequence) :=
    .old (retireObjectRefusal_ok allowed) (.single .retire)
  have h := ((evolved_tick.mpr .init).setObject ho).appendLocked (.object ho)
  split
  · exact h
  · exact evolved_tick.mpr (h.foldl fun _ replica _ h => retireReplica_evolved h replica)

section Shutdown

variable {epoch : CoordinatorEpoch}

lemma shutdownRecords_evolve (h : Evolved s (.beginShutdown epoch) e) :
    RecordsEvolve s (.beginShutdown epoch) e.shutdownRecords where
  domains := h.records.domains
  participants := h.records.participants
  policies := h.records.policies
  participantIndex := h.records.participantIndex
  regions := h.records.regions
  objects := h.records.objects.map fun _ _ _ => .single .shutdown
  syncs := h.records.syncs.map fun _ _ _ => by
    split
    · exact .refl
    · exact .single .cancel
  invalidations := h.records.invalidations.map fun _ _ _ => by
    split
    · rename_i hrequested
      exact .single (.abandon hrequested)
    · exact .refl

omit [DurableStore σ] in
lemma shutdownEntries_journalled (current : epoch = s.engine.epoch)
    (running : s.engine.shuttingDown = false) (he : e.toRecords = s.engine.toRecords) :
    ∀ payload ∈ e.shutdownEntries, Journalled s (.beginShutdown epoch) payload := by
  unfold shutdownEntries
  rw [he]
  refine forall_mem_append (forall_mem_append ?_ ?_) ?_
  all_goals
    intro payload hmem
    obtain ⟨⟨key, record⟩, hentry, hpayload⟩ := List.mem_flatMap.mp hmem
    have hfound := mem_toList_iff_getElem?_eq_some.mp hentry
    dsimp only at hpayload hfound
  · rcases List.mem_append.mp hpayload with hclear | hobject
    · split at hclear
      · rename_i hpending
        rw [List.mem_singleton.mp hclear]
        exact .clear (.shutdown current running hfound hpending)
      · cases hclear
    · rw [List.mem_singleton.mp hobject]
      exact .object (.old hfound (.single .shutdown))
  · split at hpayload
    · cases hpayload
    · rw [List.mem_singleton.mp hpayload]
      exact .sync (.old hfound (.single .cancel))
  split at hpayload
  · rename_i hrequested
    rw [List.mem_singleton.mp hpayload]
    exact .invalidation (.old hfound (.single (.abandon hrequested)))
  · cases hpayload

theorem beginShutdown_evolved (epoch : CoordinatorEpoch) :
    Evolved s (.beginShutdown epoch) (s.engine.beginShutdown epoch).2 := by
  unfold beginShutdown
  split
  · exact .init
  rename_i hepoch
  split
  · exact .init
  rename_i hrunning
  have h₀ : Evolved s (.beginShutdown epoch)
      (s.engine.tick.withShutdown true s.engine.shutdownComplete) :=
    (evolved_withShutdown (.inl rfl)).mpr (evolved_tick.mpr .init)
  simp only [evolved_recordDecision, evolved_takeDecisionId]
  exact (h₀.withRecords (shutdownRecords_evolve h₀)).appendEach
    (shutdownEntries_journalled (not_not.mp hepoch) (Bool.eq_false_iff.mpr hrunning) rfl)

theorem completeShutdown_evolved (epoch : CoordinatorEpoch) :
    Evolved s (.completeShutdown epoch) (s.engine.completeShutdown epoch).2 := by
  unfold completeShutdown
  split
  · exact .init
  split
  · exact .init
  rename_i hshutting
  have hcompacts : Compacts s (.completeShutdown epoch) := by simpa [Compacts] using hshutting
  split
  · exact .init
  have hdown : true = s.engine.shuttingDown := by simpa using hshutting
  refine (evolved_withShutdown (.inr (by exact hdown))).mpr
    (Evolved.init.withPersistence ?_ (.inl rfl))
  split
  · cases hstore : s.engine.store with
    | none => exact .single (.idle hstore.symm rfl)
    | some store =>
      have hcompact : PersistMove (Written s (.completeShutdown epoch))
          (Compacts s (.completeShutdown epoch)) s.engine.toPersistence
          { s.engine.toPersistence with
            store := some (DurableStore.compact store s.engine.durable).2 } :=
        .compact hcompacts hstore rfl rfl
      have hflush : PersistMove (Written s (.completeShutdown epoch))
          (Compacts s (.completeShutdown epoch))
          { s.engine.toPersistence with
            store := some (DurableStore.compact store s.engine.durable).2 }
          { s.engine.toPersistence with
            store := some (DurableStore.flush
              (DurableStore.compact store s.engine.durable).2).2 } :=
        .flush rfl rfl rfl
      exact .tail (.tail (.single hcompact) hflush) (.close rfl rfl rfl)
  · exact .single (.idle rfl rfl)

end Shutdown

end CoherenceFabric
