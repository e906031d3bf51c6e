import CoherenceFabric.Effects.Fields
import CoherenceFabric.Properties.WriteTransfer

/-!
The bookkeeping of invalidations.

That an invalidation waits for its acknowledgement is stored three times: in the list of its
object, in the flag of its target and in the state of its record. The three agree while
acknowledgements name the generations of their targets and no operation settles an invalidation,
or takes its target out of service, without the other two.
-/

namespace CoherenceFabric

open FiniteMap Relation Transition Impl Ledger

variable {σ : Type}

/-! ### What agrees with what -/

namespace Ledger

/-- The invalidation of a replica of an object waits for its acknowledgement. -/
def Requested (l : Ledger) (id : InvalidationId) (owner : ObjectId) (target : RegionId) : Prop :=
  ∃ record ∈ l.invalidations[id]?, record.object = owner ∧ record.region = target ∧
    record.state = .requested

/-- The lists of the objects, the flags of the replicas and the states of the invalidations
agree. -/
structure Booked (l : Ledger) : Prop where
  ascending : All (fun _ object =>
    object.outstandingInvalidations.Pairwise fun a b => a.value < b.value) l.objects
  listed : All (fun key object => ∀ id, id ∈ object.outstandingInvalidations ↔
    ∃ target, l.Requested id key target) l.objects
  flagged : All (fun key region => region.invalidationPending = true →
    ∃ owner, l.Requested region.pendingInvalidation owner key) l.regions
  targets : ∀ id owner target, l.Requested id owner target →
    ∀ region ∈ l.regions[target]?, region.isTerminal = false
  pending : All (fun _ object => object.authority = .transferPending →
    ∃ id ∈ object.outstandingInvalidations, ∃ owner target, l.Requested id owner target) l.objects

/-- The object of a requested invalidation exists, so that no new object finds one. -/
structure Bookkept (l : Ledger) : Prop extends Booked l where
  owned : ∀ id owner target, l.Requested id owner target → owner ∈ l.objects

end Ledger

abbrev Impl.NoneRequested (e : Impl σ) (p : InvalidationRecord → Prop) : Prop :=
  All (fun _ record => record.state = .requested → ¬ p record) e.invalidations

/-- The condition on a step. An acknowledgement of a requested invalidation names the generations
of its target; the identities of invalidations are not exhausted, and none is issued for a replica
whose lifecycle is over; and no operation reaches an incarnation, a replica or an object that a
requested invalidation is about. -/
def Tidy (s : Sys σ) (a : Action) : Prop :=
  (match a with
  | .acknowledgeInvalidation ack => decide (∀ record ∈ s.engine.invalidations[ack.invalidation]?,
      record.state = .requested → ∀ region ∈ s.engine.regions[record.region]?,
        region.generation = ack.regionGeneration ∧
          region.replicaGeneration = ack.replicaGeneration)
  | .acquireWrite request => decide (s.engine.nextInvalidationId.toNat +
        s.engine.replicaCount request.context.object < UInt64.size ∧
      ∀ object ∈ s.engine.objects[request.context.object]?, ∀ id ∈ object.replicas,
        ∀ region ∈ s.engine.regions[id]?, region.lifecycle = .retired →
          region.state.isLive = false)
  | .invalidate _ => decide (s.engine.nextInvalidationId.toNat + 1 < UInt64.size)
  | .fenceParticipant id _ _ => decide (∀ participant ∈ s.engine.participants[id]?,
      s.engine.NoneRequested fun record =>
        record.targetParticipant = id ∧ record.targetBoot = participant.boot)
  | .registerParticipant name boot _ _ => decide (∀ id ∈ s.engine.participantIndex[name]?,
      let known := (s.engine.participants[id]?).getD {}
      known.boot = boot ∧ known.lifecycle ≠ .retired ∨ s.engine.NoneRequested fun record =>
        record.targetParticipant = known.id ∧ record.targetBoot = known.boot)
  | .retireRegion id _ _ => decide (s.engine.NoneRequested fun record => record.region = id)
  | .retireObject id _ _ => decide (∀ object ∈ s.engine.objects[id]?,
      s.engine.NoneRequested fun record => record.region ∈ object.replicas)
  | .beginShutdown _ => decide (s.engine.NoneRequested fun _ => True)
  | _ => true) = true

instance (s : Sys σ) (a : Action) : Decidable (Tidy s a) := inferInstanceAs (Decidable (_ = true))

variable {s : Sys σ} {a : Action} {object object' : ObjectRecord} {e : Impl σ}
  {region : RegionRecord} {record : InvalidationRecord}

/-! ### Steps that issue and settle no invalidation -/

section Quiet

variable {l l' : Ledger} {region' : RegionRecord}

lemma Ledger.Bookkept.carry (h : l.Bookkept)
    (hrequested : ∀ id owner target, l'.Requested id owner target ↔ l.Requested id owner target)
    (hkept : ∀ key : ObjectId, key ∈ l.objects → key ∈ l'.objects)
    (hobjects : All (fun key object' => (∃ object, l.objects[key]? = some object ∧
        object'.outstandingInvalidations = object.outstandingInvalidations ∧
        (object'.authority = .transferPending → object.authority = .transferPending)) ∨
      l.objects[key]? = none ∧ object'.outstandingInvalidations = [] ∧
        object'.authority ≠ .transferPending) l'.objects) (hregions : All (fun key region' =>
      (region'.invalidationPending = true → ∃ region, l.regions[key]? = some region ∧
        region.invalidationPending = true ∧
        region'.pendingInvalidation = region.pendingInvalidation) ∧
      (region'.isTerminal = true → (∃ region, l.regions[key]? = some region ∧
        region.isTerminal = true) ∨ ∀ id owner, ¬ l.Requested id owner key)) l'.regions) :
    l'.Bookkept where
  ascending key object' hobject' := by
    rcases hobjects key object' hobject' with ⟨object, hobject, hlist, -⟩ | ⟨-, hlist, -⟩
    · rw [hlist]
      exact h.ascending key object hobject
    · rw [hlist]
      exact .nil
  listed key object' hobject' id := by
    simp only [hrequested]
    rcases hobjects key object' hobject' with ⟨object, hobject, hlist, -⟩ | ⟨habsent, hlist, -⟩
    · rw [hlist]
      exact h.listed key object hobject id
    rw [hlist]
    refine ⟨nofun, fun ⟨target, hid⟩ => ?_⟩
    have hmem := h.owned id key target hid
    rw [mem_iff_isSome_getElem?, habsent] at hmem
    cases hmem
  flagged key region' hregion' hflag := by
    obtain ⟨region, hregion, hbefore, hname⟩ := (hregions key region' hregion').1 hflag
    obtain ⟨owner, hnamed⟩ := h.flagged key region hregion hbefore
    exact ⟨owner, (hrequested ..).mpr (hname ▸ hnamed)⟩
  targets id owner target hid region' hregion' := by
    have hbefore := (hrequested ..).mp hid
    refine Bool.eq_false_iff.mpr fun hterminal => ?_
    rcases (hregions target region' hregion').2 hterminal with ⟨region, hregion, hover⟩ | hnone
    · exact absurd hover (by simp [h.targets id owner target hbefore region hregion])
    · exact hnone id owner hbefore
  pending key object' hobject' hpending := by
    simp only [hrequested]
    rcases hobjects key object' hobject' with ⟨object, hobject, hlist, hauthority⟩ | ⟨-, -, hnone⟩
    · rw [hlist]
      exact h.pending key object hobject (hauthority hpending)
    · exact absurd hpending hnone
  owned id owner target hid := hkept owner (h.owned id owner target ((hrequested ..).mp hid))

def Action.invalidates : Action → Bool
  | .acquireWrite _ | .invalidate _ | .acknowledgeInvalidation _ => true
  | _ => false

lemma recompute_transferPending
    (h : (e.recomputeAuthorityLocked object).authority = .transferPending) :
    object.authority = .transferPending := by
  unfold recomputeAuthorityLocked at h
  split at h
  · exact h
  · exact h
  · assumption
  all_goals
    split at h <;> cases h

@[simp] lemma recompute_outstanding (e : Impl σ) (object : ObjectRecord) :
    (e.recomputeAuthorityLocked object).outstandingInvalidations =
      object.outstandingInvalidations := by
  rw [recomputeAuthorityLocked_eq]

lemma ObjectRecord.outstanding_cutOff (object : ObjectRecord) (id : ParticipantId)
    (boot : ParticipantBootId) (policy : DirtyLossPolicy) (sequence : OperationSequence) :
    (object.cutOff id boot policy sequence).outstandingInvalidations =
        object.outstandingInvalidations ∧
      ((object.cutOff id boot policy sequence).authority = .transferPending →
        object.authority = .transferPending) := by
  obtain ⟨reads, touched, -, ⟨-, -, hcut⟩ | ⟨-, hcut⟩⟩ :=
    object.cutOff_cases id boot policy sequence
  · rw [hcut]
    refine ⟨?_, by simp⟩
    unfold ObjectRecord.revokeWriter ObjectRecord.loseDirty
    dsimp only
    repeat' split
    all_goals rfl
  · rw [hcut]
    exact ⟨rfl, fun h => h⟩

lemma ObjectChange.outstanding {key} (h : ObjectChange s a key object object')
    (hquiet : a.invalidates = false) :
    object'.outstandingInvalidations = object.outstandingInvalidations ∧
      (object'.authority = .transferPending → object.authority = .transferPending) := by
  have hrecompute : ∀ (e : Impl σ) {released : ObjectRecord},
      released.outstandingInvalidations = object.outstandingInvalidations →
      (released.authority = .transferPending → object.authority = .transferPending) →
      (e.recomputeAuthorityLocked released).outstandingInvalidations =
          object.outstandingInvalidations ∧
        ((e.recomputeAuthorityLocked released).authority = .transferPending →
          object.authority = .transferPending) := by
    exact fun e _ hlist hauthority => ⟨(recompute_outstanding ..).trans hlist,
      fun hpending => hauthority (recompute_transferPending hpending)⟩
  cases h with
  | fence e =>
    obtain ⟨hlist, hauthority⟩ := object.outstanding_cutOff _ _ _ _
    exact hrecompute e hlist hauthority
  | @grantRead request _ _ id region lease _ e =>
    unfold addReadGrantLocked
    split
    · exact ⟨rfl, fun h => h⟩
    split
    · exact ⟨rfl, fun h => h⟩
    split
    · exact ⟨rfl, fun h => h⟩
    · refine ⟨rfl, fun hpending => ?_⟩
      split at hpending
      · cases hpending
      · exact hpending
  | retireRegion e | releaseLease e => exact hrecompute e rfl id
  | releaseAuthority e =>
    refine hrecompute e ?_ ?_
    all_goals
      unfold relinquish ObjectRecord.releaseDirty
      dsimp only
      repeat' split
    all_goals first | rfl | nofun
  | shutdown =>
    unfold ObjectRecord.shutdown
    dsimp only
    split <;> exact ⟨rfl, nofun⟩
  | retire => exact ⟨rfl, nofun⟩
  | transferFailed | transfer | promote | invalidateNow | invalidateLater | acknowledge =>
    cases hquiet
  | _ => exact ⟨rfl, fun h => h⟩

lemma RegionChange.flag {key} (h : RegionChange s a key region region')
    (hquiet : a.invalidates = false) : region'.invalidationPending = false ∨
      region'.invalidationPending = region.invalidationPending ∧
        region'.pendingInvalidation = region.pendingInvalidation := by
  cases h with
  | rejoin | retire => exact .inl rfl
  | completeSync _ _ ends => cases ends <;> exact .inr ⟨rfl, rfl⟩
  | revalidate =>
    unfold RegionRecord.revalidate
    dsimp only
    split <;> exact .inr ⟨rfl, rfl⟩
  | transfer | invalidateNow | invalidateLater | acknowledge => cases hquiet
  | _ => exact .inr ⟨rfl, rfl⟩

lemma RegionRecord.isTerminal_of (h : region'.isTerminal = true)
    (hlifecycle : region'.lifecycle = region.lifecycle)
    (hstate : region'.state = region.state ∨ region'.state ≠ .retired) :
    region.isTerminal = true := by
  simp only [RegionRecord.isTerminal, Bool.or_eq_true, beq_iff_eq] at h ⊢
  rcases h with h | h
  · rcases hstate with hsame | hne
    · exact .inl (hsame ▸ h)
    · exact absurd h hne
  · exact .inr (hlifecycle ▸ h)

lemma RegionRecord.isTerminal_invalidate (region : RegionRecord) {id sequence}
    (h : (region.invalidate id sequence).isTerminal = true) : region.isTerminal = true := by
  refine RegionRecord.isTerminal_of h rfl (.inr ?_)
  unfold RegionRecord.invalidate
  split <;> nofun

lemma RegionChange.terminal {key} (h : RegionChange s a key region region')
    (hfound : s.engine.regions[key]? = some region) (htracked : s.engine.Tracked) (hok : Tidy s a)
    (hterminal : region'.isTerminal = true) :
    region.isTerminal = true ∨ ∀ id owner, ¬ s.engine.ledger.Requested id owner key := by
  have hkeep := @RegionRecord.isTerminal_of region
  cases h with
  | @rejoin _ _ _ _ _ _ _ id known indexed found differs held =>
    refine .inr fun id owner ⟨record, hrecord, _, htarget, hrequested⟩ => ?_
    -- the invalidation names the incarnation that holds its target
    obtain ⟨target, hregion, htargets⟩ := htracked.target id record hrecord hrequested
    rw [htarget, hfound] at hregion
    cases hregion
    subst found
    refine (of_decide_eq_true hok _ indexed).resolve_left differs id record hrecord hrequested
      ⟨htargets.participant.symm.trans held.1, htargets.boot.symm.trans held.2⟩
  | retire =>
    exact .inr fun id owner ⟨record, hrecord, _, htarget, hrequested⟩ =>
      of_decide_eq_true hok id record hrecord hrequested htarget
  | retireObject allowed listed =>
    refine .inr fun id owner ⟨record, hrecord, _, htarget, hrequested⟩ => ?_
    refine of_decide_eq_true hok _ (retireObjectRefusal_ok allowed) id record hrecord hrequested ?_
    change record.region ∈ _
    rwa [htarget]
  | same => exact .inl hterminal
  | transfer | invalidateLater => exact .inl (hkeep hterminal rfl (.inl rfl))
  | fence | markDirty | publish | supersede | release =>
    exact .inl (hkeep hterminal rfl (.inr nofun))
  | invalidateNow | acknowledge => exact .inl (region.isTerminal_invalidate hterminal)
  | requestSync =>
    refine .inl (hkeep hterminal rfl ?_)
    unfold RegionRecord.requestSync
    cases region.state <;> simp
  | completeSync _ _ ends =>
    cases ends <;> exact .inl (hkeep hterminal rfl (.inr nofun))
  | failSync =>
    refine .inl (hkeep hterminal rfl (.inr ?_))
    unfold RegionRecord.refuseSync failedDestination
    repeat' split
    all_goals nofun
  | revalidate =>
    refine .inl (hkeep hterminal (by simp) (.inr ?_))
    unfold RegionRecord.revalidate
    dsimp only
    split <;> nofun

lemma Outcome.requested {healthy} (h : Outcome s a healthy l)
    (hquiet : a.invalidates = false) (hok : Tidy s a) (id : InvalidationId) (owner : ObjectId)
    (target : RegionId) :
    l.Requested id owner target ↔ s.engine.ledger.Requested id owner target := by
  -- an operation that would settle some of them finds none
  have hmap : ∀ f : InvalidationRecord → InvalidationRecord,
      (∀ record, s.engine.invalidations[id]? = some record → f record = record) →
      (s.engine.invalidations.map fun _ record => f record)[id]? = s.engine.invalidations[id]? := by
    intro f hf
    rw [getElem?_map]
    cases hrecord : s.engine.invalidations[id]? with
    | none => rfl
    | some record => exact congrArg some (hf record hrecord)
  have hsame : l.invalidations[id]? = s.engine.invalidations[id]? := by
    cases h with
    | @fence _ fenced _ _ participant seq e current known live stage =>
      rw [stage]
      refine hmap (·.cutOff fenced participant.boot seq) fun record hrecord => if_neg fun hcut => ?_
      exact of_decide_eq_true hok participant known id record hrecord hcut.2.2 ⟨hcut.1, hcut.2.1⟩
    | shutdown =>
      exact hmap _ fun record hrecord => if_neg fun hrequested =>
        of_decide_eq_true hok id record hrecord hrequested trivial
    | retireRegion e allowed found stage | releaseLease e granted stage =>
      rw [stage]
      rfl
    | releaseAuthority e granted writer ownership stage =>
      rw [stage]
      rfl
    | transferFailed | transfer | promote | invalidateInert | invalidateNowFailed | invalidateNow =>
      cases hquiet
    | invalidateLaterFailed | invalidateLater | acknowledgeMissing | acknowledgeReplaced =>
      cases hquiet
    | acknowledge => cases hquiet
    | _ => rfl
  unfold Ledger.Requested
  rw [hsame]
  rfl

variable [ReplayStore σ]

/-- **Step lemma** for the operations that issue and settle no invalidation. -/
lemma Ledger.Bookkept.quiet (h : s.engine.ledger.Bookkept) (hkeyed : LiveKeyed s)
    (htracked : s.engine.Tracked) (ha : a.Runs)
    (hquiet : a.invalidates = false) (hok : Tidy s a) : (s.step a).engine.ledger.Bookkept := by
  have hchanges := step_changes hkeyed ha
  refine h.carry ((step_outcome hkeyed.live.objects a ha).requested hquiet hok) ?_ ?_ ?_
  · intro key hmem
    obtain ⟨object, hobject⟩ :=
      Option.isSome_iff_exists.mp (mem_iff_isSome_getElem?.mp hmem)
    obtain ⟨object', hobject', -⟩ := hchanges.objects.forward hobject
    exact mem_iff_isSome_getElem?.mpr (by rw [hobject']; rfl)
  · intro key object' hobject'
    rcases hchanges.objects.origin hobject' with ⟨object, hobject, hchange⟩ | ⟨habsent, hnew⟩
    · exact .inl ⟨object, hobject, hchange.outstanding hquiet⟩
    · cases hnew
      exact .inr ⟨habsent, rfl, nofun⟩
  intro key region' hregion'
  rcases hchanges.regions.origin hregion' with ⟨region, hregion, hchange⟩ | ⟨-, hnew⟩
  · refine ⟨fun hflag => ?_, fun hterminal => ?_⟩
    · rcases hchange.flag hquiet with hcleared | ⟨hsame, hname⟩
      · cases hcleared.symm.trans hflag
      · exact ⟨region, hregion, hsame.symm.trans hflag, hname⟩
    · exact (hchange.terminal hregion htracked hok hterminal).imp_left fun hover =>
        ⟨region, hregion, hover⟩
  cases hnew
  refine ⟨nofun, fun hterminal => ?_⟩
  simp only [RegionRecord.isTerminal, newRegion, Bool.or_eq_true, beq_iff_eq] at hterminal
  rcases hterminal with hstate | hlifecycle
  · split at hstate <;> cases hstate
  · cases hlifecycle

end Quiet

/-! ### Steps that issue invalidations -/

section Issue

variable {l l' : Ledger} {required : List InvalidationRecord}

lemma pairwise_sortIds {tag} {ids : List (StrongId tag)} (h : ids.Nodup) :
    (sortIds ids).Pairwise fun a b => a.value < b.value := by
  have hdistinct : (sortIds ids).Nodup := (List.perm_insertionSort _ ids).nodup_iff.mpr h
  refine ((sortIds_sorted ids).and hdistinct).imp fun ⟨hle, hne⟩ => ?_
  exact UInt64.lt_of_le_of_ne hle fun heq => hne (StrongId.ext heq)

lemma Ledger.Bookkept.insert (h : l.Bookkept) {key}
    (hobjects : l'.objects = l.objects.insert key object') (hkept : ∀ id owner target, owner ≠ key →
      (l'.Requested id owner target ↔ l.Requested id owner target))
    (hascending : object'.outstandingInvalidations.Pairwise fun a b => a.value < b.value)
    (hlist : ∀ id, id ∈ object'.outstandingInvalidations ↔ ∃ target, l'.Requested id key target)
    (hpending : object'.authority = .transferPending → object'.outstandingInvalidations ≠ [])
    (hregions : All (fun k region' => (region'.invalidationPending = true →
        ∃ owner, l'.Requested region'.pendingInvalidation owner k) ∧
      ∀ id owner, l'.Requested id owner k → region'.isTerminal = false) l'.regions) :
    l'.Bookkept where
  ascending k other hk := by
    rcases insert_cases (hobjects ▸ hk) with ⟨rfl, rfl⟩ | ⟨-, hbefore⟩
    · exact hascending
    · exact h.ascending k other hbefore
  listed k other hk id := by
    rcases insert_cases (hobjects ▸ hk) with ⟨rfl, rfl⟩ | ⟨hne, hbefore⟩
    · exact hlist id
    · simp only [hkept _ _ _ hne]
      exact h.listed k other hbefore id
  flagged k region' hk := (hregions k region' hk).1
  targets id owner target hid region' hk := (hregions target region' hk).2 id owner hid
  pending k other hk htransfer := by
    rcases insert_cases (hobjects ▸ hk) with ⟨rfl, rfl⟩ | ⟨hne, hbefore⟩
    · obtain ⟨id, hid⟩ := List.exists_mem_of_ne_nil _ (hpending htransfer)
      obtain ⟨target, hrequested⟩ := (hlist id).mp hid
      exact ⟨id, hid, k, target, hrequested⟩
    · obtain ⟨id, hid, -⟩ := h.pending k other hbefore htransfer
      obtain ⟨target, hrequested⟩ := (h.listed k other hbefore id).mp hid
      exact ⟨id, hid, k, target, (hkept _ _ _ hne).mpr hrequested⟩
  owned id owner target hid := by
    rw [hobjects, mem_insert]
    by_cases howner : owner = key
    · exact .inl (Std.LawfulEqOrd.compare_eq_iff_eq.mpr howner.symm)
    · exact .inr (h.owned _ _ _ ((hkept _ _ _ howner).mp hid))

/-- Invalidations are issued for replicas of an object: their records are added, the object lists
them and their targets name them. -/
lemma Ledger.Bookkept.issue (h : l.Bookkept) {key : ObjectId}
    (hobject : l.objects[key]? = some object) (hobjects : l'.objects = l.objects.insert key object')
    (hlist : object'.outstandingInvalidations =
      sortIds (object.outstandingInvalidations ++ required.map (·.id)))
    (hauthority : object'.authority = .transferPending →
      object.authority = .transferPending ∨ required ≠ []) (hnodup : (required.map (·.id)).Nodup)
    (hfresh : ∀ record ∈ required, ∀ owner target, ¬ l.Requested record.id owner target)
    (hfound : ∀ record ∈ required, l'.invalidations[record.id]? = some record)
    (hother : ∀ id, id ∉ required.map (·.id) → l'.invalidations[id]? = l.invalidations[id]?)
    (hrequired : ∀ record ∈ required, record.object = key ∧ record.state = .requested ∧
      ∀ region ∈ l.regions[record.region]?, region.isTerminal = false)
    (hregions : All (fun k region' => ∃ region, l.regions[k]? = some region ∧
      (region'.isTerminal = true → region.isTerminal = true) ∧
      (region'.invalidationPending = region.invalidationPending ∧
          region'.pendingInvalidation = region.pendingInvalidation ∨
        ∃ record ∈ required, record.region = k ∧ region'.pendingInvalidation = record.id))
      l'.regions) : l'.Bookkept := by
  have hrequested : ∀ id owner target, l'.Requested id owner target ↔
      l.Requested id owner target ∨
        ∃ record ∈ required, record.id = id ∧ key = owner ∧ record.region = target := by
    intro id owner target
    by_cases hmem : id ∈ required.map (·.id)
    · obtain ⟨issued, hissued, rfl⟩ := List.mem_map.mp hmem
      rw [or_iff_right (hfresh issued hissued owner target)]
      constructor
      · rintro ⟨record, hrecord, howner, htarget, -⟩
        obtain rfl : issued = record := Option.some.inj ((hfound issued hissued).symm.trans hrecord)
        exact ⟨issued, hissued, rfl, (hrequired issued hissued).1.symm.trans howner, htarget⟩
      · rintro ⟨record, hrecord, hid, rfl, rfl⟩
        exact ⟨record, hid ▸ hfound record hrecord, (hrequired record hrecord).1, rfl,
          (hrequired record hrecord).2.1⟩
    · rw [or_iff_left fun ⟨record, hrecord, hid, _⟩ => hmem (hid ▸ List.mem_map_of_mem hrecord)]
      unfold Ledger.Requested
      rw [hother id hmem]
  refine h.insert hobjects (fun id owner target hne => ?_) ?_ (fun id => ?_) (fun hpending => ?_)
    fun k region' hk => ?_
  · rw [hrequested, or_iff_left]
    exact fun ⟨_, _, _, heq, _⟩ => hne heq.symm
  · rw [hlist]
    refine pairwise_sortIds (List.nodup_append.mpr ⟨?_, hnodup, ?_⟩)
    · exact (h.ascending key object hobject).imp fun hlt heq => by simp [heq] at hlt
    · rintro id hid _ hissued rfl
      obtain ⟨record, hmem, rfl⟩ := List.mem_map.mp hissued
      obtain ⟨target, hwaits⟩ := (h.listed key object hobject record.id).mp hid
      exact hfresh record hmem key target hwaits
  · rw [hlist, mem_sortIds, List.mem_append, h.listed key object hobject id]
    simp [hrequested, exists_or]
  · rw [hlist]
    rcases hauthority hpending with hwas | hissues
    · obtain ⟨id, hid, -⟩ := h.pending key object hobject hwas
      exact List.ne_nil_of_mem (mem_sortIds.mpr (List.mem_append_left _ hid))
    · obtain ⟨record, hmem⟩ := List.exists_mem_of_ne_nil required hissues
      exact List.ne_nil_of_mem
        (mem_sortIds.mpr (List.mem_append_right _ (List.mem_map_of_mem hmem)))
  obtain ⟨region, hregion, hterminal, hflag⟩ := hregions k region' hk
  refine ⟨fun hflagged => ?_, fun id owner hwaits => ?_⟩
  · rcases hflag with ⟨hsame, hname⟩ | ⟨record, hmem, rfl, hname⟩
    · obtain ⟨owner, hwaits⟩ := h.flagged k region hregion (hsame.symm.trans hflagged)
      exact ⟨owner, (hrequested ..).mpr (.inl (hname ▸ hwaits))⟩
    · exact ⟨key, (hrequested ..).mpr (.inr ⟨record, hmem, hname.symm, rfl, rfl⟩)⟩
  have hlive : region.isTerminal = false := by
    rcases (hrequested ..).mp hwaits with hbefore | ⟨record, hmem, -, -, rfl⟩
    · exact h.targets _ _ _ hbefore region hregion
    · exact (hrequired record hmem).2.2 region hregion
  exact Bool.eq_false_iff.mpr fun hover => by simp [hterminal hover] at hlive

lemma issueAll_regions {seq} :
    ∀ {r : Records}, All (fun key region' => ∃ region, r.regions[key]? = some region ∧
      (region'.isTerminal = true → region.isTerminal = true) ∧
      (region'.invalidationPending = region.invalidationPending ∧
          region'.pendingInvalidation = region.pendingInvalidation ∨
        ∃ record ∈ required, record.region = key ∧ region'.pendingInvalidation = record.id))
      (required.foldl (issueInvalidation seq) r).regions := by
  have hone : ∀ (r : Records) (record : InvalidationRecord) (key : RegionId) region',
      (issueInvalidation seq r record).regions[key]? = some region' →
        ∃ region, r.regions[key]? = some region ∧
          (region' = region ∨ record.region = key ∧
            region' = region.awaitInvalidation record.id seq) := by
    intro r record key region' hregion'
    unfold issueInvalidation at hregion'
    dsimp only at hregion'
    split at hregion'
    · exact ⟨region', hregion', .inl rfl⟩
    rename_i region hregion
    rcases insert_cases hregion' with ⟨rfl, rfl⟩ | ⟨-, hregion'⟩
    · exact ⟨region, hregion, .inr ⟨rfl, rfl⟩⟩
    · exact ⟨region', hregion', .inl rfl⟩
  induction required with
  | nil => exact fun {r} key region' hregion' => ⟨region', hregion', fun h => h, .inl ⟨rfl, rfl⟩⟩
  | cons first rest ih =>
    intro r key region' hregion'
    obtain ⟨middle, hmiddle, hover, hflag⟩ := ih key region' hregion'
    obtain ⟨region, hregion, rfl | ⟨rfl, rfl⟩⟩ := hone r first key middle hmiddle
    · exact ⟨middle, hregion, hover, hflag.imp_right fun ⟨record, hmem, hrest⟩ =>
        ⟨record, List.mem_cons_of_mem _ hmem, hrest⟩⟩
    · refine ⟨region, hregion, hover, .inr ?_⟩
      rcases hflag with ⟨-, hname⟩ | ⟨record, hmem, hrest⟩
      · exact ⟨first, List.mem_cons_self, rfl, hname⟩
      · exact ⟨record, List.mem_cons_of_mem _ hmem, hrest⟩

end Issue

/-! ### Steps that settle an invalidation -/

section Settle

variable {l l' : Ledger} {settled : InvalidationId}

lemma Ledger.requested_insert (hinsert : l'.invalidations = l.invalidations.insert settled record)
    (hstate : record.state ≠ .requested) (id : InvalidationId) (owner : ObjectId)
    (target : RegionId) :
    l'.Requested id owner target ↔ l.Requested id owner target ∧ id ≠ settled := by
  unfold Ledger.Requested
  rw [hinsert]
  by_cases hid : id = settled
  · subst hid
    simp [hstate]
  · simp [getElem?_insert_ne (Ne.symm hid), hid]

/-- One invalidation of an object is settled, or issued and settled at once. -/
lemma Ledger.Bookkept.settle (h : l.Bookkept) {key}
    (hobject : l.objects[key]? = some object) (hobjects : l'.objects = l.objects.insert key object')
    (hinsert : l'.invalidations = l.invalidations.insert settled record)
    (hstate : record.state ≠ .requested)
    (hown : ∀ owner target, l.Requested settled owner target → owner = key)
    (hascending : object'.outstandingInvalidations.Pairwise fun a b => a.value < b.value)
    (hlist : ∀ id, id ∈ object'.outstandingInvalidations ↔
      id ∈ object.outstandingInvalidations ∧ id ≠ settled)
    (hpending : object'.authority = .transferPending → object'.outstandingInvalidations ≠ [])
    (hregions : All (fun k region' => ∃ region, l.regions[k]? = some region ∧
      (region'.isTerminal = true → region.isTerminal = true) ∧
      (region'.invalidationPending = true → region.invalidationPending = true ∧
        region'.pendingInvalidation = region.pendingInvalidation ∧
        region.pendingInvalidation ≠ settled)) l'.regions) : l'.Bookkept := by
  have hrequested := requested_insert hinsert hstate
  refine h.insert hobjects (fun id owner target hne => ?_) hascending (fun id => ?_) hpending
    fun k region' hk => ?_
  · rw [hrequested, and_iff_left_of_imp]
    rintro hid rfl
    exact hne (hown owner target hid)
  · simp only [hrequested, exists_and_right]
    rw [hlist, h.listed key object hobject id]
  obtain ⟨region, hregion, hterminal, hcarried⟩ := hregions k region' hk
  refine ⟨fun hflag => ?_, fun id owner hid => ?_⟩
  · obtain ⟨hbefore, hname, hne⟩ := hcarried hflag
    obtain ⟨owner, hid⟩ := h.flagged k region hregion hbefore
    exact ⟨owner, (hrequested ..).mpr ⟨hname ▸ hid, hname ▸ hne⟩⟩
  · have hlive := h.targets _ _ _ ((hrequested ..).mp hid).1 region hregion
    exact Bool.eq_false_iff.mpr fun hover => by simp [hterminal hover] at hlive

lemma recompute_lists {key} (hobjects : e.ledger.objects = l.objects.insert key object)
    (hkey : object.id = key)
    (h : (e.recomputeAuthorityLocked object).authority = .transferPending) :
    object.outstandingInvalidations ≠ [] := by
  have hstored : e.objects[object.id]? = some object := by
    rw [show e.objects = _ from hobjects, hkey]
    exact getElem?_insert_self
  have houtstanding : e.hasOutstandingInvalidationsLocked object.id = true := by
    have hpending := recompute_transferPending h
    unfold recomputeAuthorityLocked at h
    simp only [hpending] at h
    split at h
    · assumption
    · cases h
  simp only [Records.hasOutstandingInvalidationsLocked, hstored, Records.anyRequested,
    List.any_eq_true] at houtstanding
  obtain ⟨id, hid, -⟩ := houtstanding
  exact List.ne_nil_of_mem hid

end Settle

/-! ### Every step -/

section Step

variable {l : Ledger} {ack : InvalidationAck}

lemma conflictingRegions_live {writer} (h : region ∈ e.conflictingRegions object writer) :
    ∃ id ∈ object.replicas, e.regions[id]? = some region ∧ region.state.isLive = true := by
  obtain ⟨hmem, hlive⟩ := List.mem_filter.mp h
  obtain ⟨id, hid, hregion⟩ := List.mem_filterMap.mp hmem
  simp only [Bool.and_eq_true] at hlive
  exact ⟨id, hid, hregion, hlive.1.2⟩

lemma Impl.Tracked.fresh (h : s.engine.Tracked) {id}
    (hid : s.engine.nextInvalidationId.toNat ≤ id.value.toNat) (owner : ObjectId)
    (target : RegionId) : ¬ s.engine.ledger.Requested id owner target := by
  rintro ⟨record, hrecord, -, -, hrequested⟩
  have hbelow := h.below id record hrecord hrequested
  omega

variable [ReplayStore σ]

lemma Ledger.Bookkept.acquireWrite (h : s.engine.ledger.Bookkept) (hkeyed : LiveKeyed s)
    (htracked : s.engine.Tracked) {request} (hok : Tidy s (.acquireWrite request))
    (houtcome : Outcome s (.acquireWrite request) true l) : l.Bookkept := by
  obtain ⟨hwrap, hlifecycle⟩ := of_decide_eq_true hok
  cases houtcome with
  | idle => exact h
  | prefer reads => simp at reads
  | @transfer _ _ object participant seq replica e transfers records next required conflicts =>
    have hfound := resolveLocked_found transfers.granted
    have hkey := hkeyed.live.objects _ object hfound
    have hcount : (e.conflictingRegions object replica).length ≤
        s.engine.replicaCount request.context.object := by
      simpa [replicaCount, hfound] using @length_conflictingRegions σ e object replica
    have hids : required.map (·.id) = (List.range (e.conflictingRegions object replica).length).map
        fun index => ⟨s.engine.nextInvalidationId + UInt64.ofNat index⟩ := by
      rw [conflicts, ← next]
      exact transferInvalidations_ids
    have hnodup : (required.map (·.id)).Nodup := by
      rw [hids]
      exact nodup_identities (by omega)
    refine h.issue hfound (issueAll_objects _) rfl (fun hpending => .inr ?_) hnodup ?_
      (fun record hmem => issueAll_found hnodup hmem) (fun id hid => issueAll_other hid) ?_
      issueAll_regions
    · rintro rfl
      cases hpending
    · intro record hmem
      refine htracked.fresh ?_
      have hid : record.id ∈ required.map (·.id) := List.mem_map_of_mem hmem
      rw [hids] at hid
      obtain ⟨index, hindex, hid⟩ := List.mem_map.mp hid
      rw [← hid, toNat_add_index (List.mem_range.mp hindex) (by omega)]
      exact Nat.le_add_right ..
    intro record hmem
    rw [conflicts] at hmem
    obtain ⟨index, -, region, hregion, rfl⟩ := mem_transferInvalidations hmem
    obtain ⟨id, hid, hfoundRegion, hlive⟩ := conflictingRegions_live hregion
    rw [records] at hfoundRegion
    have hregionId := hkeyed.live.regions id region hfoundRegion
    refine ⟨hkey, rfl, fun target htarget => ?_⟩
    obtain rfl : region = target := by
      change s.engine.regions[region.id]? = some target at htarget
      rw [hregionId, hfoundRegion] at htarget
      exact Option.some.inj htarget
    simp only [RegionRecord.isTerminal, Bool.or_eq_false_iff, beq_eq_false_iff_ne]
    refine ⟨fun hretired => ?_, fun hretired => ?_⟩
    · rw [hretired] at hlive
      cases hlive
    · cases hlive.symm.trans (hlifecycle object hfound id hid region hfoundRegion hretired)
  | @promote _ _ object participant granted pending settled =>
    have hfound := resolveLocked_found granted
    refine h.carry (fun _ _ _ => Iff.rfl) (fun key hmem => ?_) (fun key object' hobject' => ?_)
      fun key region hregion => ⟨fun hflag => ⟨region, hregion, hflag, rfl⟩,
        fun hover => .inl ⟨region, hregion, hover⟩⟩
    · exact mem_insert.mpr (.inr hmem)
    · rcases insert_cases hobject' with ⟨rfl, rfl⟩ | ⟨-, hbefore⟩
      · exact .inl ⟨object, hfound, rfl, fun hpending => by cases hpending⟩
      · exact .inl ⟨object', hbefore, rfl, fun h => h⟩

section Invalidate

variable {request : InvalidationRequest} {e' : Impl σ}
  (hfresh : ∀ owner target,
    ¬ s.engine.ledger.Requested ⟨s.engine.nextInvalidationId⟩ owner target)
include hfresh

omit [ReplayStore σ] in
lemma Ledger.Bookkept.invalidateInert (h : s.engine.ledger.Bookkept) :
    (s.engine.ledger.setInvalidation ⟨s.engine.nextInvalidationId⟩
      (e.inertInvalidation request object region)).Bookkept := by
  refine h.carry (fun id owner target => ?_) (fun _ hmem => hmem)
    (fun key object hobject => .inl ⟨object, hobject, rfl, fun h => h⟩)
    fun key region hregion => ⟨fun hflag => ⟨region, hregion, hflag, rfl⟩,
      fun hover => .inl ⟨region, hregion, hover⟩⟩
  have hinert : (e.inertInvalidation request object region).state ≠ .requested := by
    simp [inertInvalidation]
  refine (requested_insert rfl hinert id owner target).trans (and_iff_left_of_imp ?_)
  rintro hrequested rfl
  exact hfresh owner target hrequested

lemma Ledger.Bookkept.invalidateNow (h : s.engine.ledger.Bookkept) (hkeyed : LiveKeyed s)
    (issues : Issues s request object region) {seq}
    (stage : e.ledger = (s.engine.ledger.setObject request.context.object
      (object.passOutstanding ⟨s.engine.nextInvalidationId⟩ seq)).setRegion
        request.targetRegion (region.invalidate ⟨s.engine.nextInvalidationId⟩ seq)) :
    ((e.ledger.setObject request.context.object (e.recomputeAuthorityLocked
      (object.passOutstanding ⟨s.engine.nextInvalidationId⟩ seq))).setInvalidation
        ⟨s.engine.nextInvalidationId⟩ (e'.settledInvalidation request object region)).Bookkept := by
  have hfound := issues.found
  have hkey := hkeyed.live.objects _ object hfound
  obtain ⟨htarget, -⟩ := invalidateRefusal_ok issues.allowed
  set passed := object.passOutstanding ⟨s.engine.nextInvalidationId⟩ seq
  have hobjects := congrArg objects stage
  rw [stage, setObject_setRegion, setObject_setObject]
  have hlist : ∀ id, id ∈ passed.outstandingInvalidations ↔
      id ∈ object.outstandingInvalidations ∧ id ≠ ⟨s.engine.nextInvalidationId⟩ := by
    intro id
    simp only [passed, ObjectRecord.dropOutstanding, ObjectRecord.addOutstanding,
      List.mem_filter, mem_sortIds, List.mem_append, List.mem_singleton, bne_iff_ne]
    tauto
  have hsame := recompute_outstanding e passed
  have hsettled : (e'.settledInvalidation request object region).state ≠ .requested := by
    simp [settledInvalidation]
  refine h.settle hfound rfl rfl hsettled
    (fun owner target hrequested => absurd hrequested (hfresh owner target))
    (hsame ▸ (pairwise_sortIds ?_).filter _) (hsame ▸ hlist)
    (hsame ▸ recompute_lists hobjects hkey) ?_
  · refine List.nodup_append.mpr ⟨?_, List.nodup_singleton _, ?_⟩
    · exact (h.ascending _ object hfound).imp fun hlt heq => by simp [heq] at hlt
    · rintro id hid _ hnew rfl
      obtain rfl := List.mem_singleton.mp hnew
      obtain ⟨target, hrequested⟩ := (h.listed _ object hfound _).mp hid
      exact hfresh _ _ hrequested
  intro k region' hregion'
  rcases insert_cases hregion' with ⟨rfl, rfl⟩ | ⟨-, hbefore⟩
  · exact ⟨region, htarget, region.isTerminal_invalidate, fun hpending => by cases hpending⟩
  · refine ⟨region', hbefore, fun hover => hover, fun hflag => ⟨hflag, rfl, fun hname => ?_⟩⟩
    obtain ⟨owner, hrequested⟩ := h.flagged k region' hbefore hflag
    exact hfresh _ _ (hname ▸ hrequested)

lemma Ledger.Bookkept.invalidateLater (h : s.engine.ledger.Bookkept) (hkeyed : LiveKeyed s)
    (issues : Issues s request object region) {seq}
    (next : e.nextInvalidationId = s.engine.nextInvalidationId) :
    (((s.engine.ledger.setObject request.context.object
      (object.addOutstanding ⟨s.engine.nextInvalidationId⟩ seq)).setRegion request.targetRegion
        (region.awaitInvalidation ⟨s.engine.nextInvalidationId⟩ seq)).setInvalidation
          ⟨s.engine.nextInvalidationId⟩ (e.newInvalidation request object region)).Bookkept := by
  have hfound := issues.found
  have hkey := hkeyed.live.objects _ object hfound
  obtain ⟨htarget, -⟩ := invalidateRefusal_ok issues.allowed
  have hregion := hkeyed.live.regions _ region htarget
  have hid : (e.newInvalidation request object region).id = ⟨s.engine.nextInvalidationId⟩ :=
    congrArg StrongId.mk next
  have hlist :
      (object.addOutstanding ⟨s.engine.nextInvalidationId⟩ seq).outstandingInvalidations =
      sortIds (object.outstandingInvalidations ++
        [e.newInvalidation request object region].map (·.id)) := by
    rw [List.map_singleton, hid]
    rfl
  refine h.issue hfound rfl hlist .inl (List.nodup_singleton _) ?_ ?_ ?_ ?_ ?_
  · intro record hmem
    rw [List.mem_singleton.mp hmem, hid]
    exact hfresh
  · intro record hmem
    rw [List.mem_singleton.mp hmem, hid]
    exact getElem?_insert_self
  · intro id hne
    rw [List.map_singleton, hid, List.mem_singleton] at hne
    exact getElem?_insert_ne (Ne.symm hne)
  · intro record hmem
    rw [List.mem_singleton.mp hmem]
    refine ⟨hkey, rfl, fun target hfoundTarget => ?_⟩
    change s.engine.regions[region.id]? = some target at hfoundTarget
    rw [hregion, htarget] at hfoundTarget
    cases hfoundTarget
    have hlive := issues.live
    simp only [not_or] at hlive
    simp [RegionRecord.isTerminal, hlive]
  intro k region' hregion'
  rcases insert_cases hregion' with ⟨rfl, rfl⟩ | ⟨-, hbefore⟩
  · refine ⟨region, htarget, fun hover => hover, .inr ⟨_, List.mem_singleton_self _, hregion, ?_⟩⟩
    exact hid.symm
  · exact ⟨region', hbefore, fun hover => hover, .inl ⟨rfl, rfl⟩⟩

end Invalidate

lemma Ledger.Bookkept.invalidate (h : s.engine.ledger.Bookkept) (hkeyed : LiveKeyed s)
    (htracked : s.engine.Tracked) {request : InvalidationRequest}
    (houtcome : Outcome s (.invalidate request) true l) : l.Bookkept := by
  have hfresh : ∀ owner target, ¬ s.engine.ledger.Requested ⟨s.engine.nextInvalidationId⟩ owner
      target := htracked.fresh le_rfl
  cases houtcome with
  | idle => exact h
  | prefer reads => simp at reads
  | invalidateInert => exact h.invalidateInert hfresh
  | invalidateNow e e' issues settled next stage => exact h.invalidateNow hfresh hkeyed issues stage
  | invalidateLater e issues awaits next => exact h.invalidateLater hfresh hkeyed issues next

lemma Ledger.Bookkept.acknowledged (h : s.engine.ledger.Bookkept) (hkeyed : LiveKeyed s)
    {settled regions} (acknowledges : Acknowledges s ack record object)
    (stage : e.ledger = (Ledger.setInvalidation { s.engine.ledger with regions := regions }
      ack.invalidation settled).setObject ack.context.object (object.dropOutstanding record.id))
    (hobject' : ∃ seq, object' =
      { e.recomputeAuthorityLocked (object.dropOutstanding record.id) with updatedSequence := seq })
    (hstate : settled.state ≠ .requested)
    (hregions : All (fun k region' => ∃ region, s.engine.regions[k]? = some region ∧
      (region'.isTerminal = true → region.isTerminal = true) ∧
      (region'.invalidationPending = true → region.invalidationPending = true ∧
        region'.pendingInvalidation = region.pendingInvalidation ∧
        (record.state = .requested → region.pendingInvalidation = record.id →
          record.region ≠ k))) regions) :
    (e.ledger.setObject ack.context.object object').Bookkept := by
  obtain ⟨participant, hgranted⟩ := acknowledges.granted
  obtain ⟨seq, rfl⟩ := hobject'
  have hfound := resolveLocked_found hgranted
  have hkey := hkeyed.live.objects _ object hfound
  have hid := hkeyed.live.invalidations _ record acknowledges.issued
  have hobjects := congrArg objects stage
  rw [stage, setObject_setObject]
  have hrecord : ∀ owner target, s.engine.ledger.Requested record.id owner target →
      record.object = owner ∧ record.region = target ∧ record.state = .requested := by
    rintro owner target ⟨other, hfoundRecord, hrest⟩
    rw [hid] at hfoundRecord
    cases acknowledges.issued.symm.trans hfoundRecord
    exact hrest
  have hlist := recompute_outstanding e (object.dropOutstanding record.id)
  refine h.settle hfound rfl (congrArg (s.engine.invalidations.insert · settled) hid.symm) hstate
    (fun owner target hrequested => ?_) (hlist ▸ (h.ascending _ object hfound).filter _)
    (fun id => ?_) (hlist ▸ recompute_lists hobjects hkey) fun k region' hregion' => ?_
  · rw [← (hrecord owner target hrequested).1, ← (acknowledgeRefusal_none acknowledges.allowed).1,
      hkey]
  · simp [ObjectRecord.dropOutstanding]
  obtain ⟨region, hregion, hterminal, hflag⟩ := hregions k region' hregion'
  refine ⟨region, hregion, hterminal, fun hflagged => ?_⟩
  obtain ⟨hbefore, hname, hnamed⟩ := hflag hflagged
  refine ⟨hbefore, hname, fun heq => ?_⟩
  obtain ⟨owner, hrequested⟩ := h.flagged k region hregion hbefore
  obtain ⟨-, hregionKey, hstate⟩ := hrecord owner k (heq ▸ hrequested)
  exact hnamed hstate heq hregionKey

lemma Ledger.Bookkept.acknowledge (h : s.engine.ledger.Bookkept) (hkeyed : LiveKeyed s)
    (htracked : s.engine.Tracked) {ack} (hok : Tidy s (.acknowledgeInvalidation ack))
    (houtcome : Outcome s (.acknowledgeInvalidation ack) true l) : l.Bookkept := by
  cases houtcome with
  | idle => exact h
  | prefer reads => simp at reads
  | @acknowledgeMissing _ _ record object seq e acknowledges absent stage =>
    refine h.acknowledged hkeyed acknowledges stage ⟨_, rfl⟩ nofun ?_
    refine fun k region hregion => ⟨region, hregion, fun hover => hover,
      fun hflag => ⟨hflag, rfl, ?_⟩⟩
    rintro - - rfl
    cases absent.symm.trans hregion
  | @acknowledgeReplaced _ _ record object region seq e acknowledges found differs stage =>
    refine h.acknowledged hkeyed acknowledges stage ⟨_, rfl⟩ nofun ?_
    refine fun k region' hregion => ⟨region', hregion, fun hover => hover,
      fun hflag => ⟨hflag, rfl, ?_⟩⟩
    rintro hrequested - rfl
    -- the record is requested, so that its generations and those of the caller match
    obtain ⟨target, htarget, htargets⟩ :=
      htracked.target _ record acknowledges.issued hrequested
    obtain rfl : target = region := Option.some.inj (htarget.symm.trans found)
    obtain ⟨hgeneration, hreplica⟩ :=
      of_decide_eq_true hok record acknowledges.issued hrequested target found
    rcases differs with hne | hne | hne | hne
    · exact hne htargets.generation
    · exact hne htargets.replicaGeneration
    · exact hne hgeneration
    · exact hne hreplica
  | @acknowledge _ _ record object region version seq e acknowledges found agrees stage =>
    refine h.acknowledged hkeyed acknowledges stage ⟨_, rfl⟩ nofun ?_
    intro k region' hregion'
    rcases insert_cases hregion' with ⟨rfl, rfl⟩ | ⟨hne, hbefore⟩
    · exact ⟨region, found, region.isTerminal_invalidate, nofun⟩
    · exact ⟨region', hbefore, fun hover => hover, fun hflag =>
        ⟨hflag, rfl, fun _ _ heq => hne heq.symm⟩⟩

/-- **Step lemma**: a step that the store does not refuse keeps the books. -/
theorem Ledger.Bookkept.step (h : s.engine.ledger.Bookkept) (hkeyed : LiveKeyed s)
    (htracked : s.engine.Tracked) (ha : a.Runs) (hok : Tidy s a)
    (hhealthy : (s.step a).engine.storeHealthy = true) : (s.step a).engine.ledger.Bookkept := by
  have houtcome := step_outcome hkeyed.live.objects a ha
  unfold Ends at houtcome
  rw [hhealthy] at houtcome
  cases hinvalidates : a.invalidates with
  | false => exact h.quiet hkeyed htracked ha hinvalidates hok
  | true =>
    cases a with
    | acquireWrite request => exact h.acquireWrite hkeyed htracked hok houtcome
    | invalidate request => exact h.invalidate hkeyed htracked houtcome
    | acknowledgeInvalidation ack => exact h.acknowledge hkeyed htracked hok houtcome
    | _ => cases hinvalidates

end Step

/-! ### Along a run -/

section Run

lemma Tidy.orderly (h : Tidy s a) : Orderly s a := by
  cases a with
  | acknowledgeInvalidation ack =>
    exact fun record region hrecord hrequested hregion _ =>
      of_decide_eq_true h record hrecord hrequested region hregion
  | acquireWrite request => exact (of_decide_eq_true h).1
  | invalidate request =>
    have hleft := of_decide_eq_true h
    exact hleft
  | _ => trivial

variable [ReplayStore σ]

lemma boot_bookkept (config : EngineConfig) (store : Option σ) :
    (Sys.boot config store).engine.ledger.Bookkept := by
  have hnone : ∀ id owner target,
      ¬ (Sys.boot config store).engine.ledger.Requested id owner target :=
    fun id owner target ⟨record, hrecord, _, _, hrequested⟩ =>
      (boot_downgraded config store).invalidations id record hrecord hrequested
  have hobjects : All (fun _ object => object.outstandingInvalidations = [] ∧
      object.authority ≠ .transferPending) (Sys.boot config store).engine.objects := by
    refine boot_objects fun image object previous epoch sequence => ?_
    have hrestored := image.restoreObject_restored object previous epoch sequence
    exact ⟨hrestored.outstandingInvalidations, by rw [hrestored.authority]; nofun⟩
  have hregions : (Sys.boot config store).engine.toRecords.Sat
      (.onRegions fun region => region.invalidationPending = false) := by
    have hpersists : Persists (.onRegions fun region => region.invalidationPending = false)
        (.onRegions fun _ => True) := persists_onRegions fun _ _ => trivial
    refine (Invariant.boot hpersists (fun st _ => sat_onRegions fun _ _ _ => trivial) fun st _ =>
      restores_onRegions fun region evidence sequence _ => ?_).live
    unfold RegionRecord.restore
    split <;> rfl
  constructor
  · constructor
    · intro key object hobject
      rw [(hobjects key object hobject).1]
      exact .nil
    · intro key object hobject id
      rw [(hobjects key object hobject).1]
      exact ⟨nofun, fun ⟨target, hid⟩ => absurd hid (hnone id key target)⟩
    · intro key region hregion hflag
      cases hflag.symm.trans (hregions.regions key region hregion)
    · exact fun id owner target hid => absurd hid (hnone id owner target)
    · exact fun key object hobject hpending => absurd hpending (hobjects key object hobject).2
  · exact fun id owner target hid => absurd hid (hnone id owner target)

/-- **Invalidation bookkeeping closes** in a run whose appends all succeed and whose steps are
tidy. -/
theorem invalidations_booked (config : EngineConfig) (store : Option σ) (as : List Action)
    (hok : RunOk Sys.step (fun s a => Tidy s a ∧ (s.step a).engine.storeHealthy = true)
      (Sys.boot config store) as) : ((Sys.boot config store).run as).engine.ledger.Booked := by
  have hrun : ∀ s : Sys σ, LiveKeyed s ∧ s.engine.Tracked ∧ s.engine.ledger.Bookkept →
      RunOk Sys.step (fun s a => Tidy s a ∧ (s.step a).engine.storeHealthy = true) s as →
      LiveKeyed (s.run as) ∧ (s.run as).engine.Tracked ∧ (s.run as).engine.ledger.Bookkept := by
    intro s
    refine run_invariant (I := fun s => LiveKeyed s ∧ s.engine.Tracked ∧ s.engine.ledger.Bookkept)
      fun s a hok ⟨hkeyed, htracked, h⟩ => ?_
    refine ⟨hkeyed.step, htracked.step hkeyed hok.1.orderly, ?_⟩
    rcases a.restart_or with ⟨config, rfl⟩ | ha
    · exact boot_bookkept config _
    · exact h.step hkeyed htracked ha hok.1 hok.2
  exact (hrun _ ⟨.boot, .boot config store, boot_bookkept config store⟩ hok).2.2.toBooked

end Run

theorem invalidations_booked_contested :
    let s : Sys LogStore := (Sys.boot {} (some {})).run Duo.contested
    ((s.engine.objects[(⟨1⟩ : ObjectId)]?).any fun object =>
        object.authority == .transferPending && object.outstandingInvalidations == [⟨1⟩]) = true ∧
      s.engine.ledger.Booked := by
  have hok : RunOk Sys.step (fun s a => Tidy s a ∧ (s.step a).engine.storeHealthy = true)
      (Sys.boot {} (some ({} : LogStore))) Duo.contested := by decide +kernel
  exact ⟨by decide +kernel, invalidations_booked {} (some ({} : LogStore)) Duo.contested hok⟩

/-- The second participant is fenced while the transfer waits for it: the invalidation is settled,
but the object still lists it and the replica still carries the flag. -/
theorem fence_leaves_outstanding :
    let s : Sys LogStore :=
      (Sys.boot {} (some {})).run (Duo.contested ++ [.fenceParticipant ⟨2⟩ ⟨1⟩ []])
    s.engine.storeHealthy = true ∧ ¬ s.engine.ledger.Booked := by
  have hlisted : ∃ object ∈ ((Sys.boot {} (some ({} : LogStore))).run (Duo.contested ++
      [.fenceParticipant ⟨2⟩ ⟨1⟩ []])).engine.objects[(⟨1⟩ : ObjectId)]?,
        ⟨1⟩ ∈ object.outstandingInvalidations := by decide +kernel
  have hsettled : ∀ record ∈ ((Sys.boot {} (some ({} : LogStore))).run (Duo.contested ++
      [.fenceParticipant ⟨2⟩ ⟨1⟩ []])).engine.invalidations[(⟨1⟩ : InvalidationId)]?,
        record.state ≠ .requested := by decide +kernel
  refine ⟨by decide +kernel, fun h => ?_⟩
  obtain ⟨object, hobject, hmem⟩ := hlisted
  obtain ⟨target, record, hrecord, -, -, hrequested⟩ := (h.listed _ object hobject _).mp hmem
  exact hsettled record hrecord hrequested

end CoherenceFabric
