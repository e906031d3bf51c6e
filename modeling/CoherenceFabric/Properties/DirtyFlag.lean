import CoherenceFabric.Properties.DirtyMarks
import CoherenceFabric.Properties.Revocation
import CoherenceFabric.Invariants.Catalogue

/-!
The dirty flag of an object says whether one of its replicas has an unpublished modification.

The flag is one bit and `acquire_write` looks at nothing else. A commit clears it, although it
publishes one replica only; an operation that settles or retires a single modified replica leaves
it set, and so does the admission of its holder under a new boot. While none of this happens, the
flag is exact: the modified replicas of an object are held by its writer, so a fence or a release
that clears the flag reaches all of them.
-/

namespace CoherenceFabric

open FiniteMap Transition

variable {σ : Type} {reason : Text} {object' : ObjectRecord} {region' : RegionRecord}

namespace Ledger

/-- Some replica of the object has an unpublished modification. -/
def Modified (l : Ledger) (id : ObjectId) : Prop :=
  ∃ (key : RegionId) (region : RegionRecord),
    l.regions[key]? = some region ∧ region.object = id ∧ region.Marked

lemma modified_iff_not_all {l : Ledger} {id} :
    l.Modified id ↔ ¬ All (fun _ region => region.object = id → ¬ region.Marked) l.regions := by
  constructor
  · rintro ⟨key, region, hregion, howner, hmarked⟩ hall
    exact hall key region hregion howner hmarked
  · intro hall
    by_contra hnone
    exact hall fun key region hregion howner hmarked =>
      hnone ⟨key, region, hregion, howner, hmarked⟩

instance (l : Ledger) (id : ObjectId) : Decidable (l.Modified id) :=
  decidable_of_iff' _ modified_iff_not_all

/-- The flag of every object that is not retired says whether it is modified. -/
def FlagsExact (l : Ledger) : Prop :=
  All (fun id object => object.lifecycle ≠ .retired →
    (object.hasUnpublishedDirty = true ↔ l.Modified id)) l.objects

instance (l : Ledger) : Decidable l.FlagsExact := inferInstanceAs (Decidable (All _ _))

/-- If the replica is modified, so is another replica of its object. -/
def NotLast (l : Ledger) (id : RegionId) : Prop :=
  ∀ region ∈ l.regions[id]?, region.Marked →
    ¬ All (fun other region' => other ≠ id → region'.object = region.object → ¬ region'.Marked)
      l.regions

instance (l : Ledger) (id : RegionId) : Decidable (l.NotLast id) :=
  inferInstanceAs (Decidable (∀ region ∈ _, _))

/-- The modified replicas that the object lists are its own. -/
def ListsOwn (l : Ledger) (id : ObjectId) : Prop :=
  ∀ object ∈ l.objects[id]?, ∀ key ∈ object.replicas, ∀ region ∈ l.regions[key]?,
    region.Marked → region.object = id

instance (l : Ledger) (id : ObjectId) : Decidable (l.ListsOwn id) :=
  inferInstanceAs (Decidable (∀ object ∈ _, _))

def UnmarkedOf (l : Ledger) (id : ParticipantId) (boot : ParticipantBootId) : Prop :=
  All (fun _ region => region.participant = id ∧ region.boot = boot → ¬ region.Marked) l.regions

instance (l : Ledger) (id : ParticipantId) (boot : ParticipantBootId) :
    Decidable (l.UnmarkedOf id boot) :=
  inferInstanceAs (Decidable (All _ _))

end Ledger

/-- The flags are exact, and `acquire_write` decides by them: it grants nothing while a replica of
the object is modified, and refuses for a modification only if there is one. -/
structure Sys.DirtyExact [DurableStore σ] (s : Sys σ) : Prop where
  flags : s.engine.ledger.FlagsExact
  granted : ∀ request grant, (s.engine.acquireWrite request).1 = .ok grant →
    grant.granted = true → ¬ s.engine.ledger.Modified request.context.object
  refused : ∀ request grant, (s.engine.acquireWrite request).1 = .ok grant →
    grant.reason = .dirtyUnpublished → s.engine.ledger.Modified request.context.object

/-- The replica whose modification the step may settle without a look at the flag. -/
def Sys.settles (s : Sys σ) : Action → Option RegionId
  | .retireRegion id _ _ => some id
  | .revalidateRegion request => some request.region
  | .completeSync request => (s.engine.syncs[request.operation]?).map (·.destinationRegion)
  | _ => none

/-- The step does not settle the last modification of an object behind its flag, does not publish
one of several, and does not take one from an incarnation that is not the writer. -/
def KeepsFlags (s : Sys σ) (a : Action) : Prop :=
  (match a with
  | .registerParticipant name boot _ _ =>
    decide (∀ id ∈ s.engine.participantIndex[name]?,
      let record := (s.engine.participants[id]?).getD {}
      record.boot = boot ∧ record.lifecycle ≠ .retired ∨
        s.engine.ledger.UnmarkedOf record.id record.boot)
  | .fenceParticipant id _ _ =>
    decide (s.engine.shuttingDown = true → id ≠ .nil ∧
      ∀ participant ∈ s.engine.participants[id]?,
        s.engine.ledger.UnmarkedOf id participant.boot)
  | .markDirty request =>
    decide (∀ region ∈ s.engine.regions[request.region]?, region.boot = request.context.boot)
  | .publishCommit index =>
    decide (∀ frame ∈ s.ready index, (s.engine.commitTarget frame).isSome →
      All (fun key region => region.object = frame.pending.object → region.Marked →
        key = frame.region) s.engine.regions)
  | .retireObject id _ _ => decide (s.engine.ledger.ListsOwn id)
  | .release request => decide (s.engine.ledger.ListsOwn request.context.object)
  | a => decide (∀ id ∈ s.settles a, s.engine.ledger.NotLast id)) = true

instance (s : Sys σ) (a : Action) : Decidable (KeepsFlags s a) :=
  inferInstanceAs (Decidable (_ = true))

/-! ### What write acquisition reads -/

section Acquire

variable [DurableStore σ] {e : Impl σ} {policy : CoherencePolicy} {grant : WriteGrant}

lemma acquireWriteAuthority_reason {request context object participant} {region grant'}
    (hreason : grant.reason = .ok)
    (h : (e.acquireWriteAuthority request context policy object participant region grant).1 =
      .ok grant') : grant'.reason ≠ .dirtyUnpublished := by
  unfold Impl.acquireWriteAuthority Impl.resumeTransfer Impl.transferWrite at h
  dsimp only at h
  repeat' split at h
  all_goals cases h
  all_goals intro hdirty
  all_goals first
    | (rw [hreason] at hdirty; cases hdirty)
    | cases hdirty

omit [DurableStore σ] in
lemma writerRegion_error {object request status}
    (h : e.writerRegion object request = .error status) : status.code ≠ .dirtyUnpublished := by
  unfold Impl.writerRegion Impl.resolveRegionLocked at h
  repeat' split at h
  all_goals cases h
  all_goals
    rename_i hresolved
    repeat' split at hresolved
    all_goals cases hresolved
    all_goals nofun

lemma acquireWrite_flag {request} (h : (e.acquireWrite request).1 = .ok grant) :
    ∃ object participant, e.resolveLocked request.context = .granted object participant ∧
        (grant.granted = true → object.hasUnpublishedDirty = false) ∧
        (grant.reason = .dirtyUnpublished → object.hasUnpublishedDirty = true) := by
  unfold Impl.acquireWrite at h
  dsimp only at h
  split at h
  · cases h
  rename_i object participant hgranted
  refine ⟨object, participant, hgranted, ?_⟩
  split at h
  · cases h
  split at h
  · rename_i hrefusal
    cases h
    refine ⟨nofun, fun hreason => ?_⟩
    cases hreason
    exact writeRefusal_dirty hrefusal
  have hclear := (writeRefusal_none ‹_›).2
  refine ⟨fun _ => hclear, fun hreason => ?_⟩
  split at h
  · rename_i herror
    cases h
    exact absurd hreason (writerRegion_error herror)
  · exact absurd hreason (acquireWriteAuthority_reason rfl h)
  · split at h
    · cases h
      cases hreason
    · exact absurd hreason (acquireWriteAuthority_reason rfl h)

lemma Ledger.FlagsExact.dirtyExact {s : Sys σ} (h : s.engine.ledger.FlagsExact) : s.DirtyExact := by
  have hflag : ∀ {request object participant},
      s.engine.resolveLocked request = .granted object participant →
        (object.hasUnpublishedDirty = true ↔ s.engine.ledger.Modified request.object) :=
    fun hgranted => h _ _ (resolveLocked_found hgranted)
      (resolveLocked_granted hgranted).object_live.1
  refine ⟨h, fun request grant hresult hgrant hmodified => ?_,
    fun request grant hresult hreason => ?_⟩
  · obtain ⟨object, participant, hgranted, hclear, -⟩ := acquireWrite_flag hresult
    have hdirty := (hflag hgranted).mpr hmodified
    exact absurd (hclear hgrant) (by simp [hdirty])
  · obtain ⟨object, participant, hgranted, -, hdirty⟩ := acquireWrite_flag hresult
    exact (hflag hgranted).mp (hdirty hreason)

end Acquire

/-! ### Marks and flags after a step -/

namespace Ledger

variable {l l' : Ledger} {id : ObjectId} {object object' : ObjectRecord}

lemma FlagsExact.setObject (h : l.FlagsExact) (hthis : object'.lifecycle ≠ .retired →
    (object'.hasUnpublishedDirty = true ↔ l.Modified id)) : (l.setObject id object').FlagsExact :=
  FiniteMap.All.insert h hthis

lemma FlagsExact.keepFlag (h : l.FlagsExact) (hfound : l.objects[id]? = some object)
    (hflag : object'.hasUnpublishedDirty = object.hasUnpublishedDirty)
    (hlifecycle : object'.lifecycle = object.lifecycle) : (l.setObject id object').FlagsExact := by
  refine h.setObject fun hlive => ?_
  rw [hflag]
  exact h id object hfound (hlifecycle ▸ hlive)

lemma modified_map {f owner} (hregions : l'.regions = l.regions.map f)
    (howner : ∀ key region, (f key region).object = region.object) : l'.Modified owner ↔
      ∃ key region, l.regions[key]? = some region ∧ region.object = owner ∧
        (f key region).Marked := by
  simp [Modified, hregions, getElem?_map, howner]

lemma FlagsExact.settle (h : l.FlagsExact) {f}
    (howner : ∀ key region, (f key region).object = region.object)
    (hothers : ∀ key region, l.regions[key]? = some region → region.object ≠ id →
      ((f key region).Marked ↔ region.Marked))
    (hthis : object'.lifecycle ≠ .retired → object'.hasUnpublishedDirty = false ∧
      ∀ key region, l.regions[key]? = some region → region.object = id → ¬ (f key region).Marked) :
    ({ l.setObject id object' with regions := l.regions.map f } : Ledger).FlagsExact := by
  intro key object'' hobject'' hlive
  change (l.objects.insert id object')[key]? = some object'' at hobject''
  refine Iff.trans ?_ (modified_map rfl howner).symm
  by_cases hkey : id = key
  · subst hkey
    cases getElem?_insert_self.symm.trans hobject''
    obtain ⟨hclear, hnone⟩ := hthis hlive
    rw [hclear]
    refine ⟨nofun, fun ⟨key, region, hregion, hobject, hmarked⟩ => ?_⟩
    exact absurd hmarked (hnone key region hregion hobject)
  rw [getElem?_insert_ne hkey] at hobject''
  refine (h key object'' hobject'' hlive).trans ⟨?_, ?_⟩
  · rintro ⟨other, region, hregion, rfl, hmarked⟩
    exact ⟨other, region, hregion, rfl, (hothers other region hregion (Ne.symm hkey)).mpr hmarked⟩
  · rintro ⟨other, region, hregion, rfl, hmarked⟩
    exact ⟨other, region, hregion, rfl, (hothers other region hregion (Ne.symm hkey)).mp hmarked⟩

end Ledger

namespace RegionRecord

variable {region : RegionRecord} {key : RegionId} {sequence : OperationSequence}
  {boot : ParticipantBootId}

lemma retire_not_marked : ¬ (region.retire sequence).Marked := DirtyCondition.lost_ne _

lemma cutOff_marked {id} : (region.cutOff id boot reason sequence).Marked ↔
      region.Marked ∧
        ¬ (region.participant = id ∧ region.boot = boot ∧ region.state ≠ .retired) := by
  unfold cutOff
  split
  · rename_i hmine
    exact ⟨fun hmarked => absurd hmarked (DirtyCondition.lost_ne _), fun h => absurd hmine h.2⟩
  · rename_i hother
    exact ⟨fun hmarked => ⟨hmarked, hother⟩, fun h => h.1⟩

lemma afterCommit_marked {frame replicas evidence} :
    (region.afterCommit key frame replicas evidence sequence).Marked ↔
      region.Marked ∧ key ≠ frame.region := by
  unfold afterCommit
  split
  · rename_i hsource
    exact ⟨nofun, fun h => absurd hsource h.2⟩
  · rename_i hother
    split <;> exact ⟨fun hmarked => ⟨hmarked, hother⟩, fun h => h.1⟩

lemma afterRelease_marked {object} : (region.afterRelease key object sequence).Marked ↔
      region.Marked ∧ ¬ (object.hasUnpublishedDirty = true ∧ key ∈ object.replicas) := by
  unfold afterRelease
  split
  · rename_i hlost
    exact ⟨nofun, fun h => absurd ⟨hlost.1, hlost.2.1⟩ h.2⟩
  · rename_i hkept
    exact ⟨fun hmarked => ⟨hmarked, fun hlost => hkept ⟨hlost.1, hlost.2, hmarked⟩⟩, fun h => h.1⟩

end RegionRecord

/-- The steps that set or clear the flag of an object. -/
def Action.flags : Action → Bool
  | .markDirty _ | .publishCommit _ | .release _ | .fenceParticipant _ _ _
  | .resolveRecovery _ _ _ _ | .retireObject _ _ _ => true
  | _ => false

section Change

variable {s : Sys σ} {a : Action}

lemma ObjectEffect.flag {key object}
    (h : ObjectEffect s a key object object') (ha : a.flags = false) :
    object'.hasUnpublishedDirty = object.hasUnpublishedDirty ∧
      object'.lifecycle = object.lifecycle := by
  cases h with
  | keep same => exact ⟨same.dirty, same.lifecycle⟩
  | transferFailed | transfer | reserve => exact ⟨rfl, rfl⟩
  | shutdown _ _ down => exact ⟨down.dirty, down.lifecycle⟩
  | _ => cases ha

lemma ObjectEffect.flagged {key object}
    (h : ObjectEffect s a key object object') (hlive : object.hasUnpublishedDirty = true →
      object.lifecycle ≠ .retired ∧ object.lifecycle ≠ .recoveryRequired)
    (hflag : object'.hasUnpublishedDirty = true) :
    object'.lifecycle ≠ .retired ∧ object'.lifecycle ≠ .recoveryRequired := by
  cases h with
  | keep same =>
    rw [same.lifecycle]
    exact hlive (same.dirty ▸ hflag)
  | revoke _ _ _ _ revoked => cases revoked.clean.symm.trans hflag
  | markDirty granted =>
    have hobject := (resolveLocked_granted granted).object_live
    exact ⟨hobject.1, hobject.2.1⟩
  | relinquish _ _ _ released => cases released.clean.symm.trans hflag
  | shutdown _ _ down =>
    rw [down.lifecycle]
    exact hlive (down.dirty ▸ hflag)
  | commit | resolveRecovery | retire => cases hflag
  | _ => exact hlive hflag

lemma RegionChange.marked_before {key region}
    (h : RegionChange s a key region region') (hstate : region.Marked → region.state ≠ .retired)
    (hmarked : region'.Marked) : region'.state ≠ .retired ∧
      (region.Marked ∨ ∃ request object participant, a = .markDirty request ∧ key = request.region ∧
        s.engine.resolveLocked request.context = .granted object participant ∧
        s.engine.markDirtyRefusal request object = .ok region) := by
  cases h with
  | markDirty granted allowed =>
    exact ⟨nofun, .inr ⟨_, _, _, rfl, rfl, granted, allowed⟩⟩
  | publish | release => cases hmarked
  | supersede => exact ⟨nofun, .inl hmarked⟩
  | same | transfer | invalidateLater => exact ⟨hstate hmarked, .inl hmarked⟩
  | invalidateNow | acknowledge =>
    refine ⟨?_, .inl hmarked⟩
    unfold RegionRecord.invalidate
    split <;> nofun
  | requestSync =>
    have hbefore := hstate hmarked
    refine ⟨?_, .inl hmarked⟩
    unfold RegionRecord.requestSync
    generalize region.state = state at hbefore ⊢
    cases state <;> first | exact hbefore | nofun
  | completeSync _ _ ends =>
    cases ends with
    | stale | unmoved | mismatch => exact ⟨nofun, .inl hmarked⟩
    | current => cases hmarked
  | failSync =>
    refine ⟨?_, .inl hmarked⟩
    unfold RegionRecord.refuseSync Impl.failedDestination
    repeat' split
    all_goals nofun
  | revalidate =>
    unfold RegionRecord.Marked at hmarked
    rw [region.revalidate_dirty] at hmarked
    split at hmarked
    · cases hmarked
    · contradiction
  | rejoin | fence | retire | retireObject => exact absurd hmarked (DirtyCondition.lost_ne _)

lemma RegionChange.marked_after {key region}
    (h : RegionChange s a key region region') (ha : a.flags = false) (hok : KeepsFlags s a)
    (hregion : s.engine.regions[key]? = some region) (hkey : s.settles a ≠ some key)
    (hmarked : region.Marked) : region'.Marked := by
  cases h with
  | rejoin known found differs held =>
    have hunmarked := (of_decide_eq_true hok _ known).resolve_left (found ▸ differs)
    rw [← found] at hunmarked
    exact absurd hmarked (hunmarked key region hregion held)
  | completeSync completes =>
    exact absurd (by simp [Sys.settles, completes.planned]) hkey
  | same | transfer | invalidateNow | invalidateLater | acknowledge | requestSync | failSync =>
    exact hmarked
  | retire | revalidate => exact absurd rfl hkey
  | fence | markDirty | publish | supersede | release | retireObject => cases ha

end Change

/-! ### The life of one engine -/

section Life

variable [ReplayStore σ] {s : Sys σ} {a : Action} {l' : Ledger} {epoch : CoordinatorEpoch}
  {healthy : Bool} {generation : ObjectGeneration}

/-- The flags, and what they rest on: the modified replicas of an object are held by its
writer. -/
structure FlagsOk (s : Sys σ) : Prop where
  keyed : LiveKeyed s
  closed : s.engine.ledger.Closed
  frames : s.FramesHeld
  flags : s.engine.ledger.FlagsExact
  flagged : All (fun _ object => object.hasUnpublishedDirty = true →
    object.lifecycle ≠ .retired ∧ object.lifecycle ≠ .recoveryRequired) s.engine.objects
  marked : All (fun _ region => region.Marked → region.state ≠ .retired) s.engine.regions
  running : s.engine.shuttingDown = false → All (fun _ region => region.Marked →
    ∀ object ∈ s.engine.objects[region.object]?, object.lifecycle ≠ .retired →
      region.participant = object.writer ∧ region.boot = object.writerBoot) s.engine.regions
  down : s.engine.shuttingDown = true →
    All (fun _ object => object.Withdrawn) s.engine.objects

lemma FlagsOk.modified_iff (h : FlagsOk s) (hok : KeepsFlags s a) (hflags : a.flags = false)
    (hchanges : StepChanges s a l') (id : ObjectId) :
    l'.Modified id ↔ s.engine.ledger.Modified id := by
  constructor
  · rintro ⟨key, region', hregion', howner, hmarked⟩
    rcases hchanges.regions.origin hregion' with ⟨region, hregion, hchange⟩ | ⟨-, hnew⟩
    · have hplace := hchange.effect.samePlace
      rcases (hchange.marked_before (h.marked key region hregion) hmarked).2 with
        hbefore | ⟨request, object, participant, rfl, -⟩
      · exact ⟨key, region, hregion, hplace.object.symm.trans howner, hbefore⟩
      · cases hflags
    · cases hnew.clean.symm.trans hmarked
  rintro ⟨key, region, hregion, howner, hmarked⟩
  -- if this modification is settled, there is another one
  have hother : ∃ (key : RegionId) (region : RegionRecord),
      s.engine.regions[key]? = some region ∧ region.object = id ∧ region.Marked ∧
        s.settles a ≠ some key := by
    by_cases hsettles : s.settles a = some key
    · have hnotLast : s.engine.ledger.NotLast key := by
        cases a <;> first
          | exact of_decide_eq_true hok key hsettles
          | cases hsettles
      by_contra hnone
      refine hnotLast region hregion hmarked fun other region' hregion' hne howner' hmarked' => ?_
      refine hnone ⟨other, region', hregion', howner'.trans howner, hmarked', ?_⟩
      rw [hsettles]
      exact fun heq => hne (Option.some.inj heq).symm
    · exact ⟨key, region, hregion, howner, hmarked, hsettles⟩
  obtain ⟨key, region, hregion, howner, hmarked, hsettles⟩ := hother
  obtain ⟨region', hregion', hchange⟩ := hchanges.regions.forward hregion
  exact ⟨key, region', hregion', hchange.effect.samePlace.object.trans howner,
    hchange.marked_after hflags hok hregion hsettles hmarked⟩

lemma FlagsOk.flags_plain (h : FlagsOk s) (hok : KeepsFlags s a) (hflags : a.flags = false)
    (hchanges : StepChanges s a l') : l'.FlagsExact := by
  intro key object' hobject' hlive
  rw [h.modified_iff hok hflags hchanges key]
  rcases hchanges.objects.origin hobject' with ⟨object, hobject, hchange⟩ | ⟨habsent, hnew⟩
  · obtain ⟨hflag, hlifecycle⟩ := hchange.effect.flag hflags
    rw [hflag]
    exact h.flags key object hobject (hlifecycle ▸ hlive)
  cases hnew
  refine ⟨nofun, fun ⟨other, region, hregion, howner, _⟩ => ?_⟩
  -- no replica is one of an object that does not exist
  obtain ⟨object, hobject, -⟩ := h.closed.covers other region hregion
  rw [howner] at hobject
  exact nomatch habsent.symm.trans hobject

lemma FlagsOk.fence_reaches (h : FlagsOk s) {id}
    (hok : KeepsFlags s (.fenceParticipant id epoch reason)) {participant}
    (known : s.engine.participants[id]? = some participant) {key : RegionId} {region}
    (hregion : s.engine.regions[key]? = some region) (hmarked : region.Marked)
    {object} (hobject : s.engine.objects[region.object]? = some object)
    (hlive : object.lifecycle ≠ .retired) :
    (region.participant = id ∧ region.boot = participant.boot) ↔
      (object.writer = id ∧ object.writerBoot = participant.boot) := by
  cases hdown : s.engine.shuttingDown with
  | false =>
    obtain ⟨hparticipant, hboot⟩ := h.running hdown key region hregion hmarked object hobject hlive
    rw [hparticipant, hboot]
  | true =>
    obtain ⟨hdefined, hunmarked⟩ := of_decide_eq_true hok hdown
    refine ⟨fun hmine => ?_, fun hwriter => ?_⟩
    · exact absurd hmarked (hunmarked participant known key region hregion hmine)
    · exact absurd (hwriter.1.symm.trans (h.down hdown _ object hobject).writer) hdefined

lemma FlagsOk.flags_fence (h : FlagsOk s) {id : ParticipantId}
    (hok : KeepsFlags s (.fenceParticipant id epoch reason))
    (hends : Outcome s (.fenceParticipant id epoch reason) healthy l') : l'.FlagsExact := by
  cases hends with
  | idle => exact h.flags
  | prefer reads => simp at reads
  | @fence _ _ _ _ participant seq e current known live stage =>
    have hobjects : e.objects = _ := congrArg Ledger.objects stage
    have hregions : e.ledger.regions = s.engine.ledger.regions.map _ :=
      congrArg Ledger.regions stage
    intro key object' hobject' hlive
    simp only [hobjects, getElem?_map, Option.map_map, Option.map_eq_some_iff,
      Function.comp] at hobject'
    obtain ⟨object, hobject, rfl⟩ := hobject'
    rw [recomputeAuthorityLocked_eq] at hlive ⊢
    refine Iff.trans ?_ (Ledger.modified_map hregions fun _ region =>
      (region.cutOff_sameReplica ..).object).symm
    obtain ⟨reads, touched, -, ⟨hwriter, hboot, hcut⟩ | ⟨hother, hcut⟩⟩ :=
      object.cutOff_cases id participant.boot (s.engine.dirtyLossPolicyOf object) seq
    · -- the writer is fenced, and with it every modified replica
      have hspec := object.revokeWriter_spec (s.engine.dirtyLossPolicyOf object) seq
      rw [hcut] at hlive ⊢
      have hbefore : object.lifecycle ≠ .retired := by
        rcases hspec.lifecycle with hsame | ⟨hflag, -⟩
        · exact hsame ▸ hlive
        · exact (h.flagged key object hobject hflag).1
      rw [hspec.clean]
      refine ⟨nofun, fun ⟨other, region, hregion, howner, hmarked⟩ => ?_⟩
      subst howner
      obtain ⟨hmarked, hmissed⟩ := RegionRecord.cutOff_marked.mp hmarked
      have hmine := (h.fence_reaches hok known hregion hmarked hobject hbefore).mpr ⟨hwriter, hboot⟩
      exact absurd ⟨hmine.1, hmine.2, h.marked other region hregion hmarked⟩ hmissed
    rw [hcut] at hlive ⊢
    refine (h.flags key object hobject hlive).trans ⟨?_, ?_⟩
    · rintro ⟨other, region, hregion, rfl, hmarked⟩
      refine ⟨other, region, hregion, rfl,
        RegionRecord.cutOff_marked.mpr ⟨hmarked, fun hmine => ?_⟩⟩
      exact hother ((h.fence_reaches hok known hregion hmarked hobject hlive).mp
        ⟨hmine.1, hmine.2.1⟩)
    · rintro ⟨other, region, hregion, rfl, hmarked⟩
      exact ⟨other, region, hregion, rfl, (RegionRecord.cutOff_marked.mp hmarked).1⟩

lemma FlagsOk.flags_markDirty (h : FlagsOk s) {request}
    (hends : Outcome s (.markDirty request) healthy l') : l'.FlagsExact := by
  cases hends with
  | idle => exact h.flags
  | prefer reads => simp at reads
  | @markDirty _ _ object participant region seq granted allowed =>
    obtain ⟨hregion, howner, -⟩ := markDirtyRefusal_ok allowed
    have hid := h.keyed.live.objects _ _ (resolveLocked_found granted)
    intro key object' hobject' hlive
    change (s.engine.objects.insert request.context.object _)[key]? = some object' at hobject'
    by_cases hkey : request.context.object = key
    · subst hkey
      cases getElem?_insert_self.symm.trans hobject'
      refine ⟨fun _ => ?_, fun _ => rfl⟩
      exact ⟨request.region, _, getElem?_insert_self, howner.trans hid, rfl⟩
    rw [getElem?_insert_ne hkey] at hobject'
    refine (h.flags key object' hobject' hlive).trans ⟨?_, ?_⟩
    · rintro ⟨other, region', hregion', howner', hmarked⟩
      have hne : request.region ≠ other := by
        rintro rfl
        cases hregion.symm.trans hregion'
        exact hkey (hid.symm.trans (howner.symm.trans howner'))
      exact ⟨other, region', (getElem?_insert_ne hne).trans hregion', howner', hmarked⟩
    rintro ⟨other, region', hregion', howner', hmarked⟩
    change (s.engine.regions.insert request.region _)[other]? = some region' at hregion'
    have hne : request.region ≠ other := by
      rintro rfl
      cases getElem?_insert_self.symm.trans hregion'
      exact hkey (hid.symm.trans (howner.symm.trans howner'))
    rw [getElem?_insert_ne hne] at hregion'
    exact ⟨other, region', hregion', howner', hmarked⟩

lemma FlagsOk.flags_commit (h : FlagsOk s) {index} (hok : KeepsFlags s (.publishCommit index))
    (hends : Outcome s (.publishCommit index) healthy l') : l'.FlagsExact := by
  cases hends with
  | idle => exact h.flags
  | prefer reads => simp at reads
  | abort ready found => exact h.flags.keepFlag found rfl rfl
  | @commit _ _ frame object bound seq ready target =>
    have hsource := of_decide_eq_true hok frame ready (by simp [target])
    have hframe := List.mem_of_getElem? (Option.filter_eq_some_iff.mp ready).1
    obtain ⟨source, hfound, -, howner⟩ := h.frames frame hframe
    refine h.flags.settle (fun key region => ?_) (fun key region hregion hother => ?_) fun _ =>
      ⟨rfl, fun key region hregion hmine hmarked => ?_⟩
    · unfold RegionRecord.afterCommit
      repeat' split
      all_goals rfl
    · refine RegionRecord.afterCommit_marked.trans ⟨fun h => h.1, fun hmarked => ⟨hmarked, ?_⟩⟩
      rintro rfl
      cases hfound.symm.trans hregion
      exact hother howner
    · obtain ⟨hmarked, hne⟩ := RegionRecord.afterCommit_marked.mp hmarked
      exact hne (hsource key region hregion hmine hmarked)

lemma FlagsOk.flags_release (h : FlagsOk s) {request}
    (hok : KeepsFlags s (.release request)) (hends : Outcome s (.release request) healthy l') :
    l'.FlagsExact := by
  cases hends with
  | idle => exact h.flags
  | prefer reads => simp at reads
  | releaseLease e granted stage =>
    rw [stage, Ledger.setObject_setObject, recomputeAuthorityLocked_eq]
    exact h.flags.keepFlag (resolveLocked_found granted) rfl rfl
  | @releaseAuthority _ _ object _ seq e granted writer ownership stage =>
    have hgranted := resolveLocked_granted granted
    have hid := h.keyed.live.objects _ _ hgranted.object_found
    have hown := of_decide_eq_true hok object hgranted.object_found
    rw [stage, Ledger.setObject_withRegions, Ledger.setObject_setObject,
      recomputeAuthorityLocked_eq]
    refine h.flags.settle (fun key region => ?_) (fun key region hregion hother => ?_) fun _ =>
      ⟨(s.engine.relinquish_spec object).clean, fun key region hregion hmine hmarked => ?_⟩
    · unfold RegionRecord.afterRelease
      split <;> rfl
    · refine RegionRecord.afterRelease_marked.trans ⟨fun h => h.1, fun hmarked => ⟨hmarked, ?_⟩⟩
      exact fun hlisted => hother (hown key hlisted.2 region hregion hmarked)
    -- a marked replica of the object is listed, and the flag is set
    obtain ⟨hmarked, hkept⟩ := RegionRecord.afterRelease_marked.mp hmarked
    have hflag := (h.flags _ object hgranted.object_found hgranted.object_live.1).mpr
      ⟨key, region, hregion, hmine, hmarked⟩
    obtain ⟨object', hobject', -, hlisted⟩ := h.closed.covers key region hregion
    rw [hmine] at hobject'
    cases hgranted.object_found.symm.trans hobject'
    exact hkept ⟨hflag, hlisted⟩

lemma FlagsOk.flags_resolveRecovery (h : FlagsOk s) {id note}
    (hends : Outcome s (.resolveRecovery id generation epoch note) healthy l') : l'.FlagsExact := by
  cases hends with
  | idle => exact h.flags
  | prefer reads => simp at reads
  | @resolveRecovery _ _ _ _ _ object _ allowed =>
    obtain ⟨hfound, hlifecycle⟩ := resolveRecoveryRefusal_ok allowed
    have hclear : ¬ object.hasUnpublishedDirty = true := fun hflag =>
      (h.flagged id object hfound hflag).2 hlifecycle
    refine h.flags.setObject fun _ => ⟨nofun, fun hmodified => ?_⟩
    exact absurd ((h.flags id object hfound (by rw [hlifecycle]; nofun)).mpr hmodified) hclear

lemma FlagsOk.flags_retireObject (h : FlagsOk s) {id}
    (hok : KeepsFlags s (.retireObject id generation epoch))
    (hends : Outcome s (.retireObject id generation epoch) healthy l') : l'.FlagsExact := by
  cases hends with
  | idle => exact h.flags
  | prefer reads => simp at reads
  | retireObjectFailed => exact h.flags.setObject fun hlive => absurd rfl hlive
  | @retireObject _ _ _ _ object seq allowed =>
    have hown := of_decide_eq_true hok object (retireObjectRefusal_ok allowed)
    refine h.flags.settle (fun key region => ?_) (fun key region hregion hother => ?_)
      fun hlive => absurd rfl hlive
    · split <;> rfl
    split
    · rename_i hlisted
      exact ⟨fun hmarked => absurd hmarked RegionRecord.retire_not_marked, fun hmarked =>
        absurd (hown key hlisted region hregion hmarked) hother⟩
    · exact Iff.rfl

theorem FlagsOk.flags_after (h : FlagsOk s) (ha : a.Runs)
    (hok : KeepsFlags s a) : (s.step a).engine.ledger.FlagsExact := by
  have hends := step_outcome h.keyed.live.objects a ha
  cases hflags : a.flags with
  | false => exact h.flags_plain hok hflags hends.changes
  | true =>
    cases a with
    | fenceParticipant => exact h.flags_fence hok hends
    | markDirty => exact h.flags_markDirty hends
    | publishCommit => exact h.flags_commit hok hends
    | release => exact h.flags_release hok hends
    | resolveRecovery => exact h.flags_resolveRecovery hends
    | retireObject => exact h.flags_retireObject hok hends
    | _ => cases hflags

lemma ObjectEffect.writer_of_flag {key object}
    (h : ObjectEffect s a key object object') (hflag : object'.hasUnpublishedDirty = true)
    (hrunning : (s.step a).engine.shuttingDown = false) :
    object'.writer = object.writer ∧ object'.writerBoot = object.writerBoot ∧
      object'.lifecycle = object.lifecycle := by
  cases h with
  | keep same => exact ⟨same.writer.1, same.writer.2, same.lifecycle⟩
  | revoke _ _ _ _ revoked => cases revoked.clean.symm.trans hflag
  | transferFailed transfers | transfer transfers => cases transfers.clean.symm.trans hflag
  | relinquish _ _ _ released => cases released.clean.symm.trans hflag
  | shutdown current =>
    have hdown := beginShutdown_shuttingDown current
    exact nomatch hrunning.symm.trans hdown
  | commit | resolveRecovery | retire => cases hflag
  | _ => exact ⟨rfl, rfl, rfl⟩

lemma FlagsOk.running_after (h : FlagsOk s) (ha : a.Runs)
    (hok : KeepsFlags s a) (hrunning' : (s.step a).engine.shuttingDown = false) {key : RegionId}
    (hregion' : (s.step a).engine.regions[key]? = some region') (hmarked' : region'.Marked)
    (hobject' : (s.step a).engine.objects[region'.object]? = some object')
    (hlive' : object'.lifecycle ≠ .retired) :
    region'.participant = object'.writer ∧ region'.boot = object'.writerBoot := by
  have hrunning : s.engine.shuttingDown = false := by
    by_contra hdown
    exact nomatch hrunning'.symm.trans (shuttingDown_after ha (Bool.eq_true_of_not_eq_false hdown))
  have hflag' := (h.flags_after ha hok _ object' hobject' hlive').mpr
    ⟨key, region', hregion', rfl, hmarked'⟩
  have hchanges := step_changes h.keyed ha
  rcases hchanges.regions.origin hregion' with ⟨region, hregion, hchange⟩ | ⟨-, hnew⟩
  · rw [hchange.effect.samePlace.object] at hobject'
    obtain ⟨region'', hregion'', hsteps⟩ := (step_evolved a ha).records.regions.forward hregion
    cases hregion''.symm.trans hregion'
    have hsame := regionSteps_sameReplica hsteps
    rcases hchanges.objects.origin hobject' with ⟨object, hobject, hobjectChange⟩ | ⟨habsent, -⟩
    · obtain ⟨hwriter, hboot, hlifecycle⟩ :=
        hobjectChange.effect.writer_of_flag hflag' hrunning'
      rw [hsame.participant, hsame.boot, hwriter, hboot]
      rcases (hchange.marked_before (h.marked key region hregion) hmarked').2 with
        hmarked | ⟨request, marked, participant, rfl, rfl, granted, allowed⟩
      · exact h.running hrunning key region hregion hmarked object hobject (hlifecycle ▸ hlive')
      have hfound := resolveLocked_found granted
      rw [(markDirtyRefusal_ok allowed).2.1, h.keyed.live.objects _ _ hfound] at hobject
      cases hfound.symm.trans hobject
      obtain ⟨-, -, -, -, hcaller, hwriter, -⟩ := markDirtyRefusal_ok allowed
      exact ⟨hcaller.trans hwriter.1.symm,
        (of_decide_eq_true hok region hregion).trans hwriter.2.symm⟩
    · obtain ⟨object, hobject, -⟩ := h.closed.covers key region hregion
      exact nomatch habsent.symm.trans hobject
  · cases hnew.clean.symm.trans hmarked'

theorem FlagsOk.step (h : FlagsOk s) (ha : a.Runs) (hok : KeepsFlags s a) : FlagsOk (s.step a) where
  keyed := h.keyed.step
  closed := h.closed.step h.keyed ha
  frames := h.frames.step h.keyed ha
  flags := h.flags_after ha hok
  flagged := by
    intro key object' hobject' hflag
    rcases (step_changes h.keyed ha).objects.origin hobject' with
      ⟨object, hobject, hchange⟩ | ⟨-, hnew⟩
    · exact hchange.effect.flagged (h.flagged key object hobject) hflag
    · cases hnew
      cases hflag
  marked := by
    intro key region' hregion' hmarked
    rcases (step_changes h.keyed ha).regions.origin hregion' with
      ⟨region, hregion, hchange⟩ | ⟨-, hnew⟩
    · exact (hchange.marked_before (h.marked key region hregion) hmarked).1
    · cases hnew.clean.symm.trans hmarked
  running hrunning _ _ hregion hmarked _ hobject hlive :=
    h.running_after ha hok hrunning hregion hmarked hobject hlive
  down := withdrawn_after h.keyed h.down ha

/-- The store that a life begins with: every replica in it is listed by its object, and none has
an unpublished modification. -/
structure DurableImage.Settled (image : DurableImage) : Prop where
  closed : image.ledger.Closed
  unmarked : All (fun _ region => ¬ region.Marked) image.regions

lemma FlagsOk.boot {config} {store : Option σ}
    (hstore : ∀ st, store = some st → (stored st).Settled) : FlagsOk (Sys.boot config store) := by
  have hflags : All (fun _ object => object.hasUnpublishedDirty = false)
      (Sys.boot config store).engine.objects :=
    boot_objects fun image object previous epoch sequence =>
      image.restoreObject_clean object previous epoch sequence
  have hrecords : (Sys.boot config store).engine.ledger.Closed ∧
      All (fun _ region => ¬ region.Marked) (Sys.boot config store).engine.regions := by
    obtain ⟨image, epoch, sequence, hsettled, hrestored⟩ :=
      boot_image config ⟨⟨all_empty, all_empty⟩, all_empty⟩ hstore
    refine ⟨(hrestored.mirrors hsettled.closed).live, fun key region hregion hmarked => ?_⟩
    obtain ⟨kept, evidence, hkept, -, rfl⟩ := hrestored.region_origin hregion
    unfold RegionRecord.Marked at hmarked
    rw [RegionRecord.restore_dirty] at hmarked
    exact hsettled.unmarked key kept hkept hmarked
  exact
    { keyed := LiveKeyed.boot
      closed := hrecords.1
      frames := fun frame hframe => absurd hframe not_mem_boot_frames
      flags := fun key object hobject _ => by
        rw [hflags key object hobject]
        exact ⟨nofun, fun ⟨other, region, hregion, _, hmarked⟩ =>
          absurd hmarked (hrecords.2 other region hregion)⟩
      flagged := fun key object hobject hflag =>
        nomatch (hflags key object hobject).symm.trans hflag
      marked := fun key region hregion hmarked => absurd hmarked (hrecords.2 key region hregion)
      running := fun _ key region hregion hmarked =>
        absurd hmarked (hrecords.2 key region hregion)
      down := fun hdown => nomatch (boot_shuttingDown config store).symm.trans hdown }

/-- **The dirty flag is exact** in every state of the life of an engine whose steps keep the
flags. -/
theorem dirty_flag_exact (config : EngineConfig) (store : Option σ)
    (hstore : ∀ st, store = some st → (stored st).Settled) (as : List Action)
    (hlife : ∀ a ∈ as, a.restarts = false)
    (hok : RunOk Sys.step KeepsFlags (Sys.boot config store) as) :
    ((Sys.boot config store).run as).DirtyExact := by
  have hflags :=
    run_invariant (fun s a hok h => h.step (Action.ne_restart hok.2) hok.1) (FlagsOk.boot hstore)
      (hok.and_mem hlife)
  exact hflags.flags.dirtyExact

end Life

theorem dirty_flag_exact_published :
    let marked := Duo.owned ++ [Duo.markDirty]
    let published := marked ++ Duo.publishFrom (Duo.context 1) 1 0 2
    (Duo.start.run marked).engine.ledger.Modified ⟨1⟩ ∧
      ¬ (Duo.start.run published).engine.ledger.Modified ⟨1⟩ ∧
      (Duo.start.run published).DirtyExact := by
  refine ⟨by decide +kernel, by decide +kernel, ?_⟩
  refine dirty_flag_exact {} (some ({} : LogStore)) ?_ _ (by decide) (by decide +kernel)
  rintro st ⟨⟩
  exact ⟨by decide +kernel, by decide +kernel⟩

namespace Duo

/-- The writer has a second replica. It modifies both, publishes the first one and gives up its
authority; the other participant observes the new version. -/
def halfPublished : List Action :=
  owned ++ [.registerRegion
      { context := context 1, name := [3], memoryDomain := .hostPinned, evidenceClass := .real,
        length := 8 },
    .revalidateRegion
      { context := context 1, region := ⟨3⟩, observedVersion := ⟨1⟩, content := content },
    markDirty,
    .markDirty { context := context 1, region := ⟨3⟩, ownershipGeneration := ⟨2⟩ }] ++
    publishFrom (context 1) 1 0 2 ++
    [.release { context := context 1, ownershipGeneration := ⟨2⟩, releaseWriteAuthority := true },
      observe 2]

def acquireOther : WriteRequest := { context := context 2, region := ⟨2⟩ }

end Duo

/-- Write authority is granted while a modified replica is left, and refused for a modification
that was retired with its replica. -/
theorem dirty_flag_limits :
    let granted := Duo.start.run Duo.halfPublished
    let refused := Duo.start.run (Duo.owned ++ [Duo.markDirty, Duo.retire 1])
    (¬ granted.DirtyExact ∧ granted.engine.ledger.Modified ⟨1⟩ ∧
        (granted.engine.acquireWrite Duo.acquireOther).1.toOption.map (·.granted) = some true) ∧
      ¬ refused.DirtyExact ∧ ¬ refused.engine.ledger.Modified ⟨1⟩ ∧
        (refused.engine.acquireWrite Duo.acquireOther).1.toOption.map (·.reason) =
          some .dirtyUnpublished := by
  refine ⟨⟨fun h => ?_, by decide +kernel, by decide +kernel⟩, fun h => ?_, by decide +kernel,
    by decide +kernel⟩
  · exact absurd h.flags (by decide +kernel)
  · exact absurd h.flags (by decide +kernel)

end CoherenceFabric
