import CoherenceFabric.Effects.Fields
import CoherenceFabric.Store.Interruption

/-!
Every object lists its replicas, and every synchronization and every publication in flight is
about a replica of its object.

A commit only reaches the replicas that its object lists, so this is what currentness rests on.
After a restart it holds again because it holds of what is stored. There it is kept by the order
of the journal: the object that lists a new replica is stored before the replica.
-/

namespace CoherenceFabric

open FiniteMap

variable {σ : Type} {object : ObjectRecord} {region : RegionRecord} {payload : JournalPayload}
  {sequence : OperationSequence} {registration : RegionRegistration}

def DurableImage.ledger (image : DurableImage) : Ledger :=
  ⟨image.objects, image.regions, image.invalidations, image.syncs⟩

namespace Ledger

def Lists (l : Ledger) (id : RegionId) (owner : ObjectId) : Prop :=
  ∃ object, l.objects[owner]? = some object ∧ object.id = owner ∧ id ∈ object.replicas

def Holds (l : Ledger) (id : RegionId) (owner : ObjectId) : Prop :=
  ∃ region, l.regions[id]? = some region ∧ region.id = id ∧ region.object = owner

def Covers (l m : Ledger) : Prop := All (fun id region => l.Lists id region.object) m.regions

def Plans (l m : Ledger) : Prop :=
  All (fun _ record => l.Holds record.destinationRegion record.object) m.syncs

/-- A ledger that accounts for its own replicas and synchronizations. -/
@[mk_iff]
structure Closed (l : Ledger) : Prop where
  covers : l.Covers l
  plans : l.Plans l

instance (l : Ledger) (id : RegionId) (owner : ObjectId) : Decidable (l.Lists id owner) :=
  inferInstanceAs (Decidable (∃ object ∈ l.objects[owner]?, object.id = owner ∧
    id ∈ object.replicas))

instance (l : Ledger) (id : RegionId) (owner : ObjectId) : Decidable (l.Holds id owner) :=
  inferInstanceAs (Decidable (∃ region ∈ l.regions[id]?, region.id = id ∧ region.object = owner))

instance (l m : Ledger) : Decidable (l.Covers m) := inferInstanceAs (Decidable (All _ m.regions))

instance (l m : Ledger) : Decidable (l.Plans m) := inferInstanceAs (Decidable (All _ m.syncs))

instance (l : Ledger) : Decidable l.Closed :=
  decidable_of_iff' _ l.closed_iff

/-- The live ledger `l` and an image `m` of it account for each other. The image may hold a
replica that is not live: one whose registration was journalled and then refused. -/
structure Mirrors (l m : Ledger) : Prop where
  live : l.Closed
  image : m.Covers m
  covers : l.Covers m
  covered : m.Covers l
  plans : l.Plans m
  held : All (fun id region => m.Holds id region.object) l.regions

variable {l l' m : Ledger}

/-- What one ledger lists and holds, the other does too. -/
structure Extends (l l' : Ledger) : Prop where
  lists : ∀ {id owner}, l.Lists id owner → l'.Lists id owner
  holds : ∀ {id owner}, l.Holds id owner → l'.Holds id owner

lemma Mirrors.closed (h : l.Mirrors m) : m.Closed where
  covers := h.image
  plans key record hrecord := by
    obtain ⟨region, hregion, -, howner⟩ := h.plans key record hrecord
    exact howner ▸ h.held _ region hregion

/-- A ledger that only grows still mirrors its image. -/
lemma Mirrors.extend (h : l.Mirrors m) (hextends : l.Extends l') (hclosed : l'.Closed)
    (hold : All (fun id region => ∃ before, l.regions[id]? = some before ∧
      before.object = region.object) l'.regions) : l'.Mirrors m where
  live := hclosed
  image := h.image
  covers id region hregion := hextends.lists (h.covers id region hregion)
  covered id region hregion := by
    obtain ⟨before, hbefore, howner⟩ := hold id region hregion
    exact howner ▸ h.covered id before hbefore
  plans key record hrecord := hextends.holds (h.plans key record hrecord)
  held id region hregion := by
    obtain ⟨before, hbefore, howner⟩ := hold id region hregion
    exact howner ▸ h.held id before hbefore

/-! ### What may be journalled -/

/-- The payload agrees with the live ledger. -/
def Accepts (l : Ledger) : JournalPayload → Prop
  | .upsertObject object => ∀ live, l.objects[object.id]? = some live →
      live.replicas ⊆ object.replicas
  | .upsertRegion region => l.Holds region.id region.object
  | .upsertSync record => l.Holds record.destinationRegion record.object
  | .removeObject _ | .removeRegion _ | .removeSync _ => False
  | _ => True

end Ledger

section Apply

variable {l : Ledger} {image : DurableImage}

open Ledger

lemma Ledger.Mirrors.upsertObject (h : l.Mirrors image.ledger)
    (hobject : l.Accepts (.upsertObject object)) :
    l.Mirrors ((JournalPayload.upsertObject object).apply image).ledger := by
  have hlists : ∀ {id owner}, l.Lists id owner → image.ledger.Lists id owner →
      ((JournalPayload.upsertObject object).apply image).ledger.Lists id owner := by
    rintro id owner ⟨live, hlive, -, hmem⟩ hbefore
    by_cases howner : object.id = owner
    · subst howner
      exact ⟨object, getElem?_insert_self, rfl, hobject live hlive hmem⟩
    · obtain ⟨before, hbefore, hid, hmem⟩ := hbefore
      exact ⟨before, (getElem?_insert_ne howner).trans hbefore, hid, hmem⟩
  exact
    { live := h.live
      image := fun id region hregion => hlists (h.covers id region hregion)
        (h.image id region hregion)
      covers := h.covers
      covered := fun id region hregion => hlists (h.live.covers id region hregion)
        (h.covered id region hregion)
      plans := h.plans
      held := h.held }

lemma Ledger.Mirrors.upsertRegion (h : l.Mirrors image.ledger)
    (hregion : l.Holds region.id region.object) :
    l.Mirrors ((JournalPayload.upsertRegion region).apply image).ledger := by
  obtain ⟨live, hlive, hid, howner⟩ := hregion
  have hlists : image.ledger.Lists region.id region.object ∧ l.Lists region.id region.object :=
    howner ▸ ⟨h.covered _ live hlive, h.live.covers _ live hlive⟩
  have hheld : ∀ id region', l.regions[id]? = some region' →
      ((JournalPayload.upsertRegion region).apply image).ledger.Holds id region'.object := by
    intro id region' hregion'
    by_cases hkey : region.id = id
    · subst hkey
      cases hlive.symm.trans hregion'
      exact ⟨region, getElem?_insert_self, rfl, howner.symm⟩
    · obtain ⟨before, hbefore, hid, howner⟩ := h.held id region' hregion'
      exact ⟨before, (getElem?_insert_ne hkey).trans hbefore, hid, howner⟩
  exact
    { live := h.live
      image := FiniteMap.All.insert h.image hlists.1
      covers := FiniteMap.All.insert h.covers hlists.2
      covered := h.covered
      plans := h.plans
      held := hheld }

/-- What agrees with the live ledger keeps the image a mirror of it. -/
theorem Ledger.Mirrors.apply (h : l.Mirrors image.ledger) (haccepts : l.Accepts payload) :
    l.Mirrors (payload.apply image).ledger := by
  cases payload with
  | upsertObject object => exact h.upsertObject haccepts
  | upsertRegion region => exact h.upsertRegion haccepts
  | upsertSync record =>
    exact { h with plans := FiniteMap.All.insert h.plans haccepts }
  | removeObject | removeRegion | removeSync => exact haccepts.elim
  | _ => exact { h with }

lemma JournalPayload.ledger_of_isPending (h : payload.isPending = true) :
    (payload.apply image).ledger = image.ledger := by
  cases payload with
  | setPendingPublication => rfl
  | clearPendingPublication => rfl
  | _ => cases h

end Apply

/-! ### Live steps -/

section Live

variable {s : Sys σ} {a : Action} {l' : Ledger}

lemma StepChanges.extends (h : StepChanges s a l') : s.engine.ledger.Extends l' where
  lists := by
    rintro id owner ⟨object, hobject, hid, hmem⟩
    obtain ⟨object', hobject', hchange⟩ := h.objects.forward hobject
    have hbody := hchange.effect.body
    exact ⟨object', hobject', hbody.1.trans hid, hbody.2 hmem⟩
  holds := by
    rintro id owner ⟨region, hregion, hid, howner⟩
    obtain ⟨region', hregion', hchange⟩ := h.regions.forward hregion
    have hplace := hchange.effect.samePlace
    exact ⟨region', hregion', hplace.id.trans hid, hplace.object.trans howner⟩

lemma StepChanges.plans (h : StepChanges s a l')
    (hkeyed : All (fun id region => region.id = id) s.engine.regions)
    (hplans : s.engine.ledger.Plans s.engine.ledger) : l'.Plans l' := by
  intro key record' hrecord'
  refine h.extends.holds ?_
  rcases h.syncs.origin hrecord' with ⟨record, hrecord, hchange⟩ | ⟨-, hplanned⟩
  · cases hchange with
    | same => exact hplans key _ hrecord
    | settle => exact hplans key record hrecord
    | replace planned => exact planned.destination hkeyed
  · exact hplanned.destination hkeyed

lemma Ledger.lists_addReplica {l : Ledger} {key} (hid : object.id = key)
    {id} : (l.setObject key (object.addReplica id sequence)).Lists id object.id := by
  subst hid
  exact ⟨_, getElem?_insert_self, rfl, ObjectRecord.mem_addReplica.mpr (.inl rfl)⟩

lemma Outcome.listed {healthy : Bool} (h : Outcome s a healthy l')
    (hkeyed : All (fun id object => object.id = id) s.engine.objects) {id}
    (habsent : s.engine.regions[id]? = none) (hnew : NewRegion s a id region)
    (hregion : l'.regions[id]? = some region) : l'.Lists id region.object := by
  obtain ⟨allowed⟩ := hnew
  cases h with
  | prefer reads => simp at reads
  | idle | enrolFailed => exact nomatch habsent.symm.trans hregion
  | enrol allowed' =>
    cases allowed.symm.trans allowed'
    have hfound := (registerRegionRefusal_ok allowed).1
    exact Ledger.lists_addReplica (hkeyed _ _ hfound)

end Live

/-! ### What a step journals -/

/-- The identity a step takes from a counter is not in use: the counter has not come round. -/
def FreshRecords (s : Sys σ) (a : Action) : Prop :=
  (match a with
  | .registerObject _ _ _ _ =>
    (s.engine.objects[(⟨s.engine.nextObjectId⟩ : ObjectId)]?).isNone
  | .registerRegion registration => registration.requestedId.defined ||
    (s.engine.regions[(⟨s.engine.nextRegionId⟩ : RegionId)]?).isNone
  | _ => true) = true

instance (s : Sys σ) (a : Action) : Decidable (FreshRecords s a) :=
  inferInstanceAs (Decidable (_ = true))

section Journal

variable {s : Sys σ} {a : Action} {object' : ObjectRecord}

lemma ObjectStep.replicas_subset {key} (h : ObjectStep s a key object object') :
    object.replicas ⊆ object'.replicas := by
  cases h with
  | recompute =>
    rw [recomputeAuthorityLocked_eq]
    exact List.Subset.refl _
  | addReadGrant =>
    rw [addReadGrantLocked_eq]
    exact List.Subset.refl _
  | revokeWriter => exact (object.revokeWriter_spec _ _).replicas ▸ List.Subset.refl _
  | addReplica => exact object.replicas_subset_addReplica _ _
  | shutdown => exact (object.shutdown_spec _).replicas ▸ List.Subset.refl _
  | releaseDirty =>
    unfold ObjectRecord.releaseDirty
    split <;> exact List.Subset.refl _
  | _ => exact List.Subset.refl _

lemma objectSteps_body {key} (h : Relation.ReflTransGen (ObjectStep s a key) object object') :
    object'.id = object.id ∧ object.replicas ⊆ object'.replicas := by
  induction h with
  | refl => exact ⟨rfl, List.Subset.refl _⟩
  | tail _ hlast ih => exact ⟨hlast.id_eq.trans ih.1, List.Subset.trans ih.2 hlast.replicas_subset⟩

lemma SyncStep.held (hkeyed : All (fun id region => region.id = id) s.engine.regions)
    {key record record'} (h : SyncStep s a key record record')
    (hheld : s.engine.ledger.Holds record.destinationRegion record.object) :
    s.engine.ledger.Holds record'.destinationRegion record'.object := by
  cases h with
  | replace new => exact new.destination hkeyed
  | _ => exact hheld

/-- What a step other than a registration of a replica journals agrees with the live ledger. -/
lemma Journalled.accepted (h : Journalled s a payload) (hlive : s.engine.toRecords.Sat .keyed)
    (hplans : s.engine.ledger.Plans s.engine.ledger) (hfresh : FreshRecords s a)
    (ha : ∀ registration, a ≠ .registerRegion registration) : s.engine.ledger.Accepts payload := by
  cases h with
  | @object id record derived =>
    intro live hobject
    change s.engine.objects[record.id]? = some live at hobject
    cases derived with
    | @old before found steps =>
      obtain ⟨hid, hsubset⟩ := objectSteps_body steps
      rw [hid, hlive.objects id before found] at hobject
      cases found.symm.trans hobject
      exact hsubset
    | @new first absent added steps =>
      have hid : record.id = id := by
        rw [(objectSteps_body steps).1]
        cases added
        rfl
      rw [hid] at hobject
      exact nomatch absent.symm.trans hobject
  | newObject new =>
    cases new
    intro live hobject
    change s.engine.objects[(⟨s.engine.nextObjectId⟩ : ObjectId)]? = some live at hobject
    simp [FreshRecords, hobject] at hfresh
  | @region id record derived =>
    cases derived with
    | @old before found steps =>
      have hsame := regionSteps_sameReplica steps
      have hid := hsame.id.trans (hlive.regions id before found)
      refine ⟨before, ?_, ?_, hsame.object.symm⟩
      · rwa [hid]
      · exact hsame.id.symm
    | new absent added steps =>
      cases added
      exact absurd rfl (ha _)
  | newRegion new =>
    cases new
    exact absurd rfl (ha _)
  | @sync id record derived =>
    exact derived.sat (P := fun _ (record : SyncRecord) =>
      s.engine.ledger.Holds record.destinationRegion record.object) hplans
      (fun _ _ _ hheld hstep => hstep.held hlive.regions hheld)
      fun _ _ new => new.destination hlive.regions
  | _ => trivial

lemma newRegion_absent {participant} (hfresh : FreshRecords s (.registerRegion registration))
    (allowed : s.engine.registerRegionRefusal registration = .ok (object, participant)) :
    s.engine.regions[(s.engine.newRegion registration object participant).id]? = none := by
  by_cases hrequested : registration.requestedId.defined = true
  · have hunused := (registerRegionRefusal_ok allowed).2.2.2 hrequested
    simpa [Impl.newRegion, hrequested] using hunused
  · have hnext : s.engine.regions[(⟨s.engine.nextRegionId⟩ : RegionId)]? = none := by
      simpa [FreshRecords, hrequested] using hfresh
    simpa [Impl.newRegion, hrequested] using hnext

end Journal

/-! ### The registration of a replica -/

section Register

variable {l : Ledger} {image : DurableImage} {region : RegionRecord}

lemma Ledger.Mirrors.register (h : l.Mirrors image.ledger) (habsent : l.regions[region.id]? = none)
    (hlists : l.Lists region.id region.object)
    (hlisted : image.ledger.Lists region.id region.object) :
    l.Mirrors ((JournalPayload.upsertRegion region).apply image).ledger where
  live := h.live
  image := FiniteMap.All.insert h.image hlisted
  covers := FiniteMap.All.insert h.covers hlists
  covered := h.covered
  plans := h.plans
  held id live hlive := by
    have hne : region.id ≠ id := by
      rintro rfl
      exact nomatch habsent.symm.trans hlive
    obtain ⟨before, hbefore, hid, howner⟩ := h.held id live hlive
    exact ⟨before, (getElem?_insert_ne hne).trans hbefore, hid, howner⟩

lemma Ledger.Mirrors.enrol {m} (h : l.Mirrors m) (habsent : l.regions[region.id]? = none)
    (hlists : l.Lists region.id region.object) (hlisted : m.Lists region.id region.object)
    (hheld : m.Holds region.id region.object) :
    ({ l with regions := l.regions.insertIfNew region.id region } : Ledger).Mirrors m := by
  rw [insertIfNew_eq_insert habsent]
  have hholds : ∀ {id owner}, l.Holds id owner →
      ({ l with regions := l.regions.insert region.id region } : Ledger).Holds id owner := by
    rintro id owner ⟨before, hbefore, hid, howner⟩
    have hne : region.id ≠ id := by
      rintro rfl
      exact nomatch habsent.symm.trans hbefore
    exact ⟨before, (getElem?_insert_ne hne).trans hbefore, hid, howner⟩
  exact
    { live :=
        { covers := FiniteMap.All.insert h.live.covers hlists
          plans := fun key record hrecord => hholds (h.live.plans key record hrecord) }
      image := h.image
      covers := h.covers
      covered := FiniteMap.All.insert h.covered hlisted
      plans := fun key record hrecord => hholds (h.plans key record hrecord)
      held := FiniteMap.All.insert h.held hheld }

/-- The group of a registration keeps the image a mirror wherever it is interrupted. If all of it
was accepted, the replica may be enrolled. -/
theorem Ledger.Mirrors.group (h : l.Mirrors image.ledger) {key : ObjectId}
    (hobject : l.objects[key]? = some object) (hid : object.id = key)
    (habsent : l.regions[region.id]? = none) (howner : region.object = object.id) {accepted image'}
    (hgroup : GroupApplied [.upsertObject (scrubObjectForPersistence
      (object.addReplica region.id sequence)), .upsertRegion region] accepted image image') :
    let listed := l.setObject key (object.addReplica region.id sequence)
    listed.Mirrors image'.ledger ∧ (accepted = true →
      ({ listed with regions := listed.regions.insertIfNew region.id region } : Ledger).Mirrors
        image'.ledger) := by
  intro listed
  have hlists : listed.Lists region.id region.object := howner ▸ Ledger.lists_addReplica hid
  have hextends : l.Extends listed := by
    refine ⟨fun {id owner} hlisted => ?_, fun hheld => hheld⟩
    obtain ⟨before, hbefore, hbeforeId, hmem⟩ := hlisted
    by_cases hkey : key = owner
    · subst hkey
      cases hobject.symm.trans hbefore
      exact ⟨_, getElem?_insert_self, hid,
        object.replicas_subset_addReplica _ _ hmem⟩
    · exact ⟨before, (getElem?_insert_ne hkey).trans hbefore, hbeforeId, hmem⟩
  have hclosed : listed.Closed :=
    ⟨fun id region hregion => hextends.lists (h.live.covers id region hregion), h.live.plans⟩
  have hnone := h.extend hextends hclosed fun id region hregion => ⟨region, hregion, rfl⟩
  -- the object is journalled, then the replica
  have haccepts : listed.Accepts (.upsertObject (scrubObjectForPersistence
      (object.addReplica region.id sequence))) := by
    intro live hlive
    change (l.objects.insert key _)[object.id]? = some live at hlive
    rw [hid, getElem?_insert_self] at hlive
    cases hlive
    exact List.Subset.refl _
  have hfirst := hnone.upsertObject haccepts
  have hstored : ((JournalPayload.upsertObject (scrubObjectForPersistence
      (object.addReplica region.id sequence))).apply image).ledger.Lists region.id
        region.object := by
    have hmem : region.id ∈ (object.addReplica region.id sequence).replicas :=
      ObjectRecord.mem_addReplica.mpr (.inl rfl)
    rw [howner]
    exact ⟨_, getElem?_insert_self, rfl, hmem⟩
  have hboth := hfirst.register habsent hlists hstored
  obtain ⟨k, position, rfl, hall⟩ := hgroup.applied
  match k with
  | 0 => exact ⟨hnone, fun haccepted => by simpa using hall haccepted⟩
  | 1 => exact ⟨hfirst, fun haccepted => by simpa using hall haccepted⟩
  | k + 2 =>
    rw [List.take_of_length_le (by simp)]
    refine ⟨hboth, fun _ => hboth.enrol habsent hlists hstored ?_⟩
    exact ⟨region, getElem?_insert_self, rfl, rfl⟩

end Register

/-! ### The life of one engine -/

section Life

variable [ReplayStore σ] {s : Sys σ} {a : Action}

lemma Ledger.Closed.step (h : s.engine.ledger.Closed) (hkeyed : LiveKeyed s)
    (ha : a.Runs) : (s.step a).engine.ledger.Closed where
  covers := by
    have hends := step_outcome hkeyed.live.objects a ha
    have hchanges := hends.changes
    intro id region' hregion'
    rcases hchanges.regions.origin hregion' with ⟨region, hregion, hchange⟩ | ⟨habsent, hnew⟩
    · rw [hchange.effect.samePlace.object]
      exact hchanges.extends.lists (h.covers id region hregion)
    · exact hends.listed hkeyed.live.objects habsent hnew hregion'
  plans := (step_changes hkeyed ha).plans hkeyed.live.regions h.plans

def Sys.FramesHeld (s : Sys σ) : Prop :=
  ∀ frame ∈ s.frames, s.engine.ledger.Holds frame.region frame.pending.object

lemma Sys.FramesHeld.step (h : s.FramesHeld) (hkeyed : LiveKeyed s)
    (ha : a.Runs) : (s.step a).FramesHeld := by
  intro frame hframe
  refine (step_changes hkeyed ha).extends.holds ?_
  rcases step_publication ha hframe with ⟨before, hbefore, hsame⟩ | ⟨request, rfl, hnew⟩
  · rw [hsame.1, hsame.2]
    exact h before hbefore
  obtain ⟨object, participant, policy, region, receipt, hreserves, rfl, -⟩ :=
    publishReserve_reserved hnew
  have hpublishable := publishRefusal_ok hreserves.allowed
  exact ⟨region, hpublishable.found, hkeyed.live.regions _ _ hpublishable.found,
    hpublishable.owner.1⟩

end Life

/-! ### Whole runs -/

section Run

variable [LawfulStore σ]

/-- The live ledger, the images of it and the publications in flight account for each other. -/
structure Catalogued (s : Sys σ) : Prop where
  live : s.engine.ledger.Closed
  frames : s.FramesHeld
  shelf : ∀ store, s.shelf = some store → (stored store).ledger.Closed
  images : s.engine.store.isSome → s.engine.toPersistence.Each (·.ledger.Closed)
  mirrored : s.engine.store.isSome → s.engine.config.enableDurability = true →
    s.engine.toPersistence.Each fun image => s.engine.ledger.Mirrors image.ledger

variable {s : Sys σ} {a : Action} {e : Impl σ} {image : DurableImage}

/-- The tail of a registration keeps the images mirrors of the live ledger, wherever its group is
interrupted. -/
lemma enrolRegion_mirrors (participant : ParticipantRecord)
    (h : e.toPersistence.Each fun image => e.ledger.Mirrors image.ledger) (hstore : e.store.isSome)
    (henabled : e.config.enableDurability = true)
    (hobject : e.objects[registration.context.object]? = some object)
    (hid : object.id = registration.context.object) (habsent : e.regions[region.id]? = none)
    (howner : region.object = object.id) :
    (e.enrolRegion registration object participant region).2.toPersistence.Each fun image =>
      (e.enrolRegion registration object participant region).2.ledger.Mirrors image.ledger := by
  obtain ⟨store, hattached⟩ := Option.isSome_iff_exists.mp hstore
  obtain ⟨hdurable, hstored⟩ := appendMany_group hattached
    [.upsertObject (scrubObjectForPersistence (object.addReplica region.id e.sequence)),
      .upsertRegion region]
  have hdurable' := h.durable.group hobject hid habsent howner hdurable
  have hstored' := fun store' hstore' =>
    (h.stored store hattached).group hobject hid habsent howner (hstored store' hstore')
  unfold Impl.enrolRegion Impl.appendManyLocked
  simp only [Impl.withRecords_config, Impl.withRecords_toPersistence, henabled]
  generalize e.toPersistence.appendMany true _ = journalled at hdurable' hstored' ⊢
  split
  · exact ⟨hdurable'.1, fun store' hstore' => (hstored' store' hstore').1⟩
  rename_i haccepted
  have haccepted : journalled.1.isOk = true := by simpa using haccepted
  exact ⟨hdurable'.2 haccepted, fun store' hstore' => (hstored' store' hstore').2 haccepted⟩

lemma registerRegion_mirrors (hkeyed : LiveKeyed s) (registration : RegionRegistration)
    (hfresh : FreshRecords s (.registerRegion registration))
    (hstore : s.engine.store.isSome) (henabled : s.engine.config.enableDurability = true)
    (h : s.engine.toPersistence.Each fun image => s.engine.ledger.Mirrors image.ledger) :
    (s.engine.registerRegion registration).2.toPersistence.Each fun image =>
      (s.engine.registerRegion registration).2.ledger.Mirrors image.ledger := by
  unfold Impl.registerRegion
  split
  · exact h
  rename_i object participant allowed
  dsimp only
  split
  · exact h
  have hfound := (registerRegionRefusal_ok allowed).1
  exact enrolRegion_mirrors participant h hstore henabled hfound
    (hkeyed.live.objects _ _ hfound) (newRegion_absent hfresh allowed) rfl

lemma Catalogued.mirrored_after (h : Catalogued s) (hkeyed : LiveKeyed s)
    (ha : a.Runs) (hfresh : FreshRecords s a)
    (hstore : s.engine.store.isSome) (henabled : s.engine.config.enableDurability = true) :
    (s.step a).engine.toPersistence.Each fun image =>
      (s.step a).engine.ledger.Mirrors image.ledger := by
  have hmirrored := h.mirrored hstore henabled
  by_cases hregister : ∃ registration, a = .registerRegion registration
  · obtain ⟨registration, rfl⟩ := hregister
    exact registerRegion_mirrors hkeyed registration hfresh hstore henabled hmirrored
  -- what is journalled agrees with the ledger before the step, which the step extends
  have hwritten := (step_evolved a ha).persist.each (fun payload hpayload image position himage =>
      himage.apply (hpayload.journalled.accepted hkeyed.live h.live.plans hfresh
        (not_exists.mp hregister))) hmirrored
  have hchanges := step_changes hkeyed ha
  have hold : All (fun id region' => ∃ region, s.engine.ledger.regions[id]? = some region ∧
      region.object = region'.object) (s.step a).engine.ledger.regions := by
    intro id region' hregion'
    rcases hchanges.regions.origin hregion' with ⟨region, hregion, hchange⟩ | ⟨-, hnew⟩
    · exact ⟨region, hregion, hchange.effect.samePlace.object.symm⟩
    · cases hnew
      exact absurd ⟨_, rfl⟩ hregister
  have hclosed := h.live.step hkeyed ha
  exact ⟨hwritten.durable.extend hchanges.extends hclosed hold, fun store hstored =>
    (hwritten.stored store hstored).extend hchanges.extends hclosed hold⟩

theorem Catalogued.step (h : Catalogued s) (hkeyed : LiveKeyed s)
    (ha : a.Runs) (hfresh : FreshRecords s a) : Catalogued (s.step a) := by
  have hevolved := step_evolved (s := s) a ha
  have hstore := hevolved.persist.store_isSome
  have hconfig := hevolved.frame.config
  have hmirrored : (s.step a).engine.store.isSome →
      (s.step a).engine.config.enableDurability = true →
      (s.step a).engine.toPersistence.Each fun image =>
        (s.step a).engine.ledger.Mirrors image.ledger := by
    rw [hstore, hconfig]
    exact h.mirrored_after hkeyed ha hfresh
  refine ⟨h.live.step hkeyed ha, h.frames.step hkeyed ha, fun store hshelf =>
    h.shelf store (step_shelf (s := s) ha ▸ hshelf), fun hattached => ?_, hmirrored⟩
  by_cases henabled : (s.step a).engine.config.enableDurability = true
  · have hboth := hmirrored hattached henabled
    exact ⟨hboth.durable.closed, fun store hstored => (hboth.stored store hstored).closed⟩
  -- nothing but the records of publications is written
  rw [hconfig] at henabled
  refine hevolved.persist.each (fun payload hpayload image position himage => ?_)
    (h.images (hstore ▸ hattached))
  have hpending := hpayload.enabled.resolve_right henabled
  change (payload.apply image).ledger.Closed
  rw [JournalPayload.ledger_of_isPending hpending]
  exact himage

/-! ### Restarts -/

lemma Restored.mirrors {epoch r}
    (h : Restored image epoch sequence r) (hclosed : image.ledger.Closed) :
    r.ledger.Mirrors image.ledger := by
  have hlists : ∀ {id owner}, image.ledger.Lists id owner → r.ledger.Lists id owner := by
    rintro id owner ⟨object, hobject, rfl, hmem⟩
    have hrestored := image.restoreObject_restored object image.epoch.value epoch sequence
    exact ⟨_, h.object_kept hobject, hrestored.id, hrestored.replicas ▸ hmem⟩
  have hholds : ∀ {id owner}, image.ledger.Holds id owner → r.ledger.Holds id owner := by
    rintro id owner ⟨region, hregion, rfl, howner⟩
    obtain ⟨evidence, hkept⟩ := h.region_kept hregion
    have hsame := region.sameReplica_restore evidence sequence
    exact ⟨_, hkept, hsame.id, hsame.object.trans howner⟩
  have hregions : ∀ {id : RegionId} {region : RegionRecord}, r.regions[id]? = some region →
      ∃ before, image.regions[id]? = some before ∧ before.id = id ∧
        before.object = region.object := by
    intro id region hregion
    obtain ⟨before, evidence, hbefore, hid, rfl⟩ := h.region_origin hregion
    exact ⟨before, hbefore, hid, (before.sameReplica_restore evidence sequence).object.symm⟩
  have hcovered : image.ledger.Covers r.ledger := by
    intro id region hregion
    obtain ⟨before, hbefore, -, howner⟩ := hregions hregion
    exact howner ▸ hclosed.covers id before hbefore
  have hplans : r.ledger.Plans r.ledger := by
    intro key record hrecord
    change r.syncs[key]? = some record at hrecord
    rw [h.syncs] at hrecord
    obtain ⟨before, hbefore, -, rfl⟩ := restoreMap_origin hrecord
    obtain ⟨state, settled, reason, heq⟩ := before.restore_eq sequence
    rw [heq]
    exact hholds (hclosed.plans key before hbefore)
  exact
    { live := ⟨fun id region hregion => hlists (hcovered id region hregion), hplans⟩
      image := hclosed.covers
      covers := fun id region hregion => hlists (hclosed.covers id region hregion)
      covered := hcovered
      plans := fun key record hrecord => hholds (hclosed.plans key record hrecord)
      held := by
        intro id region hregion
        obtain ⟨before, hbefore, hid, howner⟩ := hregions hregion
        exact ⟨before, hbefore, hid, howner⟩ }

omit [LawfulStore σ] in
lemma recoveryEntries_accepted (hlive : e.toRecords.Sat .keyed) (hplans : e.ledger.Plans e.ledger) :
    ∀ payload ∈ e.recoveryEntries image, e.ledger.Accepts payload := by
  intro payload hmem
  simp only [Impl.recoveryEntries, List.mem_append, List.mem_singleton, List.mem_map] at hmem
  rcases hmem with
    (((((rfl | ⟨entry, hentry, rfl⟩) | ⟨entry, hentry, rfl⟩) | ⟨entry, hentry, rfl⟩) |
    ⟨entry, hentry, rfl⟩) | ⟨entry, hentry, rfl⟩) | ⟨entry, hentry, rfl⟩
  · trivial
  · trivial
  · intro live hobject
    have hfound := mem_toList_iff_getElem?_eq_some.mp hentry
    change e.objects[entry.2.id]? = some live at hobject
    rw [hlive.objects _ _ hfound] at hobject
    cases hfound.symm.trans hobject
    exact List.Subset.refl _
  · have hfound := mem_toList_iff_getElem?_eq_some.mp hentry
    have hid := hlive.regions _ _ hfound
    exact ⟨entry.2, hid.symm ▸ hfound, rfl, rfl⟩
  · trivial
  · exact hplans.of_mem_toList hentry
  · trivial

theorem Catalogued.boot {config} {store : Option σ}
    (hclosed : ∀ st, store = some st → (stored st).ledger.Closed) :
    Catalogued (Sys.boot config store) := by
  have hkeyed : LiveKeyed (Sys.boot config store) := LiveKeyed.boot
  have hboot := boot_cases config store
  generalize Sys.boot config store = s at hboot hkeyed ⊢
  have hempty : (coherenceEngine σ config).ledger.Closed := ⟨all_empty, all_empty⟩
  cases hboot with
  | detached =>
    exact ⟨hempty, fun _ h => absurd h List.not_mem_nil, nofun, nofun, nofun⟩
  | @refused st _ _ =>
    refine ⟨hempty, fun _ h => absurd h List.not_mem_nil, fun _ h => ?_, nofun, nofun⟩
    cases h
    simpa using hclosed st rfl
  | @recovered st load image opened =>
    obtain rfl : image = stored st := ReplayStore.open_image opened
    let fresh : Impl σ := Impl.attached config (DurableStore.openStore st).2
    have hrestored := (restoreImage_restored fresh (stored st)).mirrors (hclosed st rfl)
    have hrecords := recoverFrom_toRecords fresh (stored st) load
    have hlive := hrecords ▸ hkeyed.live
    have hledger : (fresh.recoverFrom (stored st) load).2.ledger =
        (fresh.restoreImage (stored st)).ledger := congrArg Records.ledger hrecords
    have hmirrored : (fresh.recoverFrom (stored st) load).2.toPersistence.Each fun image =>
        (fresh.restoreImage (stored st)).ledger.Mirrors image.ledger := by
      refine (persist_recoverFrom fresh (stored st) load).each
        (fun payload hpayload image position himage => himage.apply
          (recoveryEntries_accepted hlive hrestored.live.plans payload hpayload)) ?_
      refine ⟨hrestored, fun store hstore => ?_⟩
      cases hstore
      rw [ReplayStore.open_stored]
      exact hrestored
    refine ⟨?_, fun _ h => absurd h List.not_mem_nil, nofun, fun _ => ?_, fun _ _ => ?_⟩
    · exact hledger ▸ hrestored.live
    · exact ⟨hmirrored.durable.closed, fun store hstore => (hmirrored.stored store hstore).closed⟩
    · exact hledger ▸ hmirrored

lemma Catalogued.medium (h : Catalogued s) {store} (hmedium : s.medium = some store) :
    (stored store).ledger.Closed := by
  unfold Sys.medium at hmedium
  cases hattached : s.engine.store with
  | some attached =>
    rw [hattached] at hmedium
    cases hmedium
    exact (h.images (by simp [hattached])).stored _ hattached
  | none =>
    rw [hattached] at hmedium
    exact h.shelf _ hmedium

end Run

end CoherenceFabric
