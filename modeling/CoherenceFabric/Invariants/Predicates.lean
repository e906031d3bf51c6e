import CoherenceFabric.Effects.Frames
import CoherenceFabric.Store.Contract

/-!
Invariants of single records, for the live records, the durable image and what the store
holds.

A family of predicates says what a record looks like under its key. `Kept` is what a step
owes such a family, `Restores` what recovery owes it, and `Persists` what journalling a
record owes it. From these the family holds in every state of a run.
-/

namespace CoherenceFabric

open FiniteMap Relation

/-- A predicate for each kind of record, under its key. -/
structure RecordPred where
  domain : CoherenceDomainId → DomainRecord → Prop := fun _ _ => True
  participant : ParticipantId → ParticipantRecord → Prop := fun _ _ => True
  object : ObjectId → ObjectRecord → Prop := fun _ _ => True
  region : RegionId → RegionRecord → Prop := fun _ _ => True
  invalidation : InvalidationId → InvalidationRecord → Prop := fun _ _ => True
  sync : SyncOperationId → SyncRecord → Prop := fun _ _ => True
  policy : PolicyId → CoherencePolicy → Prop := fun _ _ => True
  pending : PublicationId → PendingPublication → Prop := fun _ _ => True

variable {P Q : RecordPred} {image : DurableImage} {payload : JournalPayload}

/-- The live records satisfy the predicates. -/
structure Records.Sat (P : RecordPred) (r : Records) : Prop where
  domains : All P.domain r.domains
  participants : All P.participant r.participants
  objects : All P.object r.objects
  regions : All P.region r.regions
  invalidations : All P.invalidation r.invalidations
  syncs : All P.sync r.syncs
  policies : All P.policy r.policies

structure DurableImage.Sat (P : RecordPred) (image : DurableImage) : Prop where
  domains : All P.domain image.domains
  participants : All P.participant image.participants
  objects : All P.object image.objects
  regions : All P.region image.regions
  invalidations : All P.invalidation image.invalidations
  syncs : All P.sync image.syncs
  policies : All P.policy image.policies
  pending : All P.pending image.pendingPublications

def JournalPayload.Sat (P : RecordPred) : JournalPayload → Prop
  | .upsertDomain d => P.domain d.id d
  | .upsertParticipant p => P.participant p.id p
  | .upsertObject o => P.object o.id o
  | .upsertRegion r => P.region r.id r
  | .upsertInvalidation i => P.invalidation i.id i
  | .upsertSync s => P.sync s.id s
  | .upsertPolicy p => P.policy p.id p
  | .setPendingPublication p => P.pending p.id p
  | _ => True

@[simp] lemma DurableImage.sat_empty : ({} : DurableImage).Sat P := by
  constructor <;> exact all_empty

lemma DurableImage.sat_trivial : image.Sat {} := by
  constructor <;> exact fun _ _ _ => trivial

lemma Records.sat_empty : ({} : Records).Sat P := by
  constructor <;> exact all_empty

lemma DurableImage.Sat.withSequence (h : image.Sat P) (position : UInt64) :
    ({ image with sequence := position } : DurableImage).Sat P :=
  { h with }

lemma DurableImage.Sat.apply (h : image.Sat P) (hp : payload.Sat P) :
    (payload.apply image).Sat P := by
  cases payload with
  | invalid => exact h
  | snapshot => exact h
  | upsertDomain d => exact { h with domains := h.domains.insert hp }
  | upsertParticipant p => exact { h with participants := h.participants.insert hp }
  | upsertObject o => exact { h with objects := h.objects.insert hp }
  | upsertRegion r => exact { h with regions := h.regions.insert hp }
  | upsertInvalidation i => exact { h with invalidations := h.invalidations.insert hp }
  | upsertSync s => exact { h with syncs := h.syncs.insert hp }
  | upsertPolicy p => exact { h with policies := h.policies.insert hp }
  | setPendingPublication p => exact { h with pending := h.pending.insert hp }
  | clearPendingPublication id => exact { h with pending := h.pending.filter _ }
  | removeObject id => exact { h with objects := h.objects.erase id }
  | removeRegion id => exact { h with regions := h.regions.erase id }
  | setEpoch e => exact { h with }
  | removeSync id => exact { h with syncs := h.syncs.erase id }
  | removeParticipant id => exact { h with participants := h.participants.erase id }

lemma DurableImage.Sat.applyJournalEntry {image' entry} (h : image.Sat P) (hp : entry.payload.Sat P)
    (happly : CoherenceFabric.applyJournalEntry image entry = .ok image') : image'.Sat P := by
  obtain ⟨position, rfl⟩ := applyJournalEntry_ok happly
  exact (h.apply hp).withSequence position

/-! ### What is persisted -/

variable {σ : Type} [ReplayStore σ] {p' p : Persistence σ} {C : Prop}

/-- The durable image and what the store holds both satisfy `I`. -/
structure Persistence.Each (I : DurableImage → Prop) (p : Persistence σ) : Prop where
  durable : I p.durable
  stored : ∀ store, p.store = some store → I (stored store)

abbrev Persistence.Sat (P : RecordPred) (p : Persistence σ) : Prop := p.Each (·.Sat P)

section Each

variable {I : DurableImage → Prop} {J : JournalPayload → Prop} {C : Prop} {p p' : Persistence σ}

lemma PersistMove.each (hmove : PersistMove J C p p')
    (hJ : ∀ payload, J payload → ∀ image position, I image →
      I { payload.apply image with sequence := position }) (h : p.Each I) : p'.Each I := by
  cases hmove with
  | @write store entry allowed before after image =>
    refine ⟨image ▸ h.durable, fun store' hs => ?_⟩
    cases after.symm.trans hs
    rcases ReplayStore.append_stored store entry with heq | happly
    · exact heq ▸ h.stored _ before
    · obtain ⟨position, heq⟩ := applyJournalEntry_ok happly
      rw [heq]
      exact hJ _ allowed _ position (h.stored _ before)
  | apply payload position allowed after image =>
    refine ⟨?_, fun store' hs => h.stored _ (after ▸ hs)⟩
    rw [image]
    exact hJ _ allowed _ position h.durable
  | @compact store allowed before after image =>
    refine ⟨image ▸ h.durable, fun store' hs => ?_⟩
    cases after.symm.trans hs
    rcases ReplayStore.compact_stored store p.durable with heq | heq
    · rw [heq]
      exact h.stored store before
    · rw [heq]
      exact h.durable
  | flush before after image | close before after image =>
    refine ⟨image ▸ h.durable, fun store' hs => ?_⟩
    cases after.symm.trans hs
    simpa using h.stored _ before
  | idle after image => exact ⟨image ▸ h.durable, fun store' hs => h.stored _ (after ▸ hs)⟩

lemma Persist.each (hpersist : Persist J C p p')
    (hJ : ∀ payload, J payload → ∀ image position, I image →
      I { payload.apply image with sequence := position }) (h : p.Each I) : p'.Each I := by
  induction hpersist with
  | refl => exact h
  | tail _ hmove ih => exact hmove.each hJ ih

end Each

lemma Persist.sat {J} (hpersist : Persist J C p p')
    (hJ : ∀ payload, J payload → payload.Sat P) (h : p.Sat P) : p'.Sat P :=
  hpersist.each (fun payload hp _ position himage =>
    (himage.apply (hJ payload hp)).withSequence position) h

lemma PersistMove.store_isSome {J} (hmove : PersistMove J C p p') :
    p'.store.isSome = p.store.isSome := by
  cases hmove <;> simp_all

lemma Persist.store_isSome {J} (hpersist : Persist J C p p') :
    p'.store.isSome = p.store.isSome := by
  induction hpersist with
  | refl => rfl
  | tail _ hmove ih => rw [hmove.store_isSome, ih]

/-! ### One step -/

/-- Journalling a live record gives a persisted one. -/
structure Persists (P Q : RecordPred) : Prop where
  domain : ∀ id record, P.domain id record → Q.domain record.id record
  participant : ∀ id record, P.participant id record →
    Q.participant record.id (scrubParticipantForPersistence record)
  object : ∀ id record, P.object id record → Q.object record.id (scrubObjectForPersistence record)
  region : ∀ id record, P.region id record → Q.region record.id record
  invalidation : ∀ id record, P.invalidation id record → Q.invalidation record.id record
  sync : ∀ id record, P.sync id record → Q.sync record.id record
  policy : ∀ id policy, P.policy id policy → Q.policy policy.id policy

/-- Every change and every new record of a step keeps the predicates. -/
structure Kept (P Q : RecordPred) (s : Sys σ) (a : Action) : Prop where
  newDomain : ∀ id record, NewDomain s a id record → P.domain id record
  newParticipant : ∀ id record, NewParticipant s a id record → P.participant id record
  participant : ∀ id record record', P.participant id record →
    ParticipantStep s a id record record' → P.participant id record'
  newObject : ∀ id record, NewObject s a id record → P.object id record
  object : ∀ id record record', P.object id record → ObjectStep s a id record record' →
    P.object id record'
  newRegion : ∀ id record, NewRegion s a id record → P.region id record
  region : ∀ id record record', P.region id record → RegionStep s a record record' →
    P.region id record'
  newInvalidation : ∀ id record, NewInvalidation s a id record → P.invalidation id record
  invalidation : ∀ id record record', P.invalidation id record →
    InvalidationStep s a id record record' → P.invalidation id record'
  newSync : ∀ id record, NewSync s a id record → P.sync id record
  sync : ∀ id record record', P.sync id record → SyncStep s a id record record' →
    P.sync id record'
  newPolicy : ∀ id policy, NewPolicy s a id policy → P.policy id policy
  pending : ∀ request frame, a = .publishReserve request →
    (s.engine.publishReserve request).1 = .reserved frame →
      Q.pending frame.pending.id frame.pending

omit [ReplayStore σ] in
lemma Kept.live {s : Sys σ} {a} (h : Kept P Q s a) : Kept P {} s a :=
  { h with pending := fun _ _ _ _ => trivial }

/-- The predicates hold of the live records, the durable image, what the store holds, and
the publications in flight. -/
structure Invariant (P Q : RecordPred) (s : Sys σ) : Prop where
  live : s.engine.toRecords.Sat P
  persisted : s.engine.toPersistence.Sat Q
  shelf : ∀ store, s.shelf = some store → (stored store).Sat Q
  frames : ∀ frame ∈ s.frames, Q.pending frame.pending.id frame.pending

section Step

variable {s : Sys σ} {a : Action}

omit [ReplayStore σ] in
lemma RecordsEvolve.sat {r} (h : RecordsEvolve s a r) (hkept : Kept P Q s a)
    (hlive : s.engine.toRecords.Sat P) : r.Sat P where
  domains k b hb := (h.domains.origin k b hb).sat hlive.domains (fun _ _ _ _ hf => hf.elim)
    hkept.newDomain
  participants k b hb := (h.participants.origin k b hb).sat hlive.participants hkept.participant
    hkept.newParticipant
  objects k b hb := (h.objects.origin k b hb).sat hlive.objects hkept.object hkept.newObject
  regions k b hb := (h.regions.origin k b hb).sat hlive.regions hkept.region hkept.newRegion
  invalidations k b hb := (h.invalidations.origin k b hb).sat hlive.invalidations
    hkept.invalidation hkept.newInvalidation
  syncs k b hb := (h.syncs.origin k b hb).sat hlive.syncs hkept.sync hkept.newSync
  policies k b hb := (h.policies.origin k b hb).sat hlive.policies
    (fun _ _ _ _ hstep => by cases hstep with | replace new => exact hkept.newPolicy _ _ new)
    hkept.newPolicy

lemma Journalled.sat (h : Journalled s a payload) (hkept : Kept P Q s a) (hpersists : Persists P Q)
    (hinv : Invariant P Q s) : payload.Sat Q := by
  cases h with
  | domain new => exact hpersists.domain _ _ (hkept.newDomain _ _ new)
  | @participant id record derived =>
    exact hpersists.participant id record
      (derived.sat hinv.live.participants hkept.participant hkept.newParticipant)
  | @object id record derived =>
    exact hpersists.object id record (derived.sat hinv.live.objects hkept.object hkept.newObject)
  | @newObject id record new => exact hpersists.object id record (hkept.newObject _ _ new)
  | region derived =>
    exact hpersists.region _ _ (derived.sat hinv.live.regions hkept.region hkept.newRegion)
  | newRegion new => exact hpersists.region _ _ (hkept.newRegion _ _ new)
  | invalidation derived =>
    exact hpersists.invalidation _ _
      (derived.sat hinv.live.invalidations hkept.invalidation hkept.newInvalidation)
  | sync derived => exact hpersists.sync _ _ (derived.sat hinv.live.syncs hkept.sync hkept.newSync)
  | policy new => exact hpersists.policy _ _ (hkept.newPolicy _ _ new)
  | pending _ found => exact hinv.frames _ (List.mem_of_getElem? found)
  | clear => trivial

theorem Invariant.step (hinv : Invariant P Q s) (ha : a.Runs)
    (hkept : Kept P Q s a) (hpersists : Persists P Q) : Invariant P Q (s.step a) where
  live := (step_evolved a ha).records.sat hkept hinv.live
  persisted := (step_evolved a ha).persist.sat (fun _ h => h.journalled.sat hkept hpersists hinv)
    hinv.persisted
  shelf store h := hinv.shelf store (step_shelf (s := s) ha ▸ h)
  frames frame h := by
    rcases step_publication ha h with ⟨before, hbefore, hsame, -⟩ | ⟨request, rfl, hnew⟩
    · exact hsame ▸ hinv.frames before hbefore
    · exact hkept.pending _ _ rfl hnew

end Step

end CoherenceFabric
