import CoherenceFabric.Invariants.Boot

/-!
What no step changes of a record: its identity, and for a replica its generations and the
incarnation that holds it. So every record is stored under its own identity.
-/

namespace CoherenceFabric

open FiniteMap

/-- The two records are of one replica. -/
structure RegionRecord.SameReplica (region region' : RegionRecord) : Prop where
  id : region'.id = region.id
  generation : region'.generation = region.generation
  replicaGeneration : region'.replicaGeneration = region.replicaGeneration
  participant : region'.participant = region.participant
  boot : region'.boot = region.boot
  object : region'.object = region.object

lemma RegionRecord.SameReplica.refl (region : RegionRecord) : region.SameReplica region :=
  ⟨rfl, rfl, rfl, rfl, rfl, rfl⟩

lemma RegionRecord.SameReplica.trans {r₁ r₂ r₃ : RegionRecord} (h : r₁.SameReplica r₂)
    (h' : r₂.SameReplica r₃) : r₁.SameReplica r₃ :=
  ⟨h'.id.trans h.id, h'.generation.trans h.generation,
    h'.replicaGeneration.trans h.replicaGeneration, h'.participant.trans h.participant,
    h'.boot.trans h.boot, h'.object.trans h.object⟩

lemma RegionRecord.sameReplica_restore (region : RegionRecord) (evidence : EvidenceId)
    (sequence : OperationSequence) : region.SameReplica (region.restore evidence sequence) := by
  unfold restore
  split <;> exact ⟨rfl, rfl, rfl, rfl, rfl, rfl⟩

variable {σ : Type} {s : Sys σ} {a : Action} {region' region : RegionRecord}
  {record : InvalidationRecord} {id : InvalidationId}

lemma RegionStep.sameReplica (h : RegionStep s a region region') : region.SameReplica region' := by
  cases h with
  | revalidate =>
    unfold RegionRecord.revalidate
    dsimp only
    split <;> exact ⟨rfl, rfl, rfl, rfl, rfl, rfl⟩
  | _ => exact ⟨rfl, rfl, rfl, rfl, rfl, rfl⟩

lemma regionSteps_sameReplica (h : Relation.ReflTransGen (RegionStep s a) region region') :
    region.SameReplica region' := by
  induction h with
  | refl => exact .refl region
  | tail _ hlast ih => exact ih.trans hlast.sameReplica

lemma recomputeAuthorityLocked_id (e : Impl σ) (object : ObjectRecord) :
    (e.recomputeAuthorityLocked object).id = object.id := by
  unfold Impl.recomputeAuthorityLocked
  repeat' split
  all_goals rfl

lemma ObjectStep.id_eq {key object object'}
    (h : ObjectStep s a key object object') : object'.id = object.id := by
  cases h with
  | recompute e => exact recomputeAuthorityLocked_id e object
  | addReadGrant e =>
    unfold Impl.addReadGrantLocked
    repeat' split
    all_goals rfl
  | revokeWriter => simp
  | shutdown =>
    unfold ObjectRecord.shutdown
    dsimp only
    split <;> rfl
  | releaseDirty =>
    unfold ObjectRecord.releaseDirty
    repeat' split
    all_goals rfl
  | _ => rfl

lemma NewInvalidation.id_eq (h : NewInvalidation s a id record) : record.id = id := by
  cases h <;> rfl

lemma InvalidationStep.id_eq {record'} (hid : record.id = id)
    (h : InvalidationStep s a id record record') : record'.id = id := by
  cases h with
  | replace new => exact new.id_eq
  | _ => exact hid

/-! ### Records under their own identity -/

/-- Objects, replicas, invalidations and pending publications are stored under their own
identity. -/
def RecordPred.keyed : RecordPred where
  object id object := object.id = id
  region id region := region.id = id
  invalidation id record := record.id = id
  pending id pending := pending.id = id

lemma persists_keyed : Persists .keyed .keyed := by
  constructor <;> intros <;> trivial

lemma kept_keyed : Kept .keyed .keyed s a where
  newDomain _ _ _ := trivial
  newParticipant _ _ _ := trivial
  participant _ _ _ _ _ := trivial
  newObject _ _ new := by cases new; rfl
  object _ _ _ hid hstep := hstep.id_eq.trans hid
  newRegion _ _ new := by cases new; rfl
  region _ _ _ hid hstep := hstep.sameReplica.id.trans hid
  newInvalidation _ _ new := new.id_eq
  invalidation _ _ _ hid hstep := hstep.id_eq hid
  newSync _ _ _ := trivial
  sync _ _ _ _ _ := trivial
  newPolicy _ _ _ := trivial
  pending _ _ _ _ := rfl

lemma restores_keyed (image : DurableImage) : Restores .keyed image where
  domain _ _ _ := trivial
  participant _ _ _ := trivial
  object object _ _ _ := (image.restoreObject_restored ..).id
  region region _ _ _ := (region.sameReplica_restore _ _).id
  invalidation record _ _ := by
    unfold InvalidationRecord.restore
    split <;> rfl
  sync _ _ _ := trivial
  policy _ _ := trivial

section Run

variable [ReplayStore σ]

lemma guarded_keyed : Guarded .keyed .keyed s a := by
  cases a
  case restart config => exact fun store _ => restores_keyed (stored store)
  all_goals exact kept_keyed

/-- The live records are under their own identities. -/
abbrev LiveKeyed (s : Sys σ) : Prop := Invariant .keyed {} s

lemma persists_liveKeyed : Persists .keyed {} := by
  constructor <;> intros <;> trivial

lemma LiveKeyed.boot {config} {store : Option σ} : LiveKeyed (Sys.boot config store) :=
  Invariant.boot persists_liveKeyed (fun _ _ => DurableImage.sat_trivial)
    fun st _ => restores_keyed (stored st)

lemma LiveKeyed.step (h : LiveKeyed s) : LiveKeyed (s.step a) := by
  refine Invariant.next persists_liveKeyed h ?_
  cases a
  case restart config => exact fun store _ => restores_keyed (stored store)
  all_goals exact kept_keyed.live

end Run

end CoherenceFabric
