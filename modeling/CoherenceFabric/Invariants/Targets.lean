import CoherenceFabric.Invariants.Catalogue

/-!
The incarnation that a record is about.

Every participant is stored under its own identity, and every invalidation and every
synchronization names the incarnation that holds its replica. So a report that comes from the
incarnation a record names comes from the holder of the replica.
-/

namespace CoherenceFabric

open FiniteMap

variable {σ : Type} {s : Sys σ} {a : Action}

/-! ### Participants under their own identity -/

def RecordPred.named : RecordPred where
  participant id participant := participant.id = id

lemma NewParticipant.id_eq {id record} (h : NewParticipant s a id record) : record.id = id := by
  cases h <;> rfl

lemma kept_named : Kept .named {} s a := by
  constructor
  case newParticipant => exact fun _ _ new => new.id_eq
  case participant =>
    intro id record record' hid hstep
    cases hstep with
    | replace new => exact new.id_eq
    | _ => exact hid
  all_goals intros; trivial

lemma persists_named : Persists .named {} := by
  constructor <;> intros <;> trivial

lemma restores_named (image : DurableImage) : Restores .named image := by
  constructor
  case participant => exact fun _ _ _ => rfl
  all_goals intros; trivial

section Named

variable [ReplayStore σ] {s : Sys σ} {a : Action}

/-- The live participants are under their own identities. -/
abbrev LiveNamed (s : Sys σ) : Prop := Invariant .named {} s

lemma LiveNamed.boot {config} {store : Option σ} : LiveNamed (Sys.boot config store) :=
  Invariant.boot persists_named (fun _ _ => DurableImage.sat_trivial)
    fun st _ => restores_named (stored st)

lemma LiveNamed.step (h : LiveNamed s) : LiveNamed (s.step a) := by
  refine Invariant.next persists_named h ?_
  cases a
  case restart => exact fun store _ => restores_named (stored store)
  all_goals exact kept_named

end Named

/-! ### Invalidations and synchronizations -/

namespace Ledger

/-- The replica is in the ledger, held by the incarnation. -/
def HeldBy (l : Ledger) (id : RegionId) (participant : ParticipantId) (boot : ParticipantBootId) :
    Prop :=
  ∃ region, l.regions[id]? = some region ∧ region.id = id ∧ region.participant = participant ∧
    region.boot = boot

instance (l : Ledger) (id : RegionId) (participant : ParticipantId) (boot : ParticipantBootId) :
    Decidable (l.HeldBy id participant boot) :=
  inferInstanceAs (Decidable (∃ region ∈ l.regions[id]?, region.id = id ∧
    region.participant = participant ∧ region.boot = boot))

/-- Invalidations and synchronizations name the holder of their replica. -/
@[mk_iff]
structure Aimed (l : Ledger) : Prop where
  invalidations : All (fun _ record =>
    l.HeldBy record.region record.targetParticipant record.targetBoot) l.invalidations
  syncs : All (fun _ record => l.HeldBy record.destinationRegion record.destinationParticipant
    record.destinationBoot) l.syncs

instance (l : Ledger) : Decidable l.Aimed :=
  decidable_of_iff' _ l.aimed_iff

end Ledger

section Aim

lemma Ledger.heldBy_own (hkeyed : All (fun id region => region.id = id) s.engine.regions)
    {key : RegionId} {region} (hfound : s.engine.regions[key]? = some region) :
    s.engine.ledger.HeldBy region.id region.participant region.boot := by
  have hid := hkeyed key region hfound
  exact ⟨region, hid.symm ▸ hfound, rfl, rfl, rfl⟩

lemma NewInvalidation.heldBy (hkeyed : All (fun id region => region.id = id) s.engine.regions)
    {id : InvalidationId} {record} (h : NewInvalidation s a id record) :
    s.engine.ledger.HeldBy record.region record.targetParticipant record.targetBoot := by
  cases h with
  | @transfer _ object ownership region key e index _ records found =>
    have hid := hkeyed key region found
    have htarget : e.regions[region.id]? = some region := by
      rw [hid, congrArg Records.regions records]
      exact found
    simp only [Impl.transferInvalidation, htarget, Option.map_some, Option.getD_some]
    exact Ledger.heldBy_own hkeyed found
  | requested _ _ found | settled _ _ found | inert _ _ found =>
    exact Ledger.heldBy_own hkeyed found

lemma NewSync.heldBy (hkeyed : All (fun id region => region.id = id) s.engine.regions)
    {id : SyncOperationId} {record} (h : NewSync s a id record) :
    s.engine.ledger.HeldBy record.destinationRegion record.destinationParticipant
      record.destinationBoot := by
  obtain ⟨e, -, allowed, -⟩ := h
  exact Ledger.heldBy_own hkeyed (beginSyncRefusal_ok allowed).1

variable [ReplayStore σ] {s : Sys σ} {a : Action}

/-- No step moves a replica to another incarnation. -/
lemma Ledger.HeldBy.step {id participant boot}
    (h : s.engine.ledger.HeldBy id participant boot) (ha : a.Runs) :
    (s.step a).engine.ledger.HeldBy id participant boot := by
  obtain ⟨region, hregion, hid, howner, hboot⟩ := h
  obtain ⟨region', hregion', hsteps⟩ := (step_evolved a ha).records.regions.forward hregion
  have hsame := regionSteps_sameReplica hsteps
  exact ⟨region', hregion', hsame.id.trans hid, hsame.participant.trans howner,
    hsame.boot.trans hboot⟩

lemma Ledger.Aimed.step (h : s.engine.ledger.Aimed) (hkeyed : LiveKeyed s)
    (ha : a.Runs) : (s.step a).engine.ledger.Aimed where
  invalidations id record hrecord := by
    have horigin := (step_evolved a ha).records.invalidations.origin id record hrecord
    refine Ledger.HeldBy.step (horigin.induction (fun old hold => h.invalidations id old hold)
      (fun new hnew => hnew.heldBy hkeyed.live.regions) fun old new hheld hstep => ?_) ha
    cases hstep with
    | replace new => exact new.heldBy hkeyed.live.regions
    | _ => exact hheld
  syncs id record hrecord := by
    have horigin := (step_evolved a ha).records.syncs.origin id record hrecord
    refine Ledger.HeldBy.step (horigin.induction (fun old hold => h.syncs id old hold)
      (fun new hnew => hnew.heldBy hkeyed.live.regions) fun old new hheld hstep => ?_) ha
    cases hstep with
    | replace new => exact new.heldBy hkeyed.live.regions
    | _ => exact hheld

/-- Recovery restores the holders of replicas and the records about them. -/
lemma Restored.aimed {image epoch sequence r} (h : Restored image epoch sequence r)
    (haimed : image.ledger.Aimed) : r.ledger.Aimed := by
  have hheld : ∀ {id participant boot}, image.ledger.HeldBy id participant boot →
      r.ledger.HeldBy id participant boot := by
    rintro id participant boot ⟨region, hregion, rfl, howner, hboot⟩
    obtain ⟨evidence, hkept⟩ := h.region_kept hregion
    have hsame := region.sameReplica_restore evidence sequence
    exact ⟨_, hkept, hsame.id, hsame.participant.trans howner, hsame.boot.trans hboot⟩
  refine ⟨fun id record hrecord => ?_, fun id record hrecord => ?_⟩
  · change r.invalidations[id]? = some record at hrecord
    rw [h.invalidations] at hrecord
    obtain ⟨before, hbefore, -, rfl⟩ := restoreMap_origin hrecord
    unfold InvalidationRecord.restore
    split <;> exact hheld (haimed.invalidations id before hbefore)
  change r.syncs[id]? = some record at hrecord
  rw [h.syncs] at hrecord
  obtain ⟨before, hbefore, -, rfl⟩ := restoreMap_origin hrecord
  obtain ⟨state, settled, reason, heq⟩ := before.restore_eq sequence
  rw [heq]
  exact hheld (haimed.syncs id before hbefore)

end Aim

end CoherenceFabric
