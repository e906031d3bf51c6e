import CoherenceFabric.Properties.Containment
import CoherenceFabric.Properties.Observations

/-!
Evidence after a restart.

Recovery gives every replica that is not retired a new evidence identity, as a mark of where its
record comes from. The assessment does not know that kind of evidence: it takes whatever identity
the replica carries for a byte comparison of the current epoch, and looks at the boot of the
participant only. So what was restored is not fresh as long as the participant is recorded under
another boot.
-/

namespace CoherenceFabric

open FiniteMap Transition

variable {σ : Type} {region : RegionRecord}

/-! ### Read decisions -/

namespace Impl

variable {e : Impl σ} {request : ReadRequest} {decision : ReadDecision} {createLease : Bool}

lemma computeReadLocked_fresh (hread : (e.computeReadLocked request createLease).1 = .ok decision)
    (hfresh : decision.evidenceFresh = true) :
    ∃ policy region, e.regions[decision.region]? = some region ∧
      (e.assessRegionLocked policy region).fresh = true := by
  rcases computeReadLocked_ok hread with ⟨hunknown, -⟩ | ⟨object, policy, region, h, rfl⟩
  · cases hunknown.symm.trans hfresh
  · rw [weigh, decideRead_describes.2] at hfresh
    exact ⟨policy, region, h.found, hfresh⟩

end Impl

/-! ### What recovery has to find -/

/-- The evidence of the replica would be accepted if its participant were recorded under its
boot. -/
@[mk_iff]
structure RegionRecord.Credible (region : RegionRecord) : Prop where
  supported : region.evidenceClass ≠ .unsupported
  genuine : region.evidenceClass = .synthetic → isSyntheticDomain region.memoryDomain = true
  boot : region.boot ≠ .nil

instance (region : RegionRecord) : Decidable region.Credible :=
  decidable_of_iff _ region.credible_iff.symm

lemma RegionRecord.Credible.congr {region' : RegionRecord} (h : region.Credible)
    (hclass : region'.evidenceClass = region.evidenceClass)
    (hdomain : region'.memoryDomain = region.memoryDomain) (hboot : region'.boot = region.boot) :
    region'.Credible := by
  rw [RegionRecord.credible_iff, hclass, hdomain, hboot]
  exact region.credible_iff.mp h

namespace RegionRecord

variable (region : RegionRecord) (evidence : EvidenceId) (sequence : OperationSequence)

lemma restore_evidence (h : region.isTerminal = true) :
    (region.restore evidence sequence).evidence = region.evidence := by
  unfold restore
  rw [if_pos h]

lemma restore_credentials : (region.restore evidence sequence).evidenceClass =
      region.evidenceClass ∧
    (region.restore evidence sequence).memoryDomain = region.memoryDomain := by
  unfold restore
  split <;> exact ⟨rfl, rfl⟩

end RegionRecord

/-- No stored replica that recovery gives evidence, or leaves it, belongs to a participant that is
stored under its boot. -/
def DurableImage.Superseded (image : DurableImage) : Prop :=
  All (fun id region => region.id = id → region.isTerminal = false ∨ region.evidence ≠ .nil →
    region.Credible → ∀ participant ∈ image.participants[region.participant]?,
      participant.id = region.participant → participant.boot ≠ region.boot) image.regions

instance (image : DurableImage) : Decidable image.Superseded :=
  inferInstanceAs (Decidable (All _ _))

def Records.RecordedUnder (r : Records) (id : ParticipantId) (boot : ParticipantBootId) : Prop :=
  ∃ participant ∈ r.participants[id]?, participant.boot = boot

instance (r : Records) (id : ParticipantId) (boot : ParticipantBootId) :
    Decidable (r.RecordedUnder id boot) :=
  inferInstanceAs (Decidable (∃ participant ∈ r.participants[id]?, _))

/-- A restart finds the stored replicas superseded; a participant is not admitted under the boot of
a replica of its own that carries evidence, unless it is recorded under that boot; and revalidations
are journalled. -/
def RenewsEvidence [ReplayStore σ] (s : Sys σ) : Action → Prop
  | .restart _ => ∀ store ∈ s.medium, (stored store).Superseded
  | .registerParticipant name boot _ _ =>
    All (fun _ region => region.participant = s.engine.admittedId name → region.boot = boot →
      region.evidence ≠ .nil → region.Credible → s.engine.RecordedUnder region.participant boot)
      s.engine.regions
  | .revalidateRegion request => ¬ AppendFails s.engine (s.engine.revalidateRegion request)
  | _ => True

instance [ReplayStore σ] (s : Sys σ) (a : Action) : Decidable (RenewsEvidence s a) := by
  apply Action.casesOn (motive := fun a => Decidable (RenewsEvidence s a)) a <;> intros <;>
    dsimp only [RenewsEvidence] <;> infer_instance

/-- Which replicas have been observed since the store was attached. -/
def Sys.observedSince [StoreMedium σ] (s : Sys σ) (a : Action) (seen : RegionId → Bool)
    (key : RegionId) : Bool :=
  match a with
  | .restart _ => false
  | a => seen key || decide (s.Observes key a)

section Step

variable [ReplayStore σ] {s : Sys σ} {a : Action}

lemma participant_boot (ha : a.Runs) {id} {record'}
    (h : (s.step a).engine.participants[id]? = some record') :
    (∃ record, s.engine.participants[id]? = some record ∧ record'.boot = record.boot) ∨
      ∃ name boot epoch label, a = .registerParticipant name boot epoch label ∧
        id = s.engine.admittedId name ∧ record'.boot = boot := by
  have hnew : ∀ record', NewParticipant s a id record' → ∃ name boot epoch label,
      a = .registerParticipant name boot epoch label ∧ id = s.engine.admittedId name ∧
        record'.boot = boot := by
    intro record' hnew
    cases hnew with
    | fresh _ unknown => exact ⟨_, _, _, _, rfl, by simp [Impl.admittedId, unknown,
        Impl.newParticipant], rfl⟩
    | reregister _ indexed known same =>
      exact ⟨_, _, _, _, rfl, by simp [Impl.admittedId, indexed, known], same.1⟩
    | reincarnate _ indexed known =>
      exact ⟨_, _, _, _, rfl, by simp [Impl.admittedId, indexed, known], rfl⟩
  refine ((step_evolved a ha).records.participants.origin id record' h).induction
    (P := fun record' => (∃ record, s.engine.participants[id]? = some record ∧
        record'.boot = record.boot) ∨
      ∃ name boot epoch label, a = .registerParticipant name boot epoch label ∧
        id = s.engine.admittedId name ∧ record'.boot = boot)
    (fun record found => .inl ⟨record, found, rfl⟩) (fun record' h => .inr (hnew record' h))
    fun record record' ih hstep => ?_
  cases hstep with
  | closeSession => exact ih
  | fence => exact ih
  | count => exact ih
  | replace new => exact .inr (hnew _ new)

omit [ReplayStore σ] in
lemma observedSince_step [StoreMedium σ] (ha : a.Runs) (seen : RegionId → Bool) (key : RegionId) :
    s.observedSince a seen key = (seen key || decide (s.Observes key a)) := by
  cases a
  case restart config => exact absurd rfl (ha config)
  all_goals rfl

lemma RenewsEvidence.records (h : RenewsEvidence s a) : RecordsRevalidation s a := by
  cases a
  case revalidateRegion => exact h
  all_goals exact trivial

/-! ### The invariant -/

/-- A replica that was not observed since the store was attached belongs to a participant that is
not recorded under its boot, if its evidence would be accepted otherwise. -/
structure Withheld (p : Sys σ × (RegionId → Bool)) : Prop where
  keyed : LiveKeyed p.1
  doubtful : All (fun key region => p.2 key = false → region.evidence ≠ .nil → region.Credible →
    ¬ p.1.engine.RecordedUnder region.participant region.boot) p.1.engine.regions

lemma Withheld.boot {config} {store : Option σ} {seen}
    (h : ∀ st ∈ store, (stored st).Superseded) : Withheld (Sys.boot config store, seen) := by
  refine ⟨LiveKeyed.boot, fun key region' hregion' _ hevidence hcredible hrecorded => ?_⟩
  obtain ⟨participant', hparticipant', hboot⟩ := hrecorded
  obtain ⟨image, epoch, sequence, hsuperseded, hrestored⟩ := boot_image config all_empty h
  obtain ⟨region, evidence, hregion, hid, rfl⟩ := hrestored.region_origin hregion'
  obtain ⟨participant, count, hparticipant, hown, rfl⟩ :=
    hrestored.participant_origin hparticipant'
  have hsame := region.sameReplica_restore evidence sequence
  rw [hsame.participant] at hparticipant hown
  refine hsuperseded key region hregion hid ?_ ?_ participant hparticipant hown
    (hboot.trans hsame.boot)
  · cases hterminal : region.isTerminal with
    | false => exact .inl rfl
    | true =>
      rw [region.restore_evidence _ _ hterminal] at hevidence
      exact .inr hevidence
  · obtain ⟨hclass, hdomain⟩ := region.restore_credentials evidence sequence
    exact hcredible.congr hclass.symm hdomain.symm hsame.boot.symm

lemma Withheld.step {p : Sys σ × (RegionId → Bool)} (h : Withheld p)
    (ha : a.Runs) (hrenews : RenewsEvidence p.1 a) :
    Withheld (noting Sys.step Sys.observedSince p a) := by
  refine ⟨h.keyed.step, fun key region' hafter hunseen hevidence hcredible hrecorded => ?_⟩
  change p.1.observedSince a p.2 key = false at hunseen
  rw [observedSince_step ha, Bool.or_eq_false_iff, decide_eq_false_iff_not] at hunseen
  rcases region_after h.keyed ha hrenews.records hafter with
    hseen | ⟨region, hbefore, hsame⟩ | ⟨hnone, -⟩
  · exact hunseen.2 hseen
  · have hkept : region.evidence ≠ .nil := by
      rcases hsame.evidence with heq | hnone
      · exact heq ▸ hevidence
      · exact absurd hnone hevidence
    have hcredible := hcredible.congr hsame.credentials.1.symm hsame.credentials.2.symm
      hsame.holder.2.symm
    have hdoubtful := h.doubtful key region hbefore hunseen.1 hkept hcredible
    obtain ⟨participant', hparticipant', hboot⟩ := hrecorded
    rw [hsame.holder.1] at hparticipant'
    rw [hsame.holder.2] at hboot
    rcases participant_boot ha hparticipant' with
      ⟨participant, hparticipant, hold⟩ | ⟨name, boot, epoch, label, rfl, hadmitted, hnew⟩
    · exact hdoubtful ⟨participant, hparticipant, hold.symm.trans hboot⟩
    · have hunder := hrenews key region hbefore hadmitted (hboot.symm.trans hnew) hkept hcredible
      rw [← hnew, hboot] at hunder
      exact hdoubtful hunder
  · exact hevidence hnone

end Step

/-- **Evidence does not survive a restart** in a run in which what is restored belongs to
incarnations that are gone: as long as a replica was not observed since the store was attached, its
evidence is not fresh and no read decision says so. -/
theorem restored_evidence_stale [ReplayStore σ] (config : EngineConfig) (store : Option σ)
    (as : List Action) (hstore : ∀ st ∈ store, (stored st).Superseded)
    (hrun : RunOk Sys.step RenewsEvidence (Sys.boot config store) as) (key : RegionId) :
    let p := as.foldl (noting Sys.step Sys.observedSince) (Sys.boot config store, fun _ => false)
    p.2 key = false →
      (∀ region ∈ p.1.engine.regions[key]?, ∀ policy,
        (p.1.engine.assessRegionLocked policy region).fresh = false) ∧
      ∀ request decision, ((p.1.engine.acquireRead request).1 = .ok decision ∨
        (p.1.engine.explainRead request).1 = .ok decision) → decision.region = key →
          decision.evidenceFresh = false := by
  intro p hunseen
  have hwithheld : Withheld p := by
    refine history_invariant ?_ (Withheld.boot hstore) hrun
    intro p a hrenews h
    rcases a.restart_or with ⟨config, rfl⟩ | ha
    · exact Withheld.boot (stored_remount hrenews)
    · exact h.step ha hrenews
  have hstale : ∀ region ∈ p.1.engine.regions[key]?, ∀ policy,
      (p.1.engine.assessRegionLocked policy region).fresh = false := by
    intro region hregion policy
    by_contra hfresh
    have hfresh := assessRegionLocked_fresh (Bool.eq_true_of_not_eq_false hfresh)
    exact hwithheld.doubtful key region hregion hunseen hfresh.evidence
      ⟨hfresh.supported, hfresh.genuine, hfresh.boot⟩ hfresh.live
  refine ⟨hstale, fun request decision hread hkey => ?_⟩
  by_contra hfresh
  obtain ⟨createLease, hcomputed⟩ := Impl.exists_computed hread
  obtain ⟨policy, region, hregion, hassessed⟩ :=
    Impl.computeReadLocked_fresh hcomputed (Bool.eq_true_of_not_eq_false hfresh)
  rw [hkey] at hregion
  exact Bool.false_ne_true ((hstale region hregion policy).symm.trans hassessed)

namespace Duo

def fixture : List Action :=
  [.createDomain [1], join 1, .registerObject ⟨1⟩ [1] 8 (strictPolicy [1]),
    .registerRegion
      { context := context 1, name := [1], memoryDomain := .hostPinned,
        evidenceClass := .synthetic, length := 8 },
    .restart {}]

def askAgain : ReadRequest := { context := contextAgain, region := ⟨1⟩ }

end Duo

theorem restored_evidence_stale_fixture :
    let p := Duo.fixture.foldl (noting Sys.step Sys.observedSince) (Duo.start, fun _ => false)
    (p.1.engine.regions[(⟨1⟩ : RegionId)]?).map (·.evidence) = some ⟨1⟩ ∧
      ∀ region ∈ p.1.engine.regions[(⟨1⟩ : RegionId)]?, ∀ policy,
        (p.1.engine.assessRegionLocked policy region).fresh = false := by
  intro p
  have hstore : ∀ st ∈ some ({} : LogStore), (stored st).Superseded := by decide +kernel
  have hrun : RunOk Sys.step RenewsEvidence (Sys.boot {} (some ({} : LogStore))) Duo.fixture := by
    decide +kernel
  have hunseen : p.2 ⟨1⟩ = false := by decide +kernel
  exact ⟨by decide +kernel,
    (restored_evidence_stale {} (some ({} : LogStore)) Duo.fixture hstore hrun ⟨1⟩ hunseen).1⟩

/-- After a restart the replica has not been observed, its evidence is fresh, and a read decision
reports it as such. -/
theorem restored_evidence_fresh :
    let p := (Duo.publishedOnce ++ [Action.restart {}]).foldl (noting Sys.step Sys.observedSince)
      (Duo.start, fun _ => false)
    p.2 ⟨1⟩ = false ∧
      (p.1.engine.regions[(⟨1⟩ : RegionId)]?).map (fun region =>
        (p.1.engine.assessRegionLocked (strictPolicy [1]) region).fresh) = some true ∧
      (p.1.engine.acquireRead Duo.askAgain).1.toOption.map (fun decision =>
        (decision.region, decision.regionState, decision.evidenceFresh)) =
          some (⟨1⟩, .revalidationRequired, true) := by
  decide +kernel

end CoherenceFabric
