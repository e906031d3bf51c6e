import CoherenceFabric.Properties.AuthorityLedger
import CoherenceFabric.Properties.Revocation
import CoherenceFabric.Properties.Ownership

/-!
Write authority and the policy it was granted under.

A grant does not remember the policy generation of its object, and a request that names none is
not compared with it. So authority is bound to its policy only as far as the policy stays: a
publication that is pending keeps `set_policy` out, a writer does not.
-/

namespace CoherenceFabric

open FiniteMap Transition

variable {σ : Type}

/-! ### Grants -/

structure Grant where
  ownership : OwnershipGeneration
  policy : PolicyGeneration
  deriving DecidableEq

def ObjectRecord.grant (object : ObjectRecord) : Grant :=
  ⟨object.ownershipGeneration, object.policyGeneration⟩

/-- The last grant of each object, after a step: `acquire_write` grants when it opens an ownership
generation. -/
def Sys.grants [StoreMedium σ] (s : Sys σ) (a : Action) (granted : ObjectId → Option Grant)
    (key : ObjectId) : Option Grant :=
  match a, s.engine.objects[key]?, (s.step a).engine.objects[key]? with
  | .acquireWrite _, some object, some object' =>
    if object'.ownershipGeneration = object.ownershipGeneration then granted key
    else some object'.grant
  | _, _, _ => granted key

/-- `mark_dirty` succeeds, or a publication is committed, under the policy generation of the grant
that opened the ownership generation. -/
def ActsBound [DurableStore σ] (p : Sys σ × (ObjectId → Option Grant)) : Action → Prop
  | .markDirty request => (p.1.engine.markDirty request).1.isOk = true →
    ∀ object ∈ p.1.engine.objects[request.context.object]?,
      p.2 request.context.object = some ⟨request.ownershipGeneration, object.policyGeneration⟩
  | .publishCommit index => ∀ pending ∈ p.1.committed (.publishCommit index),
    ∀ object ∈ p.1.engine.objects[pending.object]?,
      p.2 pending.object = some ⟨pending.ownershipGeneration, object.policyGeneration⟩
  | _ => True

/-- A policy is not replaced while the object has a writer or awaits one. -/
def SparesOwned (s : Sys σ) : Action → Prop
  | .setPolicy id generation expected next =>
    ∀ object ∈ (s.engine.setPolicyRefusal id generation expected next).toOption, ¬ object.Owned
  | _ => True

/-- The policy of an object stands while it is written, and no call in flight has the identity of a
new publication. -/
def PolicyStands (s : Sys σ) (a : Action) : Prop := SparesOwned s a ∧ FreshIdentity s a

instance (object : ObjectRecord) : Decidable object.Owned := inferInstanceAs (Decidable (_ ∨ _))

instance (s : Sys σ) (a : Action) : Decidable (SparesOwned s a) := by
  apply Action.casesOn (motive := fun a => Decidable (SparesOwned s a)) a <;> intros <;>
    dsimp only [SparesOwned] <;> infer_instance

instance (s : Sys σ) (a : Action) : Decidable (PolicyStands s a) :=
  inferInstanceAs (Decidable (_ ∧ _))

instance [DurableStore σ] (p : Sys σ × (ObjectId → Option Grant)) (a : Action) :
    Decidable (ActsBound p a) := by
  apply Action.casesOn (motive := fun a => Decidable (ActsBound p a)) a <;> intros <;>
    dsimp only [ActsBound] <;> infer_instance

/-! ### One step -/

section Change

variable {s : Sys σ} {a : Action} {key : ObjectId} {object object' : ObjectRecord}

lemma ObjectChange.policy (h : ObjectChange s a key object object') :
    object'.policyGeneration = object.policyGeneration ∨
      ∃ id generation expected next, a = .setPolicy id generation expected next ∧
        s.engine.setPolicyRefusal id generation expected next = .ok object := by
  have hrecompute : ∀ (e : Impl σ) (changed : ObjectRecord),
      (e.recomputeAuthorityLocked changed).policyGeneration = changed.policyGeneration := by
    intro e changed
    rw [recomputeAuthorityLocked_eq]
  cases h with
  | setPolicy allowed => exact .inr ⟨_, _, _, _, rfl, allowed⟩
  | fence e =>
    refine .inl ((hrecompute ..).trans ?_)
    unfold ObjectRecord.cutOff ObjectRecord.revokeWriter ObjectRecord.loseDirty
    dsimp only
    repeat' split
    all_goals rfl
  | grantRead =>
    rw [addReadGrantLocked_eq]
    exact .inl rfl
  | releaseAuthority e =>
    refine .inl ((hrecompute ..).trans ?_)
    unfold Impl.relinquish ObjectRecord.releaseDirty
    dsimp only
    repeat' split
    all_goals rfl
  | retireRegion e | releaseLease e | invalidateNow e | acknowledge e => exact .inl (hrecompute ..)
  | shutdown =>
    unfold ObjectRecord.shutdown
    dsimp only
    split <;> exact .inl rfl
  | _ => exact .inl rfl

lemma ObjectEffect.written (h : ObjectEffect s a key object object')
    (hwriter : object'.writer ≠ .nil) :
    object'.ownershipGeneration = object.ownershipGeneration ∧ object.writer ≠ .nil ∨
      (∃ request, a = .acquireWrite request) ∧
        object'.ownershipGeneration = object.ownershipGeneration.next := by
  cases h with
  | keep same => exact .inl ⟨same.ownership, same.writer.1 ▸ hwriter⟩
  | revoke _ _ _ _ revoked => exact absurd revoked.writer hwriter
  | transfer => exact .inr ⟨⟨_, rfl⟩, rfl⟩
  | relinquish _ _ _ released => exact absurd released.writer hwriter
  | transferFailed | retire => exact absurd rfl hwriter
  | shutdown _ _ down => exact absurd down.writer hwriter
  | _ => exact .inl ⟨rfl, hwriter⟩

end Change

section Step

variable [ReplayStore σ] {s : Sys σ} {a : Action} {granted : ObjectId → Option Grant}
  {object' object : ObjectRecord} {key : ObjectId}

lemma Sys.grants_same (hobject : s.engine.objects[key]? = some object)
    (hobject' : (s.step a).engine.objects[key]? = some object')
    (hsame : object'.ownershipGeneration = object.ownershipGeneration) :
    s.grants a granted key = granted key := by
  unfold Sys.grants
  rw [hobject, hobject']
  cases a <;> simp [hsame]

lemma Sys.grants_new {request} (hobject : s.engine.objects[key]? = some object)
    (hobject' : (s.step (.acquireWrite request)).engine.objects[key]? = some object')
    (hnew : object'.ownershipGeneration = object.ownershipGeneration.next) :
    s.grants (.acquireWrite request) granted key = some object'.grant := by
  unfold Sys.grants
  rw [hobject, hobject']
  simp [hnew, StrongId.next_ne_self]

/-- The writer of an object and the calls in flight have been granted the generations that the
object has. -/
structure Bound (p : Sys σ × (ObjectId → Option Grant)) : Prop extends Attended p.1 where
  agrees : All (fun _ object => object.LedgerAgrees) p.1.engine.objects
  writers : ∀ frame ∈ p.1.frames, frame.pending.writer ≠ .nil
  granted : All (fun key object => object.Owned → p.2 key = some object.grant) p.1.engine.objects

lemma Bound.boot {config} {store : Option σ}
    {granted} : Bound (Sys.boot config store, granted) where
  toAttended := Attended.boot
  agrees := boot_objects DurableImage.restoreObject_ledgerAgrees
  writers _ hframe := absurd hframe not_mem_boot_frames
  granted := by
    refine boot_objects fun image object previous epoch sequence howned => ?_
    have hrestored := image.restoreObject_restored object previous epoch sequence
    simp [ObjectRecord.Owned, hrestored.authority] at howned

lemma Bound.step {p : Sys σ × (ObjectId → Option Grant)} (h : Bound p)
    (ha : a.Runs) (hstands : PolicyStands p.1 a) : Bound (noting Sys.step Sys.grants p a) where
  toAttended := h.toAttended.step ha hstands.2
  agrees := by
    intro key object' hobject'
    rcases (step_changes h.keyed ha).objects.origin hobject' with
      ⟨object, hobject, hchange⟩ | ⟨-, hnew⟩
    · exact hchange.ledgerAgrees (h.agrees key object hobject)
    · exact hnew.ledgerAgrees
  writers frame hframe := by
    rcases step_publication ha hframe with ⟨before, hbefore, hsame, -⟩ | ⟨request, rfl, hnew⟩
    · exact hsame ▸ h.writers before hbefore
    · obtain ⟨object, participant, policy, region, receipt, hreserves, rfl, -⟩ :=
        publishReserve_reserved hnew
      exact (resolveLocked_granted_iff.mp hreserves.granted).2.1
  granted := by
    intro key object' hobject' howned
    rcases (step_changes h.keyed ha).objects.origin hobject' with
      ⟨object, hobject, hchange⟩ | ⟨-, hnew⟩
    · have hwriter := ((hchange.ledgerAgrees (h.agrees key object hobject)).writer).mp howned
      have hpolicy : object.Owned → object'.policyGeneration = object.policyGeneration := by
        intro hbefore
        refine hchange.policy.resolve_right ?_
        rintro ⟨id, generation, expected, next, rfl, hallowed⟩
        have hspares : ∀ object ∈ (p.1.engine.setPolicyRefusal id generation expected
            next).toOption, ¬ object.Owned := hstands.1
        rw [hallowed] at hspares
        exact hspares object rfl hbefore
      rcases hchange.effect.written hwriter with ⟨hsame, hbefore⟩ | ⟨⟨request, rfl⟩, hnew⟩
      · have howned := (h.agrees key object hobject).writer.mpr hbefore
        change p.1.grants a p.2 key = _
        rw [Sys.grants_same hobject hobject' hsame, h.granted key object hobject howned]
        simp only [ObjectRecord.grant, hsame, hpolicy howned]
      · exact Sys.grants_new hobject hobject' hnew
    · cases hnew
      simp [ObjectRecord.Owned, Impl.newObject] at howned

lemma Bound.actsBound {p : Sys σ × (ObjectId → Option Grant)} (h : Bound p) : ActsBound p a := by
  cases a
  case markDirty request =>
    intro hok object hobject
    obtain ⟨before, participant, hgranted, hwritten⟩ := markDirty_isOk hok
    cases (resolveLocked_found hgranted).symm.trans hobject
    have hcaller := (resolveLocked_granted_iff.mp hgranted).2.1
    have howned := (h.agrees _ object hobject).writer.mpr (hwritten.writer.1 ▸ hcaller)
    rw [h.granted _ object hobject howned, hwritten.ownership]
    rfl
  case publishCommit index =>
    intro pending hcommitted object hobject
    obtain ⟨index, frame, target, -, hready, htarget, rfl⟩ := committed_some hcommitted
    obtain ⟨-, hfound, hholds⟩ := commitTarget_some htarget
    cases hfound.symm.trans hobject
    obtain ⟨hname, hownership, -⟩ := holds_prior hholds
    have hframe := List.mem_of_getElem? (ready_mem hready).1
    -- the writer has not released the object, since the ownership generation is the one of the call
    have hheld := (h.holders frame hframe object hobject hname).resolve_right fun hgiven =>
        StrongId.next_ne_self _ (hgiven.2.symm.trans hownership)
    have hwriter := hheld.1 ▸ h.writers frame hframe
    rw [h.granted _ object hobject ((h.agrees _ object hobject).writer.mpr hwriter), ← hownership]
    rfl
  all_goals exact trivial

end Step

/-- In every run in which no policy is replaced under a writer, every `mark_dirty` that succeeds
and every commit is made under the policy generation of the grant that opened its ownership
generation. -/
theorem authority_binds_policy [ReplayStore σ] (config : EngineConfig) (store : Option σ)
    (as : List Action) (hrun : RunOk Sys.step PolicyStands (Sys.boot config store) as) :
    RunOk (noting Sys.step Sys.grants) ActsBound (Sys.boot config store, fun _ => none) as := by
  refine runOk_of_history ?_ (fun _ _ _ h => h.actsBound) Bound.boot hrun
  intro p a hstands h
  rcases a.restart_or with ⟨config, rfl⟩ | ha
  · exact Bound.boot
  · exact h.step ha hstands

namespace Duo

def switchPolicy : Action := .setPolicy ⟨1⟩ ⟨1⟩ ⟨1⟩ (strictPolicy [2])

end Duo

theorem authority_binds_policy_published :
    RunOk (noting Sys.step Sys.grants) ActsBound (Duo.start, fun _ => none)
      (Duo.enrol ++ [Duo.switchPolicy, Duo.observe 1, Duo.acquire, Duo.markDirty] ++
        Duo.publishFrom (Duo.context 1) 1 0 2) := by
  have hstands : RunOk Sys.step PolicyStands Duo.start
      (Duo.enrol ++ [Duo.switchPolicy, Duo.observe 1, Duo.acquire, Duo.markDirty] ++
        Duo.publishFrom (Duo.context 1) 1 0 2) := by
    decide +kernel
  exact authority_binds_policy {} (some ({} : LogStore)) _ hstands

/-- The writer marks its replica dirty under a policy that it was not granted under. -/
theorem policy_switched_under_writer :
    ¬ RunOk (noting Sys.step Sys.grants) ActsBound (Duo.start, fun _ => none)
      (Duo.owned ++ [Duo.switchPolicy, Duo.markDirty]) := by
  decide +kernel

end CoherenceFabric
