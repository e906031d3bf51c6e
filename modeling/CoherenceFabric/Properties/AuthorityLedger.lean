import CoherenceFabric.Deployment
import CoherenceFabric.Effects.Fields

/-!
The authority of an object agrees with its writer and its read grants.

Operations write the mode, the writer and the grants independently. A mode with a writer is
only ever set together with the writer and with the release of all grants; the other modes are
recomputed from the grants whenever a grant may have gone.
-/

namespace CoherenceFabric

open FiniteMap ObjectRecord

namespace ObjectRecord

/-- The object is written or is about to be. -/
def Owned (object : ObjectRecord) : Prop :=
  object.authority = .exclusiveWriter ∨ object.authority = .transferPending

/-- The mode agrees with the writer; this much holds before the mode is recomputed. -/
structure WriterAgrees (object : ObjectRecord) : Prop where
  writer : object.Owned ↔ object.writer ≠ .nil
  alone : object.Owned → ¬ object.Leased

/-- The mode agrees with the writer and with the read grants. -/
structure LedgerAgrees (object : ObjectRecord) : Prop extends WriterAgrees object where
  none : object.authority = .none → ¬ object.Leased
  shared : object.authority = .sharedReaders → object.Leased

lemma WriterAgrees.of_idle {object : ObjectRecord} (hwriter : object.writer = .nil)
    (hmode : ¬ object.Owned) : object.WriterAgrees :=
  ⟨⟨fun h => absurd h hmode, fun h => absurd hwriter h⟩, fun h => absurd h hmode⟩

end ObjectRecord

variable {σ : Type} {object : ObjectRecord}

lemma ObjectRecord.WriterAgrees.recompute (h : object.WriterAgrees) (e : Impl σ) :
    (e.recomputeAuthorityLocked object).LedgerAgrees := by
  unfold Impl.recomputeAuthorityLocked
  have hfree : ∀ mode, object.authority = mode → mode ≠ .exclusiveWriter →
      mode ≠ .transferPending → object.writer = .nil := by
    rintro mode rfl hex htp
    by_contra hwriter
    exact (h.writer.mpr hwriter).elim hex htp
  split
  · rename_i hmode
    exact ⟨h, by simp [hmode], by simp [hmode]⟩
  · rename_i hmode
    exact ⟨h, by simp [hmode], by simp [hmode]⟩
  · rename_i hmode
    split
    · exact ⟨h, by simp [hmode], by simp [hmode]⟩
    have howned : object.Owned := .inr hmode
    exact ⟨⟨⟨fun _ => h.writer.mp howned, fun _ => .inl rfl⟩, fun _ => h.alone howned⟩,
      nofun, nofun⟩
  all_goals
    rename_i hmode
    have hwriter := hfree _ hmode (by simp) (by simp)
    by_cases hlive : object.anyLiveReads
    · have hleased := anyLiveReads_iff.mp hlive
      simp only [hlive, if_true]
      exact ⟨.of_idle hwriter (by simp [ObjectRecord.Owned]), nofun, fun _ => hleased⟩
    · have hfree : ¬ object.Leased := fun h => hlive (anyLiveReads_iff.mpr h)
      simp only [hlive]
      exact ⟨.of_idle hwriter (by simp [ObjectRecord.Owned]), fun _ => hfree, nofun⟩

/-! ### Grants -/

lemma ObjectRecord.WriterAgrees.releaseReads (h : object.WriterAgrees) (p : ReadGrant → Bool) :
    (object.releaseReads p).WriterAgrees := by
  refine ⟨h.writer, fun howned hleased => h.alone howned ?_⟩
  obtain ⟨grant, hgrant, hlive⟩ := hleased
  exact ⟨grant, mem_releaseReads hgrant hlive, hlive⟩

lemma ObjectRecord.WriterAgrees.releaseAt (h : object.WriterAgrees) (index : Nat) :
    (object.releaseAt index).WriterAgrees := by
  refine ⟨h.writer, fun howned hleased => h.alone howned ?_⟩
  obtain ⟨grant, hgrant, hlive⟩ := hleased
  exact ⟨grant, mem_releaseAt hgrant hlive, hlive⟩

lemma ObjectRecord.WriterAgrees.touch (h : object.WriterAgrees) (sequence : OperationSequence) :
    ({ object with updatedSequence := sequence } : ObjectRecord).WriterAgrees :=
  ⟨h.writer, h.alone⟩

lemma ObjectRecord.WriterAgrees.cutOff (h : object.WriterAgrees) (id : ParticipantId)
    (boot : ParticipantBootId) (policy : DirtyLossPolicy) (sequence : OperationSequence) :
    (object.cutOff id boot policy sequence).WriterAgrees := by
  have hrevoke : (if object.writer = id ∧ object.writerBoot = boot then
      object.revokeWriter policy sequence else object).WriterAgrees := by
    split
    · exact .of_idle (object.revokeWriter_writer policy sequence)
        (by simp [ObjectRecord.Owned])
    · exact h
  unfold ObjectRecord.cutOff
  dsimp only
  generalize (if object.writer = id ∧ object.writerBoot = boot then
    object.revokeWriter policy sequence else object) = revoked at hrevoke ⊢
  split
  · exact (hrevoke.releaseReads _).touch sequence
  · exact hrevoke

lemma ObjectRecord.LedgerAgrees.addReadGrant (h : object.LedgerAgrees) (e : Impl σ)
    (region : RegionRecord) (ctx : AuthorityContext) (lease : LeaseId) :
    (e.addReadGrantLocked object region ctx lease).LedgerAgrees := by
  unfold Impl.addReadGrantLocked
  split
  · exact h
  split
  · exact h
  rename_i hfree
  split
  · exact h
  have hwriter : object.writer = .nil := by
    by_contra hwriter
    exact hfree (h.writer.mpr hwriter)
  refine ⟨.of_idle hwriter ?_, ?_, fun _ => ?_⟩
  · rintro (hmode | hmode) <;> dsimp only at hmode <;> split at hmode
    all_goals first | cases hmode | exact hfree (.inl hmode) | exact hfree (.inr hmode)
  · intro hmode
    split at hmode
    · cases hmode
    · exact absurd hmode ‹_›
  · exact ⟨_, List.mem_append_right _ (List.mem_singleton_self _), rfl⟩

lemma ObjectRecord.grantWrite_agrees {writer} (hwriter : writer ≠ .nil)
    (boot : ParticipantBootId) (required : List InvalidationRecord) (sequence : OperationSequence) :
    (object.grantWrite writer boot required sequence).LedgerAgrees := by
  have hfree : ¬ (object.grantWrite writer boot required sequence).Leased :=
    not_leased_of_released object.reads rfl
  have howned : (object.grantWrite writer boot required sequence).Owned := by
    unfold ObjectRecord.Owned grantWrite
    split
    · exact .inl rfl
    · exact .inr rfl
  refine ⟨⟨⟨fun _ => hwriter, fun _ => howned⟩, fun _ => hfree⟩, fun _ => hfree, fun hmode => ?_⟩
  rcases howned with hex | htp
  · cases hex.symm.trans hmode
  · cases htp.symm.trans hmode

lemma ObjectRecord.LedgerAgrees.of_withdrawn (hmode : object.authority = .none)
    (hwriter : object.writer = .nil) (hfree : ¬ object.Leased) : object.LedgerAgrees :=
  ⟨.of_idle hwriter (by simp [ObjectRecord.Owned, hmode]), fun _ => hfree, by simp [hmode]⟩

lemma ObjectRecord.LedgerAgrees.congr {object' : ObjectRecord} (h : object.LedgerAgrees)
    (hmode : object'.authority = object.authority) (hwriter : object'.writer = object.writer)
    (hreads : object'.reads = object.reads) : object'.LedgerAgrees := by
  obtain ⟨⟨hw, ha⟩, hnone, hshared⟩ := h
  refine ⟨⟨?_, ?_⟩, ?_, ?_⟩
  all_goals
    simp only [ObjectRecord.Owned, ObjectRecord.Leased, hmode, hwriter, hreads]
    assumption

lemma Impl.relinquish_agrees (e : Impl σ) : (e.relinquish object).WriterAgrees := by
  have hidle : (e.relinquish object).writer = .nil ∧ (e.relinquish object).authority = .none := by
    unfold Impl.relinquish releaseDirty
    dsimp only
    repeat' split
    all_goals exact ⟨rfl, rfl⟩
  exact .of_idle hidle.1 (by simp [ObjectRecord.Owned, hidle.2])

/-! ### Every change of an object -/

variable {s : Sys σ} {a : Action} {key : ObjectId} {object' : ObjectRecord}

/-- Every operation leaves an object whose mode agrees with its writer and its grants. -/
theorem ObjectChange.ledgerAgrees (hchange : ObjectChange s a key object object')
    (h : object.LedgerAgrees) : object'.LedgerAgrees := by
  cases hchange with
  | same => exact h
  | fence e => exact (h.toWriterAgrees.cutOff ..).recompute e
  | retireRegion e => exact (h.toWriterAgrees.releaseReads _).recompute e
  | @grantRead request _ _ id region lease _ e =>
    have hpreferred : ({ object with preferredCurrentReplica := id } : ObjectRecord).LedgerAgrees :=
      h.congr rfl rfl rfl
    exact hpreferred.addReadGrant e region request.context lease
  | transferFailed transfers =>
    exact .of_withdrawn rfl rfl (ObjectRecord.not_leased_of_released object.reads rfl)
  | transfer transfers =>
    exact ObjectRecord.grantWrite_agrees (resolveLocked_granted_iff.mp transfers.granted).2.1 ..
  | promote granted pending settled =>
    have howned : object.Owned := .inr pending
    exact ⟨⟨⟨fun _ => h.writer.mp howned, fun _ => .inl rfl⟩, fun _ => h.alone howned⟩,
      nofun, nofun⟩
  | releaseLease e =>
    exact ((h.toWriterAgrees.releaseAt _).recompute e).congr rfl rfl rfl
  | releaseAuthority e => exact ((Impl.relinquish_agrees s.engine).recompute e).congr rfl rfl rfl
  | @invalidateNow _ _ _ id seq e =>
    have hpassed : (object.passOutstanding id seq).WriterAgrees := ⟨h.writer, h.alone⟩
    exact hpassed.recompute e
  | @acknowledge _ record _ _ e =>
    have hdropped : (object.dropOutstanding record.id).WriterAgrees := ⟨h.writer, h.alone⟩
    exact (hdropped.recompute e).congr rfl rfl rfl
  | retire => exact .of_withdrawn rfl rfl (ObjectRecord.not_leased_of_released object.reads rfl)
  | shutdown =>
    refine .of_withdrawn ?_ ?_ (object.shutdown_not_leased _)
    all_goals
      unfold ObjectRecord.shutdown
      dsimp only
      split <;> rfl
  | _ => exact h.congr rfl rfl rfl

lemma DurableImage.restoreObject_ledgerAgrees (image : DurableImage) (object : ObjectRecord)
    (previous : UInt64) (epoch : CoordinatorEpoch) (sequence : OperationSequence) :
    (image.restoreObject object previous epoch sequence).LedgerAgrees := by
  have hrestored := image.restoreObject_restored object previous epoch sequence
  refine ⟨.of_idle hrestored.writer ?_, ?_, ?_⟩
  all_goals simp [ObjectRecord.Owned, hrestored.authority]

lemma NewObject.ledgerAgrees (h : NewObject s a key object) : object.LedgerAgrees := by
  cases h
  exact .of_withdrawn rfl rfl (by simp [ObjectRecord.Leased, Impl.newObject])

/-- In every state of every run, restarts and refused appends included: an object is held by a
writer or awaited by one exactly if it has a writer, and then no read grant stands; without
authority no grant stands, and shared reading means that one does. -/
theorem authority_agrees_with_ledger [ReplayStore σ] (config : EngineConfig) (store : Option σ)
    (as : List Action) : ∀ (key : ObjectId) (object : ObjectRecord),
      ((Sys.boot config store).run as).engine.objects[key]? = some object → object.LedgerAgrees :=
  objects_run DurableImage.restoreObject_ledgerAgrees (fun _ _ _ _ hnew => hnew.ledgerAgrees)
    (fun _ _ _ _ _ h hchange => hchange.ledgerAgrees h) config store as

theorem authority_agrees_with_ledger_owned : ∃ object,
    (Duo.start.run Duo.owned).engine.objects[(⟨1⟩ : ObjectId)]? = some object ∧
      object.authority = .exclusiveWriter ∧ object.LedgerAgrees := by
  have hmode : ((Duo.start.run Duo.owned).engine.objects[(⟨1⟩ : ObjectId)]?).map (·.authority) =
      some .exclusiveWriter := by decide +kernel
  obtain ⟨object, hobject, hauthority⟩ := Option.map_eq_some_iff.mp hmode
  exact ⟨object, hobject, hauthority,
    authority_agrees_with_ledger {} (some ({} : LogStore)) Duo.owned _ object hobject⟩

end CoherenceFabric
