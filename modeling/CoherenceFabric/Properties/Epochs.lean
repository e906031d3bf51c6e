import CoherenceFabric.Properties.Recovery
import CoherenceFabric.Invariants.Boot
import CoherenceFabric.Deployment

/-!
The coordinator epoch across the restarts on one store.

A recovery takes the epoch after the one it loads and writes it back. It reports success even when
nothing of the write-back and no compaction was accepted, or will be replayed; the next recovery
then loads the old epoch and takes the same one again.
-/

namespace CoherenceFabric

open DurableStore Transition
open Persistence (stamp applyAll)

variable {σ : Type}

/-- The store takes the epoch of a recovery: the first entry of the write-back or, if it refuses
that one, the compaction. The stored epoch has a successor. -/
def epochAccepted [DurableStore σ] (config : EngineConfig) (store : σ) : Bool :=
  match openStore store with
  | (.error _, _) => true
  | (.ok (_, image), opened) =>
    let restored := (Impl.attached config opened).restoreImage image
    let appended := append opened ⟨.setEpoch restored.epoch, restored.nextJournalSequence⟩
    config.enableDurability && decide (image.epoch.value.toNat < UInt64.size - 1) &&
      (appended.1.isOk || (compact appended.2 restored.durable).1.isOk)

/-! ### What the store holds after a recovery -/

section WriteBack

variable [LawfulStore σ] {e : Impl σ} {image : DurableImage} {store : σ}
  {payloads : List JournalPayload} {position : UInt64}

lemma appendBatch_keeps_epoch (hpayloads : payloads ⊆ e.recoveryEntries image)
    (hepoch : (stored store).epoch = e.epoch) :
    (stored (appendBatch store (stamp position payloads)).2).epoch = e.epoch := by
  obtain ⟨k, happlied⟩ := appendBatch_applied store position payloads
  obtain ⟨sequence, himage⟩ := applyAll_success happlied
  rw [himage]
  exact after_keeps_epoch (fun p hp => hpayloads (List.mem_of_mem_take hp)) hepoch

lemma compactLocked_epoch {epoch} (hstore : e.store = some store)
    (henabled : e.config.enableDurability = true) (hidle : e.inFlightPublications.isEmpty)
    (hdurable : e.durable.epoch = epoch)
    (haccepted : (stored store).epoch = epoch ∨ (compact store e.durable).1.isOk) :
    e.compactLocked.toPersistence.Each (·.epoch = epoch) := by
  unfold Impl.compactLocked
  simp only [hstore, henabled, hidle, Bool.not_true, Bool.or_false, Bool.false_eq_true, if_false]
  refine ⟨hdurable, fun store' hstore' => ?_⟩
  cases hstore'
  rcases haccepted with hkept | hcompacted
  · rcases ReplayStore.compact_stored store e.durable with heq | heq
    · rw [heq]
      exact hkept
    · rw [heq]
      exact hdurable
  · rw [LawfulStore.compact_success hcompacted]
    exact hdurable

omit [LawfulStore σ] in
lemma applyAll_keeps_epoch {durable} (hpayloads : payloads ⊆ e.recoveryEntries image)
    (hepoch : durable.epoch = e.epoch) :
    (applyAll durable (stamp position payloads)).2.epoch = e.epoch := by
  obtain ⟨k, sequence, himage, -⟩ := (applyAll_after payloads durable position).applied
  rw [himage]
  exact after_keeps_epoch (fun p hp => hpayloads (List.mem_of_mem_take hp)) hepoch

lemma appendMany_epoch {p : Persistence σ} {enabled} (hstore : p.store = some store)
    (henabled : enabled = true) (hdurable : p.durable.epoch = e.epoch) :
    let written := (p.appendMany enabled (e.recoveryEntries image)).2
    let appended := append store ⟨.setEpoch e.epoch, p.nextJournalSequence⟩
    written.durable.epoch = e.epoch ∧ ∃ store', written.store = some store' ∧
      if appended.1.isOk then (stored store').epoch = e.epoch
      else store' = appended.2 ∧ written.durable = p.durable := by
  intro written appended
  let later := (e.recoveryEntries image).tail
  have hsplit : e.recoveryEntries image = .setEpoch e.epoch :: later := rfl
  let entries := stamp p.nextJournalSequence (e.recoveryEntries image)
  have hentries : entries =
      ⟨.setEpoch e.epoch, p.nextJournalSequence⟩ :: stamp (p.nextJournalSequence + 1) later := rfl
  have hlater : later ⊆ e.recoveryEntries image := fun p hp => List.mem_of_mem_tail hp
  have hwritten : written =
      (p.journal store entries fun store => appendBatch store entries).2 := by
    unfold written Persistence.appendMany
    rw [hstore, henabled]
    rfl
  rw [hwritten]
  unfold Persistence.journal
  dsimp only
  cases hok : appended.1.isOk with
  | false =>
    have hbatch : appendBatch store entries = appended := by
      rw [hentries]
      exact if_neg (by rw [hok]; exact nofun)
    rw [hbatch, hok]
    exact ⟨hdurable, appended.2, rfl, by simp⟩
  | true =>
    have hbatch : appendBatch store entries =
        appendBatch appended.2 (stamp (p.nextJournalSequence + 1) later) := by
      rw [hentries]
      exact if_pos hok
    have hfirst : (stored appended.2).epoch = e.epoch := by
      obtain ⟨position, heq⟩ := applyJournalEntry_ok (LawfulStore.append_success hok)
      rw [heq]
      rfl
    have hstored : (stored (appendBatch appended.2
        (stamp (p.nextJournalSequence + 1) later)).2).epoch = e.epoch :=
      appendBatch_keeps_epoch hlater hfirst
    rw [← hbatch] at hstored
    split
    · exact ⟨hdurable, _, rfl, by simpa using hstored⟩
    · exact ⟨applyAll_keeps_epoch (fun _ h => h) hdurable, _, rfl, by simpa using hstored⟩

lemma writeBack_epoch (hstore : e.store = some store)
    (henabled : e.config.enableDurability = true) (hidle : e.inFlightPublications.isEmpty)
    (hdurable : e.durable.epoch = e.epoch)
    (haccepted : (append store ⟨.setEpoch e.epoch, e.nextJournalSequence⟩).1.isOk ∨
      (compact (append store ⟨.setEpoch e.epoch, e.nextJournalSequence⟩).2 e.durable).1.isOk) :
    (e.writeBack image).2.toPersistence.Each (·.epoch = e.epoch) := by
  obtain ⟨hwritten, store', hstore', hstored⟩ :=
    @appendMany_epoch σ _ e image store e.toPersistence _ hstore henabled hdurable
  have hready : (stored store').epoch = e.epoch ∨ (compact store'
      (e.toPersistence.appendMany e.config.enableDurability
        (e.recoveryEntries image)).2.durable).1.isOk := by
    split at hstored
    · exact .inl hstored
    rename_i hrefused
    obtain ⟨rfl, hsame⟩ := hstored
    rw [hsame]
    exact .inr (haccepted.resolve_left hrefused)
  unfold Impl.writeBack
  dsimp only
  split
  · exact compactLocked_epoch hstore' henabled hidle hwritten hready
  · exact compactLocked_epoch hstore' henabled hidle hwritten hready

end WriteBack

/-! ### Restarts -/

/-- The epoch that attaching a store reports, if it succeeds. -/
def reportedEpoch [DurableStore σ] (config : EngineConfig) : Option σ → List CoordinatorEpoch
  | none => []
  | some store =>
    match ((coherenceEngine σ config).attachStore store).1 with
    | .ok report => [report.newEpoch]
    | .error _ => []

def Sys.reports [StoreMedium σ] (s : Sys σ) : Action → List CoordinatorEpoch
  | .restart config => reportedEpoch config (s.medium.map StoreMedium.remount)
  | _ => []

/-- The epochs that the restarts of a run report, in order. -/
def Sys.epochs [StoreMedium σ] (s : Sys σ) (as : List Action) : List CoordinatorEpoch :=
  yields Sys.step Sys.reports s as

/-- What an open of the store loads, if it succeeds, has the epoch reported last or a later one,
and not the last epoch there is. -/
def epochReplayed [DurableStore σ] (reported : List CoordinatorEpoch) (store : σ) : Bool :=
  match (openStore store).1 with
  | .error _ => true
  | .ok (_, image) => decide (image.epoch.value.toNat < UInt64.size - 1) &&
      reported.getLast?.all fun epoch => decide (epoch.value ≤ image.epoch.value)

/-- A restart finds the epoch replayed that was reported last. -/
def EpochsReplayed [StoreMedium σ] (p : Sys σ × List CoordinatorEpoch) (a : Action) : Prop :=
  (match a with
    | .restart _ => (p.1.medium.map StoreMedium.remount).all (epochReplayed p.2)
    | _ => true) = true

/-- A restart finds a store that takes the epoch of the recovery. -/
def EpochsAccepted [StoreMedium σ] (s : Sys σ) (a : Action) : Prop :=
  (match a with
    | .restart config => (s.medium.map StoreMedium.remount).all (epochAccepted config)
    | _ => true) = true

instance [StoreMedium σ] (s : Sys σ) (a : Action) : Decidable (EpochsAccepted s a) :=
  inferInstanceAs (Decidable (_ = true))

abbrev Ascending (epochs : List CoordinatorEpoch) : Prop :=
  epochs.Pairwise fun epoch epoch' => epoch.value < epoch'.value

lemma Ascending.concat {epochs} (h : Ascending epochs) {epoch : CoordinatorEpoch}
    (hlast : ∀ last ∈ epochs.getLast?, last.value < epoch.value) :
    Ascending (epochs ++ [epoch]) := by
  refine List.pairwise_append.mpr ⟨h, List.pairwise_singleton .., fun earlier hmem _ hother => ?_⟩
  cases List.mem_singleton.mp hother
  rcases epochs.eq_nil_or_concat' with rfl | ⟨before, last, rfl⟩
  · exact absurd hmem List.not_mem_nil
  have hlt : last.value < epoch.value := hlast last (by simp)
  rcases List.mem_append.mp hmem with hbefore | hend
  · exact UInt64.lt_trans ((List.pairwise_append.mp h).2.2 earlier hbefore last (by simp)) hlt
  · rwa [List.mem_singleton.mp hend]

lemma reportedEpoch_eq [DurableStore σ] (config : EngineConfig) (store : σ) :
    reportedEpoch config (some store) = match (openStore store).1 with
      | .ok (_, image) => [Impl.nextEpoch config image]
      | .error _ => [] := by
  unfold reportedEpoch
  dsimp only
  rw [attachStore_fresh]
  rcases openStore store with ⟨_ | _, _⟩ <;> rfl

lemma Ascending.reported {reported} (h : Ascending reported) (config : EngineConfig)
    {store : Option σ} [DurableStore σ] (hreplayed : store.all (epochReplayed reported) = true) :
    Ascending (reported ++ reportedEpoch config store) := by
  cases store with
  | none => rwa [reportedEpoch, List.append_nil]
  | some store =>
    rw [Option.all_some, epochReplayed] at hreplayed
    rw [reportedEpoch_eq]
    split at hreplayed
    next failed =>
      rw [failed, List.append_nil]
      exact h
    next image opened =>
      rw [opened]
      simp only [Bool.and_eq_true, decide_eq_true_eq, Option.all_eq_true] at hreplayed
      exact h.concat fun last hlast =>
        UInt64.lt_of_le_of_lt (hreplayed.2 last hlast) (Impl.lt_nextEpoch config hreplayed.1)

section Run

variable [LawfulStore σ] {s : Sys σ} {epoch : CoordinatorEpoch}

/-- The store, if there is one, holds the epoch, and so does the durable image of an engine that
is attached to it. -/
structure FiledUnder (epoch : CoordinatorEpoch) (s : Sys σ) : Prop where
  durable : s.engine.store.isSome → s.engine.durable.epoch = epoch
  stored : ∀ store ∈ s.medium, (stored store).epoch = epoch

lemma FiledUnder.of_each (hstore : s.engine.store.isSome)
    (h : s.engine.toPersistence.Each (·.epoch = epoch)) : FiledUnder epoch s where
  durable _ := h.durable
  stored store hstored := by
    obtain ⟨attached, hattached⟩ := Option.isSome_iff_exists.mp hstore
    refine h.stored store ?_
    rw [Sys.medium, hattached] at hstored
    exact hattached.trans hstored

lemma FiledUnder.step (h : FiledUnder epoch s) {a} (ha : a.Runs) : FiledUnder epoch (s.step a) := by
  have hpersist := (step_evolved (s := s) a ha).persist
  have hattached := hpersist.store_isSome
  have hshelf : (s.step a).shelf = s.shelf := step_shelf ha
  cases hstore : s.engine.store with
  | none =>
    have hnone : (s.step a).engine.store = none := by simpa [hstore] using hattached
    refine ⟨by simp [hnone], fun store hmem => h.stored store ?_⟩
    rw [Sys.medium, hnone, hshelf] at hmem
    rw [Sys.medium, hstore]
    exact hmem
  | some store =>
    refine .of_each (by simp [hattached, hstore]) (hpersist.each ?_ ⟨h.durable (by simp [hstore]),
      fun store hfound => h.stored store (by simp [Sys.medium, hfound])⟩)
    intro payload hpayload image position hepoch
    cases hpayload.journalled <;> exact hepoch

lemma recoverFrom_files {config} {store : σ} {load image}
    (hopen : (openStore store).1 = .ok (load, image))
    (haccepted : epochAccepted config store = true) :
    ((Impl.attached config (openStore store).2).recoverFrom image load).2.toPersistence.Each
      (·.epoch = Impl.nextEpoch config image) := by
  unfold epochAccepted at haccepted
  rcases hopened : openStore store with ⟨result, opened⟩
  rw [hopened] at hopen haccepted
  cases hopen
  simp only [Bool.and_eq_true, Bool.or_eq_true, decide_eq_true_eq] at haccepted
  obtain ⟨⟨henabled, -⟩, haccepted⟩ := haccepted
  have hfiled : (((Impl.attached config opened).restoreImage image).writeBack
      image).2.toPersistence.Each (·.epoch = Impl.nextEpoch config image) :=
    writeBack_epoch rfl henabled rfl rfl haccepted
  unfold Impl.recoverFrom
  rw [Impl.recordDecision_toPersistence]
  exact ⟨hfiled.durable, hfiled.stored⟩

/-- What a fresh engine makes of the stored epoch: it reports nothing and leaves the epoch, or
reports one and leaves that. -/
lemma boot_epoch (config : EngineConfig) (store : Option σ)
    (hepoch : ∀ st ∈ store, (stored st).epoch = epoch)
    (haccepted : store.all (epochAccepted config) = true) :
    (reportedEpoch config store = [] ∧ FiledUnder epoch (Sys.boot config store)) ∨
      ∃ epoch', reportedEpoch config store = [epoch'] ∧
        FiledUnder epoch' (Sys.boot config store) := by
  have hboot := boot_cases config store
  generalize Sys.boot config store = s at hboot ⊢
  cases hboot with
  | detached => exact .inl ⟨rfl, nofun, nofun⟩
  | @refused store status failed =>
    refine .inl ⟨by rw [reportedEpoch_eq, failed], nofun, fun st hst => ?_⟩
    cases hst
    rw [ReplayStore.open_stored]
    exact hepoch store rfl
  | @recovered store load image opened =>
    refine .inr ⟨_, by rw [reportedEpoch_eq, opened], ?_⟩
    refine .of_each ?_ (recoverFrom_files opened haccepted)
    exact (persist_recoverFrom _ image load).store_isSome

/-- The epoch in force is the one reported last, or a later one. -/
def InForce (p : Sys σ × List CoordinatorEpoch) : Prop :=
  ∃ epoch, FiledUnder epoch p.1 ∧ ∀ last ∈ p.2.getLast?, last.value ≤ epoch.value

lemma InForce.boot (reported epoch) (config : EngineConfig) (store : Option σ)
    (hepoch : ∀ st ∈ store, (stored st).epoch = epoch)
    (hlast : ∀ last ∈ reported.getLast?, last.value ≤ epoch.value)
    (haccepted : store.all (epochAccepted config) = true) :
    InForce (Sys.boot config store, reported ++ reportedEpoch config store) := by
  rcases boot_epoch config store hepoch haccepted with ⟨hnone, hfiled⟩ | ⟨epoch', hone, hfiled⟩
  · exact ⟨epoch, hfiled, by rwa [hnone, List.append_nil]⟩
  · refine ⟨epoch', hfiled, fun last hlast => ?_⟩
    rw [hone, List.getLast?_concat] at hlast
    cases hlast
    exact UInt64.le_refl _

lemma InForce.step {p : Sys σ × List CoordinatorEpoch} (h : InForce p) {a}
    (haccepted : EpochsAccepted p.1 a) :
    InForce (noting Sys.step (fun s a reported => reported ++ s.reports a) p a) := by
  obtain ⟨epoch, hfiled, hlast⟩ := h
  rcases a.restart_or with ⟨config, rfl⟩ | ha
  · exact .boot p.2 epoch config _ (stored_remount (P := (·.epoch = epoch)) hfiled.stored) hlast
      haccepted
  · have hnone : p.1.reports a = [] := by
      cases a with
      | restart config => exact absurd rfl (ha config)
      | _ => rfl
    exact ⟨epoch, hfiled.step ha, by rwa [noting, hnone, List.append_nil]⟩

lemma epochReplayed_of_stored {reported config} {store : σ}
    (hlast : ∀ last ∈ reported.getLast?, last.value ≤ (stored store).epoch.value)
    (haccepted : epochAccepted config store = true) : epochReplayed reported store = true := by
  unfold epochReplayed
  split
  next => rfl
  next image opened =>
    unfold epochAccepted at haccepted
    obtain rfl : image = stored store := ReplayStore.open_image opened
    rcases hopened : openStore store with ⟨result, medium⟩
    rw [hopened] at opened haccepted
    cases opened
    simp only [Bool.and_eq_true, decide_eq_true_eq] at haccepted
    simp only [Bool.and_eq_true, decide_eq_true_eq, Option.all_eq_true]
    exact ⟨haccepted.1.2, hlast⟩

lemma InForce.replayed {p : Sys σ × List CoordinatorEpoch} (h : InForce p) {a}
    (haccepted : EpochsAccepted p.1 a) : EpochsReplayed p a := by
  obtain ⟨epoch, hfiled, hlast⟩ := h
  cases a with
  | restart config =>
    refine (Option.all_eq_true _ _).mpr fun store hstore => ?_
    have hstored : (stored store).epoch = epoch :=
      stored_remount (P := (·.epoch = epoch)) hfiled.stored store hstore
    exact epochReplayed_of_stored (by rwa [hstored])
      ((Option.all_eq_true _ _).mp haccepted store hstore)
  | _ => rfl

end Run

/-- **The coordinator epoch advances**: in every run in which every recovery loads the epoch that
was reported last on its store, each recovery reports an epoch above all those reported before.
On a store that keeps its promises, every recovery loads it if every one finds a store that takes
its epoch. -/
theorem epochs_advance [StoreMedium σ] (config : EngineConfig) (store : Option σ)
    (as : List Action) :
    let note (s : Sys σ) (a : Action) (reported : List CoordinatorEpoch) := reported ++ s.reports a
    let start := (Sys.boot config store, reportedEpoch config store)
    (store.all (epochReplayed []) = true ∧ RunOk (noting Sys.step note) EpochsReplayed start as →
      Ascending (reportedEpoch config store ++ (Sys.boot config store).epochs as)) ∧
    (KeepsPromises σ → store.all (epochAccepted config) = true →
      RunOk Sys.step EpochsAccepted (Sys.boot config store) as →
      store.all (epochReplayed []) = true ∧
        RunOk (noting Sys.step note) EpochsReplayed start as) := by
  intro note start
  constructor
  · rintro ⟨hstore, hrun⟩
    have hstart : Ascending start.2 := Ascending.reported .nil config hstore
    have hend := run_invariant (I := fun p => Ascending p.2) ?_ hstart hrun
    · rwa [foldl_noting_yields] at hend
    intro p a hreplayed h
    cases a with
    | restart config' => exact h.reported config' hreplayed
    | _ => simpa [noting, note, Sys.reports] using h
  · rintro ⟨lawful, rfl⟩ hstore hrun
    refine ⟨(Option.all_eq_true _ _).mpr fun st hst =>
      epochReplayed_of_stored nofun ((Option.all_eq_true _ _).mp hstore st hst), ?_⟩
    refine runOk_of_history (fun p a ha h => InForce.step h ha)
      (fun p a ha h => InForce.replayed h ha) ?_ hrun
    cases store with
    | none => exact .boot [] .nil config none nofun nofun rfl
    | some st =>
      exact .boot [] (stored st).epoch config (some st) (fun _ h => by cases h; rfl) nofun hstore

theorem epochs_advance_thrice :
    let store : Option LogStore := some {}
    let as : List Action := Duo.enrol ++ [.restart {}, .restart {}]
    Ascending (reportedEpoch {} store ++ (Sys.boot {} store).epochs as) := by
  have h := epochs_advance {} (some ({} : LogStore)) (Duo.enrol ++ [.restart {}, .restart {}])
  exact h.1 (h.2 ⟨inferInstance, rfl⟩ (by decide +kernel) (by decide +kernel))

/-! ### A store that takes nothing -/

/-- A store on a medium that is full: every write is refused. -/
structure FullStore where
  image : DurableImage := {}

namespace FullStore

def refused : Status := .make .persistenceFailure (text "no space left")

instance (priority := low) : StoreMedium FullStore where
  openStore store := (.ok ({}, store.image), store)
  append store _ := (refused, store)
  compact store _ := (refused, store)
  flush store := (.success, store)
  close store := (.success, store)
  journalBytes _ := 0
  remount store := store

instance : LawfulStore FullStore where
  stored := image
  open_image h := by cases h; rfl
  open_stored _ := rfl
  append_stored _ _ := .inl rfl
  compact_stored _ _ := .inl rfl
  flush_stored _ := rfl
  close_stored _ := rfl
  remount_stored _ := rfl
  append_success h := by cases h
  compact_success h := by cases h

end FullStore

/-- Two recoveries on a full medium both succeed and report the same epoch. -/
theorem epoch_repeated : reportedEpoch {} (some ({} : FullStore)) ++
      (Sys.boot {} (some ({} : FullStore))).epochs [.restart {}] = [⟨1⟩, ⟨1⟩] := by
  decide +kernel

end CoherenceFabric
