import CoherenceFabric.Effects.Relations

/-!
`Evolved` is kept by everything an operation is made of: the updates of single records, the
journalling helpers, the sequence and the decision log.
-/

namespace CoherenceFabric

open FiniteMap Relation DurableStore Persistence

variable {σ : Type} [DurableStore σ] {s : Sys σ} {a : Action} {e : Impl σ} {α : Type}
  {payloads : List JournalPayload} {payload : JournalPayload} {c' c counters : Counters}
  {e' : Impl σ}

lemma forall_mem_one {P : α → Prop} {x} (hx : P x) : ∀ y ∈ [x], P y := by
  simpa using hx

lemma forall_mem_two {P : α → Prop} {x y} (hx : P x) (hy : P y) : ∀ z ∈ [x, y], P z := by
  simpa using ⟨hx, hy⟩

lemma forall_mem_append {P : α → Prop} {xs ys : List α} (hx : ∀ z ∈ xs, P z) (hy : ∀ z ∈ ys, P z) :
    ∀ z ∈ xs ++ ys, P z :=
  List.forall_mem_append.mpr ⟨hx, hy⟩

/-! ### Persistence -/

section Persist

variable {Q : JournalPayload → Prop} {C : Prop} {p p' : Persistence σ} {entries : List JournalEntry}
  {enabled : Bool}

lemma persist_appendBatch : ∀ {p : Persistence σ} {store : σ},
    (∀ entry ∈ entries, Q entry.payload) → p.store = some store →
    p'.store = some (appendBatch store entries).2 → p'.durable = p.durable → Persist Q C p p' := by
  induction entries with
  | nil => exact fun _ hs hs' hd => .single (.flush hs hs' hd)
  | cons entry rest ih =>
    intro p store hq hs hs' hd
    have hentry := hq entry (List.mem_cons_self ..)
    rw [appendBatch] at hs'
    split at hs'
    · have hmove : PersistMove Q C p { p with store := some (append store entry).2 } :=
        .write entry hentry hs rfl rfl
      exact .head hmove (ih (fun x hx => hq x (List.mem_cons_of_mem _ hx)) rfl hs' hd)
    · exact .single (.write entry hentry hs hs' hd)

lemma persist_applyAll : ∀ {p : Persistence σ},
    (∀ entry ∈ entries, Q entry.payload) → p'.store = p.store →
    p'.durable = (applyAll p.durable entries).2 → Persist Q C p p' := by
  induction entries with
  | nil => exact fun _ hs hd => .single (.idle hs hd)
  | cons entry rest ih =>
    intro p hq hs hd
    rw [applyAll] at hd
    cases happly : applyJournalEntry p.durable entry with
    | error status =>
      rw [happly] at hd
      exact .single (.idle hs hd)
    | ok image =>
      rw [happly] at hd
      obtain ⟨position, himage⟩ := applyJournalEntry_ok happly
      have hmove : PersistMove Q C p { p with durable := image } :=
        .apply entry.payload position (hq entry (List.mem_cons_self ..)) rfl himage
      exact .head hmove (ih (fun x hx => hq x (List.mem_cons_of_mem _ hx)) hs hd)

lemma payloads_stamp {payloads} : ∀ {position : UInt64},
    (stamp position payloads).map (·.payload) = payloads := by
  induction payloads with
  | nil => exact rfl
  | cons payload rest ih => exact congrArg (payload :: ·) ih

lemma payload_of_mem_stamp {position} :
    ∀ entry ∈ stamp position payloads, entry.payload ∈ payloads := by
  intro entry hmem
  rw [← @payloads_stamp payloads position]
  exact List.mem_map_of_mem hmem

/-- What keeps the store and the image in step is a sequence of accesses to them. -/
lemma LockMove.persist (h : LockMove Q C p p') : Persist Q C p p' := by
  cases h with
  | @journal store write entries hq hs writes =>
    have hwrite : ∀ p' : Persistence σ, p'.store = some (write store).2 → p'.durable = p.durable →
        Persist Q C p p' := by
      intro p' hs' hd
      rcases writes with ⟨entry, rfl, rfl⟩ | rfl
      · exact .single (.write entry (hq entry (List.mem_cons_self ..)) hs hs' hd)
      · exact persist_appendBatch hq hs hs' hd
    unfold Persistence.journal
    dsimp only
    split
    · exact hwrite _ rfl rfl
    · exact (hwrite { p with store := some (write store).2 } rfl rfl).trans
        (persist_applyAll hq rfl rfl)
  | compact hc hs hs' hd => exact .single (.compact hc hs hs' hd)
  | flush hs hs' hd => exact .single (.flush hs hs' hd)
  | idle hs hd => exact .single (.idle hs hd)

lemma Lockstep.persist (h : Lockstep Q C p p') : Persist Q C p p' :=
  reflTransGen_closed (fun _ _ => LockMove.persist) _ _ h

lemma lockstep_append (hq : enabled = true → Q payload) :
    Lockstep Q C p (p.append enabled payload).2 := by
  unfold Persistence.append
  split
  · exact .refl
  rename_i store hs
  split
  · exact .refl
  rename_i henabled
  exact .single (.journal _ (by simpa using hq (by simpa using henabled)) hs
    (.inl ⟨_, rfl, rfl⟩))

lemma lockstep_appendMany (hq : enabled = true → ∀ payload ∈ payloads, Q payload) :
    Lockstep Q C p (p.appendMany enabled payloads).2 := by
  unfold appendMany
  split
  · exact .refl
  rename_i store hs
  split
  · exact .refl
  rename_i hwrites
  have henabled : enabled = true := by
    cases enabled
    · exact absurd rfl hwrites
    · rfl
  exact .single (.journal _ (fun entry hmem =>
    hq henabled _ (payload_of_mem_stamp entry hmem)) hs (.inr rfl))

end Persist

/-! ### Single updates -/

lemma Advances.refl (c : Counters) : Advances a c c := ⟨.inr rfl, .inr rfl⟩

lemma Advances.symm (h : Advances a c c') : Advances a c' c :=
  ⟨h.invalidation.imp_right Eq.symm, h.publication.imp_right Eq.symm⟩

lemma Advances.trans {c''} (h : Advances a c c') (h' : Advances a c' c'') : Advances a c c'' where
  invalidation := h.invalidation.elim .inl fun h₁ =>
    h'.invalidation.imp_right fun h₂ => h₂.trans h₁
  publication := h.publication.elim .inl fun h₁ =>
    h'.publication.imp_right fun h₂ => h₂.trans h₁

omit [DurableStore σ] in
lemma Untouched.refl (e : Impl σ) : Untouched a e e :=
  ⟨.refl _, .inr (.inr rfl), .inr rfl, rfl⟩

omit [DurableStore σ] in
lemma Untouched.symm (h : Untouched a e e') : Untouched a e' e :=
  ⟨h.counters.symm, h.inFlight.imp_right fun h => h.imp_right Eq.symm,
    h.shuttingDown.imp_right Eq.symm, h.config.symm⟩

omit [DurableStore σ] in
lemma Untouched.trans {e''} (h : Untouched a e e') (h' : Untouched a e' e'') :
    Untouched a e e'' where
  counters := h.counters.trans h'.counters
  inFlight := by
    rcases h.inFlight with hr | hc | h₁
    · exact .inl hr
    · exact .inr (.inl hc)
    · exact h'.inFlight.imp_right fun h => h.imp_right fun h₂ => h₂.trans h₁
  shuttingDown := h.shuttingDown.elim .inl fun h₁ =>
    h'.shuttingDown.imp_right fun h₂ => h₂.trans h₁
  config := h'.config.trans h.config

/-- Only the records, the persistence state and what few steps change matter. -/
lemma evolved_congr (hr : e'.toRecords = e.toRecords) (hp : e'.toPersistence = e.toPersistence)
    (hu : Untouched a e e') : Evolved s a e' ↔ Evolved s a e :=
  ⟨fun h => ⟨hr ▸ h.records, hp ▸ h.persist, hp ▸ h.lockstep, h.frame.trans hu.symm⟩,
    fun h => ⟨hr ▸ h.records, hp ▸ h.persist, hp ▸ h.lockstep, h.frame.trans hu⟩⟩

@[simp] lemma evolved_tick : Evolved s a e.tick ↔ Evolved s a e :=
  evolved_congr rfl rfl ⟨.refl _, .inr (.inr rfl), .inr rfl, rfl⟩

lemma evolved_withCounters (h : Advances a e.toCounters counters) :
    Evolved s a (e.withCounters counters) ↔ Evolved s a e :=
  evolved_congr rfl rfl ⟨h, .inr (.inr rfl), .inr rfl, rfl⟩

@[simp] lemma evolved_takeDecisionId : Evolved s a e.takeDecisionId ↔ Evolved s a e :=
  evolved_withCounters ⟨.inr rfl, .inr rfl⟩

@[simp] lemma evolved_takeEvidenceId : Evolved s a e.takeEvidenceId ↔ Evolved s a e :=
  evolved_withCounters ⟨.inr rfl, .inr rfl⟩

lemma evolved_withInFlight (h : a.reserves ∨ a.commits) {inFlight} :
    Evolved s a (e.withInFlight inFlight) ↔ Evolved s a e :=
  evolved_congr rfl rfl ⟨.refl _, h.imp_right .inl, .inr rfl, rfl⟩

lemma evolved_withShutdown {down complete} (h : a.shutsDown ∨ down = e.shuttingDown) :
    Evolved s a (e.withShutdown down complete) ↔ Evolved s a e :=
  evolved_congr rfl rfl ⟨.refl _, .inr (.inr rfl), h, rfl⟩

@[simp] lemma evolved_recordDecision {kind context code summary} :
    Evolved s a (e.recordDecision kind context code summary) ↔ Evolved s a e := by
  unfold Impl.recordDecision
  split
  · rfl
  · exact evolved_congr rfl rfl ⟨.refl _, .inr (.inr rfl), .inr rfl, rfl⟩

/-! ### Calls in flight -/

@[simp] lemma appendEach_shuttingDown (payloads : List JournalPayload) :
    ∀ e : Impl σ, (e.appendEach payloads).shuttingDown = e.shuttingDown := by
  induction payloads with
  | nil => exact fun _ => rfl
  | cons payload rest ih => exact fun e => ih (e.appendLocked payload).2

@[simp] lemma appendManyLocked_inFlight (payloads : List JournalPayload) :
    (e.appendManyLocked payloads).2.inFlightPublications = e.inFlightPublications := rfl

/-! ### Updates of one record -/

namespace Evolved

lemma init : Evolved s a s.engine where
  records :=
    { domains := .refl _, participants := .refl _, objects := .refl _, regions := .refl _
      invalidations := .refl _, syncs := .refl _, policies := .refl _
      participantIndex := .inr rfl }
  persist := .refl
  lockstep := .inr .refl
  frame := .refl _

lemma decided (s : Sys σ) (a : Action) : Evolved s a s.engine.takeDecisionId :=
  evolved_takeDecisionId.mpr init

lemma withCounters (h : Evolved s a e)
    (hc : Advances a e.toCounters counters := by exact ⟨.inr rfl, .inr rfl⟩) :
    Evolved s a (e.withCounters counters) :=
  (evolved_withCounters hc).mpr h

lemma issuing (h : Evolved s a e) (ha : a.issues) (count : Nat) :
    Evolved s a (e.tick.takeInvalidationIds count) :=
  withCounters (evolved_tick.mpr h) ⟨.inl ha, .inr rfl⟩

lemma withRecords (h : Evolved s a e) {records} (hr : RecordsEvolve s a records) :
    Evolved s a (e.withRecords records) :=
  ⟨hr, h.persist, h.lockstep, h.frame.trans ⟨.refl _, .inr (.inr rfl), .inr rfl, rfl⟩⟩

lemma withPersistence (h : Evolved s a e) {p}
    (hp : Persist (Written s a) (Compacts s a) e.toPersistence p)
    (hl : a.outOfStep = true ∨ Lockstep (Written s a) (Compacts s a) e.toPersistence p) :
    Evolved s a (e.withPersistence p) where
  records := h.records
  persist := h.persist.trans hp
  lockstep := h.lockstep.elim .inl fun h => hl.imp_right h.trans
  frame := h.frame.trans ⟨.refl _, .inr (.inr rfl), .inr rfl, rfl⟩

lemma withLockstep (h : Evolved s a e) {p}
    (hl : Lockstep (Written s a) (Compacts s a) e.toPersistence p) :
    Evolved s a (e.withPersistence p) :=
  h.withPersistence hl.persist (.inr hl)

variable {object : ObjectRecord} {region : RegionRecord}

lemma setObject (h : Evolved s a e) {id} (ho : ObjectDerives s a id object) :
    Evolved s a (e.setObject id object) :=
  h.withRecords { h.records with objects := h.records.objects.put ho }

lemma setRegion (h : Evolved s a e) {id} (hr : RegionDerives s a id region) :
    Evolved s a (e.setRegion id region) :=
  h.withRecords { h.records with regions := h.records.regions.put hr }

lemma setInvalidation (h : Evolved s a e) {id record}
    (hi : InvalidationDerives s a id record) : Evolved s a (e.setInvalidation id record) :=
  h.withRecords { h.records with invalidations := h.records.invalidations.put hi }

lemma setSync (h : Evolved s a e) {id record}
    (hs : SyncDerives s a id record) : Evolved s a (e.setSync id record) :=
  h.withRecords { h.records with syncs := h.records.syncs.put hs }

lemma setParticipant (h : Evolved s a e) {id record}
    (hp : ParticipantDerives s a id record) : Evolved s a (e.setParticipant id record) :=
  h.withRecords { h.records with participants := h.records.participants.put hp }

/-- The authority of a stored object is recomputed. -/
lemma recompute (h : Evolved s a e) (running : ∀ epoch, a ≠ .beginShutdown epoch) {id}
    (stored : e.objects[id]? = some object) :
    ObjectDerives s a id (e.recomputeAuthorityLocked object) :=
  (h.records.objects.origin id object stored).tail
    (.recompute e running stored h.records.invalidations)

/-! ### Journalling helpers -/

lemma appendLocked (h : Evolved s a e) (hq : Journalled s a payload) :
    Evolved s a (e.appendLocked payload).2 :=
  h.withLockstep (lockstep_append fun henabled => ⟨hq, .inr (h.frame.config ▸ henabled)⟩)

lemma appendManyLocked (h : Evolved s a e) (hq : ∀ payload ∈ payloads, Journalled s a payload) :
    Evolved s a (e.appendManyLocked payloads).2 :=
  h.withLockstep (lockstep_appendMany fun henabled payload hmem =>
    ⟨hq payload hmem, .inr (h.frame.config ▸ henabled)⟩)

lemma appendEach : ∀ {e : Impl σ}, Evolved s a e →
    (∀ payload ∈ payloads, Journalled s a payload) → Evolved s a (e.appendEach payloads) := by
  induction payloads with
  | nil => exact fun h _ => h
  | cons payload rest ih =>
    intro e h hq
    exact ih (h.appendLocked (hq payload (List.mem_cons_self ..)))
      fun x hx => hq x (List.mem_cons_of_mem _ hx)

lemma upsertDurableObjectLocked (h : Evolved s a e) {id}
    (ho : ObjectDerives s a id object) : Evolved s a (e.upsertDurableObjectLocked object) :=
  h.appendEach (by simpa using Journalled.object ho)

lemma upsertDurableRegionLocked (h : Evolved s a e) {id}
    (hr : RegionDerives s a id region) : Evolved s a (e.upsertDurableRegionLocked region) :=
  h.appendEach (by simpa using Journalled.region hr)

lemma upsertDurableParticipantLocked (h : Evolved s a e) {id record}
    (hp : ParticipantDerives s a id record) :
    Evolved s a (e.upsertDurableParticipantLocked record) :=
  h.appendEach (by simpa using Journalled.participant hp)

lemma maybeCompactLocked (h : Evolved s a e) (hc : e.inFlightPublications.isEmpty → Compacts s a) :
    Evolved s a e.maybeCompactLocked.2 := by
  unfold Impl.maybeCompactLocked
  split
  · exact h
  rename_i store hs
  split
  · exact h
  rename_i hcond
  simp only [Bool.not_eq_true', Bool.or_eq_true, not_or, Bool.not_eq_false,
    decide_eq_true_eq] at hcond
  exact h.withLockstep (.single (.compact (hc (by simpa using hcond.1.2)) hs rfl rfl))

/-- A fold keeps `Evolved` if each of its steps does. -/
lemma foldl {β : Type} {f} {xs : List β} : ∀ {e : Impl σ},
    Evolved s a e → (∀ e x, x ∈ xs → Evolved s a e → Evolved s a (f e x)) →
    Evolved s a (xs.foldl f e) := by
  induction xs with
  | nil => exact fun h _ => h
  | cons x xs ih =>
    intro e h hf
    exact ih (hf e x (List.mem_cons_self ..) h)
      fun e y hy => hf e y (List.mem_cons_of_mem _ hy)

end Evolved

end CoherenceFabric
