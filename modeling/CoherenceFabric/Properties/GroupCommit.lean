import CoherenceFabric.Deployment
import CoherenceFabric.Store.Replay

/-!
Groups of journal entries.

`append_many_locked` hands a group to the store one entry after the other, and each entry is
durable by itself. So a group is all or nothing if it has at most one entry, on a store whose
appends are; a longer group is not, as soon as the store keeps its first entry.
-/

namespace CoherenceFabric

open DurableStore
open Persistence (stamp applyAll)

variable {σ : Type} [StoreMedium σ]

/-- The next process loads the image before a group, or the image with the whole group applied. -/
def AllOrNothing (store : σ) (entries : List JournalEntry) (store' : σ) : Prop :=
  loads store' = loads store ∨ ∃ image image', loads store = some image ∧
    applyAll image entries = (.success, image') ∧ loads store' = some image'

/-- A failed or accepted append leaves what the next process loads as it was, or with the entry. -/
def AppendsWhole (σ : Type) [StoreMedium σ] : Prop :=
  ∀ (store : σ) (entry : JournalEntry), AllOrNothing store [entry] (append store entry).2

/-- The store takes the first entry of a group, and the next process replays it. The positions of
the group come after what the store holds and do not run out at once. -/
structure TakesFirst (store : σ) (position : UInt64) (payloads : List JournalPayload) : Prop where
  more : 1 < payloads.length
  kinds : .snapshot ∉ payloads
  room : position + 1 ≠ 0
  taken : ∃ image image', loads store = some image ∧ image.sequence < position ∧
    ∀ first ∈ payloads.head?, (append store ⟨first, position⟩).1.isOk ∧
      applyJournalEntry image ⟨first, position⟩ = .ok image' ∧
      loads (append store ⟨first, position⟩).2 = some image'

variable {store store' : σ} {entries : List JournalEntry}

lemma Interrupted.allOrNothing (hwhole : ∀ entry ∈ entries, AllOrNothing store [entry]
      (append store entry).2) (hlength : entries.length ≤ 1)
    (hstop : Interrupted store entries store') : AllOrNothing store entries store' := by
  cases hstop with
  | stop => exact .inl rfl
  | @failed _ entry rest _ =>
    obtain rfl : rest = [] := List.length_eq_zero_iff.mp (by simpa using hlength)
    exact hwhole entry List.mem_cons_self
  | @next _ entry rest _ _ later =>
    obtain rfl : rest = [] := List.length_eq_zero_iff.mp (by simpa using hlength)
    cases later
    exact hwhole entry List.mem_cons_self

lemma applyJournalEntry_sequence_le {image image' : DurableImage} {entry : JournalEntry}
    (h : applyJournalEntry image entry = .ok image') : image.sequence ≤ image'.sequence := by
  unfold applyJournalEntry at h
  split at h
  · cases h
  split at h
  · cases h
    exact UInt64.le_refl _
  · cases h
  · cases h
    rw [JournalPayload.apply_sequence]
    split
    · rename_i hlater
      exact UInt64.le_of_lt hlater
    · rw [JournalPayload.apply_sequence]
      exact UInt64.le_refl _

lemma applyAll_sequence_le : ∀ {image : DurableImage},
    image.sequence ≤ (applyAll image entries).2.sequence := by
  induction entries with
  | nil => exact UInt64.le_refl _
  | cons entry rest ih =>
    intro image
    unfold applyAll
    split
    · exact UInt64.le_refl _
    · rename_i image' happly
      exact UInt64.le_trans (applyJournalEntry_sequence_le happly) ih

lemma TakesFirst.not_allOrNothing {position payloads} (h : TakesFirst store position payloads) :
    ∃ store', Interrupted store (stamp position payloads) store' ∧
      ¬ AllOrNothing store (stamp position payloads) store' := by
  obtain ⟨hmore, hkinds, hroom, image, first, hloads, hfresh, htaken⟩ := h
  rcases payloads with _ | ⟨p, _ | ⟨q, rest⟩⟩
  · simp at hmore
  · simp at hmore
  obtain ⟨haccepted, hfirst, hkept⟩ := htaken p rfl
  simp only [List.mem_cons, not_or] at hkinds
  have hsequence := applyJournalEntry_sequence hfirst (Ne.symm hkinds.1) hfresh
  refine ⟨_, .next haccepted .stop, ?_⟩
  rintro (hnone | ⟨before, after, hbefore, hall, hafter⟩)
  · -- the first entry has moved the position
    cases hloads.symm.trans (hnone.symm.trans hkept)
    exact UInt64.lt_irrefl _ (hsequence ▸ hfresh)
  cases hloads.symm.trans hbefore
  cases hkept.symm.trans hafter
  -- the second entry would have moved it further
  have hnext : position < position + 1 := by
    have hlast : position.toNat + 1 ≠ UInt64.size := fun heq => hroom (by
      rw [← UInt64.toNat_inj, UInt64.toNat_add]
      unfold UInt64.size at heq
      simp [heq])
    have hlt := position.toNat_lt
    rw [UInt64.lt_iff_toNat_lt, UInt64.toNat_add]
    unfold UInt64.size at hlast
    rw [Nat.mod_eq_of_lt (by simp; omega)]
    simp
  simp only [stamp, applyAll, hfirst] at hall
  split at hall
  · rename_i status herror
    cases hall
    simpa using applyJournalEntry_error herror
  rename_i second hsecond
  have hlater := applyJournalEntry_sequence hsecond (Ne.symm hkinds.2.1) (hsequence.symm ▸ hnext)
  have hle := @applyAll_sequence_le (stamp (position + 1 + 1) rest) second
  rw [hall, hlater, hsequence] at hle
  exact UInt64.lt_irrefl _ (UInt64.lt_of_lt_of_le hnext hle)

lemma FileDurableStore.Holds.append_whole {directory : FileDurableStore} {base held entry}
    (h : directory.Holds base held) (hfits : directory.Fits entry) :
    AllOrNothing directory [entry] (DurableStore.append directory entry).2 := by
  let e : EntryStore := ⟨base, held, h.whole.replays base⟩
  have hloads : loads directory = some e.image := h.loads_eq
  have hjournalable := hfits.journalable
  obtain ⟨image, happly⟩ := applyJournalEntry_accepts hjournalable.storable.within.kind_ne
    hjournalable.positioned e.image
  obtain ⟨-, -, himage⟩ := EntryStore.append_eq happly
  have hcall : StoreCall.Fits directory (.append entry) := hfits
  rcases (h.perform (e := e) hcall).2 with hsame | hkept
  · exact .inl (hsame.trans hloads.symm)
  · exact .inr ⟨_, image, hloads, by simp [applyAll, happly], hkept.trans (congrArg some himage)⟩

lemma length_stamp {payloads} : ∀ {position : UInt64},
    (stamp position payloads).length = payloads.length := by
  induction payloads with
  | nil => exact rfl
  | cons payload rest ih => simp [stamp, ih]

/-- **Group commit**: however `append_many_locked` ends, it leaves what an interruption of the
group leaves. On a store whose appends are whole that is all or nothing for a group of at most one
entry, and so it is on a directory with a whole journal if the entry fits; a longer group of which
the store takes the first entry may be left in between. -/
theorem group_commit_iff (s : Impl σ) (store : σ) (payloads : List JournalPayload)
    (hstore : s.store = some store) :
    (∃ store' after, Interrupted store (stamp s.nextJournalSequence payloads) store' ∧
      (s.appendManyLocked payloads).2.store = some after ∧
      (after = store' ∨ after = (flush store').2)) ∧
    (payloads.length ≤ 1 → AppendsWhole σ → ∀ store',
      Interrupted store (stamp s.nextJournalSequence payloads) store' →
        AllOrNothing store (stamp s.nextJournalSequence payloads) store') ∧
    (∀ (directory directory' : FileDurableStore) base held entry, directory.Holds base held →
      directory.Fits entry → Interrupted directory [entry] directory' →
        AllOrNothing directory [entry] directory') ∧
    (TakesFirst store s.nextJournalSequence payloads → ∃ store',
      Interrupted store (stamp s.nextJournalSequence payloads) store' ∧
        ¬ AllOrNothing store (stamp s.nextJournalSequence payloads) store') := by
  refine ⟨?_, fun hlength hwhole store' hstop => ?_, fun directory directory' base held entry h
    hfits hstop => ?_, TakesFirst.not_allOrNothing⟩
  · unfold Impl.appendManyLocked Persistence.appendMany
    simp only [hstore]
    split
    · exact ⟨store, store, .stop, hstore, .inl rfl⟩
    obtain ⟨store', hstop, hleft⟩ :=
      @appendBatch_interrupted σ _ (stamp s.nextJournalSequence payloads) store
    refine ⟨store', _, hstop, ?_, hleft⟩
    unfold Persistence.journal
    dsimp only
    split <;> rfl
  · refine hstop.allOrNothing (fun entry _ => hwhole store entry) ?_
    rwa [length_stamp]
  · refine hstop.allOrNothing (fun other hmem => ?_) (Nat.le_refl 1)
    cases List.mem_singleton.mp hmem
    exact h.append_whole hfits

lemma LogStore.appendsWhole : AppendsWhole LogStore := by
  intro store entry
  refine (append_image store entry).imp (fun hsame => congrArg some hsame) fun happly => ?_
  refine ⟨store.image, (append store entry).2.image, rfl, ?_, rfl⟩
  simp only [applyAll, happly]

theorem group_commit_two_entries :
    ∃ store, Duo.start.engine.store = some store ∧
      (∀ store', Interrupted store (stamp Duo.start.engine.nextJournalSequence
          [.upsertObject {}]) store' →
        AllOrNothing store (stamp Duo.start.engine.nextJournalSequence [.upsertObject {}])
          store') ∧
      ∃ store', Interrupted store (stamp Duo.start.engine.nextJournalSequence
          [.upsertObject {}, .upsertRegion {}]) store' ∧
        ¬ AllOrNothing store (stamp Duo.start.engine.nextJournalSequence
          [.upsertObject {}, .upsertRegion {}]) store' := by
  have hfacts : Duo.start.engine.store.any (fun store =>
      decide (store.image.sequence < Duo.start.engine.nextJournalSequence) &&
        store.script.isEmpty) = true ∧ Duo.start.engine.nextJournalSequence = 2 := by
    decide +kernel
  generalize Duo.start.engine = s at hfacts ⊢
  obtain ⟨hstore, hposition⟩ := hfacts
  obtain ⟨store, hstore, hready⟩ := (Option.any_eq_true _ _).mp hstore
  simp only [Bool.and_eq_true, decide_eq_true_eq, List.isEmpty_iff] at hready
  have htakes : TakesFirst store s.nextJournalSequence [.upsertObject {}, .upsertRegion {}] := by
    have hfirst : ∃ image', applyJournalEntry store.image
        ⟨.upsertObject {}, s.nextJournalSequence⟩ = .ok image' :=
      applyJournalEntry_accepts (fun h => by cases h) (by rw [hposition]; decide) store.image
    obtain ⟨image', happly⟩ := hfirst
    refine ⟨by decide, by simp, by rw [hposition]; decide, store.image, image', rfl, hready.1, ?_⟩
    rintro first ⟨⟩
    have happend : LogStore.append store ⟨.upsertObject {}, s.nextJournalSequence⟩ =
        (.success, { image := image', script := [] }) := by
      simp [LogStore.append, hready.2, happly]
    change (LogStore.append store _).1.isOk ∧ _ ∧ some (LogStore.append store _).2.image = _
    rw [happend]
    exact ⟨rfl, happly, rfl⟩
  exact ⟨store, hstore,
    (group_commit_iff s store [.upsertObject {}] hstore).2.1 (by decide) LogStore.appendsWhole,
    (group_commit_iff s store _ hstore).2.2.2 htakes⟩

/-- The registration of a replica whose second entry is refused: the stored object lists a
replica that is not stored. -/
theorem registerRegion_prefix_kept :
    let start : Sys LogStore := Sys.boot {} (some { script := .replicate 6 true ++ [false] })
    let s := start.run
      [.createDomain [1], Duo.join 1, .registerObject ⟨1⟩ [1] 8 (strictPolicy [1])]
    let kept (s : Sys LogStore) := s.engine.store.map fun store =>
      ((store.image.objects[(⟨1⟩ : ObjectId)]?).map (·.replicas),
        store.image.regions[(⟨1⟩ : RegionId)]?.isSome)
    kept s = some (some [], false) ∧ kept (s.step (Duo.region 1)) = some (some [⟨1⟩], false) := by
  decide +kernel

end CoherenceFabric
