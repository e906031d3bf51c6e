import CoherenceFabric.Invariants.Targets

/-!
Participants under their names, and writers under the recorded boot.

Only an admission files a participant or gives it another boot. Write authority is granted to the
recorded boot of a participant, so as long as no admission takes the boot away from a writer, every
writer has it.
-/

namespace CoherenceFabric

open FiniteMap

variable {σ : Type} {object' : ObjectRecord} {key : ObjectId} {other : Text} {e' e : Impl σ}

/-- Every name leads to the participant of that name. -/
def Records.Indexed (r : Records) : Prop :=
  All (fun name id => ∃ record, r.participants[id]? = some record ∧ record.id = id ∧
    record.name = name) r.participantIndex

/-- Every writer is a participant, under its recorded boot. -/
def Records.WritersRecorded (r : Records) : Prop :=
  All (fun _ (object : ObjectRecord) => object.writer ≠ .nil →
    ∃ record, r.participants[object.writer]? = some record ∧ object.writerBoot = record.boot)
    r.objects

lemma Records.Indexed.name_injective {r : Records} (h : r.Indexed) {name name' : Text}
    {id} (hid : r.participantIndex[name]? = some id)
    (hid' : r.participantIndex[name']? = some id) : name = name' := by
  obtain ⟨record, hrecord, -, rfl⟩ := h name id hid
  obtain ⟨record', hrecord', -, rfl⟩ := h name' id hid'
  cases hrecord.symm.trans hrecord'
  rfl

/-! ### Steps without an admission -/

/-- What no step but an admission changes of a participant. -/
structure ParticipantRecord.SameIncarnation (record record' : ParticipantRecord) : Prop where
  id : record'.id = record.id
  name : record'.name = record.name
  boot : record'.boot = record.boot
  fenced : record.lifecycle = .fenced → record'.lifecycle = .fenced
  retired : record.lifecycle = .retired → record'.lifecycle = .retired

section Step

variable {s : Sys σ} {a : Action}

lemma ParticipantStep.sameIncarnation {id known record record'}
    (ha : a.admits = false) (hknown : s.engine.participants[id]? = some known)
    (h : known.SameIncarnation record) (hstep : ParticipantStep s a id record record') :
    known.SameIncarnation record' := by
  cases hstep with
  | closeSession =>
    refine { h with fenced := fun hfenced => ?_, retired := fun hretired => ?_ }
    · simp [ParticipantRecord.closeSession, h.fenced hfenced]
    · simp [ParticipantRecord.closeSession, h.retired hretired]
  | fence current found live =>
    -- a fence is refused for a retired participant
    cases hknown.symm.trans found
    exact { h with fenced := fun _ => rfl, retired := fun hretired => absurd hretired live }
  | count => exact { h with }
  | replace new => rw [new.admits] at ha; cases ha

lemma sameIncarnation_forward [StoreMedium σ] (hrestart : a.Runs)
    (ha : a.admits = false) {id : ParticipantId} {record}
    (h : s.engine.participants[id]? = some record) :
    ∃ record', (s.step a).engine.participants[id]? = some record' ∧
      record.SameIncarnation record' := by
  obtain ⟨record', hrecord', hsteps⟩ := (step_evolved a hrestart).records.participants.forward h
  refine ⟨record', hrecord', ?_⟩
  clear hrecord'
  induction hsteps with
  | refl => exact ⟨rfl, rfl, rfl, fun h => h, fun h => h⟩
  | tail _ hstep ih => exact hstep.sameIncarnation ha h ih

lemma sameIncarnation_origin [StoreMedium σ] (hrestart : a.Runs)
    (ha : a.admits = false) {id : ParticipantId} {record'}
    (h : (s.step a).engine.participants[id]? = some record') :
    ∃ record, s.engine.participants[id]? = some record ∧ record.SameIncarnation record' := by
  cases (step_evolved a hrestart).records.participants.origin id record' h with
  | old found =>
    obtain ⟨record'', hrecord'', hsame⟩ := sameIncarnation_forward hrestart ha found
    cases h.symm.trans hrecord''
    exact ⟨_, found, hsame⟩
  | new _ admitted => rw [admitted.admits] at ha; cases ha

lemma step_participantIndex [StoreMedium σ] (hrestart : a.Runs) (ha : a.admits = false) :
    (s.step a).engine.participantIndex = s.engine.participantIndex :=
  (step_evolved a hrestart).records.participantIndex.resolve_left (by simp [ha])

lemma ObjectEffect.writer_cases {object} (h : ObjectEffect s a key object object') :
    object'.writer = .nil ∨
      object'.writer = object.writer ∧ object'.writerBoot = object.writerBoot ∨
      ∃ participant, s.engine.participants[object'.writer]? = some participant ∧
        participant.lifecycle ≠ .fenced ∧ object'.writerBoot = participant.boot := by
  cases h with
  | keep same => exact .inr (.inl same.writer)
  | revoke _ _ _ _ revoked => exact .inl revoked.writer
  | transfer transfers =>
    have hgranted := resolveLocked_granted transfers.granted
    exact .inr (.inr ⟨_, hgranted.participant_found, hgranted.participant_live.1, rfl⟩)
  | relinquish _ _ _ released => exact .inl released.writer
  | transferFailed | retire => exact .inl rfl
  | shutdown _ _ down => exact .inl down.writer
  | _ => exact .inr (.inl ⟨rfl, rfl⟩)

end Step

section Kept

variable [ReplayStore σ] {s : Sys σ} {a : Action}

lemma Records.Indexed.step (h : s.engine.toRecords.Indexed)
    (hrestart : a.Runs) (ha : a.admits = false) : (s.step a).engine.toRecords.Indexed := by
  intro name id hid
  rw [step_participantIndex hrestart ha] at hid
  obtain ⟨record, hrecord, hown, hname⟩ := h name id hid
  obtain ⟨record', hrecord', hsame⟩ := sameIncarnation_forward hrestart ha hrecord
  exact ⟨record', hrecord', hsame.id.trans hown, hsame.name.trans hname⟩

lemma writer_origin (hkeyed : LiveKeyed s) (hrestart : a.Runs)
    (h : (s.step a).engine.objects[key]? = some object') (hwriter : object'.writer ≠ .nil) :
    (∃ object, s.engine.objects[key]? = some object ∧ object'.writer = object.writer ∧
        object'.writerBoot = object.writerBoot) ∨
      ∃ participant, s.engine.participants[object'.writer]? = some participant ∧
        participant.lifecycle ≠ .fenced ∧ object'.writerBoot = participant.boot := by
  rcases (step_changes hkeyed hrestart).objects.origin h with ⟨object, hobject, hchange⟩ | ⟨-, hnew⟩
  · rcases hchange.effect.writer_cases with hnil | hsame | hgranted
    · exact absurd hnil hwriter
    · exact .inl ⟨object, hobject, hsame⟩
    · exact .inr hgranted
  · cases hnew
    exact absurd rfl hwriter

lemma Records.WritersRecorded.origin (h : s.engine.toRecords.WritersRecorded) (hkeyed : LiveKeyed s)
    (hrestart : a.Runs)
    (hobject' : (s.step a).engine.objects[key]? = some object') (hwriter : object'.writer ≠ .nil) :
    ∃ record, s.engine.participants[object'.writer]? = some record ∧
      object'.writerBoot = record.boot := by
  rcases writer_origin hkeyed hrestart hobject' hwriter with
    ⟨object, hobject, hsame, hboot⟩ | ⟨participant, hfound, -, hboot⟩
  · rw [hsame] at hwriter ⊢
    obtain ⟨record, hrecord, hrecorded⟩ := h key object hobject hwriter
    exact ⟨record, hrecord, hboot.trans hrecorded⟩
  · exact ⟨participant, hfound, hboot⟩

lemma Records.WritersRecorded.step (h : s.engine.toRecords.WritersRecorded) (hkeyed : LiveKeyed s)
    (hrestart : a.Runs) (ha : a.admits = false) : (s.step a).engine.toRecords.WritersRecorded := by
  intro key object' hobject' hwriter
  obtain ⟨record, hrecord, hboot⟩ := h.origin hkeyed hrestart hobject' hwriter
  obtain ⟨record', hrecord', hsame⟩ := sameIncarnation_forward hrestart ha hrecord
  exact ⟨record', hrecord', hboot.trans hsame.boot.symm⟩

/-- The participant of a name has the boot, or it cannot be admitted, or it is fenced and writes
nothing: its admission under the boot takes the authority from nobody. -/
def Records.Vacated (r : Records) (name : Text) (boot : ParticipantBootId) : Prop :=
  ∀ id record, r.participantIndex[name]? = some id → r.participants[id]? = some record →
    record.boot = boot ∨ record.lifecycle = .retired ∨
      record.lifecycle = .fenced ∧
        All (fun _ (object : ObjectRecord) => object.writer ≠ .nil → object.writer ≠ id) r.objects

lemma writes_nothing (hkeyed : LiveKeyed s) (hrestart : a.Runs) {id record}
    (hrecord : s.engine.participants[id]? = some record) (hfenced : record.lifecycle = .fenced)
    (h : All (fun _ (object : ObjectRecord) => object.writer ≠ .nil → object.writer ≠ id)
      s.engine.objects) :
    All (fun _ (object : ObjectRecord) => object.writer ≠ .nil → object.writer ≠ id)
      (s.step a).engine.objects := by
  rintro key object' hobject' hwriter rfl
  rcases writer_origin hkeyed hrestart hobject' hwriter with
    ⟨object, hobject, hsame, -⟩ | ⟨participant, hfound, hlive, -⟩
  · rw [hsame] at hwriter
    exact h key object hobject hwriter hsame.symm
  · cases hrecord.symm.trans hfound
    exact hlive hfenced

lemma Records.Vacated.step {name : Text} {boot}
    (h : s.engine.toRecords.Vacated name boot) (hkeyed : LiveKeyed s)
    (hrestart : a.Runs) (ha : a.admits = false) :
    (s.step a).engine.toRecords.Vacated name boot := by
  intro id record' hid hrecord'
  rw [step_participantIndex hrestart ha] at hid
  obtain ⟨record, hrecord, hsame⟩ := sameIncarnation_origin hrestart ha hrecord'
  rcases h id record hid hrecord with hboot | hretired | ⟨hfenced, hwrites⟩
  · exact .inl (hsame.boot.trans hboot)
  · exact .inr (.inl (hsame.retired hretired))
  · exact .inr (.inr ⟨hsame.fenced hfenced, writes_nothing hkeyed hrestart hrecord hfenced hwrites⟩)

end Kept

/-! ### Admissions -/

section Admission

variable [DurableStore σ]

/-- What an admission does to the participants and their names. -/
inductive Admission (s : Impl σ) (name : Text) (boot : ParticipantBootId) :
    Result ParticipantRecord → Impl σ → Prop
  | refused {status s'} (participants : s'.participants = s.participants)
      (index : s'.participantIndex = s.participantIndex) : Admission s name boot (.error status) s'
  | known {id record record' s'} (indexed : s.participantIndex[name]? = some id)
      (found : s.participants[id]? = some record) (own : record'.id = id ∧ record'.name = name)
      (boots : record'.boot = record.boot ∨ record.boot ≠ boot ∧ record.lifecycle ≠ .retired)
      (participants : s'.participants = s.participants.insert id record')
      (index : s'.participantIndex = s.participantIndex) : Admission s name boot (.ok record') s'
  | fresh {record s'} (unknown : s.participantIndex[name]? = none)
      (own : record.id = ⟨s.nextParticipantId⟩ ∧ record.name = name)
      (participants : s'.participants = s.participants.insert record.id record)
      (index : s'.participantIndex = s.participantIndex.insert name record.id) :
      Admission s name boot (.ok record) s'

lemma retireSupersededRegions_roster (s : Impl σ) (participant : ParticipantId)
    (boot : ParticipantBootId) :
    (s.retireSupersededRegions participant boot).participants = s.participants ∧
      (s.retireSupersededRegions participant boot).participantIndex = s.participantIndex := by
  unfold Impl.retireSupersededRegions
  refine List.foldlRecOn (motive := fun e : Impl σ => e.participants = s.participants ∧
    e.participantIndex = s.participantIndex) _ _ ⟨rfl, rfl⟩ fun e h region _ => ?_
  unfold Impl.releaseRegionNameLocked
  dsimp only
  split <;> exact h

theorem registerParticipant_admission {s : Impl σ} (hindexed : s.toRecords.Indexed) (name : Text)
    (boot : ParticipantBootId) (epoch : CoordinatorEpoch) (label : Text) :
    Admission s name boot (s.registerParticipant name boot epoch label).1
      (s.registerParticipant name boot epoch label).2 := by
  unfold Impl.registerParticipant
  split
  · exact .refused rfl rfl
  cases hname : s.participantIndex[name]? with
  | none =>
    unfold Impl.admitParticipant
    dsimp only
    split
    · exact .refused rfl rfl
    · exact .fresh hname ⟨rfl, rfl⟩ rfl rfl
  | some id =>
    obtain ⟨record, hrecord, rfl, rfl⟩ := hindexed name id hname
    simp only [hrecord, Option.getD_some]
    split
    · exact .known hname hrecord ⟨rfl, rfl⟩ (.inl rfl) rfl rfl
    rename_i hother
    split
    · exact .refused rfl rfl
    rename_i hlive
    obtain ⟨hparticipants, hindex⟩ := retireSupersededRegions_roster s record.id record.boot
    unfold Impl.admitParticipant
    dsimp only
    split
    · exact .refused hparticipants hindex
    refine .known hname hrecord ⟨rfl, rfl⟩ (.inr ⟨fun hboot => hother ⟨hboot, hlive⟩, hlive⟩)
      (congrArg (fun m => Std.ExtTreeMap.insert m _ _) hparticipants) ?_
    -- the name is filed again under the identity it has
    change Std.ExtTreeMap.insert
      (s.retireSupersededRegions record.id record.boot).participantIndex record.name
        record.id = _
    rw [hindex, insert_eq_modify (fun _ => record.id) hname, modify_eq_self]
    intro id hid
    exact (Option.some.inj (hname.symm.trans hid))

end Admission

lemma Admission.named {name boot result} (h : Admission e name boot result e') {participant}
    (hname : e.participantIndex[other]? = some participant) :
    e'.participantIndex[other]? = some participant := by
  cases h with
  | refused participants index | known indexed found own boots participants index =>
    rw [index]; exact hname
  | fresh unknown own participants index =>
    rw [index, getElem?_insert_ne]
    · exact hname
    · rintro rfl
      rw [unknown] at hname
      cases hname

lemma Admission.admitted {name boot record}
    (h : Admission e name boot (.ok record) e') : e'.participantIndex[name]? = some record.id := by
  cases h with
  | known indexed found own boots participants index => rw [index, indexed, own.1]
  | fresh unknown own participants index => rw [index]; exact getElem?_insert_self

section Admitted

variable [ReplayStore σ] {s : Sys σ} {name : Text} {boot : ParticipantBootId}
  {epoch : CoordinatorEpoch} {label : Text}

/-- An admission under a new name takes an identity that is not in use. -/
def Impl.Spare (s : Impl σ) (name : Text) : Prop :=
  s.participantIndex[name]? = none → s.participants[(⟨s.nextParticipantId⟩ : ParticipantId)]? = none

lemma step_admission (h : s.engine.toRecords.Indexed) (name : Text) (boot : ParticipantBootId)
    (epoch : CoordinatorEpoch) (label : Text) :
    Admission s.engine name boot (s.engine.registerParticipant name boot epoch label).1
      (s.step (.registerParticipant name boot epoch label)).engine :=
  registerParticipant_admission h name boot epoch label

lemma Records.Indexed.enroll (h : s.engine.toRecords.Indexed) (hspare : s.engine.Spare name) :
    (s.step (.registerParticipant name boot epoch label)).engine.toRecords.Indexed := by
  have hadmission := step_admission h name boot epoch label
  revert hadmission
  generalize (s.engine.registerParticipant name boot epoch label).1 = result
  generalize (s.step (.registerParticipant name boot epoch label)).engine = e
  intro hadmission
  cases hadmission with
  | refused participants index =>
    unfold Records.Indexed
    rw [participants, index]
    exact h
  | @known id record record' _ indexed found own boots participants index =>
    intro other key hkey
    rw [index] at hkey
    rw [participants]
    by_cases hk : id = key
    · subst hk
      cases h.name_injective indexed hkey
      exact ⟨record', getElem?_insert_self, own⟩
    · rw [getElem?_insert_ne hk]
      exact h other key hkey
  | @fresh record _ unknown own participants index =>
    intro other key hkey
    rw [index] at hkey
    rw [participants]
    rcases insert_cases hkey with ⟨rfl, rfl⟩ | ⟨-, hkey⟩
    · exact ⟨record, getElem?_insert_self, rfl, own.2⟩
    obtain ⟨known, hknown, hown⟩ := h other key hkey
    have hne : record.id ≠ key := by
      rintro rfl
      rw [own.1, hspare unknown] at hknown
      cases hknown
    exact ⟨known, by rw [getElem?_insert_ne hne]; exact hknown, hown⟩

lemma Records.WritersRecorded.enroll (h : s.engine.toRecords.WritersRecorded)
    (hindexed : s.engine.toRecords.Indexed) (hkeyed : LiveKeyed s) (hspare : s.engine.Spare name)
    (hvacated : s.engine.toRecords.Vacated name boot) :
    (s.step (.registerParticipant name boot epoch label)).engine.toRecords.WritersRecorded := by
  intro key object' hobject' hwriter
  obtain ⟨record, hrecord, hboot⟩ := h.origin hkeyed (by simp) hobject' hwriter
  have hadmission := step_admission hindexed name boot epoch label
  have hwrites : ∀ {id} {known : ParticipantRecord}, s.engine.participants[id]? = some known → _ :=
    writes_nothing hkeyed (a := .registerParticipant name boot epoch label) (by simp)
  revert hobject' hadmission hwrites
  generalize (s.engine.registerParticipant name boot epoch label).1 = result
  generalize (s.step (.registerParticipant name boot epoch label)).engine = e
  intro hobject' hadmission hnothing
  cases hadmission with
  | refused participants index => exact ⟨record, by rw [participants]; exact hrecord, hboot⟩
  | @known id known record' _ indexed found own boots participants index =>
    rw [participants]
    by_cases hid : id = object'.writer
    · subst hid
      cases found.symm.trans hrecord
      refine ⟨record', getElem?_insert_self, hboot.trans ?_⟩
      rcases boots with hsame | ⟨hdiffers, hlive⟩
      · exact hsame.symm
      -- a participant that gets a new boot writes nothing
      exfalso
      rcases hvacated _ _ indexed found with hsame | hretired | ⟨hfenced, hwrites⟩
      · exact hdiffers hsame
      · exact hlive hretired
      · exact hnothing found hfenced hwrites key object' hobject' hwriter rfl
    · exact ⟨record, by rw [getElem?_insert_ne hid]; exact hrecord, hboot⟩
  | @fresh new _ unknown own participants index =>
    have hne : new.id ≠ object'.writer := by
      intro heq
      rw [← heq, own.1, hspare unknown] at hrecord
      cases hrecord
    exact ⟨record, by rw [participants, getElem?_insert_ne hne]; exact hrecord, hboot⟩

/-- An admission leaves the participants of other names as they are. -/
lemma Records.Vacated.enroll {boot' : ParticipantBootId}
    (h : s.engine.toRecords.Vacated other boot') (hindexed : s.engine.toRecords.Indexed)
    (hkeyed : LiveKeyed s) (hspare : s.engine.Spare name) (hother : other ≠ name) :
    (s.step (.registerParticipant name boot epoch label)).engine.toRecords.Vacated other boot' := by
  intro id record' hid hrecord'
  have hbefore : s.engine.participantIndex[other]? = some id ∧
      s.engine.participants[id]? = some record' := by
    have hadmission := step_admission hindexed name boot epoch label
    revert hid hrecord' hadmission
    generalize (s.engine.registerParticipant name boot epoch label).1 = result
    generalize (s.step (.registerParticipant name boot epoch label)).engine = e
    intro hid hrecord' hadmission
    cases hadmission with
    | refused participants index => exact ⟨index ▸ hid, participants ▸ hrecord'⟩
    | known indexed found own boots participants index =>
      rw [index] at hid
      rw [participants] at hrecord'
      rcases insert_cases hrecord' with ⟨rfl, -⟩ | ⟨-, hrecord'⟩
      · exact absurd (hindexed.name_injective hid indexed) hother
      · exact ⟨hid, hrecord'⟩
    | fresh unknown own participants index =>
      rw [index, getElem?_insert_ne (Ne.symm hother)] at hid
      rw [participants] at hrecord'
      rcases insert_cases hrecord' with ⟨rfl, -⟩ | ⟨-, hrecord'⟩
      · obtain ⟨known, hknown, -⟩ := hindexed other _ hid
        rw [own.1, hspare unknown] at hknown
        cases hknown
      · exact ⟨hid, hrecord'⟩
  rcases h id record' hbefore.1 hbefore.2 with hboot | hretired | ⟨hfenced, hwrites⟩
  · exact .inl hboot
  · exact .inr (.inl hretired)
  · exact .inr (.inr ⟨hfenced, writes_nothing hkeyed (by simp) hbefore.2 hfenced hwrites⟩)

end Admitted

/-! ### A system that has just booted -/

lemma buildIndex_origin {κ} [Ord κ] [Std.TransOrd κ] [Std.LawfulEqOrd κ] {tag}
    {α} {m nameOf} {keep : α → Bool} {name : κ}
    {id : StrongId tag} (h : (buildIndex m nameOf keep)[name]? = some id) :
    ∃ a, m[id]? = some a ∧ nameOf a = name := by
  have hfold : ∀ (entries : List (StrongId tag × α)) (index : Map κ (StrongId tag)),
      (entries.foldl (fun index entry =>
        if keep entry.2 then index.insertIfNew (nameOf entry.2) entry.1 else index) index)[name]? =
          some id →
      index[name]? = some id ∨ ∃ a, (id, a) ∈ entries ∧ nameOf a = name := by
    intro entries
    induction entries with
    | nil => exact fun _ h => .inl h
    | cons entry entries ih =>
      intro index hindex
      rcases ih _ hindex with hbefore | ⟨a, ha, hname⟩
      · dsimp only at hbefore
        split at hbefore
        · rw [Std.ExtTreeMap.getElem?_insertIfNew] at hbefore
          split at hbefore
          · rename_i hnew
            cases hbefore
            exact .inr ⟨entry.2, List.mem_cons_self, Std.LawfulEqOrd.eq_of_compare hnew.1⟩
          · exact .inl hbefore
        · exact .inl hbefore
      · exact .inr ⟨a, List.mem_cons_of_mem _ ha, hname⟩
  rcases hfold _ _ h with hempty | ⟨a, ha, hname⟩
  · simp at hempty
  · exact ⟨a, mem_toList_iff_getElem?_eq_some.mp ha, hname⟩

section Boot

variable [ReplayStore σ]

lemma Records.Indexed.boot (config : EngineConfig) (store : Option σ) :
    (Sys.boot config store).engine.toRecords.Indexed := by
  have hboot := boot_cases config store
  generalize Sys.boot config store = s at hboot ⊢
  cases hboot with
  | detached | refused => exact all_empty
  | @recovered store load image opened =>
    rw [recoverFrom_toRecords]
    have hrestored := restoreImage_restored
      (Impl.attached config (DurableStore.openStore store).2) image
    intro name id hid
    rw [hrestored.participantIndex] at hid
    obtain ⟨record, hrecord, hname⟩ := buildIndex_origin hid
    obtain ⟨count, hparticipants⟩ := hrestored.participants
    obtain ⟨kept, -, hid, rfl⟩ := restoreMap_origin hrecord
    refine ⟨{ kept.restore with regionCount := count id }, ?_, hid, hname⟩
    rw [hparticipants, getElem?_map, hrecord]
    rfl

lemma Records.WritersRecorded.boot (config : EngineConfig) (store : Option σ) :
    (Sys.boot config store).engine.toRecords.WritersRecorded := by
  have hnone : All (fun _ (object : ObjectRecord) => object.writer = .nil)
      (Sys.boot config store).engine.objects :=
    boot_objects fun image object previous epoch sequence =>
      (image.restoreObject_restored object previous epoch sequence).writer
  exact fun key object hobject hwriter => absurd (hnone key object hobject) hwriter

end Boot

end CoherenceFabric
