import CoherenceFabric.Coordinator.Serve
import CoherenceFabric.Invariants.Roster
import CoherenceFabric.Properties.Containment

/-!
One live incarnation of each participant.

A handshake replaces the session of its participant in one section, registers the incarnation in
another and enters the new session into the tables in a third. While no two handshakes of one name
are between their replacement and their entry, an acknowledged session that is not replaced is the
only one of its participant, and every writer has the recorded boot. Two handshakes that overlap
there are both acknowledged.
-/

namespace CoherenceFabric

open FiniteMap Transition ServeThread

variable {σ : Type} {phase : Phase} {participant : ParticipantId} {name : Text} {i : Nat}

/-! ### Where a thread stands -/

namespace ServeThread

/-- The session of a participant has been acknowledged, is not replaced and has not been taken
down. -/
def acknowledged (thread : ServeThread) : Bool :=
  (thread.phase = .serving || thread.phase = .ending) && !thread.session.observer &&
    !thread.session.replaced

/-- The session of a participant is in the tables and not replaced. -/
def standing (thread : ServeThread) : Bool :=
  (thread.phase = .inserted || thread.phase = .serving || thread.phase = .ending) &&
    !thread.session.observer && !thread.session.replaced

def shaking (thread : ServeThread) : Bool :=
  match thread.phase with
  | .greeted | .superseding _ | .cleared | .registered => true
  | _ => false

/-- The handshake of a participant is between the replacement and the entry of its session. -/
def admitting (thread : ServeThread) : Bool :=
  !thread.hello.observer &&
    match thread.phase with
    | .superseding _ | .cleared | .registered => true
    | _ => false

lemma standing_of_acknowledged {thread : ServeThread} (h : thread.acknowledged = true) :
    thread.standing = true := by
  simp only [acknowledged, standing, Bool.and_eq_true, Bool.or_eq_true] at h ⊢
  tauto

/-- What a handshake under way knows of the participants. -/
structure Prepared (r : Records) (thread : ServeThread) : Prop where
  named : thread.standing = true ∨ thread.hello.observer = false ∧ thread.phase = .registered →
    r.participantIndex[thread.hello.participantName]? = some thread.session.participant
  superseding : ∀ participant, thread.phase = .superseding participant →
    thread.hello.observer = false ∧
      r.participantIndex[thread.hello.participantName]? = some participant
  cleared : thread.phase = .cleared →
    thread.hello.observer = false ∧ r.Vacated thread.hello.participantName thread.hello.boot

/-- Two threads have different sessions, and beside a handshake there is no session and no other
handshake of its name. -/
structure Apart (thread other : ServeThread) : Prop where
  session : thread.session.id ≠ .nil → thread.session.id ≠ other.session.id
  name : thread.admitting = true → other.admitting = true ∨ other.standing = true →
    thread.hello.participantName ≠ other.hello.participantName

/-- A thread goes on with its session and does not begin or advance a handshake. -/
structure Relaxes (thread thread' : ServeThread) : Prop where
  id : thread'.session.id = thread.session.id
  participant : thread'.session.participant = thread.session.participant
  hello : thread'.hello = thread.hello
  standing : thread'.standing = true → thread.standing = true
  phase : thread'.phase = thread.phase ∨ thread'.shaking = false

variable {r : Records} {thread thread' other : ServeThread}

lemma Relaxes.refl (thread : ServeThread) : thread.Relaxes thread :=
  ⟨rfl, rfl, rfl, fun h => h, .inl rfl⟩

lemma Relaxes.phase_past (hstanding : ServeThread.standing { thread with phase := phase } = true →
      thread.standing = true)
    (hshaking : ServeThread.shaking { thread with phase := phase } = false) :
    thread.Relaxes { thread with phase := phase } :=
  ⟨rfl, rfl, rfl, hstanding, .inr hshaking⟩

lemma Relaxes.closed (thread : ServeThread) : thread.Relaxes { thread with phase := .closed } :=
  .phase_past nofun rfl

lemma shaking_of_admitting (h : thread.admitting = true) : thread.shaking = true := by
  simp only [admitting, shaking, Bool.and_eq_true] at h ⊢
  split at h <;> simp_all

lemma Relaxes.admitting (h : thread.Relaxes thread') (hadmitting : thread'.admitting = true) :
    thread.admitting = true := by
  rcases h.phase with hphase | hphase
  · simp only [ServeThread.admitting, h.hello, hphase] at hadmitting ⊢
    exact hadmitting
  · rw [shaking_of_admitting hadmitting] at hphase
    cases hphase

lemma Relaxes.shaking (h : thread.Relaxes thread') (hshaking : thread.shaking = false) :
    thread'.shaking = false := by
  rcases h.phase with hphase | hphase
  · simp only [ServeThread.shaking, hphase] at hshaking ⊢
    exact hshaking
  · exact hphase

lemma Prepared.relax (h : thread.Prepared r) (hrelaxes : thread.Relaxes thread') :
    thread'.Prepared r := by
  have hphase := hrelaxes.phase
  constructor
  · rw [hrelaxes.hello, hrelaxes.participant]
    rintro (hstanding | ⟨hobserver, hregistered⟩)
    · exact h.named (.inl (hrelaxes.standing hstanding))
    · rcases hphase with hphase | hphase
      · exact h.named (.inr ⟨hobserver, hphase.symm.trans hregistered⟩)
      · simp [shaking, hregistered] at hphase
  · rw [hrelaxes.hello]
    intro participant hsuperseding
    rcases hphase with hphase | hphase
    · exact h.superseding participant (hphase.symm.trans hsuperseding)
    · simp [shaking, hsuperseding] at hphase
  rw [hrelaxes.hello]
  intro hcleared
  rcases hphase with hphase | hphase
  · exact h.cleared (hphase.symm.trans hcleared)
  · simp [shaking, hcleared] at hphase

lemma Apart.relax (h : thread.Apart other ∧ other.Apart thread)
    (hrelaxes : thread.Relaxes thread') :
    thread'.Apart other ∧ other.Apart thread' := by
  refine ⟨⟨?_, ?_⟩, ⟨?_, ?_⟩⟩
  · rw [hrelaxes.id]
    exact h.1.session
  · rw [hrelaxes.hello]
    exact fun hadmitting => h.1.name (hrelaxes.admitting hadmitting)
  · rw [hrelaxes.id]
    exact h.2.session
  · rw [hrelaxes.hello]
    exact fun hadmitting hother => h.2.name hadmitting
      (hother.imp hrelaxes.admitting hrelaxes.standing)

end ServeThread

/-! ### Engine steps below the threads -/

section Engine

variable [ReplayStore σ] {s : Sys σ} {thread : ServeThread}

lemma ServeThread.Prepared.step {a} (h : thread.Prepared s.engine.toRecords)
    (hkeyed : LiveKeyed s) (hrestart : a.Runs) (ha : a.admits = false) :
    thread.Prepared (s.step a).engine.toRecords where
  named hcase := by rw [step_participantIndex hrestart ha]; exact h.named hcase
  superseding participant hphase := by
    rw [step_participantIndex hrestart ha]
    exact h.superseding participant hphase
  cleared hphase :=
    ⟨(h.cleared hphase).1, (h.cleared hphase).2.step hkeyed hrestart ha⟩

/-- The fence of the handshake leaves nothing that its admission could take away. -/
lemma vacated_fence (hindexed : s.engine.toRecords.Indexed)
    (hwriters : s.engine.toRecords.WritersRecorded)
    (hname : s.engine.participantIndex[name]? = some participant) (boot : ParticipantBootId)
    (reason : Text) :
    (s.step (.fenceParticipant participant s.engine.epoch reason)).engine.toRecords.Vacated name
      boot := by
  intro id record' hid hrecord'
  rw [step_participantIndex (by simp) rfl] at hid
  cases hname.symm.trans hid
  obtain ⟨record, hrecord, -, -⟩ := hindexed name participant hname
  by_cases hlive : record.lifecycle = .retired
  · obtain ⟨_, hafter, hsame⟩ := sameIncarnation_forward (a := .fenceParticipant participant
      s.engine.epoch reason) (by simp) rfl hrecord
    cases hrecord'.symm.trans hafter
    exact .inr (.inl (hsame.retired hlive))
  obtain ⟨-, -, -, hparticipants⟩ :=
    fenceParticipant_cutsOff reason rfl hrecord hlive
  refine .inr (.inr ⟨?_, ?_⟩)
  · change (s.engine.fenceParticipant participant s.engine.epoch reason).2.participants[_]? = _
      at hrecord'
    rw [hparticipants, getElem?_insert_self] at hrecord'
    cases hrecord'
    rfl
  intro key object' hobject' hwriter hown
  obtain ⟨f, hf⟩ := fenceParticipant_object reason rfl hrecord hlive key
  obtain ⟨object, hobject, rfl⟩ := Option.map_eq_some_iff.mp (hf.symm.trans hobject')
  obtain ⟨reads, touched, -, ⟨-, -, hcut⟩ | ⟨hother, hcut⟩⟩ :=
    object.cutOff_cases participant record.boot (s.engine.dirtyLossPolicyOf object)
      s.engine.tick.sequence
  · rw [hcut] at hwriter
    exact hwriter (object.revokeWriter_spec _ s.engine.tick.sequence).writer
  -- a writer that is left has the recorded boot, so it is another participant
  rw [hcut] at hwriter hown
  subst hown
  obtain ⟨writer, hfound, hboot⟩ := hwriters key object hobject hwriter
  cases hrecord.symm.trans hfound
  exact hother ⟨rfl, hboot⟩

lemma ServeThread.Prepared.enroll (h : thread.Prepared s.engine.toRecords) (hkeyed : LiveKeyed s)
    (hindexed : s.engine.toRecords.Indexed) (hspare : s.engine.Spare name)
    (hother : thread.phase = .cleared → thread.hello.participantName ≠ name)
    (boot : ParticipantBootId) (epoch : CoordinatorEpoch) (label : Text) :
    thread.Prepared (s.step (.registerParticipant name boot epoch label)).engine.toRecords where
  named hcase := (step_admission hindexed name boot epoch label).named (h.named hcase)
  superseding participant hphase :=
    ⟨(h.superseding participant hphase).1,
      (step_admission hindexed name boot epoch label).named (h.superseding participant hphase).2⟩
  cleared hphase :=
    ⟨(h.cleared hphase).1,
      (h.cleared hphase).2.enroll hindexed hkeyed hspare (hother hphase)⟩

end Engine

/-! ### All threads together -/

lemma getElem?_set_cases {α} {l : List α} {k a b}
    (h : (l.set i a)[k]? = some b) : k = i ∧ b = a ∨ i ≠ k ∧ l[k]? = some b := by
  rw [List.getElem?_set] at h
  split at h
  · rename_i heq
    split at h
    · exact .inl ⟨heq.symm, (Option.some.inj h).symm⟩
    · cases h
  · exact .inr ⟨‹_›, h⟩

namespace Coordinator

variable (c : Coordinator σ)

section Consistency

variable [ReplayStore σ]

structure Consistent (c : Coordinator σ) : Prop where
  keyed : LiveKeyed c.sys
  indexed : c.sys.engine.toRecords.Indexed
  writers : c.sys.engine.toRecords.WritersRecorded
  /-- A session in the table is one of a thread past its handshake. -/
  listed : All (fun id i => ∃ thread, c.threads[i]? = some thread ∧ thread.session.id = id ∧
    thread.shaking = false) c.sessions
  /-- A session that stands has its place in both tables. -/
  entered : ∀ (i : Nat) (thread : ServeThread), c.threads[i]? = some thread →
    thread.standing = true →
    thread.session.id ≠ .nil ∧ c.sessions[thread.session.id]? = some i ∧
      c.participantSession[thread.session.participant]? = some thread.session.id
  prepared : ∀ (i : Nat) (thread : ServeThread), c.threads[i]? = some thread →
    thread.Prepared c.sys.engine.toRecords
  apart : ∀ (i k : Nat) (thread other : ServeThread), c.threads[i]? = some thread →
    c.threads[k]? = some other → i ≠ k →
    thread.Apart other

variable {c : Coordinator σ} {i : Nat} {thread thread' : ServeThread}
  {participantSession : Map ParticipantId SessionId} {sessions : Map SessionId Nat}

lemma Consistent.engine (h : c.Consistent) {a} (hrestart : a.Runs)
    (ha : a.admits = false) : { c with sys := c.sys.step a }.Consistent where
  keyed := h.keyed.step
  indexed := h.indexed.step hrestart ha
  writers := h.writers.step h.keyed hrestart ha
  listed := h.listed
  entered := h.entered
  prepared k other hother := (h.prepared k other hother).step h.keyed hrestart ha
  apart := h.apart

variable (h : c.Consistent) (hthread : c.threads[i]? = some thread)
include h hthread

lemma Consistent.update
    (hlisted : ∀ (id : SessionId) k, sessions[id]? = some k →
      k = i ∧ thread'.session.id = id ∧ thread'.shaking = false ∨ i ≠ k ∧ c.sessions[id]? = some k)
    (hentered : thread'.standing = true → thread'.session.id ≠ .nil ∧
      sessions[thread'.session.id]? = some i ∧
        participantSession[thread'.session.participant]? = some thread'.session.id)
    (hothers : ∀ (k : Nat) (other : ServeThread), c.threads[k]? = some other → i ≠ k →
      other.standing = true → sessions[other.session.id]? = some k ∧
        participantSession[other.session.participant]? = some other.session.id)
    (hprepared : thread'.Prepared c.sys.engine.toRecords)
    (hapart : ∀ (k : Nat) (other : ServeThread), c.threads[k]? = some other → i ≠ k →
      thread'.Apart other ∧ other.Apart thread') :
    { c.setThread i thread' with
      sessions := sessions, participantSession := participantSession }.Consistent := by
  have hcases : ∀ {k other}, (c.setThread i thread').threads[k]? = some other →
      k = i ∧ other = thread' ∨ i ≠ k ∧ c.threads[k]? = some other := fun hother =>
    getElem?_set_cases hother
  refine { h with listed := ?_, entered := ?_, prepared := ?_, apart := ?_ }
  · intro id k hk
    rcases hlisted id k hk with ⟨rfl, hown, hshaking⟩ | ⟨hne, hk⟩
    · exact ⟨thread', List.getElem?_set_self (List.getElem?_eq_some_iff.mp hthread).1, hown,
        hshaking⟩
    · obtain ⟨other, hother, hown⟩ := h.listed id k hk
      exact ⟨other, (List.getElem?_set_ne hne).trans hother, hown⟩
  · intro k other hother hstanding
    rcases hcases hother with ⟨rfl, rfl⟩ | ⟨hk, hother⟩
    · exact hentered hstanding
    · exact ⟨(h.entered k other hother hstanding).1, hothers k other hother hk hstanding⟩
  · intro k other hother
    rcases hcases hother with ⟨rfl, rfl⟩ | ⟨-, hother⟩
    · exact hprepared
    · exact h.prepared k other hother
  intro k l other other' hother hother' hne
  rcases hcases hother with ⟨rfl, rfl⟩ | ⟨hk, hbefore⟩
  · rcases hcases hother' with ⟨rfl, rfl⟩ | ⟨hl, hbefore'⟩
    · exact absurd rfl hne
    · exact (hapart l other' hbefore' hl).1
  · rcases hcases hother' with ⟨rfl, rfl⟩ | ⟨-, hbefore'⟩
    · exact (hapart k other hbefore hk).2
    · exact h.apart k l other other' hbefore hbefore' hne

lemma Consistent.withdraw
    (hrelaxes : thread.Relaxes thread')
    (hlisted : ∀ (id : SessionId) k, sessions[id]? = some k → c.sessions[id]? = some k)
    (hentered : ∀ (k : Nat) (other : ServeThread), c.threads[k]? = some other →
      (i = k → thread'.standing = true) → other.standing = true →
      sessions[other.session.id]? = some k ∧
        participantSession[other.session.participant]? = some other.session.id) :
    { c.setThread i thread' with
      sessions := sessions, participantSession := participantSession }.Consistent := by
  refine h.update hthread (fun id k hk => ?_) (fun hstanding => ?_)
    (fun k other hother hk hstanding =>
      hentered k other hother (fun heq => absurd heq hk) hstanding)
    ((h.prepared i thread hthread).relax hrelaxes) fun k other hother hk =>
      ServeThread.Apart.relax ⟨h.apart i k thread other hthread hother hk,
        h.apart k i other thread hother hthread (Ne.symm hk)⟩ hrelaxes
  · by_cases hne : i = k
    · subst hne
      obtain ⟨other, hother, hown, hshaking⟩ := h.listed id i (hlisted id i hk)
      cases hthread.symm.trans hother
      exact .inl ⟨rfl, hrelaxes.id.trans hown, hrelaxes.shaking hshaking⟩
    · exact .inr ⟨hne, hlisted id k hk⟩
  · rw [hrelaxes.id, hrelaxes.participant]
    exact ⟨(h.entered i thread hthread (hrelaxes.standing hstanding)).1,
      hentered i thread hthread (fun _ => hstanding) (hrelaxes.standing hstanding)⟩

lemma Consistent.leave
    (hrelaxes : thread.Relaxes thread') (hstopped : thread'.standing = false)
    (hkept : ∀ (participant : ParticipantId) id, c.participantSession[participant]? = some id →
      id ≠ thread.session.id → participantSession[participant]? = some id) :
    { c.setThread i thread' with
      sessions := c.sessions.erase thread.session.id
      participantSession := participantSession }.Consistent := by
  refine h.withdraw hthread hrelaxes (fun _ _ hk => erase_found hk)
    fun k other hother hstands hstanding => ?_
  have hk : i ≠ k := fun heq => by
    rw [hstopped] at hstands
    cases hstands heq
  obtain ⟨hdefined, hentered, hfound⟩ := h.entered k other hother hstanding
  have hid := (h.apart k i other thread hother hthread (Ne.symm hk)).session hdefined
  exact ⟨(getElem?_erase_ne (Ne.symm hid)).trans hentered, hkept _ _ hfound hid⟩

lemma Consistent.relax (hrelaxes : thread.Relaxes thread') : (c.setThread i thread').Consistent :=
  h.withdraw hthread hrelaxes (fun _ _ hk => hk) fun k other hother _ hstanding =>
    (h.entered k other hother hstanding).2

lemma Consistent.advance
    (hshaking : thread.shaking = true) (hid : thread'.session.id = thread.session.id)
    (hstanding : thread'.standing = false) (hprepared : thread'.Prepared c.sys.engine.toRecords)
    (halone : thread'.admitting = true → ∀ (k : Nat) (other : ServeThread),
      c.threads[k]? = some other → i ≠ k → other.admitting = true ∨ other.standing = true →
      thread'.hello.participantName ≠ other.hello.participantName) :
    (c.setThread i thread').Consistent := by
  refine h.update hthread (fun id k hk => .inr ⟨?_, hk⟩) (by simp [hstanding])
    (fun k other hother _ hstanding => (h.entered k other hother hstanding).2) hprepared
    fun k other hother hk => ⟨⟨?_, fun hadmitting => halone hadmitting k other hother hk⟩, ?_, ?_⟩
  · -- no session in the table is one of this thread
    rintro rfl
    obtain ⟨other, hother, -, hpast⟩ := h.listed id i hk
    cases hthread.symm.trans hother
    rw [hshaking] at hpast
    cases hpast
  · rw [hid]
    exact (h.apart i k thread other hthread hother hk).session
  · rw [hid]
    exact (h.apart k i other thread hother hthread (Ne.symm hk)).session
  · rintro hother' (hadmitting | hstanding')
    · exact Ne.symm (halone hadmitting k other hother hk (.inl hother'))
    · rw [hstanding] at hstanding'
      cases hstanding'

end Consistency

/-! ### Sections -/

lemma replaceSession_sys (participant : ParticipantId) :
    (c.replaceSession participant).sys = c.sys := by
  unfold replaceSession
  repeat' split
  all_goals rfl

lemma replaceSession_threads (participant : ParticipantId) : ∃ f : Nat → ServeThread → ServeThread,
      (∀ k thread, thread.Relaxes (f k thread) ∧ (f k thread).phase = thread.phase) ∧
      ∀ k : Nat, (c.replaceSession participant).threads[k]? = (c.threads[k]?).map (f k) := by
  have hsame : ∃ f : Nat → ServeThread → ServeThread,
      (∀ k thread, thread.Relaxes (f k thread) ∧ (f k thread).phase = thread.phase) ∧
      ∀ k : Nat, c.threads[k]? = (c.threads[k]?).map (f k) :=
    ⟨fun _ thread => thread, fun _ thread => ⟨.refl thread, rfl⟩, fun k => Option.map_id'.symm⟩
  unfold replaceSession
  split
  · exact hsame
  split
  · exact hsame
  rename_i old _
  refine ⟨fun k thread => if old = k then
    { thread with session := { thread.session with replaced := true } } else thread,
    fun k thread => ?_, fun k => List.getElem?_modify ..⟩
  dsimp only
  split
  · exact ⟨⟨rfl, rfl, rfl, by simp [standing], .inl rfl⟩, rfl⟩
  · exact ⟨.refl thread, rfl⟩

section Sections

variable [ReplayStore σ] {c : Coordinator σ} {i : Nat} {thread : ServeThread}

lemma Consistent.replaceSession (h : c.Consistent) (participant : ParticipantId) :
    (c.replaceSession participant).Consistent ∧
      ∀ (k : Nat) (other : ServeThread), (c.replaceSession participant).threads[k]? = some other →
        other.standing = true → other.session.participant ≠ participant := by
  unfold Coordinator.replaceSession
  cases hid : c.participantSession[participant]? with
  | none =>
    refine ⟨h, ?_⟩
    rintro k other hother hstanding rfl
    cases hid.symm.trans (h.entered k other hother hstanding).2.2
  | some id =>
    dsimp only
    cases hold : c.sessions[id]? with
    | none =>
      refine ⟨h, ?_⟩
      rintro k other hother hstanding rfl
      obtain ⟨-, hentered, hfound⟩ := h.entered k other hother hstanding
      cases hid.symm.trans hfound
      cases hold.symm.trans hentered
    | some old =>
      obtain ⟨thread, hthread, rfl, -⟩ := h.listed id old hold
      dsimp only
      rw [List.modify_eq_set_getElem?, hthread]
      have hrelaxes : thread.Relaxes
          { thread with session := { thread.session with replaced := true } } :=
        ⟨rfl, rfl, rfl, fun hstanding => by simp [standing] at hstanding, .inl rfl⟩
      have hothers : ∀ (k : Nat) (other : ServeThread), c.threads[k]? = some other → old ≠ k →
          other.standing = true → other.session.id ≠ thread.session.id ∧
            other.session.participant ≠ participant := by
        intro k other hother hk hstanding
        obtain ⟨-, hentered, hfound⟩ := h.entered k other hother hstanding
        have hne : other.session.id ≠ thread.session.id := by
          intro heq
          rw [heq] at hentered
          exact hk (Option.some.inj (hold.symm.trans hentered))
        refine ⟨hne, ?_⟩
        rintro rfl
        exact hne (Option.some.inj (hfound.symm.trans hid))
      refine ⟨h.withdraw hthread hrelaxes (fun key k hk => erase_found hk) ?_, ?_⟩
      · intro k other hother hk hstanding
        have hne : old ≠ k := by
          intro heq
          have := hk heq
          simp [standing] at this
        obtain ⟨hid, hparticipant⟩ := hothers k other hother hne hstanding
        obtain ⟨-, hentered, hfound⟩ := h.entered k other hother hstanding
        exact ⟨(getElem?_erase_ne (Ne.symm hid)).trans hentered,
          (getElem?_erase_ne (Ne.symm hparticipant)).trans hfound⟩
      · intro k other hother hstanding
        rcases getElem?_set_cases hother with ⟨-, rfl⟩ | ⟨hk, hother⟩
        · simp [standing] at hstanding
        · exact (hothers k other hother hk hstanding).2

lemma Consistent.enroll (h : c.Consistent) {boot}
    (hspare : c.sys.engine.Spare name) (hvacated : c.sys.engine.toRecords.Vacated name boot)
    (hothers : ∀ (k : Nat) (other : ServeThread), c.threads[k]? = some other →
      other.phase = .cleared → other.hello.participantName ≠ name) (epoch : CoordinatorEpoch)
    (label : Text) :
    { c with sys := c.sys.step (.registerParticipant name boot epoch label) }.Consistent where
  keyed := h.keyed.step (a := .registerParticipant name boot epoch label)
  indexed := h.indexed.enroll hspare
  writers := h.writers.enroll h.indexed h.keyed hspare hvacated
  listed := h.listed
  entered := h.entered
  prepared k other hother := (h.prepared k other hother).enroll h.keyed h.indexed hspare
    (hothers k other hother) boot epoch label
  apart := h.apart

lemma dispatch_engine (session : Session) (epoch : CoordinatorEpoch) (request : ControlRequest) :
    (∀ config, session.dispatch epoch request ≠ .restart config) ∧
      (session.dispatch epoch request).admits = false := by
  cases request <;> exact ⟨by simp [Session.dispatch], rfl⟩

lemma Consistent.serve (h : c.Consistent) (request : ControlRequest) :
    (c.serve thread request).Consistent := by
  unfold Coordinator.serve
  split
  · exact h
  · obtain ⟨hrestart, hadmits⟩ := dispatch_engine thread.session c.sys.engine.epoch request
    exact h.engine hrestart hadmits

lemma Consistent.connect (h : c.Consistent) (hello : HelloRequest) :
    { c with threads := c.threads ++ [({ hello := hello } : ServeThread)] }.Consistent := by
  have hcases : ∀ {k : Nat} {other : ServeThread},
      (c.threads ++ [({ hello := hello } : ServeThread)])[k]? = some other →
        c.threads[k]? = some other ∨ other = { hello := hello } := by
    intro k other hother
    rw [List.getElem?_append] at hother
    split at hother
    · exact .inl hother
    · exact .inr (List.mem_singleton.mp (List.mem_of_getElem? hother))
  refine { h with listed := ?_, entered := ?_, prepared := ?_, apart := ?_ }
  · intro id k hk
    obtain ⟨other, hother, hown⟩ := h.listed id k hk
    exact ⟨other,
      by rw [List.getElem?_append_left (List.getElem?_eq_some_iff.mp hother).1]; exact hother,
      hown⟩
  · intro k other hother hstanding
    rcases hcases hother with hother | rfl
    · exact h.entered k other hother hstanding
    · cases hstanding
  · intro k other hother
    rcases hcases hother with hother | rfl
    · exact h.prepared k other hother
    · exact ⟨by simp [standing], nofun, nofun⟩
  intro k l other other' hother hother' hne
  rcases hcases hother with hother | rfl
  · rcases hcases hother' with hother' | rfl
    · exact h.apart k l other other' hother hother' hne
    · exact ⟨fun hdefined => hdefined, by simp [admitting, standing]⟩
  · exact ⟨fun hdefined => absurd rfl hdefined, by simp [admitting]⟩

variable (h : c.Consistent) (hthread : c.threads[i]? = some thread)
include h hthread

lemma Consistent.replace (hphase : thread.phase = .greeted)
    (halone : thread.hello.observer = false → ∀ other ∈ c.threads, other.admitting = true →
      other.hello.participantName ≠ thread.hello.participantName) :
    (c.replace i thread).Consistent := by
  have hshaking : thread.shaking = true := by simp [shaking, hphase]
  unfold Coordinator.replace
  split
  · rename_i hobserver
    refine h.advance hthread hshaking rfl rfl ⟨?_, nofun, nofun⟩ ?_
    · simp [standing, hobserver]
    · simp [admitting, hobserver]
  rename_i hobserver
  replace hobserver := Bool.eq_false_iff.mpr hobserver
  split
  · exact h
  split
  · exact h.relax hthread (.closed thread)
  have hadmitting := fun {other} hother hadmitting =>
    Ne.symm (halone hobserver other hother hadmitting)
  unfold Impl.findParticipant
  cases hname : c.sys.engine.participantIndex[thread.hello.participantName]? with
  | none =>
    refine h.advance hthread hshaking rfl rfl ⟨nofun, nofun, fun _ => ⟨hobserver, ?_⟩⟩ ?_
    · intro id record hid
      cases hname.symm.trans hid
    rintro - k other hother - (hother' | hstanding)
    · exact hadmitting (List.mem_of_getElem? hother) hother'
    -- a session that stands has a name that is known
    intro heq
    have hknown := (h.prepared k other hother).named (.inl hstanding)
    rw [← heq, hname] at hknown
    cases hknown
  | some id =>
    obtain ⟨record, hrecord, rfl, -⟩ := h.indexed _ id hname
    simp only [hrecord, Option.getD_some]
    obtain ⟨hreplaced, hgone⟩ := h.replaceSession record.id
    obtain ⟨f, hf, hthreads⟩ := c.replaceSession_threads record.id
    have hsys := c.replaceSession_sys record.id
    generalize c.replaceSession record.id = c' at hreplaced hgone hthreads hsys ⊢
    obtain ⟨hrelaxes, hphase'⟩ := hf i thread
    have hthread' : c'.threads[i]? = some (f i thread) := by rw [hthreads, hthread]; rfl
    have hshaking' : (f i thread).shaking = true := by
      simp [shaking, hphase', hphase]
    have hbeside : ∀ (k : Nat) (other : ServeThread), c'.threads[k]? = some other → i ≠ k →
        other.admitting = true ∨ other.standing = true →
        thread.hello.participantName ≠ other.hello.participantName := by
      rintro k other hother - (hother' | hstanding) heq
      · obtain ⟨before, hbefore, rfl⟩ := Option.map_eq_some_iff.mp ((hthreads k).symm.trans hother)
        rw [(hf k before).1.hello] at heq
        exact hadmitting (List.mem_of_getElem? hbefore) ((hf k before).1.admitting hother') heq
      · -- no session of the participant is left
        have hnamed := (hreplaced.prepared k other hother).named (.inl hstanding)
        rw [← heq, hsys, hname] at hnamed
        exact hgone k other hother hstanding (Option.some.inj hnamed).symm
    split
    · have hset : (c'.setThread i { thread with phase := .superseding record.id }).Consistent := by
        refine hreplaced.advance hthread' hshaking' hrelaxes.id.symm rfl
          ⟨nofun, fun participant hsuperseding => ?_, nofun⟩ fun _ => hbeside
        cases hsuperseding
        exact ⟨hobserver, by rw [hsys]; exact hname⟩
      exact { hset with }
    rename_i hboot
    refine hreplaced.advance hthread' hshaking' hrelaxes.id.symm rfl
      ⟨nofun, nofun, fun _ => ⟨hobserver, ?_⟩⟩ fun _ => hbeside
    intro id known hid hknown
    rw [hsys] at hid hknown
    cases hname.symm.trans hid
    cases hrecord.symm.trans hknown
    exact .inl (not_not.mp hboot)

lemma Consistent.supersede (hphase : thread.phase = .superseding participant) :
    (c.supersede i thread participant).Consistent := by
  obtain ⟨hobserver, hname⟩ := (h.prepared i thread hthread).superseding participant hphase
  have hadmitting : thread.admitting = true := by
    simp [admitting, hphase, hobserver]
  have hfenced := h.engine (a := .fenceParticipant participant c.sys.engine.epoch
    (text "superseded by a new participant boot identity")) (by simp) rfl
  have hset : ({ c with sys := c.sys.step (.fenceParticipant participant c.sys.engine.epoch
      (text "superseded by a new participant boot identity")) }.setThread i
        { thread with phase := .cleared }).Consistent :=
    hfenced.advance hthread (shaking_of_admitting hadmitting) rfl rfl
      ⟨nofun, nofun, fun _ => ⟨hobserver, vacated_fence h.indexed h.writers hname _ _⟩⟩
      fun _ k other hother hk => (h.apart i k thread other hthread hother hk).name hadmitting
  exact { hset with }

lemma Consistent.register
    (hphase : thread.phase = .cleared) (hspare : c.sys.engine.Spare thread.hello.participantName) :
    (c.register i thread).Consistent := by
  obtain ⟨hobserver, hvacated⟩ := (h.prepared i thread hthread).cleared hphase
  have hadmitting : thread.admitting = true := by
    simp [admitting, hphase, hobserver]
  have hadmission := step_admission h.indexed thread.hello.participantName thread.hello.boot
    c.sys.engine.epoch thread.hello.nodeLabel
  -- the thread steps back from its admission, so that no thread of the name is in front of one
  let parked : ServeThread := { thread with phase := .greeted }
  have hshaking := shaking_of_admitting hadmitting
  have hparked : (c.setThread i parked).Consistent :=
    h.advance hthread hshaking rfl rfl ⟨nofun, nofun, nofun⟩
      (by simp [admitting, parked])
  have hothers : ∀ (k : Nat) (other : ServeThread),
      (c.setThread i parked).threads[k]? = some other →
      other.phase = .cleared → other.hello.participantName ≠ thread.hello.participantName := by
    intro k other hother hcleared
    rcases getElem?_set_cases hother with ⟨-, rfl⟩ | ⟨hk, hother⟩
    · cases hcleared
    · have hprepared := (h.prepared k other hother).cleared hcleared
      refine Ne.symm ((h.apart i k thread other hthread hother hk).name hadmitting (.inl ?_))
      simp [admitting, hcleared, hprepared.1]
  have hadmitted := hparked.enroll hspare hvacated hothers c.sys.engine.epoch thread.hello.nodeLabel
  have hfound : (c.setThread i parked).threads[i]? = some parked :=
    List.getElem?_set_self (List.getElem?_eq_some_iff.mp hthread).1
  unfold Coordinator.register
  dsimp only
  cases hresult : (c.sys.engine.registerParticipant thread.hello.participantName thread.hello.boot
    c.sys.engine.epoch thread.hello.nodeLabel).1 with
  | error status =>
    have hset := hadmitted.relax hfound (.closed parked)
    unfold setThread at hset ⊢
    rw [List.set_set] at hset
    exact hset
  | ok record =>
    rw [hresult] at hadmission
    have hset := hadmitted.advance hfound rfl
      (show (⟨thread.hello, { thread.session with participant := record.id }, .registered⟩ :
        ServeThread).session.id = parked.session.id from rfl) rfl
      ⟨fun _ => hadmission.admitted, nofun, nofun⟩ fun _ k other hother hk => by
        rcases getElem?_set_cases hother with ⟨rfl, -⟩ | ⟨-, hother⟩
        · exact absurd rfl hk
        · exact (h.apart i k thread other hthread hother hk).name hadmitting
    unfold setThread at hset ⊢
    rw [List.set_set] at hset
    exact hset

lemma Consistent.insert
    (hphase : thread.phase = .registered) {id} (hnew : ∀ other ∈ c.threads, other.session.id ≠ id) :
    (c.insert i thread id).Consistent := by
  have hshaking : thread.shaking = true := by simp [shaking, hphase]
  have hadmitting : thread.hello.observer = false → thread.admitting = true := fun hobserver => by
    simp [admitting, hphase, hobserver]
  have hunlisted : ∀ k, c.sessions[id]? ≠ some k := by
    intro k hk
    obtain ⟨other, hother, hown, -⟩ := h.listed id k hk
    exact hnew other (List.mem_of_getElem? hother) hown
  have hnone := Option.eq_none_iff_forall_ne_some.mpr hunlisted
  unfold Coordinator.insert
  split
  · exact h.relax hthread (.closed thread)
  rename_i hdefined
  split
  · exact h
  have hobserver : ∀ {session : Session}, session.observer = thread.hello.observer →
      (⟨thread.hello, session, .inserted⟩ : ServeThread).standing = true →
      thread.hello.observer = false := by
    intro session hsession hstanding
    simp only [standing, Bool.and_eq_true, Bool.not_eq_true'] at hstanding
    exact hsession.symm.trans hstanding.1.2
  refine h.update hthread ?_ ?_ ?_ ?_ ?_
  · intro key k hk
    rw [insertIfNew_eq_insert hnone] at hk
    rcases insert_cases hk with ⟨rfl, rfl⟩ | ⟨-, hk⟩
    · exact .inl ⟨rfl, rfl, rfl⟩
    refine .inr ⟨?_, hk⟩
    rintro rfl
    obtain ⟨other, hother, -, hpast⟩ := h.listed key i hk
    cases hthread.symm.trans hother
    rw [hshaking] at hpast
    cases hpast
  · intro hstanding
    rw [if_neg (by simp [hobserver rfl hstanding]), insertIfNew_eq_insert hnone]
    exact ⟨fun hnil => hdefined (by rw [show id = _ from hnil]; rfl), getElem?_insert_self,
      getElem?_insert_self⟩
  · intro k other hother hk hstanding
    obtain ⟨-, hentered, hfound⟩ := h.entered k other hother hstanding
    have hne := Ne.symm (hnew other (List.mem_of_getElem? hother))
    rw [insertIfNew_eq_insert hnone, getElem?_insert_ne hne]
    refine ⟨hentered, ?_⟩
    split
    · exact hfound
    rename_i hobserver
    rw [getElem?_insert_ne]
    · exact hfound
    -- a session of the participant would have the name of the handshake
    intro heq
    replace hobserver := Bool.eq_false_iff.mpr hobserver
    have hnamed := (h.prepared i thread hthread).named (.inr ⟨hobserver, hphase⟩)
    have hnamed' := (h.prepared k other hother).named (.inl hstanding)
    rw [heq] at hnamed
    exact (h.apart i k thread other hthread hother hk).name (hadmitting hobserver)
      (.inr hstanding) (h.indexed.name_injective hnamed hnamed')
  · refine ⟨?_, nofun, nofun⟩
    rintro (hstanding | ⟨-, hregistered⟩)
    · exact (h.prepared i thread hthread).named (.inr ⟨hobserver rfl hstanding, hphase⟩)
    · cases hregistered
  intro k other hother hk
  have hne := hnew other (List.mem_of_getElem? hother)
  refine ⟨⟨fun _ => Ne.symm hne, ?_⟩, fun _ => hne, ?_⟩
  · simp [admitting]
  · rintro hother' (hinserted | hstanding)
    · simp [admitting] at hinserted
    · exact (h.apart k i other thread hother hthread (Ne.symm hk)).name hother'
        (.inl (hadmitting (hobserver rfl hstanding)))

lemma Consistent.acknowledge (hphase : thread.phase = .inserted) {sent}
    (hown : sent = false → c.participantSession[thread.session.participant]? = none ∨
      c.participantSession[thread.session.participant]? = some thread.session.id) :
    (c.acknowledge i thread sent).Consistent := by
  unfold Coordinator.acknowledge
  split
  · refine h.relax hthread (.phase_past ?_ rfl)
    simp [ServeThread.standing, hphase]
  split
  · exact h
  refine h.leave hthread (.closed thread) rfl fun participant id hid hother => ?_
  rw [getElem?_erase_ne]
  · exact hid
  -- the participant has the session of this thread, if any
  rintro rfl
  rw [hid] at hown
  rcases hown (Bool.eq_false_iff.mpr ‹_›) with hnone | hsome
  · cases hnone
  · exact hother (Option.some.inj hsome)

lemma Consistent.teardown : (c.teardown i thread).Consistent := by
  unfold Coordinator.teardown
  split
  · exact h
  refine h.leave hthread (.phase_past ?_ ?_) ?_ fun participant id hid hother => ?_
  · split <;> nofun
  · split <;> rfl
  · split <;> rfl
  split
  · rename_i hown
    rw [getElem?_erase_ne]
    · exact hid
    · rintro rfl
      exact hother (Option.some.inj (hid.symm.trans hown))
  · exact hid

lemma Consistent.hangUp
    (hphase : thread.phase = .serving) (goodbye : Bool) : (c.hangUp i thread goodbye).Consistent :=
  h.relax hthread ⟨rfl, rfl, rfl, by simp [standing, hphase], .inr rfl⟩

lemma Consistent.inspect : (c.inspect i thread).Consistent := by
  unfold Coordinator.inspect
  split
  · exact h.relax hthread (.closed thread)
  refine h.relax hthread (.phase_past ?_ ?_)
  · split <;> nofun
  · split <;> rfl

lemma Consistent.depart : (c.depart i thread).Consistent := by
  unfold Coordinator.depart
  refine (h.relax hthread (.closed thread)).engine ?_ ?_
  · split <;> simp
  · split <;> rfl

end Sections

/-! ### Whole runs -/

/-- The condition on a section. A handshake passes the replacement only while no other handshake of
its name is between the replacement and the entry of its session. A participant and a session get
an identity that is not in use. An acknowledgement fails only while its participant has no other
session. -/
def orderly : Event → Bool
  | .replace i => (c.at? i .greeted).all fun thread => thread.hello.observer ||
      c.threads.all fun other =>
        !other.admitting || other.hello.participantName ≠ thread.hello.participantName
  | .register i => (c.at? i .cleared).all fun thread =>
      (c.sys.engine.participantIndex[thread.hello.participantName]?).isSome ||
        (c.sys.engine.participants[(⟨c.sys.engine.nextParticipantId⟩ : ParticipantId)]?).isNone
  | .insert i id => (c.at? i .registered).all fun _ =>
      c.threads.all fun other => other.session.id ≠ id
  | .acknowledge i sent => (c.at? i .inserted).all fun thread => sent ||
      (c.participantSession[thread.session.participant]?).all (· = thread.session.id)
  | _ => true

lemma at?_cases (i : Nat) (phase : Phase) :
    c.at? i phase = none ∨ ∃ thread, c.at? i phase = some thread ∧
      c.threads[i]? = some thread ∧ thread.phase = phase := by
  cases hat : c.at? i phase with
  | none => exact .inl rfl
  | some thread =>
    obtain ⟨hthread, hphase⟩ := Option.filter_eq_some_iff.mp hat
    exact .inr ⟨thread, rfl, hthread, of_decide_eq_true hphase⟩

section Runs

variable [ReplayStore σ] {c : Coordinator σ}

lemma Consistent.at (h : c.Consistent) {f}
    (hf : ∀ thread, c.at? i phase = some thread → c.threads[i]? = some thread →
      thread.phase = phase → (f thread).Consistent) :
    (((c.at? i phase).map f).getD c).Consistent := by
  rcases c.at?_cases i phase with hat | ⟨thread, hat, hthread, hphase⟩
  · rw [hat]
    exact h
  · rw [hat]
    exact hf thread hat hthread hphase

theorem Consistent.step (h : c.Consistent) {event} (hok : c.orderly event = true) :
    (c.step event).Consistent := by
  cases event with
  | connect hello =>
    simp only [Coordinator.step]
    split
    · exact h
    · exact h.connect hello
  | replace i =>
    refine h.at fun thread hat hthread hphase => h.replace hthread hphase fun hobserver => ?_
    simpa [orderly, hat, hobserver, or_iff_not_imp_left] using hok
  | supersede i =>
    simp only [Coordinator.step]
    split
    · split
      · exact h.supersede ‹_› ‹_›
      · exact h
    · exact h
  | register i =>
    refine h.at fun thread hat hthread hphase => h.register hthread hphase fun hunknown => ?_
    have hunindexed : ¬ thread.hello.participantName ∈ c.sys.engine.participantIndex := by
      simpa using hunknown
    simpa [orderly, hat, hunindexed] using hok
  | insert i id =>
    refine h.at fun thread hat hthread hphase => h.insert hthread hphase ?_
    simpa [orderly, hat] using hok
  | acknowledge i sent =>
    refine h.at fun thread hat hthread hphase => h.acknowledge hthread hphase fun hfailed => ?_
    cases hown : c.participantSession[thread.session.participant]? with
    | none => exact .inl rfl
    | some id =>
      have : id = thread.session.id := by simpa [orderly, hat, hfailed, hown] using hok
      exact .inr (congrArg some this)
  | request i request => exact h.at fun thread _ _ _ => h.serve request
  | publishAppend index | publishCommit index => exact h.engine (by simp) rfl
  | hangUp i goodbye =>
    exact h.at fun thread _ hthread hphase => h.hangUp hthread hphase goodbye
  | teardown i => exact h.at fun thread _ hthread _ => h.teardown hthread
  | inspect i => exact h.at fun thread _ hthread _ => h.inspect hthread
  | depart i => exact h.at fun thread _ hthread _ => h.depart hthread

lemma Consistent.start (config : EngineConfig) (store : Option σ) (domainName : Text)
    (maxSessions : UInt64) :
    (Coordinator.start config store domainName maxSessions).Consistent := by
  have hboot : ({ sys := Sys.boot config store, maxSessions := maxSessions } :
      Coordinator σ).Consistent :=
    { keyed := LiveKeyed.boot
      indexed := Records.Indexed.boot config store
      writers := Records.WritersRecorded.boot config store
      listed := all_empty
      entered := fun _ _ hthread => by simp at hthread
      prepared := fun _ _ hthread => by simp at hthread
      apart := fun _ _ _ _ hthread => by simp at hthread }
  unfold Coordinator.start
  dsimp only
  split
  · exact hboot
  · exact hboot.engine (by simp) rfl

/-- **One live incarnation per participant.** -/
theorem one_incarnation (config : EngineConfig) (store : Option σ) (domainName : Text)
    (maxSessions : UInt64) (events : List Event)
    (hrun : RunOk Coordinator.step (fun c event => c.orderly event = true)
      (Coordinator.start config store domainName maxSessions) events) :
    let c := (Coordinator.start config store domainName maxSessions).run events
    ∀ (i : Nat) (thread : ServeThread), c.threads[i]? = some thread →
      thread.acknowledged = true →
      (∀ (k : Nat) (other : ServeThread), c.threads[k]? = some other → other.acknowledged = true →
        other.session.participant = thread.session.participant → k = i) ∧
      All (fun _ (object : ObjectRecord) => object.writer ≠ .nil →
        object.writer = thread.session.participant →
        ∃ record, c.sys.engine.participants[thread.session.participant]? = some record ∧
          object.writerBoot = record.boot) c.sys.engine.objects := by
  intro c i thread hthread hacknowledged
  have h : c.Consistent := run_invariant (fun _ _ hok h => h.step hok)
    (.start config store domainName maxSessions) hrun
  obtain ⟨-, hentered, hfound⟩ :=
    h.entered i thread hthread (ServeThread.standing_of_acknowledged hacknowledged)
  constructor
  · intro k other hother hacknowledged' hsame
    obtain ⟨-, hentered', hfound'⟩ :=
      h.entered k other hother (ServeThread.standing_of_acknowledged hacknowledged')
    rw [hsame, hfound] at hfound'
    rw [← Option.some.inj hfound', hentered] at hentered'
    exact (Option.some.inj hentered').symm
  · intro key object hobject hwriter hown
    rw [← hown]
    exact h.writers key object hobject hwriter

end Runs

/-! ### Two handshakes -/

namespace Handshakes

abbrev started : Coordinator LogStore := Coordinator.start {} (some {}) [1] 256

def hello (n : UInt64) : HelloRequest := { participantName := [1], boot := Duo.bootOf n }

def sessionOf (n : UInt64) : SessionId := ⟨⟨0, n⟩⟩

def enroll (i : Nat) : List Event :=
  [.register i, .insert i (sessionOf (i.toUInt64 + 1)), .acknowledge i true]

def acquire : List Event :=
  [.request 0 (.registerObject ⟨1⟩ [1] 8 (strictPolicy [1])),
    .request 0 (.registerRegion
      { context := Duo.context 1, name := [1], memoryDomain := .hostPinned, evidenceClass := .real,
        length := 8 }),
    .request 0 (.revalidate
      { context := Duo.context 1, region := ⟨1⟩, observedVersion := ⟨1⟩, content := Duo.content }),
    .request 0 (.acquireWrite { context := Duo.context 1, region := ⟨1⟩ })]

/-- A second incarnation comes after the first one has been acknowledged. -/
def inTurn : List Event :=
  [.connect (hello 1), .replace 0] ++ enroll 0 ++ acquire ++
    [.connect (hello 2), .replace 1, .supersede 1] ++ enroll 1

/-- Both incarnations pass the replacement before either of them is registered. -/
def overlapping : List Event :=
  [.connect (hello 1), .connect (hello 2), .replace 0, .replace 1] ++ enroll 0 ++ acquire ++
    enroll 1

end Handshakes

open Handshakes in
theorem one_incarnation_inTurn :
    let c := (Coordinator.start {} (some ({} : LogStore)) [1] 256).run inTurn
    RunOk Coordinator.step (fun c event => c.orderly event = true)
        (Coordinator.start {} (some ({} : LogStore)) [1] 256) inTurn ∧
      (c.threads.map fun thread => (thread.acknowledged, thread.session.replaced)) =
        [(false, true), (true, false)] ∧
      ∀ (i : Nat) (thread : ServeThread), c.threads[i]? = some thread →
        thread.acknowledged = true →
        (∀ (k : Nat) (other : ServeThread), c.threads[k]? = some other →
          other.acknowledged = true →
          other.session.participant = thread.session.participant → k = i) ∧
        All (fun _ (object : ObjectRecord) => object.writer ≠ .nil →
          object.writer = thread.session.participant →
          ∃ record, c.sys.engine.participants[thread.session.participant]? = some record ∧
            object.writerBoot = record.boot) c.sys.engine.objects := by
  intro c
  have hrun : RunOk Coordinator.step (fun c event => c.orderly event = true)
      (Coordinator.start {} (some ({} : LogStore)) [1] 256) inTurn := by decide +kernel
  have hthreads : (c.threads.map fun thread => (thread.acknowledged, thread.session.replaced)) =
      [(false, true), (true, false)] := by
    decide +kernel
  exact ⟨hrun, hthreads, one_incarnation {} (some ({} : LogStore)) [1] 256 inTurn hrun⟩

open Handshakes in
/-- Two handshakes that overlap are both acknowledged, neither session is replaced, and the boot of
the first one still writes after the second one has been recorded. -/
theorem one_incarnation_needs_turns :
    ((started.run overlapping).threads.map fun thread =>
        (thread.acknowledged, thread.session.participant)) = [(true, ⟨1⟩), (true, ⟨1⟩)] ∧
      ((started.run overlapping).sys.engine.objects[(⟨1⟩ : ObjectId)]?).map
        (fun object => (object.writer, object.writerBoot)) = some (⟨1⟩, Duo.bootOf 1) ∧
      ((started.run overlapping).sys.engine.participants[(⟨1⟩ : ParticipantId)]?).map (·.boot) =
        some (Duo.bootOf 2) := by
  decide +kernel

end Coordinator

end CoherenceFabric
