import CoherenceFabric.Coordinator.Session

/-!
A session does not take a frame twice.

The window of correlations is kept in a queue and in a set. Every turn of the request loop keeps
them in step and keeps the queue equal to the last correlations that were dispatched, so a
correlation that is dispatched is none of those.
-/

namespace CoherenceFabric

open Window

namespace Arrival

def sequence (arrival : Arrival) : UInt64 := arrival.frame.header.sequence

def correlation (arrival : Arrival) : UInt64 := arrival.frame.header.correlation

end Arrival

lemma evictCorrelations_spec (window : Nat) : ∀ {queue : List UInt64} {set : Std.ExtTreeSet UInt64},
    queue.Nodup → (∀ x, x ∈ set ↔ x ∈ queue) →
    (evictCorrelations window queue set).1 = queue.rtake window ∧
      ∀ x, x ∈ (evictCorrelations window queue set).2 ↔ x ∈ queue.rtake window := by
  intro queue
  induction queue with
  | nil =>
    intro set _ hset
    exact ⟨by simp [evictCorrelations], by simpa [evictCorrelations] using hset⟩
  | cons front rest ih =>
    intro set hnodup hset
    obtain ⟨hfront, hrest⟩ := List.nodup_cons.mp hnodup
    unfold evictCorrelations
    split
    · rename_i hlong
      have herased : ∀ x, x ∈ set.erase front ↔ x ∈ rest := by
        intro x
        rw [Std.ExtTreeSet.mem_erase, hset, List.mem_cons]
        constructor
        · rintro ⟨hne, rfl | hmem⟩
          · exact absurd Std.compare_self hne
          · exact hmem
        · intro hmem
          refine ⟨fun heq => ?_, .inr hmem⟩
          rw [Std.LawfulEqOrd.eq_of_compare heq] at hfront
          exact hfront hmem
      have hdrop : (front :: rest).rtake window = rest.rtake window := by
        rw [List.length_cons] at hlong
        rw [List.rtake, List.rtake, List.length_cons, Nat.succ_sub (by omega), List.drop_succ_cons]
      rw [hdrop]
      exact ih hrest herased
    rename_i hshort
    have hall : (front :: rest).rtake window = front :: rest := by
      rw [List.rtake, Nat.sub_eq_zero_of_le (by omega), List.drop_zero]
    rw [hall]
    exact ⟨rfl, hset⟩

variable {connection : Connection} {id : SessionId} {received : List Arrival}

lemma Connection.step_cases (window : UInt64) (arrival : Arrival)
    (hserving : connection.serving = true) :
    (∃ saidGoodbye, connection.step window arrival =
      { connection with
        session := { connection.session with saidGoodbye := saidGoodbye }, serving := false }) ∨
    arrival.frame.header.session = connection.session.id ∧
      connection.session.lastSequence < arrival.sequence ∧
      arrival.correlation ∉ connection.session.correlationSet ∧
      (connection.step window arrival =
          { connection with
            session := { connection.session with lastSequence := arrival.sequence }
            serving := arrival.answered } ∨
        arrival.frame.header.epoch = arrival.epoch ∧
        connection.step window arrival =
          { session :=
              { connection.session with
                lastSequence := arrival.sequence
                recentCorrelations := (evictCorrelations window.toNat
                  (connection.session.recentCorrelations ++ [arrival.correlation])
                  (connection.session.correlationSet.insert arrival.correlation)).1
                correlationSet := (evictCorrelations window.toNat
                  (connection.session.recentCorrelations ++ [arrival.correlation])
                  (connection.session.correlationSet.insert arrival.correlation)).2 }
            serving := arrival.answered
            dispatched := connection.dispatched ++ [arrival] }) := by
  rw [Connection.step, if_neg (by simp [hserving])]
  unfold Session.receive
  split
  · exact .inl ⟨true, rfl⟩
  split
  · exact .inl ⟨connection.session.saidGoodbye, by simp⟩
  split
  · exact .inl ⟨connection.session.saidGoodbye, by simp⟩
  split
  · exact .inl ⟨connection.session.saidGoodbye, by simp⟩
  rename_i hsession hsequence hcorrelation
  refine .inr ⟨Decidable.not_not.mp hsession, UInt64.not_le.mp hsequence, hcorrelation, ?_⟩
  split
  · exact .inl (by simp [Arrival.sequence])
  · rename_i hepoch
    exact .inr ⟨Decidable.not_not.mp hepoch, rfl⟩

/-- What holds between the frames that a connection has received and what it has dispatched. -/
structure Dispatches (window : UInt64) (id : SessionId) (received : List Arrival)
    (connection : Connection) : Prop where
  identity : connection.session.id = id
  stamped : ∀ arrival ∈ connection.dispatched,
    arrival.frame.header.session = id ∧ arrival.frame.header.epoch = arrival.epoch
  ordered : (connection.dispatched.map Arrival.sequence).Pairwise (· < ·)
  bounded : ∀ arrival ∈ connection.dispatched,
    arrival.sequence ≤ connection.session.lastSequence
  advanced : connection.serving = true →
    ∀ arrival ∈ received, arrival.sequence ≤ connection.session.lastSequence
  recent : connection.session.recentCorrelations =
    (connection.dispatched.map Arrival.correlation).rtake window.toNat
  members : ∀ x, x ∈ connection.session.correlationSet ↔
    x ∈ connection.session.recentCorrelations
  spaced : Spaced window.toNat (connection.dispatched.map Arrival.correlation)

lemma Dispatches.step {window} (h : Dispatches window id received connection) (arrival : Arrival) :
    Dispatches window id (received ++ [arrival]) (connection.step window arrival) := by
  by_cases hserving : connection.serving = true
  case neg =>
    have hstill : connection.step window arrival = connection := by
      rw [Connection.step, if_pos (by simpa using hserving)]
    rw [hstill]
    exact { h with advanced := fun hs => absurd hs hserving }
  rcases connection.step_cases window arrival hserving with
    ⟨_, heq⟩ | ⟨hsession, hlast, hcorrelation, heq | ⟨hepoch, heq⟩⟩
  · rw [heq]
    exact { h with advanced := nofun }
  · -- a frame of another epoch moves the sequence on and nothing else
    rw [heq]
    refine { h with bounded := ?_, advanced := ?_ }
    · exact fun a ha => UInt64.le_trans (h.bounded a ha) (UInt64.le_of_lt hlast)
    intro _ a ha
    rcases List.mem_append.mp ha with ha | ha
    · exact UInt64.le_trans (h.advanced hserving a ha) (UInt64.le_of_lt hlast)
    · cases List.mem_singleton.mp ha
      exact UInt64.le_refl _
  rw [heq]
  have hfresh : arrival.correlation ∉
      (connection.dispatched.map Arrival.correlation).rtake window.toNat := by
    rw [← h.recent, ← h.members]
    exact hcorrelation
  have hspaced := h.spaced.concat hfresh
  -- the queue with the new correlation is a stretch of what has been dispatched
  have hnodup : (connection.session.recentCorrelations ++ [arrival.correlation]).Nodup := by
    rw [h.recent, ← List.rtake_concat_succ]
    exact hspaced.nodup_rtake
  have hinsert : ∀ x, x ∈ connection.session.correlationSet.insert arrival.correlation ↔
      x ∈ connection.session.recentCorrelations ++ [arrival.correlation] := by
    intro x
    rw [Std.ExtTreeSet.mem_insert, h.members, List.mem_append, List.mem_singleton, or_comm,
      Std.LawfulEqOrd.compare_eq_iff_eq, eq_comm]
  obtain ⟨hqueue, hset⟩ := evictCorrelations_spec window.toNat hnodup hinsert
  have hrecent : (connection.session.recentCorrelations ++ [arrival.correlation]).rtake
      window.toNat = ((connection.dispatched ++ [arrival]).map Arrival.correlation).rtake
        window.toNat := by
    rw [h.recent, rtake_rtake_concat, List.map_append, List.map_singleton]
  constructor
  · exact h.identity
  · intro a ha
    rcases List.mem_append.mp ha with ha | ha
    · exact h.stamped a ha
    · cases List.mem_singleton.mp ha
      exact ⟨hsession.trans h.identity, hepoch⟩
  · rw [List.map_append, List.map_singleton, List.pairwise_append]
    refine ⟨h.ordered, List.pairwise_singleton .., ?_⟩
    intro x hx y hy
    obtain ⟨a, ha, rfl⟩ := List.mem_map.mp hx
    cases List.mem_singleton.mp hy
    exact UInt64.lt_of_le_of_lt (h.bounded a ha) hlast
  · intro a ha
    rcases List.mem_append.mp ha with ha | ha
    · exact UInt64.le_trans (h.bounded a ha) (UInt64.le_of_lt hlast)
    · cases List.mem_singleton.mp ha
      exact UInt64.le_refl _
  · intro _ a ha
    rcases List.mem_append.mp ha with ha | ha
    · exact UInt64.le_trans (h.advanced hserving a ha) (UInt64.le_of_lt hlast)
    · cases List.mem_singleton.mp ha
      exact UInt64.le_refl _
  · exact hqueue.trans hrecent
  · intro x
    rw [hset, hqueue]
  · rw [List.map_append, List.map_singleton]
    exact hspaced

lemma Dispatches.run {window} :
    ∀ (arrivals : List Arrival) {received : List Arrival} {connection : Connection},
      Dispatches window id received connection →
        Dispatches window id (received ++ arrivals) (connection.run window arrivals) := by
  intro arrivals
  induction arrivals with
  | nil =>
    intro received connection h
    rw [List.append_nil]
    exact h
  | cons arrival arrivals ih =>
    intro received connection h
    have hrest := ih (h.step arrival)
    rwa [List.append_assoc, List.singleton_append] at hrest

def Connection.opened (id : SessionId) (participant : ParticipantId) (boot : ParticipantBootId)
    (observer : Bool) (name : Text) : Connection :=
  { session := .opened id participant boot observer name }

lemma Dispatches.opened (window : UInt64) (id : SessionId) (participant : ParticipantId)
    (boot : ParticipantBootId) (observer : Bool) (name : Text) :
    Dispatches window id [] (.opened id participant boot observer name) :=
  { identity := rfl
    stamped := fun _ h => absurd h List.not_mem_nil
    ordered := .nil
    bounded := fun _ h => absurd h List.not_mem_nil
    advanced := fun _ _ h => absurd h List.not_mem_nil
    recent := (List.rtake_nil window.toNat).symm
    members := fun x => by simp [Connection.opened, Session.opened]
    spaced := spaced_nil _ }

lemma Connection.run_ended (window : UInt64) (h : connection.serving = false)
    (arrivals : List Arrival) : connection.run window arrivals = connection := by
  induction arrivals with
  | nil => rfl
  | cons arrival arrivals ih =>
    have hstep : connection.step window arrival = connection := by
      rw [Connection.step, if_pos h]
    rw [Connection.run, List.foldl_cons, hstep]
    exact ih

/-- A frame of another session, one whose sequence number does not pass those before it, or one with
the correlation of one of the last frames that were dispatched. -/
def Replayed (window : UInt64) (id : SessionId) (received dispatched : List Arrival)
    (arrival : Arrival) : Prop :=
  arrival.frame.header.session ≠ id ∨
    arrival.sequence = 0 ∨ (∃ earlier ∈ received, arrival.sequence ≤ earlier.sequence) ∨
    arrival.correlation ∈ (dispatched.map Arrival.correlation).rtake window.toNat

lemma Dispatches.replayed_ends {window} (h : Dispatches window id received connection)
    {arrival} (hreplayed : Replayed window id received connection.dispatched arrival) :
    (connection.step window arrival).serving = false ∧
      (connection.step window arrival).dispatched = connection.dispatched := by
  by_cases hserving : connection.serving = true
  case neg =>
    rw [Connection.step, if_pos (by simpa using hserving)]
    exact ⟨by simpa using hserving, rfl⟩
  rcases connection.step_cases window arrival hserving with
    ⟨_, heq⟩ | ⟨hsession, hlast, hcorrelation, -⟩
  · rw [heq]
    exact ⟨rfl, rfl⟩
  -- the checks of the loop contradict each kind of replay
  exfalso
  rcases hreplayed with hother | hzero | ⟨earlier, hmem, hle⟩ | hrecent
  · exact hother (hsession.trans h.identity)
  · rw [hzero] at hlast
    exact UInt64.not_lt_zero hlast
  · exact UInt64.not_lt.mpr (UInt64.le_trans hle (h.advanced hserving earlier hmem)) hlast
  · rw [← h.recent, ← h.members] at hrecent
    exact hcorrelation hrecent

/-- Whatever frames arrive on a connection after its handshake: those that are dispatched carry the
identity of the session and the epoch of their time, their sequence numbers increase, no correlation
occurs twice among as many in a row as the window holds and one more, the two structures of the
window agree, and nothing is dispatched from a replayed frame on. -/
theorem session_replay_protection (window : UInt64) (id : SessionId) (participant : ParticipantId)
    (boot : ParticipantBootId) (observer : Bool) (name : Text) (arrivals : List Arrival) :
    let opened := Connection.opened id participant boot observer name
    let connection := opened.run window arrivals
    (∀ arrival ∈ connection.dispatched, arrival.frame.header.session = id ∧
      arrival.frame.header.epoch = arrival.epoch) ∧
    (connection.dispatched.map Arrival.sequence).Pairwise (· < ·) ∧
    (∀ chunk, chunk <:+: connection.dispatched.map Arrival.correlation →
      chunk.length ≤ window.toNat + 1 → chunk.Nodup) ∧
    (∀ x, x ∈ connection.session.correlationSet ↔ x ∈ connection.session.recentCorrelations) ∧
    ∀ before arrival after, arrivals = before ++ arrival :: after →
      Replayed window id before (opened.run window before).dispatched arrival →
      connection.dispatched = (opened.run window before).dispatched := by
  intro opened connection
  have hopened := Dispatches.opened window id participant boot observer name
  have hguarded := hopened.run arrivals
  refine ⟨hguarded.stamped, hguarded.ordered, fun _ => hguarded.spaced.nodup, hguarded.members, ?_⟩
  rintro before arrival after rfl hreplayed
  obtain ⟨hended, hsame⟩ := (hopened.run before).replayed_ends hreplayed
  have hrun : connection = ((opened.run window before).step window arrival).run window after := by
    simp only [connection, Connection.run, List.foldl_append, List.foldl_cons]
  rw [hrun, Connection.run_ended window hended after, hsame]

end CoherenceFabric
