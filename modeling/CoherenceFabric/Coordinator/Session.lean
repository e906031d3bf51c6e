import CoherenceFabric.Codec.Protocol
import CoherenceFabric.Lib.Window
import Std.Data.ExtTreeSet.Lemmas

/-!
The request loop of a session.

After the handshake, a connection reads frames one after the other. A frame of another session, or
one that repeats a sequence number or a recent correlation identity, is answered and ends the
connection; one of another epoch is answered and dropped; any other frame is dispatched.
-/

namespace CoherenceFabric

structure Session where
  id : SessionId := .nil
  participant : ParticipantId := .nil
  boot : ParticipantBootId := .nil
  observer : Bool := false
  replaced : Bool := false
  saidGoodbye : Bool := false
  lastSequence : UInt64 := 0
  recentCorrelations : List UInt64 := []
  correlationSet : Std.ExtTreeSet UInt64 := ∅
  name : Text := []

def Session.opened (id : SessionId) (participant : ParticipantId) (boot : ParticipantBootId)
    (observer : Bool) (name : Text) : Session :=
  { id := id, participant := participant, boot := boot, observer := observer, name := name }

/-- The eviction loop: the oldest correlations leave both structures until the window fits. -/
def evictCorrelations (window : Nat) :
    List UInt64 → Std.ExtTreeSet UInt64 → List UInt64 × Std.ExtTreeSet UInt64
  | [], set => ([], set)
  | front :: rest, set =>
    if window < (front :: rest).length then evictCorrelations window rest (set.erase front)
    else (front :: rest, set)

inductive Reply where
  | goodbye
  /-- The frame is answered with an error, which may close the connection. -/
  | refused (envelope : Status) (closed : Bool)
  | dispatched

/-- One turn of the request loop up to the dispatch, at the given epoch of the engine. -/
def Session.receive (window : UInt64) (epoch : CoordinatorEpoch) (session : Session)
    (header : FrameHeader) : Session × Reply :=
  if header.type = .goodbye then ({ session with saidGoodbye := true }, .goodbye)
  else if header.session ≠ session.id then
    (session, .refused (.make .staleSession
      (text "frame carries a session identity that is not the live session")) true)
  else if header.sequence ≤ session.lastSequence then
    (session, .refused ⟨.replayedRequest,
      text "frame sequence did not advance; the request is a replay",
      text "received=" ++ decimal header.sequence.toNat ++ text " last=" ++
        decimal session.lastSequence.toNat⟩ true)
  else if header.correlation ∈ session.correlationSet then
    (session, .refused (.make .replayedRequest
      (text "correlation identity was already used in this session")) true)
  else if header.epoch ≠ epoch then
    ({ session with lastSequence := header.sequence }, .refused ⟨.staleEpoch,
      text "request was issued under a coordinator epoch that is no longer current",
      text "request=" ++ header.epoch.toText ++ text " current=" ++ epoch.toText⟩ false)
  else
    let kept := evictCorrelations window.toNat
      (session.recentCorrelations ++ [header.correlation])
      (session.correlationSet.insert header.correlation)
    ({ session with
      lastSequence := header.sequence
      recentCorrelations := kept.1
      correlationSet := kept.2 }, .dispatched)

structure Arrival where
  frame : Frame
  epoch : CoordinatorEpoch
  answered : Bool := true

/-- The connection of a session: whether its loop goes on, and what it has dispatched. -/
structure Connection where
  session : Session
  serving : Bool := true
  dispatched : List Arrival := []

def Connection.step (window : UInt64) (connection : Connection) (arrival : Arrival) : Connection :=
  if connection.serving = false then connection
  else
    let received := connection.session.receive window arrival.epoch arrival.frame.header
    match received.2 with
    | .goodbye => { connection with session := received.1, serving := false }
    | .refused _ closed =>
      { connection with session := received.1, serving := arrival.answered && !closed }
    | .dispatched =>
      { session := received.1
        serving := arrival.answered
        dispatched := connection.dispatched ++ [arrival] }

/-- The request loop over the frames that arrive, up to the first read that fails. -/
def Connection.run (window : UInt64) : Connection → List Arrival → Connection :=
  List.foldl (step window)

end CoherenceFabric
