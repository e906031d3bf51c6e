import CoherenceFabric.Codec.Snapshot
import CoherenceFabric.Coordinator.Session
import CoherenceFabric.System

/-!
The coordinator: connections that are served at the same time, one thread for each.

A thread takes the coordinator's lock, or the lock of the engine, for a while and lets it go again,
so the threads interleave at these sections. The handshake has several of them: an old session of
the participant is replaced and its incarnation fenced, the participant is registered, the new
session is entered into the tables, and it is acknowledged.
-/

namespace CoherenceFabric

structure HelloRequest where
  protocolVersion : UInt32 := protocolVersion
  schema : UInt32 := persistenceSchema
  participantName : Text := []
  boot : ParticipantBootId := .nil
  nodeLabel : Text := []
  observer : Bool := false

inductive Phase where
  /-- The hello has passed its checks. -/
  | greeted
  /-- An old session has been replaced, and the lock is held while its incarnation is fenced. -/
  | superseding (participant : ParticipantId)
  /-- The replacement is over. -/
  | cleared
  /-- The participant is registered; an observer is none and gets here at once. -/
  | registered
  /-- The session is in the tables and not yet acknowledged. -/
  | inserted
  /-- The session is acknowledged, and its requests are served. -/
  | serving
  /-- The request loop is over, and the session is still in the tables. -/
  | ending
  /-- The session is out of the tables. -/
  | settling
  /-- The participant was last seen with the boot of the session. -/
  | parting
  | closed
  deriving DecidableEq

structure ServeThread where
  hello : HelloRequest
  session : Session := {}
  phase : Phase := .greeted

structure Coordinator (σ : Type) where
  sys : Sys σ
  maxSessions : UInt64 := 256
  threads : List ServeThread := []
  /-- The sessions, by the thread whose connection they are. -/
  sessions : Map SessionId Nat := ∅
  participantSession : Map ParticipantId SessionId := ∅
  /-- The thread that holds the lock while it waits for the engine. -/
  holder : Option Nat := none

variable {σ : Type}

def Impl.findParticipant (s : Impl σ) (name : Text) : Result ParticipantRecord :=
  match s.participantIndex[name]? with
  | none => .error ⟨.unknownParticipant, text "no such participant", name⟩
  -- `at`: every indexed participant has a record
  | some id => .ok ((s.participants[id]?).getD {})

def Impl.getParticipant (s : Impl σ) (id : ParticipantId) : Result ParticipantRecord :=
  match s.participants[id]? with
  | none => .error ⟨.unknownParticipant, text "no such participant", id.toText⟩
  | some record => .ok record

def Impl.helloRefusal (s : Impl σ) (hello : HelloRequest) : Option Status :=
  if hello.protocolVersion ≠ protocolVersion then
    some ⟨.unsupportedSchema, text "protocol version mismatch",
      text "client=" ++ decimal hello.protocolVersion.toNat ++ text " coordinator=" ++
        decimal protocolVersion.toNat⟩
  else if hello.schema ≠ persistenceSchema then
    some ⟨.unsupportedSchema, text "persistence schema mismatch",
      text "client=" ++ decimal hello.schema.toNat ++ text " coordinator=" ++
        decimal persistenceSchema.toNat⟩
  else if s.shuttingDown then
    some (.make .shuttingDown (text "the coordinator is shutting down"))
  else if hello.observer then none
  else if hello.participantName.isEmpty then
    some (.make .invalidArgument (text "a participant name is required"))
  else if hello.boot.isNil then
    some (.make .invalidArgument (text "a participant boot identity is required"))
  else none

/-! ### Requests -/

inductive ControlRequest where
  | createDomain (name : Text)
  | registerObject (domain : CoherenceDomainId) (name : Text) (length : UInt64)
      (policy : CoherencePolicy)
  | registerRegion (registration : RegionRegistration)
  | acquireRead (request : ReadRequest)
  | acquireWrite (request : WriteRequest)
  | markDirty (request : DirtyRequest)
  | publish (request : PublishRequest)
  | invalidate (request : InvalidationRequest)
  | acknowledgeInvalidation (acknowledgement : InvalidationAck)
  | syncBegin (request : SyncRequest)
  | syncComplete (request : SyncCompleteRequest)
  | syncFail (request : SyncFailRequest)
  | release (request : ReleaseRequest)
  | revalidate (request : RevalidateRequest)
  | resolveRecovery (object : ObjectId) (generation : ObjectGeneration) (note : Text)
  | setPolicy (object : ObjectId) (generation : ObjectGeneration) (expected : PolicyGeneration)
      (policy : CoherencePolicy)
  | fenceParticipant (id : ParticipantId) (reason : Text)
  | retireRegion (id : RegionId) (generation : RegionGeneration)
  | retireObject (id : ObjectId) (generation : ObjectGeneration)
  | shutdown

/-- The context of a request speaks for the session, whatever the client has put there. -/
def Session.stamp (session : Session) (epoch : CoordinatorEpoch) (context : AuthorityContext) :
    AuthorityContext :=
  { context with participant := session.participant, boot := session.boot, epoch := epoch }

def Session.dispatch (session : Session) (epoch : CoordinatorEpoch) : ControlRequest → Action
  | .createDomain name => .createDomain name
  | .registerObject domain name length policy => .registerObject domain name length policy
  | .registerRegion r => .registerRegion { r with context := session.stamp epoch r.context }
  | .acquireRead r => .acquireRead { r with context := session.stamp epoch r.context }
  | .acquireWrite r => .acquireWrite { r with context := session.stamp epoch r.context }
  | .markDirty r => .markDirty { r with context := session.stamp epoch r.context }
  | .publish r => .publishReserve { r with context := session.stamp epoch r.context }
  -- an invalidation keeps the participant and the boot that the client has put there
  | .invalidate r => .invalidate { r with context := { r.context with epoch := epoch } }
  | .acknowledgeInvalidation r =>
    .acknowledgeInvalidation { r with context := session.stamp epoch r.context }
  | .syncBegin r => .beginSync { r with context := session.stamp epoch r.context }
  | .syncComplete r => .completeSync { r with context := session.stamp epoch r.context }
  | .syncFail r => .failSync { r with context := session.stamp epoch r.context }
  | .release r => .release { r with context := session.stamp epoch r.context }
  | .revalidate r => .revalidateRegion { r with context := session.stamp epoch r.context }
  | .resolveRecovery object generation note => .resolveRecovery object generation epoch note
  | .setPolicy object generation expected policy => .setPolicy object generation expected policy
  | .fenceParticipant id reason => .fenceParticipant id epoch reason
  | .retireRegion id generation => .retireRegion id generation epoch
  | .retireObject id generation => .retireObject id generation epoch
  | .shutdown => .beginShutdown epoch

/-! ### Sections -/

namespace Coordinator

variable [StoreMedium σ] (c : Coordinator σ)

def capacity : Nat := if c.maxSessions = 0 then 1 else c.maxSessions.toNat

variable (i : Nat)

def setThread (thread : ServeThread) : Coordinator σ :=
  { c with threads := c.threads.set i thread }

def replaceSession (participant : ParticipantId) : Coordinator σ :=
  match c.participantSession[participant]? with
  | none => c
  | some id =>
    match c.sessions[id]? with
    | none => c
    | some old =>
      { c with
        threads := c.threads.modify old fun thread =>
          { thread with session := { thread.session with replaced := true } }
        sessions := c.sessions.erase id
        participantSession := c.participantSession.erase participant }

def replace (thread : ServeThread) : Coordinator σ :=
  if thread.hello.observer then c.setThread i { thread with phase := .registered }
  else if c.holder.isSome then c
  else if c.capacity ≤ c.sessions.size then
    c.setThread i { thread with phase := .closed }
  else
    match c.sys.engine.findParticipant thread.hello.participantName with
    | .error _ => c.setThread i { thread with phase := .cleared }
    | .ok existing =>
      let c := c.replaceSession existing.id
      if existing.boot ≠ thread.hello.boot then
        { c.setThread i { thread with phase := .superseding existing.id } with holder := some i }
      else c.setThread i { thread with phase := .cleared }

/-- The previous incarnation is fenced, and the lock is let go. -/
def supersede (thread : ServeThread) (participant : ParticipantId) : Coordinator σ :=
  { c.setThread i { thread with phase := .cleared } with
    sys := c.sys.step (.fenceParticipant participant c.sys.engine.epoch
      (text "superseded by a new participant boot identity"))
    holder := none }

def register (thread : ServeThread) : Coordinator σ :=
  let registered := c.sys.engine.registerParticipant thread.hello.participantName
    thread.hello.boot c.sys.engine.epoch thread.hello.nodeLabel
  let c := { c with sys := c.sys.step (.registerParticipant thread.hello.participantName
    thread.hello.boot c.sys.engine.epoch thread.hello.nodeLabel) }
  match registered.1 with
  | .error _ => c.setThread i { thread with phase := .closed }
  | .ok record =>
    c.setThread i
      { thread with
        session := { thread.session with participant := record.id }
        phase := .registered }

def insert (thread : ServeThread) (id : SessionId) : Coordinator σ :=
  if id.isNil then c.setThread i { thread with phase := .closed }
  else if c.holder.isSome then c
  else
    { c.setThread i
        { thread with
          session :=
            { thread.session with
              id := id
              boot := thread.hello.boot
              observer := thread.hello.observer
              name := thread.hello.participantName }
          phase := .inserted } with
      sessions := c.sessions.insertIfNew id i
      participantSession :=
        if thread.hello.observer then c.participantSession
        else c.participantSession.insert thread.session.participant id }

/-- The acknowledgement is sent. If it cannot be, the session leaves the tables, and so does
whatever session the participant has there. -/
def acknowledge (thread : ServeThread) (sent : Bool) : Coordinator σ :=
  if sent then c.setThread i { thread with phase := .serving }
  else if c.holder.isSome then c
  else
    { c.setThread i { thread with phase := .closed } with
      sessions := c.sessions.erase thread.session.id
      participantSession := c.participantSession.erase thread.session.participant }

/-- A request is dispatched to the engine; an observer may not change anything. -/
def serve (thread : ServeThread) (request : ControlRequest) : Coordinator σ :=
  if thread.session.observer then c
  else { c with sys := c.sys.step (thread.session.dispatch c.sys.engine.epoch request) }

def hangUp (thread : ServeThread) (goodbye : Bool) : Coordinator σ :=
  c.setThread i
    { thread with session := { thread.session with saidGoodbye := goodbye }, phase := .ending }

/-- The session leaves the tables. A session that was replaced ends here. -/
def teardown (thread : ServeThread) : Coordinator σ :=
  if c.holder.isSome then c
  else
    let session := thread.session
    { c.setThread i
        { thread with
          phase := if session.observer || session.replaced || !session.participant.defined
            then .closed else .settling } with
      sessions := c.sessions.erase session.id
      participantSession :=
        if c.participantSession[session.participant]? = some session.id then
          c.participantSession.erase session.participant
        else c.participantSession }

def inspect (thread : ServeThread) : Coordinator σ :=
  match c.sys.engine.getParticipant thread.session.participant with
  | .error _ => c.setThread i { thread with phase := .closed }
  | .ok record =>
    c.setThread i
      { thread with
        phase := if record.boot ≠ thread.session.boot then .closed else .parting }

/-- The incarnation is marked as closed after a goodbye, and fenced without one. -/
def depart (thread : ServeThread) : Coordinator σ :=
  { c.setThread i { thread with phase := .closed } with
    sys := c.sys.step
      (if thread.session.saidGoodbye then
        .markSessionClosed thread.session.participant thread.session.boot
      else .fenceParticipant thread.session.participant c.sys.engine.epoch
        (text "the control connection was lost without a clean shutdown")) }

inductive Event where
  | connect (hello : HelloRequest)
  | replace (i : Nat)
  | supersede (i : Nat)
  | register (i : Nat)
  | insert (i : Nat) (id : SessionId)
  | acknowledge (i : Nat) (sent : Bool)
  | request (i : Nat) (request : ControlRequest)
  /-- A publish call of a request goes through its later phases. -/
  | publishAppend (index : Nat)
  | publishCommit (index : Nat)
  | hangUp (i : Nat) (goodbye : Bool)
  | teardown (i : Nat)
  | inspect (i : Nat)
  | depart (i : Nat)

/-- The section of a thread that stands in front of it; any other thread does nothing. -/
def at? (phase : Phase) : Option ServeThread :=
  (c.threads[i]?).filter fun thread => thread.phase = phase

def step : Event → Coordinator σ
  | .connect hello =>
    match c.sys.engine.helloRefusal hello with
    | some _ => c
    | none => { c with threads := c.threads ++ [{ hello := hello }] }
  | .replace i => ((c.at? i .greeted).map (c.replace i)).getD c
  | .supersede i =>
    match c.threads[i]? with
    | some thread =>
      match thread.phase with
      | .superseding participant => c.supersede i thread participant
      | _ => c
    | none => c
  | .register i => ((c.at? i .cleared).map (c.register i)).getD c
  | .insert i id => ((c.at? i .registered).map (c.insert i · id)).getD c
  | .acknowledge i sent => ((c.at? i .inserted).map (c.acknowledge i · sent)).getD c
  | .request i request => ((c.at? i .serving).map (c.serve · request)).getD c
  | .publishAppend index => { c with sys := c.sys.step (.publishAppend index) }
  | .publishCommit index => { c with sys := c.sys.step (.publishCommit index) }
  | .hangUp i goodbye => ((c.at? i .serving).map (c.hangUp i · goodbye)).getD c
  | .teardown i => ((c.at? i .ending).map (c.teardown i)).getD c
  | .inspect i => ((c.at? i .settling).map (c.inspect i)).getD c
  | .depart i => ((c.at? i .parting).map (c.depart i)).getD c

def start (config : EngineConfig) (store : Option σ) (domainName : Text)
    (maxSessions : UInt64 := 256) : Coordinator σ :=
  let sys := Sys.boot config store
  { sys :=
      if sys.engine.domains.toList.any fun entry => entry.2.name = domainName then sys
      else sys.step (.createDomain domainName)
    maxSessions := maxSessions }

def run (events : List Event) : Coordinator σ := events.foldl step c

end Coordinator

end CoherenceFabric
