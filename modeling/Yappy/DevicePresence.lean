import Yappy.GatewaySession
import Yappy.Runs

/-!
# The presence of one user

`PresenceTracker` of `apps/gateway/src/presence.ts`, driven by the sockets of one user's
devices on any number of nodes: every node keeps a map of the devices it holds, all of them
share the rows of `presence` and the user's `presence_status`, and a handler suspends at each
of its statements.
-/
namespace Yappy.Presence
open Yappy.Gateway (ReadyState)

abbrev NodeId := ℕ
abbrev DeviceId := ℕ
abbrev SocketId := ℕ
abbrev SessionId := ℕ

/-- `PRESENCE_STATUSES`. -/
inductive Status
  | online | idle | dnd | offline
deriving DecidableEq

/-- A row of `presence`; `live` while `expires_at > now()`. -/
structure Row where
  node : NodeId
  status : Status
  live : Bool

/-- A session of the user. It takes the id of the socket it was identified on, and is `listed`
while its node's maps have it. -/
structure Session where
  node : NodeId
  device : DeviceId
  socket : Option SocketId
  presence : Status
  listed : Bool

/-- Where the handler of a socket's current frame stands. -/
inductive Handling
  | idle
  /-- IDENTIFY has registered the session and looks up what it may hear. -/
  | identifying (id : SessionId) (presence : Status)
  /-- `presence.connect` before its insert, and before its update of the user. -/
  | inserting (id : SessionId) (status : Status)
  | updating (id : SessionId) (status : Status)
  /-- IDENTIFY or RESUME between there and the end of the handler. -/
  | returning (id : SessionId) (status : Status)
  /-- `presence.setStatus` before its update of the row, and before that of the user. -/
  | settingRow (device : DeviceId) (status : Status)
  | settingUser (status : Status)

/-- Where the `presence.disconnect` that a close event began stands. -/
inductive Leaving
  | none
  | deleting (device : DeviceId)
  | counting
  | writing

/-- A socket; `session` is that of its connection's closure. -/
structure Socket where
  node : NodeId
  readyState : ReadyState
  identified : Bool
  session : Option SessionId
  handling : Handling
  leaving : Leaving

def Socket.shut (c : Socket) : Socket := if c.readyState = .opened then { c with readyState := .closing } else c

def Handling.session : Handling → Option SessionId
  | .identifying id _ | .inserting id _ | .updating id _ | .returning id _ => some id
  | _ => none

/-- The session whose `presence.connect` has entered its device in the node's map and still has
the user to update. -/
def Handling.connecting : Handling → Option SessionId
  | .inserting id _ | .updating id _ => some id
  | _ => none

def Handling.entered : Handling → Option SessionId
  | .inserting id _ | .updating id _ | .returning id _ => some id
  | _ => none

def Handling.status : Handling → Option Status
  | .identifying _ status | .inserting _ status | .updating _ status | .returning _ status
  | .settingRow _ status | .settingUser status => some status
  | .idle => none

/-- A connection answers for the session: its closure holds it, or the handler that will put it
there is under way. -/
def Socket.Serves (c : Socket) (id : SessionId) : Prop :=
  c.session = some id ∨ c.handling.session = some id

/-- Nothing is there until it is connected or identified: a socket that is not there is closed
and takes no frame, and a session that is not there rides none and is not listed. -/
structure State where
  sockets : SocketId → Socket
  sessions : SessionId → Session
  /-- The `local` map of each node. -/
  held : NodeId → DeviceId → Option Status
  rows : DeviceId → Option Row
  /-- The user's `presence_status`. -/
  status : Status

def Socket.absent : Socket := ⟨0, .closed, true, none, .idle, .none⟩
def Session.absent : Session := ⟨0, 0, none, .online, false⟩

namespace State
variable (s : State)

def setSocket (k : SocketId) (c : Socket) : State := { s with sockets := Function.update s.sockets k c }

def setSession (id : SessionId) (e : Session) : State :=
  { s with sessions := Function.update s.sessions id e }

def setHeld (n : NodeId) (d : DeviceId) (entry : Option Status) : State :=
  { s with held := Function.update s.held n (Function.update (s.held n) d entry) }

def setRow (d : DeviceId) (row : Option Row) : State := { s with rows := Function.update s.rows d row }

def setStatus (status : Status) : State := { s with status := status }

/-- `socket.close` and `socket.terminate`. -/
def closeSocket (k : SocketId) : State := s.setSocket k (s.sockets k).shut

def closeRidden (e : Session) : State := e.socket.elim s s.closeSocket

def refresh (n : NodeId) : State :=
  { s with rows := fun d => (s.rows d).map fun r => if (s.held n d).isSome then { r with live := true } else r }

def IsConnected (e : Session) : Prop := ∃ k, e.socket = some k ∧ (s.sockets k).readyState = .opened

/-- Another session of the same device is connected on the node. -/
def Elsewhere (id : SessionId) : Prop :=
  ∃ id' ≠ id, (s.sessions id').listed ∧ (s.sessions id').node = (s.sessions id).node ∧
    (s.sessions id').device = (s.sessions id).device ∧ s.IsConnected (s.sessions id')

def entry (id : SessionId) : Option Status := s.held (s.sessions id).node (s.sessions id).device

def setEntry (id : SessionId) (entry : Option Status) : State :=
  s.setHeld (s.sessions id).node (s.sessions id).device entry

end State

inductive Event
  | connect (k : SocketId) (n : NodeId)
  /-- `authenticate` has answered an IDENTIFY. -/
  | identify (k : SocketId) (d : DeviceId) (presence : Status)
  /-- `authenticate` has answered a RESUME of a session that may be resumed, and the replay
  buffer reaches back far enough, or does not. -/
  | resume (k : SocketId) (id : SessionId)
  | resumeFails (k : SocketId) (id : SessionId)
  /-- `presence.connect` begins, and its statements are made. -/
  | enter (k : SocketId)
  | inserted (k : SocketId)
  | updated (k : SocketId)
  | returned (k : SocketId)
  | setStatus (k : SocketId) (status : Status)
  | rowSet (k : SocketId)
  | userSet (k : SocketId)
  | closing (k : SocketId)
  | closeEvent (k : SocketId)
  /-- The statements of `presence.disconnect`. -/
  | deleted (k : SocketId)
  | counted (k : SocketId)
  | wroteOffline (k : SocketId)
  /-- `session.close`: a slow consumer, a silent one. -/
  | closeSession (id : SessionId)
  | evict (id : SessionId)
  | reap (id : SessionId)
  | refresh (n : NodeId)
  | lapse (d : DeviceId)

/-- What the close event does to the session its closure holds: nothing unless the session
rides this socket or none, and no more than parking it where another session has the device. -/
inductive Closes (s : State) (k : SocketId) : State → Prop
  | stranger (h : ∀ id, (s.sockets k).session = some id →
        (s.sessions id).socket ≠ some k ∧ (s.sessions id).socket ≠ none) :
      Closes s k (s.setSocket k { s.sockets k with readyState := .closed })
  | parks {id : SessionId} (hid : (s.sockets k).session = some id)
      (hrides : (s.sessions id).socket = some k ∨ (s.sessions id).socket = none)
      (hstays : s.Elsewhere id ∨ s.entry id = none) :
      Closes s k ((s.setSession id { s.sessions id with socket := none }).setSocket k
        { s.sockets k with readyState := .closed })
  | leaves {id : SessionId} (hid : (s.sockets k).session = some id)
      (hrides : (s.sessions id).socket = some k ∨ (s.sessions id).socket = none)
      (hlast : ¬s.Elsewhere id) (hheld : s.entry id ≠ none) :
      Closes s k (((s.setEntry id none).setSession id { s.sessions id with socket := none }).setSocket k
        { s.sockets k with readyState := .closed, leaving := .deleting (s.sessions id).device })

/-- The user's sockets take a step. An IDENTIFY makes a session whose id is new. A row lapses
only when no node holds its device, for a node refreshes what it holds every thirty seconds. -/
inductive Step : State → Event → State → Prop
  | connect {s : State} {k : SocketId} (n : NodeId) (h : s.sockets k = .absent) :
      Step s (.connect k n) (s.setSocket k ⟨n, .opened, false, none, .idle, .none⟩)
  | identify {s : State} {k : SocketId} (d : DeviceId) (presence : Status)
      (hnew : (s.sockets k).identified = false) (hid : ∀ k', ¬(s.sockets k').Serves k) :
      Step s (.identify k d presence)
        ((s.setSession k ⟨(s.sockets k).node, d, some k, .online, true⟩).setSocket k
          { s.sockets k with identified := true, handling := .identifying k presence })
  | resume {s : State} {k : SocketId} {id : SessionId} (hnew : (s.sockets k).identified = false)
      (hlisted : (s.sessions id).listed) (hnode : (s.sessions id).node = (s.sockets k).node) :
      Step s (.resume k id)
        ((((s.closeRidden (s.sessions id)).setEntry id (some (s.sessions id).presence)).setSession id
          { s.sessions id with socket := some k }).setSocket k
            { s.sockets k with identified := true, handling := .inserting id (s.sessions id).presence })
  | resumeFails {s : State} {k : SocketId} {id : SessionId} (hnew : (s.sockets k).identified = false)
      (hlisted : (s.sessions id).listed) (hnode : (s.sessions id).node = (s.sockets k).node) :
      Step s (.resumeFails k id) (((s.closeRidden (s.sessions id)).setSession id
        { s.sessions id with socket := some k, listed := false }).setSocket k
          { (s.sockets k).shut with identified := true })
  | enter {s : State} {k : SocketId} {id : SessionId} {presence : Status}
      (hh : (s.sockets k).handling = .identifying id presence) :
      Step s (.enter k) ((s.setEntry id (some presence)).setSocket k
        { s.sockets k with handling := .inserting id presence })
  | inserted {s : State} {k : SocketId} {id : SessionId} {status : Status}
      (hh : (s.sockets k).handling = .inserting id status) :
      Step s (.inserted k) ((s.setRow (s.sessions id).device
        (some ⟨(s.sessions id).node, status, true⟩)).setSocket k
          { s.sockets k with handling := .updating id status })
  | updated {s : State} {k : SocketId} {id : SessionId} {status : Status}
      (hh : (s.sockets k).handling = .updating id status) :
      Step s (.updated k) ((s.setStatus (if s.status = .offline then status else s.status)).setSocket k
        { s.sockets k with handling := .returning id status })
  | returned {s : State} {k : SocketId} {id : SessionId} {status : Status}
      (hh : (s.sockets k).handling = .returning id status) :
      -- IDENTIFY records the status; the session of a RESUME has one
      Step s (.returned k) ((s.setSession id { s.sessions id with
        presence := if id = k then status else (s.sessions id).presence }).setSocket k
          { s.sockets k with handling := .idle, session := some id })
  | setStatus {s : State} {k : SocketId} {id : SessionId} (status : Status)
      (hh : (s.sockets k).handling = .idle) (hid : (s.sockets k).session = some id)
      (hheld : s.entry id ≠ none) :
      Step s (.setStatus k status)
        (((s.setEntry id (some status)).setSession id { s.sessions id with presence := status }).setSocket k
          { s.sockets k with handling := .settingRow (s.sessions id).device status })
  | setNothing {s : State} {k : SocketId} {id : SessionId} (status : Status)
      (hh : (s.sockets k).handling = .idle) (hid : (s.sockets k).session = some id)
      (hheld : s.entry id = none) :
      Step s (.setStatus k status) (s.setSession id { s.sessions id with presence := status })
  | rowSet {s : State} {k : SocketId} {d : DeviceId} {status : Status}
      (hh : (s.sockets k).handling = .settingRow d status) :
      Step s (.rowSet k) ((s.setRow d ((s.rows d).map fun r => { r with status := status })).setSocket k
        { s.sockets k with handling := .settingUser status })
  | userSet {s : State} {k : SocketId} {status : Status}
      (hh : (s.sockets k).handling = .settingUser status) :
      Step s (.userSet k) ((s.setStatus status).setSocket k { s.sockets k with handling := .idle })
  | closing {s : State} (k : SocketId) : Step s (.closing k) (s.closeSocket k)
  | closeEvent {s s' : State} {k : SocketId} (hclosing : (s.sockets k).readyState = .closing)
      (hs : Closes s k s') : Step s (.closeEvent k) s'
  | deleted {s : State} {k : SocketId} {d : DeviceId} (hl : (s.sockets k).leaving = .deleting d) :
      Step s (.deleted k) ((s.setRow d none).setSocket k { s.sockets k with leaving := .counting })
  | countedNone {s : State} {k : SocketId} (hl : (s.sockets k).leaving = .counting)
      (hnone : ∀ d r, s.rows d = some r → r.live = false) :
      Step s (.counted k) (s.setSocket k { s.sockets k with leaving := .writing })
  | countedSome {s : State} {k : SocketId} (hl : (s.sockets k).leaving = .counting)
      (hsome : ∃ d r, s.rows d = some r ∧ r.live) :
      Step s (.counted k) (s.setSocket k { s.sockets k with leaving := .none })
  | wroteOffline {s : State} {k : SocketId} (hl : (s.sockets k).leaving = .writing) :
      Step s (.wroteOffline k) ((s.setStatus .offline).setSocket k { s.sockets k with leaving := .none })
  | closeSession {s : State} (id : SessionId) :
      Step s (.closeSession id) ((s.closeRidden (s.sessions id)).setSession id
        { s.sessions id with socket := none })
  | evict {s : State} (id : SessionId) :
      Step s (.evict id) ((s.closeRidden (s.sessions id)).setSession id
        { s.sessions id with socket := none, listed := false })
  | reap {s : State} {id : SessionId} (hparked : (s.sessions id).socket = none) :
      Step s (.reap id) (s.setSession id { s.sessions id with listed := false })
  | refresh {s : State} (n : NodeId) : Step s (.refresh n) (s.refresh n)
  | lapse {s : State} (d : DeviceId) (h : ∀ n, s.held n d = none) :
      Step s (.lapse d) (s.setRow d ((s.rows d).map fun r => { r with live := false }))

def start : State := ⟨fun _ => .absent, fun _ => .absent, fun _ _ => none, fun _ => none, .offline⟩

/-- Every handler has finished, and no socket has its close event still to come. -/
def State.Quiet (s : State) : Prop :=
  ∀ k, (s.sockets k).handling = .idle ∧ (s.sockets k).leaving = .none ∧
    (s.sockets k).readyState ≠ .closing

/-- The socket's close event will find the session: the socket has not closed, it answers for
the session, and the session rides it or none. -/
def State.Claims (s : State) (k : SocketId) (id : SessionId) : Prop :=
  (s.sockets k).readyState ≠ .closed ∧ (s.sockets k).Serves id ∧
    ((s.sessions id).socket = some k ∨ (s.sessions id).socket = none)

def State.AnyHeld (s : State) : Prop := ∃ n d, s.held n d ≠ none

/-- A `presence.connect` has still the user to update. -/
def State.AnyConnecting (s : State) : Prop := ∃ k, (s.sockets k).handling.connecting ≠ none

/-- A `presence.disconnect` is under way. -/
def State.AnyLeaving (s : State) : Prop := ∃ k, (s.sockets k).leaving ≠ .none

/-- A `presence.connect` of the device has still its row to insert. -/
def State.Inserting (s : State) (d : DeviceId) : Prop :=
  ∃ k id status, (s.sockets k).handling = .inserting id status ∧ (s.sessions id).device = d

/-- No handler falls into another's gap. -/
def Orderly (s : State) : Event → Prop
  | .identify k _ presence => presence ≠ .offline ∧ (s.sockets k).readyState ≠ .closed
  | .resume k _ => (s.sockets k).readyState ≠ .closed
  -- a session whose replay fails is one that nothing is connected for
  | .resumeFails _ id => s.entry id = none ∧ ∀ k, (s.sockets k).handling.session ≠ some id
  | .setStatus _ status => status ≠ .offline
  -- the user's status is set while a device is there, or before the offline that will follow
  | .userSet _ => s.AnyHeld ∨ s.AnyLeaving
  -- a socket closes before its IDENTIFY or RESUME or after it, and takes no device away that
  -- another socket is connecting
  | .closeEvent k => (s.sockets k).handling.session = none ∧ ∀ id, (s.sockets k).session = some id →
      s.Elsewhere id ∨ ∀ k' id', (s.sockets k').handling.connecting = some id' →
        ¬((s.sessions id').node = (s.sessions id).node ∧ (s.sessions id').device = (s.sessions id).device)
  -- a row is deleted that no later connection has put there
  | .deleted k => ∀ d, (s.sockets k).leaving = .deleting d → (∃ n, s.held n d ≠ none) → s.Inserting d
  -- offline is written while no device is there, or before the update that will follow
  | .wroteOffline _ => s.AnyHeld → s.AnyConnecting
  | _ => True

structure Wired (s : State) : Prop where
  fresh : ∀ k, (s.sockets k).identified = false →
    (s.sockets k).session = none ∧ (s.sockets k).handling = .idle
  single : ∀ k, (s.sockets k).handling.session ≠ none → (s.sockets k).session = none
  awake : ∀ k, (s.sockets k).handling.session ≠ none → (s.sockets k).readyState ≠ .closed
  standing : ∀ k, (s.sockets k).readyState ≠ .closed → (s.sockets k).leaving = .none
  known : ∀ k id, (s.sockets k).Serves id → (s.sessions id).node = (s.sockets k).node ∧
    ((s.sockets k).readyState = .opened → (s.sessions id).socket = some k ∧ (s.sessions id).listed)
  -- only a session that a failed RESUME has forgotten can ride a socket that does not answer for it
  rides : ∀ id k, (s.sessions id).socket = some k →
    ((s.sockets k).readyState ≠ .closed ∧ (s.sockets k).node = (s.sessions id).node ∧
      (s.sockets k).Serves id) ∨
      (s.sessions id).listed = false ∧ ∀ k', (s.sockets k').handling.session ≠ some id

structure Entered (s : State) : Prop where
  claimed : ∀ n d, s.held n d ≠ none →
    ∃ k id, s.Claims k id ∧ (s.sessions id).node = n ∧ (s.sessions id).device = d
  connecting : ∀ k id, (s.sockets k).handling.connecting = some id → s.entry id ≠ none
  opened : ∀ k id, (s.sockets k).readyState = .opened →
    (s.sockets k).session = some id ∨ (s.sockets k).handling.entered = some id → s.entry id ≠ none

structure Placed (s : State) : Prop where
  placed : ∀ d r, s.rows d = some r →
    s.held r.node d ≠ none ∨ ∃ k, (s.sockets k).leaving = .deleting d
  kept : ∀ n d, s.held n d ≠ none → (∃ r, s.rows d = some r ∧ r.live) ∨ s.Inserting d

/-- While a device is held the user is not offline, or a `presence.connect` will see to it, and
the other way about. -/
structure Told (s : State) : Prop where
  shown : ∀ k, (s.sockets k).handling.status ≠ some .offline
  present : ∀ id, (s.sessions id).presence ≠ .offline
  told : s.AnyHeld → s.status ≠ .offline ∨ s.AnyConnecting
  owed : s.status ≠ .offline → s.AnyHeld ∨ s.AnyLeaving

variable {s s' : State} {k k' : SocketId} {c c' : Socket} {id id' : SessionId} {e : Session} {event : Event}
  {n n' : NodeId} {d d' : DeviceId} {entry : Option Status} {row : Option Row} {status : Status}

@[simp, grind =] lemma shut_node : c.shut.node = c.node := by
  unfold Socket.shut
  split <;> rfl

@[simp, grind =] lemma shut_identified : c.shut.identified = c.identified := by
  unfold Socket.shut
  split <;> rfl

@[simp, grind =] lemma shut_session : c.shut.session = c.session := by
  unfold Socket.shut
  split <;> rfl

@[simp, grind =] lemma shut_handling : c.shut.handling = c.handling := by
  unfold Socket.shut
  split <;> rfl

@[simp, grind =] lemma shut_leaving : c.shut.leaving = c.leaving := by
  unfold Socket.shut
  split <;> rfl


@[simp, grind =] lemma shut_closed : c.shut.readyState = .closed ↔ c.readyState = .closed := by
  unfold Socket.shut
  split <;> simp_all

@[simp, grind .] lemma shut_opened : c.shut.readyState ≠ .opened := by
  unfold Socket.shut
  split <;> simp_all

@[grind =] lemma setSocket_sockets :
    (s.setSocket k c).sockets k' = if k' = k then c else s.sockets k' := Function.update_apply ..
@[grind =] lemma setSession_sessions :
    (s.setSession id e).sessions id' = if id' = id then e else s.sessions id' := Function.update_apply ..
@[grind =] lemma setRow_rows : (s.setRow d row).rows d' = if d' = d then row else s.rows d' :=
  Function.update_apply ..

@[grind =] lemma setEntry_held : (s.setEntry id entry).held n d =
    if n = (s.sessions id).node ∧ d = (s.sessions id).device then entry else s.held n d := by
  by_cases hn : n = (s.sessions id).node
  · simp [State.setEntry, State.setHeld, hn, Function.update_apply]
  · simp [State.setEntry, State.setHeld, hn]

@[simp, grind =] lemma setSocket_sessions : (s.setSocket k c).sessions id = s.sessions id := rfl
@[simp, grind =] lemma setSocket_held : (s.setSocket k c).held n d = s.held n d := rfl
@[simp, grind =] lemma setSocket_rows : (s.setSocket k c).rows d = s.rows d := rfl
@[simp, grind =] lemma setSocket_status : (s.setSocket k c).status = s.status := rfl
@[simp, grind =] lemma setSession_sockets : (s.setSession id e).sockets k = s.sockets k := rfl
@[simp, grind =] lemma setSession_held : (s.setSession id e).held n d = s.held n d := rfl
@[simp, grind =] lemma setSession_rows : (s.setSession id e).rows d = s.rows d := rfl
@[simp, grind =] lemma setSession_status : (s.setSession id e).status = s.status := rfl
@[simp, grind =] lemma setEntry_sockets : (s.setEntry id entry).sockets k = s.sockets k := rfl
@[simp, grind =] lemma setEntry_sessions : (s.setEntry id entry).sessions id' = s.sessions id' := rfl
@[simp, grind =] lemma setEntry_rows : (s.setEntry id entry).rows d = s.rows d := rfl
@[simp, grind =] lemma setEntry_status : (s.setEntry id entry).status = s.status := rfl
@[simp, grind =] lemma setRow_sockets : (s.setRow d row).sockets k = s.sockets k := rfl
@[simp, grind =] lemma setRow_sessions : (s.setRow d row).sessions id = s.sessions id := rfl
@[simp, grind =] lemma setRow_held : (s.setRow d row).held n d' = s.held n d' := rfl
@[simp, grind =] lemma setRow_status : (s.setRow d row).status = s.status := rfl
@[simp, grind =] lemma setStatus_sockets : (s.setStatus status).sockets k = s.sockets k := rfl
@[simp, grind =] lemma setStatus_sessions : (s.setStatus status).sessions id = s.sessions id := rfl
@[simp, grind =] lemma setStatus_held : (s.setStatus status).held n d = s.held n d := rfl
@[simp, grind =] lemma setStatus_rows : (s.setStatus status).rows d = s.rows d := rfl
@[simp, grind =] lemma setStatus_status : (s.setStatus status).status = status := rfl
@[simp, grind =] lemma refresh_sockets : (s.refresh n).sockets k = s.sockets k := rfl
@[simp, grind =] lemma refresh_sessions : (s.refresh n).sessions id = s.sessions id := rfl
@[simp, grind =] lemma refresh_held : (s.refresh n).held n' d = s.held n' d := rfl
@[simp, grind =] lemma refresh_status : (s.refresh n).status = s.status := rfl

@[grind =] lemma closeSocket_sockets :
    (s.closeSocket k).sockets k' = if k' = k then (s.sockets k').shut else s.sockets k' := by
  rw [State.closeSocket, setSocket_sockets]
  split <;> simp_all

@[simp, grind =] lemma closeSocket_sessions : (s.closeSocket k).sessions id = s.sessions id := rfl
@[simp, grind =] lemma closeSocket_held : (s.closeSocket k).held n d = s.held n d := rfl
@[simp, grind =] lemma closeSocket_rows : (s.closeSocket k).rows d = s.rows d := rfl
@[simp, grind =] lemma closeSocket_status : (s.closeSocket k).status = s.status := rfl

@[grind =] lemma closeRidden_sockets : (s.closeRidden e).sockets k =
    if e.socket = some k then (s.sockets k).shut else s.sockets k := by
  cases hsocket : e.socket with
  | none => simp [State.closeRidden, hsocket]
  | some k' =>
    simp only [State.closeRidden, hsocket, Option.elim_some, closeSocket_sockets, Option.some.injEq]
    exact if_congr eq_comm rfl rfl

@[simp, grind =] lemma closeRidden_sessions : (s.closeRidden e).sessions id = s.sessions id := by
  cases hsocket : e.socket <;> simp [State.closeRidden, hsocket]
@[simp, grind =] lemma closeRidden_held : (s.closeRidden e).held n d = s.held n d := by
  cases hsocket : e.socket <;> simp [State.closeRidden, hsocket]
@[simp, grind =] lemma closeRidden_rows : (s.closeRidden e).rows d = s.rows d := by
  cases hsocket : e.socket <;> simp [State.closeRidden, hsocket]
@[simp, grind =] lemma closeRidden_status : (s.closeRidden e).status = s.status := by
  cases hsocket : e.socket <;> simp [State.closeRidden, hsocket]

attribute [grind] Socket.Serves Handling.session Handling.connecting Handling.entered Handling.status
  State.Claims State.entry

/-! ### Sockets and sessions -/

lemma Wired.congr (h : Wired s) (hsockets : ∀ k, s'.sockets k = s.sockets k)
    (hnode : ∀ id, (s'.sessions id).node = (s.sessions id).node)
    (hsocket : ∀ id, (s'.sessions id).socket = (s.sessions id).socket)
    (hlisted : ∀ id, (s'.sessions id).listed = (s.sessions id).listed) : Wired s' := by
  obtain ⟨hfresh, hsingle, hawake, hstanding, hknown, hrides⟩ := h
  constructor <;> simp only [hsockets, hnode, hsocket, hlisted] <;> assumption

lemma Wired.setSocket {c : Socket} (h : Wired s)
    (hfresh : c.identified = false → c.session = none ∧ c.handling = .idle)
    (hsingle : c.handling.session ≠ none → c.session = none)
    (hawake : c.handling.session ≠ none → c.readyState ≠ .closed)
    (hstanding : c.readyState ≠ .closed → c.leaving = .none) (hnode : c.node = (s.sockets k).node)
    (hserves : ∀ id, c.Serves id ↔ (s.sockets k).Serves id)
    (hhandles : ∀ id, c.handling.session = some id → (s.sockets k).handling.session = some id)
    (hopened : c.readyState = .opened → (s.sockets k).readyState = .opened)
    (hclosed : (s.sockets k).readyState ≠ .closed → c.readyState ≠ .closed) : Wired (s.setSocket k c) where
  fresh k' := by
    rw [setSocket_sockets]
    split_ifs
    · exact hfresh
    · exact h.fresh k'
  single k' := by
    rw [setSocket_sockets]
    split_ifs
    · exact hsingle
    · exact h.single k'
  awake k' := by
    rw [setSocket_sockets]
    split_ifs
    · exact hawake
    · exact h.awake k'
  standing k' := by
    rw [setSocket_sockets]
    split_ifs
    · exact hstanding
    · exact h.standing k'
  known k' id hs := by
    rw [setSocket_sockets] at hs ⊢
    split_ifs at hs ⊢ with he
    · subst he
      obtain ⟨hnode', hridden⟩ := h.known k' id ((hserves id).mp hs)
      exact ⟨hnode'.trans hnode.symm, fun ho => hridden (hopened ho)⟩
    · exact h.known k' id hs
  rides id k' hs := by
    rw [setSocket_sockets]
    rcases h.rides id k' hs with ⟨hstate, hat, hserving⟩ | ⟨hlisted, hno⟩
    · refine Or.inl ?_
      split_ifs with he
      · subst he
        exact ⟨hclosed hstate, hnode.trans hat, (hserves id).mpr hserving⟩
      · exact ⟨hstate, hat, hserving⟩
    · refine Or.inr ⟨hlisted, fun k'' => ?_⟩
      rw [setSocket_sockets]
      split_ifs with he
      · exact fun hh => hno k (hhandles id hh)
      · exact hno k''

lemma Wired.handles {handling : Handling} (h : Wired s)
    (hsame : handling.session = (s.sockets k).handling.session)
    (hidle : (s.sockets k).handling = .idle → (s.sockets k).session ≠ none) :
    Wired (s.setSocket k { s.sockets k with handling := handling }) := by
  refine h.setSocket (fun hnew => ?_) ?_ ?_ (h.standing k) rfl (fun id => ?_) (fun _ hs => hsame ▸ hs)
    (fun ho => ho) fun hc => hc
  · obtain ⟨hsession, hhandling⟩ := h.fresh k hnew
    exact absurd hsession (hidle hhandling)
  · rw [hsame]
    exact h.single k
  · rw [hsame]
    exact h.awake k
  · simp only [Socket.Serves, hsame]

lemma Wired.leaving {leaving : Leaving} (h : Wired s) (hl : (s.sockets k).leaving ≠ .none) :
    Wired (s.setSocket k { s.sockets k with leaving := leaving }) :=
  h.setSocket (h.fresh k) (h.single k) (h.awake k) (fun hstate => absurd (h.standing k hstate) hl) rfl
    (fun _ => Iff.rfl) (fun _ hs => hs) (fun ho => ho) fun hc => hc

lemma Wired.returned (h : Wired s) (hh : (s.sockets k).handling = .returning id status) :
    Wired (s.setSocket k { s.sockets k with handling := .idle, session := some id }) := by
  have hsession : (s.sockets k).handling.session = some id := congrArg Handling.session hh
  have hnone : (s.sockets k).session = none := h.single k (hsession ▸ Option.some_ne_none id)
  refine h.setSocket (fun hnew => ?_) (fun hno => absurd rfl hno) (fun hno => absurd rfl hno) (h.standing k) rfl
    (fun id' => ?_) (fun _ hno => by cases hno) (fun ho => ho) fun hc => hc
  · obtain ⟨-, hhandling⟩ := h.fresh k hnew
    rw [hhandling] at hh
    cases hh
  · rw [Socket.Serves, Socket.Serves, hsession, hnone]
    simp [Handling.session]

lemma Wired.connect (h : Wired s) (hk : s.sockets k = .absent) :
    Wired (s.setSocket k ⟨n, .opened, false, none, .idle, .none⟩) := by
  obtain ⟨hfresh, hsingle, hawake, hstanding, hknown, hrides⟩ := h
  constructor <;> grind [Socket.absent]

lemma Wired.identify {presence : Status} (h : Wired s) (hnew : (s.sockets k).identified = false)
    (hid : ∀ k', ¬(s.sockets k').Serves k) (hopen : (s.sockets k).readyState ≠ .closed) :
    Wired ((s.setSession k ⟨(s.sockets k).node, d, some k, .online, true⟩).setSocket k
      { s.sockets k with identified := true, handling := .identifying k presence }) := by
  obtain ⟨hfresh, hsingle, hawake, hstanding, hknown, hrides⟩ := h
  constructor <;> grind

lemma Wired.resume (status : Status) (h : Wired s) (hnew : (s.sockets k).identified = false)
    (hlisted : (s.sessions id).listed) (hnode : (s.sessions id).node = (s.sockets k).node)
    (hopen : (s.sockets k).readyState ≠ .closed) :
    Wired (((s.closeRidden (s.sessions id)).setSession id { s.sessions id with socket := some k }).setSocket k
      { s.sockets k with identified := true, handling := .inserting id status }) := by
  obtain ⟨hfresh, hsingle, hawake, hstanding, hknown, hrides⟩ := h
  constructor
  case rides =>
    intro id' k' hs
    by_cases hid : id' = id
    · grind
    · rcases hrides id' k' (by grind) with h | h
      · exact Or.inl (by grind)
      · exact Or.inr (by grind)
  all_goals grind

lemma Wired.resumeFails (h : Wired s) (hnew : (s.sockets k).identified = false)
    (hno : ∀ k, (s.sockets k).handling.session ≠ some id) :
    Wired (((s.closeRidden (s.sessions id)).setSession id
      { s.sessions id with socket := some k, listed := false }).setSocket k
        { (s.sockets k).shut with identified := true }) := by
  obtain ⟨hfresh, hsingle, hawake, hstanding, hknown, hrides⟩ := h
  constructor
  case rides =>
    intro id' k' hs
    by_cases hid : id' = id
    · grind
    · rcases hrides id' k' (by grind) with h | h
      · have hk : k' ≠ k := by
          rintro rfl
          grind
        exact Or.inl (by grind)
      · exact Or.inr (by grind)
  all_goals grind

lemma Wired.closing (h : Wired s) : Wired (s.closeSocket k) := by
  refine h.setSocket ?_ ?_ ?_ ?_ shut_node (fun id => ?_) (fun id hs => ?_)
    (fun ho => absurd ho shut_opened) fun hc => hc ∘ shut_closed.mp
  · simpa using h.fresh k
  · simpa using h.single k
  · simpa using h.awake k
  · simpa using h.standing k
  · simp [Socket.Serves]
  · rwa [shut_handling] at hs

lemma Wired.closeRidden (h : Wired s) : Wired (s.closeRidden e) := by
  unfold State.closeRidden
  cases e.socket with
  | none => exact h
  | some k => exact h.closing

lemma Wired.setSession (h : Wired s) (hnode : e.node = (s.sessions id).node)
    (hknown : ∀ k, (s.sockets k).Serves id → (s.sockets k).readyState = .opened → e.socket = some k ∧ e.listed)
    (hrides : ∀ k, e.socket = some k →
      ((s.sockets k).readyState ≠ .closed ∧ (s.sockets k).node = e.node ∧ (s.sockets k).Serves id) ∨
        e.listed = false ∧ ∀ k', (s.sockets k').handling.session ≠ some id) : Wired (s.setSession id e) where
  fresh := h.fresh
  single := h.single
  awake := h.awake
  standing := h.standing
  known k id' hs := by
    rw [setSession_sessions]
    split_ifs with he
    · subst he
      exact ⟨hnode.trans (h.known k id' hs).1, hknown k hs⟩
    · exact h.known k id' hs
  rides id' k hs := by
    rw [setSession_sessions] at hs ⊢
    split_ifs at hs ⊢ with he
    · subst he
      exact hrides k hs
    · exact h.rides id' k hs

lemma Wired.releases {listed : Bool} (h : Wired s) :
    Wired ((s.closeRidden (s.sessions id)).setSession id
      { s.sessions id with socket := none, listed := listed }) := by
  refine h.closeRidden.setSession (by rw [closeRidden_sessions]) (fun k hs ho => ?_)
    fun _ hs => by cases hs
  rw [closeRidden_sockets] at hs ho
  split_ifs at hs ho with hridden
  · exact absurd ho shut_opened
  · exact absurd ((h.known k id hs).2 ho).1 hridden

lemma Wired.reap (h : Wired s) (hparked : (s.sessions id).socket = none) :
    Wired (s.setSession id { s.sessions id with listed := false }) := by
  refine h.setSession rfl (fun k hs ho => ?_) fun k hs => ?_
  · exact absurd (hparked.symm.trans ((h.known k id hs).2 ho).1) (Option.some_ne_none k).symm
  · exact absurd (hparked.symm.trans hs) (Option.some_ne_none k).symm

lemma Wired.closed {leaving : Leaving} (h : Wired s) (hno : (s.sockets k).handling.session = none)
    (hsockets : ∀ k', s'.sockets k' =
      if k' = k then { s.sockets k with readyState := .closed, leaving := leaving } else s.sockets k')
    (hnode : ∀ id, (s'.sessions id).node = (s.sessions id).node)
    (hlisted : ∀ id, (s'.sessions id).listed = (s.sessions id).listed)
    (hsocket : ∀ id, (s'.sessions id).socket =
      if (s.sockets k).session = some id ∧ (s.sessions id).socket = some k then none
      else (s.sessions id).socket) : Wired s' where
  fresh k' := by
    rw [hsockets]
    split_ifs
    · exact h.fresh k
    · exact h.fresh k'
  single k' := by
    rw [hsockets]
    split_ifs
    · exact h.single k
    · exact h.single k'
  awake k' := by
    rw [hsockets]
    split_ifs
    · exact fun hs => absurd hno hs
    · exact h.awake k'
  standing k' := by
    rw [hsockets]
    split_ifs
    · exact fun hc => absurd rfl hc
    · exact h.standing k'
  known k' id hs := by
    rw [hsockets] at hs ⊢
    rw [hnode, hlisted, hsocket]
    by_cases he : k' = k
    · subst he
      rw [if_pos rfl] at hs ⊢
      exact ⟨(h.known k' id hs).1, fun ho => by cases ho⟩
    · rw [if_neg he] at hs ⊢
      obtain ⟨hat, hridden⟩ := h.known k' id hs
      refine ⟨hat, fun ho => ?_⟩
      obtain ⟨hsocket', hin⟩ := hridden ho
      rw [if_neg fun hrides => he (Option.some.inj (hsocket'.symm.trans hrides.2))]
      exact ⟨hsocket', hin⟩
  rides id k' hs := by
    rw [hsocket] at hs
    split_ifs at hs with hrides
    simp only [hsockets, hnode, hlisted]
    rcases h.rides id k' hs with ⟨hstate, hat, hserves⟩ | ⟨hforgotten, hnone⟩
    · have hk : k' ≠ k := by
        rintro rfl
        exact hrides ⟨hserves.resolve_right (by simp [hno]), hs⟩
      exact Or.inl (by simpa [hk] using ⟨hstate, hat, hserves⟩)
    · refine Or.inr ⟨hforgotten, fun k'' => ?_⟩
      split_ifs
      · exact hnone k
      · exact hnone k''

lemma Wired.closes (h : Wired s) (hno : (s.sockets k).handling.session = none) (hs : Closes s k s') :
    Wired s' := by
  cases hs with
  | stranger hother =>
    refine h.closed hno (fun _ => setSocket_sockets) (fun _ => rfl) (fun _ => rfl) fun id => ?_
    exact (if_neg fun hrides => (hother id hrides.1).1 hrides.2).symm
  | parks hid hrides' =>
    refine h.closed hno (fun _ => setSocket_sockets) (fun _ => ?_) (fun _ => ?_) fun id' => ?_
    all_goals grind
  | leaves hid hrides' =>
    refine h.closed hno (fun _ => setSocket_sockets) (fun _ => ?_) (fun _ => ?_) fun id' => ?_
    all_goals grind

lemma Wired.step (h : Wired s) (hok : Orderly s event) (hs : Step s event s') : Wired s' := by
  cases hs with
  | connect n hk => exact h.connect hk
  | identify d presence hnew hid => exact h.identify hnew hid hok.2
  | @resume k id hnew hlisted hnode =>
    apply (h.resume (s.sessions id).presence hnew hlisted hnode hok).congr <;> grind
  | resumeFails hnew hlisted hnode => exact h.resumeFails hnew hok.2
  | @enter k id presence hh =>
    have hmoves : Wired (s.setSocket k { s.sockets k with handling := .inserting id presence }) :=
      h.handles (by simp [hh, Handling.session]) (by simp [hh])
    apply hmoves.congr <;> grind
  | @inserted k id status hh =>
    have hmoves : Wired (s.setSocket k { s.sockets k with handling := .updating id status }) :=
      h.handles (by simp [hh, Handling.session]) (by simp [hh])
    apply hmoves.congr <;> grind
  | @updated k id status hh =>
    have hmoves : Wired (s.setSocket k { s.sockets k with handling := .returning id status }) :=
      h.handles (by simp [hh, Handling.session]) (by simp [hh])
    apply hmoves.congr <;> grind
  | returned hh => apply (h.returned hh).congr <;> grind
  | @setStatus k id status hh hid hheld =>
    have hmoves : Wired (s.setSocket k
        { s.sockets k with handling := .settingRow (s.sessions id).device status }) :=
      h.handles (by simp [hh, Handling.session]) (by simp [hid])
    apply hmoves.congr <;> grind
  | setNothing status hh hid hheld => apply h.congr <;> grind
  | @rowSet k d status hh =>
    have hmoves : Wired (s.setSocket k { s.sockets k with handling := .settingUser status }) :=
      h.handles (by simp [hh, Handling.session]) (by simp [hh])
    apply hmoves.congr <;> grind
  | @userSet k status hh =>
    have hmoves : Wired (s.setSocket k { s.sockets k with handling := .idle }) :=
      h.handles (by simp [hh, Handling.session]) (by simp [hh])
    apply hmoves.congr <;> grind
  | closing k => exact h.closing
  | closeEvent hclosing hs => exact h.closes hok.1 hs
  | @deleted k d hl =>
    have hleaves : Wired (s.setSocket k { s.sockets k with leaving := .counting }) := h.leaving (by simp [hl])
    apply hleaves.congr <;> grind
  | countedNone hl hnone => exact h.leaving (by simp [hl])
  | countedSome hl hsome => exact h.leaving (by simp [hl])
  | @wroteOffline k hl =>
    have hleaves : Wired (s.setSocket k { s.sockets k with leaving := .none }) := h.leaving (by simp [hl])
    apply hleaves.congr <;> grind
  | closeSession id => exact h.releases
  | evict id => exact h.releases
  | reap hparked => exact h.reap hparked
  | refresh n => apply h.congr <;> grind
  | lapse d hno => apply h.congr <;> grind

/-! ### The nodes' maps -/

lemma Wired.claim (h : Wired s) (hsession : (s.sockets k).handling.session = some id) :
    ∃ k', s.Claims k' id := by
  cases hsocket : (s.sessions id).socket with
  | none => exact ⟨k, h.awake k (by simp [hsession]), Or.inr hsession, Or.inr hsocket⟩
  | some k' =>
    rcases h.rides id k' hsocket with ⟨hopen, -, hserves⟩ | ⟨-, hno⟩
    · exact ⟨k', hopen, hserves, Or.inl hsocket⟩
    · exact absurd hsession (hno k)

@[grind →] lemma session_of_connecting {handling : Handling} (h : handling.connecting = some id) :
    handling.session = some id := by
  cases handling <;> simp_all [Handling.connecting, Handling.session]

@[grind →] lemma session_of_entered {handling : Handling} (h : handling.entered = some id) :
    handling.session = some id := by
  cases handling <;> simp_all [Handling.entered, Handling.session]

lemma Entered.keeps (h : Entered s) (hheld : ∀ n d, s'.held n d = s.held n d)
    (hsame : ∀ k id, (s.sockets k).Serves id → (s'.sessions id).node = (s.sessions id).node ∧
      (s'.sessions id).device = (s.sessions id).device)
    (hclaims : ∀ k id, s.Claims k id → s.entry id ≠ none → ∃ k' id', s'.Claims k' id' ∧
      (s'.sessions id').node = (s.sessions id).node ∧ (s'.sessions id').device = (s.sessions id).device)
    (hconnecting : ∀ k id, (s'.sockets k).handling.connecting = some id →
      (s.sockets k).handling.connecting = some id)
    (hopened : ∀ k id, (s'.sockets k).readyState = .opened →
      (s'.sockets k).session = some id ∨ (s'.sockets k).handling.entered = some id →
        (s.sockets k).readyState = .opened ∧
          ((s.sockets k).session = some id ∨ (s.sockets k).handling.entered = some id)) : Entered s' := by
  constructor
  case claimed =>
    intro n d hd
    obtain ⟨k, id, hclaim, hnode, hdevice⟩ := h.claimed n d (hheld n d ▸ hd)
    obtain ⟨k', id', hclaim', hn, hd⟩ := hclaims k id hclaim (by grind)
    exact ⟨k', id', hclaim', hn.trans hnode, hd.trans hdevice⟩
  case connecting =>
    intro k id hk
    have hk := hconnecting k id hk
    obtain ⟨hn, hd⟩ := hsame k id (Or.inr (session_of_connecting hk))
    have hentry := h.connecting k id hk
    rwa [State.entry, hn, hd, hheld]
  case opened =>
    intro k id hopen hk
    obtain ⟨hopen, hk⟩ := hopened k id hopen hk
    obtain ⟨hn, hd⟩ := hsame k id (hk.imp_right session_of_entered)
    have hentry := h.opened k id hopen hk
    rwa [State.entry, hn, hd, hheld]

lemma Entered.enter {presence : Status} (hw : Wired s) (h : Entered s)
    (hh : (s.sockets k).handling = .identifying id presence) :
    Entered ((s.setEntry id (some presence)).setSocket k
      { s.sockets k with handling := .inserting id presence }) := by
  constructor
  case claimed =>
    intro n d hd
    by_cases hnew : n = (s.sessions id).node ∧ d = (s.sessions id).device
    · have hsession : (s.sockets k).handling.session = some id := by simp [hh, Handling.session]
      obtain ⟨k', hclaim⟩ := hw.claim hsession
      exact ⟨k', id, by grind, hnew.1.symm, hnew.2.symm⟩
    · obtain ⟨k', id', hclaim, hnode, hdevice⟩ := h.claimed n d (by grind)
      exact ⟨k', id', by grind, hnode, hdevice⟩
  case connecting =>
    intro k' id' hk
    have := h.connecting k' id'
    grind
  case opened =>
    intro k' id' hopen hk
    have := h.opened k' id'
    grind

lemma Entered.setStatus (h : Entered s) (hh : (s.sockets k).handling = .idle)
    (hid : (s.sockets k).session = some id) (hheld : s.entry id ≠ none) :
    Entered (((s.setEntry id (some status)).setSession id { s.sessions id with presence := status }).setSocket k
      { s.sockets k with handling := .settingRow d status }) := by
  constructor
  case claimed =>
    intro n d hd
    obtain ⟨k', id', hclaim, hnode, hdevice⟩ := h.claimed n d (by grind)
    exact ⟨k', id', by grind, by grind, by grind⟩
  case connecting =>
    intro k' id' hk
    have := h.connecting k' id'
    grind
  case opened =>
    intro k' id' hopen hk
    have := h.opened k' id'
    grind

lemma Entered.resume (hw : Wired s) (h : Entered s) (hnew : (s.sockets k).identified = false)
    (hopen : (s.sockets k).readyState ≠ .closed) :
    Entered ((((s.closeRidden (s.sessions id)).setEntry id (some status)).setSession id
      { s.sessions id with socket := some k }).setSocket k
        { s.sockets k with identified := true, handling := .inserting id status }) := by
  constructor
  case claimed =>
    intro n d hd
    by_cases hnew : n = (s.sessions id).node ∧ d = (s.sessions id).device
    · exact ⟨k, id, by grind, by grind, by grind⟩
    · obtain ⟨k', id', hclaim, hnode, hdevice⟩ := h.claimed n d (by grind)
      have := hw.fresh k
      exact ⟨k', id', by grind, by grind, by grind⟩
  case connecting =>
    intro k' id' hk
    have := h.connecting k' id'
    grind
  case opened =>
    intro k' id' hopen hk
    have := h.opened k' id'
    have := hw.fresh k
    grind

lemma Entered.closes (hw : Wired s) (h : Entered s) (hclosing : (s.sockets k).readyState = .closing)
    (hno : (s.sockets k).handling.session = none)
    (hfree : ∀ id, (s.sockets k).session = some id → s.Elsewhere id ∨
      ∀ k' id', (s.sockets k').handling.connecting = some id' →
        ¬((s.sessions id').node = (s.sessions id).node ∧ (s.sessions id').device = (s.sessions id).device))
    (hs : Closes s k s') : Entered s' := by
  cases hs with
  | stranger hstranger =>
    refine h.keeps (fun _ _ => rfl) (by grind) (fun k' id' hclaim _ => ⟨k', id', ?_, rfl, rfl⟩)
      (by grind) (by grind)
    grind
  | @parks id hid hrides hstays =>
    refine h.keeps (fun _ _ => rfl) (by grind) (fun k' id' hclaim hentry => ?_) (by grind) (by grind)
    by_cases hk : k' = k
    · -- the session that is parked leaves its device to the one that is connected elsewhere
      obtain rfl : id' = id := by grind
      obtain ⟨other, hne, hlisted, hnode, hdevice, k'', hsocket, hopen⟩ := hstays.resolve_right hentry
      obtain ⟨-, -, hserves⟩ := (hw.rides other k'' hsocket).resolve_right (by grind)
      exact ⟨k'', other, by grind, by grind, by grind⟩
    · exact ⟨k', id', by grind, by grind, by grind⟩
  | @leaves id hid hrides hlast hheld =>
    constructor
    case claimed =>
      intro n d hd
      obtain ⟨k', id', hclaim, hnode, hdevice⟩ := h.claimed n d (by grind)
      exact ⟨k', id', by grind, by grind, by grind⟩
    case connecting =>
      intro k' id' hk
      have hentry := h.connecting k' id'
      have hfree := (hfree id hid).resolve_left hlast k' id'
      grind
    case opened =>
      intro k' id' hopen hk
      have hk' : k' ≠ k := by
        rintro rfl
        grind
      have hentry := h.opened k' id' (by grind) (by grind)
      have hknown := hw.known k' id' (by grind)
      -- a session open on another socket is why the device would have been left in
      have hother : ¬((s.sessions id').node = (s.sessions id).node ∧
          (s.sessions id').device = (s.sessions id).device) := by
        rintro ⟨hnode, hdevice⟩
        by_cases hid' : id' = id
        · grind
        · exact hlast ⟨id', hid', by grind, hnode, hdevice, k', by grind, by grind⟩
      grind

lemma Entered.handles {handling : Handling} (h : Entered s)
    (hsession : handling.session = (s.sockets k).handling.session)
    (hconnecting : ∀ id, handling.connecting = some id → (s.sockets k).handling.connecting = some id)
    (hentered : ∀ id, handling.entered = some id → (s.sockets k).handling.entered = some id) :
    Entered (s.setSocket k { s.sockets k with handling := handling }) :=
  h.keeps (fun _ _ => rfl) (fun _ _ _ => ⟨rfl, rfl⟩)
    (fun k' id' hclaim _ => ⟨k', id', by grind, rfl, rfl⟩) (by grind) (by grind)

lemma Entered.congr (h : Entered s) (hsockets : ∀ k, s'.sockets k = s.sockets k)
    (hheld : ∀ n d, s'.held n d = s.held n d)
    (hsame : ∀ id, (s'.sessions id).node = (s.sessions id).node ∧
      (s'.sessions id).device = (s.sessions id).device)
    (hsocket : ∀ id, (s'.sessions id).socket = (s.sessions id).socket ∨ (s'.sessions id).socket = none) :
    Entered s' :=
  h.keeps hheld (fun _ id _ => hsame id)
    (fun k' id' hclaim _ => ⟨k', id', by grind, (hsame id').1, (hsame id').2⟩) (by grind) (by grind)

lemma Entered.leaving {leaving : Leaving} (h : Entered s) :
    Entered (s.setSocket k { s.sockets k with leaving := leaving }) :=
  h.keeps (fun _ _ => rfl) (fun _ _ _ => ⟨rfl, rfl⟩)
    (fun k' id' hclaim _ => ⟨k', id', by grind, rfl, rfl⟩) (by grind) (by grind)

lemma Entered.step (hw : Wired s) (h : Entered s) (hok : Orderly s event) (hs : Step s event s') :
    Entered s' := by
  cases hs with
  | connect n hk =>
    refine h.keeps (fun _ _ => rfl) (by grind) (fun k' id' hclaim _ => ⟨k', id', ?_, rfl, rfl⟩)
      (by grind) (by grind)
    grind [Socket.absent]
  | @identify k d presence hnew hid =>
    have hfresh := hw.fresh k hnew
    refine h.keeps (fun _ _ => rfl) (by grind) (fun k' id' hclaim _ => ⟨k', id', ?_, ?_, ?_⟩)
      (by grind) (by grind)
    all_goals grind
  | resume hnew hlisted hnode => exact h.resume hw hnew hok
  | @resumeFails k id hnew hlisted hnode =>
    have hfresh := hw.fresh k hnew
    refine h.keeps (by grind) (by grind) (fun k' id' hclaim _ => ⟨k', id', ?_, ?_, ?_⟩)
      (by grind) (by grind)
    all_goals grind [Orderly]
  | enter hh => exact h.enter hw hh
  | @inserted k id status hh =>
    have hmoves : Entered (s.setSocket k { s.sockets k with handling := .updating id status }) :=
      h.handles (by simp [hh, Handling.session]) (by simp [hh, Handling.connecting])
        (by simp [hh, Handling.entered])
    apply hmoves.congr <;> grind
  | @updated k id status hh =>
    have hmoves : Entered (s.setSocket k { s.sockets k with handling := .returning id status }) :=
      h.handles (by simp [hh, Handling.session]) (by simp [Handling.connecting])
        (by simp [hh, Handling.entered])
    apply hmoves.congr <;> grind
  | @returned k id status hh =>
    have hsingle := hw.single k
    refine h.keeps (fun _ _ => rfl) (by grind) (fun k' id' hclaim _ => ⟨k', id', ?_, ?_, ?_⟩)
      (by grind) (by grind)
    all_goals grind
  | setStatus status hh hid hheld => exact h.setStatus hh hid hheld
  | setNothing status hh hid hheld => apply h.congr <;> grind
  | @rowSet k d status hh =>
    have hmoves : Entered (s.setSocket k { s.sockets k with handling := .settingUser status }) :=
      h.handles (by simp [hh, Handling.session]) (by simp [Handling.connecting]) (by simp [Handling.entered])
    apply hmoves.congr <;> grind
  | @userSet k status hh =>
    have hmoves : Entered (s.setSocket k { s.sockets k with handling := .idle }) :=
      h.handles (by simp [hh, Handling.session]) (by simp [Handling.connecting]) (by simp [Handling.entered])
    apply hmoves.congr <;> grind
  | closing k =>
    refine h.keeps (by grind) (by grind) (fun k' id' hclaim _ => ⟨k', id', ?_, rfl, rfl⟩)
      (by grind) (by grind)
    grind
  | closeEvent hclosing hs => exact h.closes hw hclosing hok.1 hok.2 hs
  | @deleted k d hl =>
    have hleaves : Entered (s.setSocket k { s.sockets k with leaving := .counting }) := h.leaving
    apply hleaves.congr <;> grind
  | countedNone hl hnone => exact h.leaving
  | countedSome hl hsome => exact h.leaving
  | @wroteOffline k hl =>
    have hleaves : Entered (s.setSocket k { s.sockets k with leaving := .none }) := h.leaving
    apply hleaves.congr <;> grind
  | closeSession id =>
    exact h.keeps (by grind) (by grind) (fun k' id' hclaim _ => ⟨k', id', by grind, by grind, by grind⟩)
      (by grind) (by grind)
  | evict id =>
    exact h.keeps (by grind) (by grind) (fun k' id' hclaim _ => ⟨k', id', by grind, by grind, by grind⟩)
      (by grind) (by grind)
  | reap hparked => apply h.congr <;> grind
  | refresh n => apply h.congr <;> grind
  | lapse d hno => apply h.congr <;> grind

/-! ### The rows -/

lemma Placed.keeps (h : Placed s) (hheld : ∀ n d, s'.held n d = none ↔ s.held n d = none)
    (hrows : ∀ d r', s'.rows d = some r' → ∃ r, s.rows d = some r ∧ r.node = r'.node)
    (hlive : ∀ n d r, s.held n d ≠ none → s.rows d = some r → r.live →
      ∃ r', s'.rows d = some r' ∧ r'.live)
    (hdeleting : ∀ k d, (s.sockets k).leaving = .deleting d → (s'.sockets k).leaving = .deleting d)
    (hinserting : ∀ d, s.Inserting d → s'.Inserting d) : Placed s' := by
  constructor
  case placed =>
    intro d r' hr'
    obtain ⟨r, hr, hnode⟩ := hrows d r' hr'
    rcases h.placed d r hr with hd | ⟨k, hk⟩
    · exact Or.inl (by rw [← hnode]; exact fun hno => hd ((hheld r.node d).mp hno))
    · exact Or.inr ⟨k, hdeleting k d hk⟩
  case kept =>
    intro n d hd
    have hd : s.held n d ≠ none := fun hno => hd ((hheld n d).mpr hno)
    rcases h.kept n d hd with ⟨r, hr, hlives⟩ | hins
    · exact Or.inl (hlive n d r hd hr hlives)
    · exact Or.inr (hinserting d hins)

lemma Placed.congr (h : Placed s) (hheld : ∀ n d, s'.held n d = s.held n d)
    (hrows : ∀ d, s'.rows d = s.rows d)
    (hdeleting : ∀ k d, (s.sockets k).leaving = .deleting d → (s'.sockets k).leaving = .deleting d)
    (hinserting : ∀ k id status, (s.sockets k).handling = .inserting id status →
      (s'.sockets k).handling = .inserting id status ∧ (s'.sessions id).device = (s.sessions id).device) :
    Placed s' := by
  refine h.keeps (by grind) (by grind) (by grind) hdeleting ?_
  rintro d ⟨k, id, status, hk, hd⟩
  obtain ⟨hk', hd'⟩ := hinserting k id status hk
  exact ⟨k, id, status, hk', hd'.trans hd⟩

lemma Placed.enters {d : DeviceId} (h : Placed s) (hins : s'.Inserting d)
    (hheld : ∀ n' d', s'.held n' d' ≠ none → d' = d ∨ s.held n' d' ≠ none)
    (hkept : ∀ n' d', s.held n' d' ≠ none → s'.held n' d' ≠ none) (hrows : ∀ d, s'.rows d = s.rows d)
    (hleaving : ∀ k, (s'.sockets k).leaving = (s.sockets k).leaving)
    (hinserting : ∀ d, s.Inserting d → s'.Inserting d) : Placed s' := by
  constructor
  case placed =>
    intro d' r hr
    rcases h.placed d' r (hrows d' ▸ hr) with hd | ⟨k, hk⟩
    · exact Or.inl (hkept r.node d' hd)
    · exact Or.inr ⟨k, (hleaving k).trans hk⟩
  case kept =>
    intro n' d' hd
    rcases hheld n' d' hd with rfl | hd
    · exact Or.inr hins
    · rw [hrows]
      exact (h.kept n' d' hd).imp_right (hinserting d')

lemma Placed.inserted (he : Entered s) (h : Placed s) (hh : (s.sockets k).handling = .inserting id status) :
    Placed ((s.setRow (s.sessions id).device (some ⟨(s.sessions id).node, status, true⟩)).setSocket k
      { s.sockets k with handling := .updating id status }) := by
  have hentry : s.entry id ≠ none := he.connecting k id (by simp [hh, Handling.connecting])
  constructor
  case placed =>
    intro d r hr
    by_cases hd : d = (s.sessions id).device
    · subst hd
      obtain rfl : (⟨(s.sessions id).node, status, true⟩ : Row) = r := by grind
      exact Or.inl hentry
    · rcases h.placed d r (by grind) with hheld | ⟨k', hk'⟩
      · exact Or.inl hheld
      · exact Or.inr ⟨k', by grind⟩
  case kept =>
    intro n d hheld
    by_cases hd : d = (s.sessions id).device
    · exact Or.inl ⟨⟨(s.sessions id).node, status, true⟩, by grind, rfl⟩
    · rcases h.kept n d hheld with ⟨r, hr, hlive⟩ | ⟨k', id', status', hk', hdevice⟩
      · exact Or.inl ⟨r, by grind, hlive⟩
      · exact Or.inr ⟨k', id', status', by grind, by grind⟩

lemma Placed.deleted (h : Placed s) (hl : (s.sockets k).leaving = .deleting d)
    (hfree : (∃ n, s.held n d ≠ none) → s.Inserting d) :
    Placed ((s.setRow d none).setSocket k { s.sockets k with leaving := .counting }) := by
  have hins : ∀ d', s.Inserting d' →
      ((s.setRow d none).setSocket k { s.sockets k with leaving := .counting }).Inserting d' := by
    rintro d' ⟨k', id', status', hk', hdevice⟩
    exact ⟨k', id', status', by grind, by grind⟩
  constructor
  case placed =>
    intro d' r hr
    rcases h.placed d' r (by grind) with hheld | ⟨k', hk'⟩
    · exact Or.inl hheld
    · exact Or.inr ⟨k', by grind⟩
  case kept =>
    intro n d' hheld
    by_cases hd : d' = d
    · subst hd
      exact Or.inr (hins d' (hfree ⟨n, hheld⟩))
    · rcases h.kept n d' hheld with ⟨r, hr, hlive⟩ | hd'
      · exact Or.inl ⟨r, by grind, hlive⟩
      · exact Or.inr (hins d' hd')

lemma Placed.closes (hw : Wired s) (h : Placed s) (hclosing : (s.sockets k).readyState = .closing)
    (hs : Closes s k s') : Placed s' := by
  have hleaving : (s.sockets k).leaving = .none := hw.standing k (by simp [hclosing])
  cases hs with
  | stranger hstranger => apply h.congr <;> grind
  | parks hid hrides hstays => apply h.congr <;> grind
  | @leaves id hid hrides hlast hheld =>
    constructor
    case placed =>
      intro d r hr
      by_cases hd : r.node = (s.sessions id).node ∧ d = (s.sessions id).device
      · exact Or.inr ⟨k, by grind⟩
      · rcases h.placed d r hr with hheld | ⟨k', hk'⟩
        · exact Or.inl (by grind)
        · exact Or.inr ⟨k', by grind⟩
    case kept =>
      intro n d hd
      rcases h.kept n d (by grind) with hrow | ⟨k', id', status', hk', hdevice⟩
      · exact Or.inl hrow
      · exact Or.inr ⟨k', id', status', by grind, by grind⟩

lemma Placed.step (hw : Wired s) (he : Entered s) (h : Placed s) (hok : Orderly s event)
    (hs : Step s event s') : Placed s' := by
  cases hs with
  | connect n hk => apply h.congr <;> grind [Socket.absent]
  | @identify k d presence hnew hid =>
    have hfresh := hw.fresh k hnew
    apply h.congr <;> grind
  | @resume k id hnew hlisted hnode =>
    have hfresh := hw.fresh k hnew
    refine h.enters (d := (s.sessions id).device) ⟨k, id, (s.sessions id).presence, by grind, by grind⟩
      (by grind) (by grind) (by grind) (by grind) ?_
    rintro d ⟨k', id', status', hk', hdevice⟩
    exact ⟨k', id', status', by grind, by grind⟩
  | @resumeFails k id hnew hlisted hnode =>
    have hfresh := hw.fresh k hnew
    apply h.congr <;> grind
  | @enter k id presence hh =>
    refine h.enters (d := (s.sessions id).device) ⟨k, id, presence, by grind, by grind⟩
      (by grind) (by grind) (by grind) (by grind) ?_
    rintro d ⟨k', id', status', hk', hdevice⟩
    exact ⟨k', id', status', by grind, by grind⟩
  | inserted hh => exact h.inserted he hh
  | updated hh => apply h.congr <;> grind
  | returned hh => apply h.congr <;> grind
  | setStatus status hh hid hheld =>
    refine h.keeps (by grind) (by grind) (by grind) (by grind) ?_
    rintro d ⟨k', id', status', hk', hdevice⟩
    exact ⟨k', id', status', by grind, by grind⟩
  | setNothing status hh hid hheld => apply h.congr <;> grind
  | @rowSet k d status hh =>
    refine h.keeps (by grind) (by grind [Option.map_eq_some_iff]) (by grind) (by grind) ?_
    rintro d' ⟨k', id', status', hk', hdevice⟩
    exact ⟨k', id', status', by grind, by grind⟩
  | userSet hh => apply h.congr <;> grind
  | closing k => apply h.congr <;> grind
  | closeEvent hclosing hs => exact h.closes hw hclosing hs
  | deleted hl => exact h.deleted hl (hok _ hl)
  | countedNone hl hnone => apply h.congr <;> grind
  | countedSome hl hsome => apply h.congr <;> grind
  | wroteOffline hl => apply h.congr <;> grind
  | closeSession id => apply h.congr <;> grind
  | evict id => apply h.congr <;> grind
  | reap hparked => apply h.congr <;> grind
  | refresh n =>
    refine h.keeps (by grind) ?_ ?_ (by grind) ?_
    · intro d r' hr'
      obtain ⟨r, hr, rfl⟩ := Option.map_eq_some_iff.mp hr'
      exact ⟨r, hr, by split <;> rfl⟩
    · intro n' d r _ hr hlive
      exact ⟨_, by simp [State.refresh, hr]; rfl, by split <;> simp [hlive]⟩
    · rintro d ⟨k', id', status', hk', hdevice⟩
      exact ⟨k', id', status', by grind, by grind⟩
  | lapse d hno =>
    refine h.keeps (by grind) (by grind [Option.map_eq_some_iff]) (by grind) (by grind) ?_
    rintro d' ⟨k', id', status', hk', hdevice⟩
    exact ⟨k', id', status', by grind, by grind⟩

/-! ### The user's status -/

lemma Told.keeps (h : Told s) (hshown : ∀ k, (s'.sockets k).handling.status ≠ some .offline)
    (hpresent : ∀ id, (s'.sessions id).presence ≠ .offline) (hstatus : s'.status = s.status)
    (hheld : ∀ n d, s'.held n d = none ↔ s.held n d = none)
    (hconnecting : ∀ k, (s.sockets k).handling.connecting ≠ none →
      (s'.sockets k).handling.connecting ≠ none)
    (hleaving : ∀ k, (s.sockets k).leaving ≠ .none → (s'.sockets k).leaving ≠ .none) : Told s' := by
  have hany : s'.AnyHeld ↔ s.AnyHeld := by simp only [State.AnyHeld, ne_eq, hheld]
  refine ⟨hshown, hpresent, fun hd => ?_, fun hno => ?_⟩
  · rcases h.told (hany.mp hd) with hno | ⟨k, hk⟩
    · exact Or.inl (hstatus ▸ hno)
    · exact Or.inr ⟨k, hconnecting k hk⟩
  · rcases h.owed (hstatus ▸ hno) with hd | ⟨k, hk⟩
    · exact Or.inl (hany.mpr hd)
    · exact Or.inr ⟨k, hleaving k hk⟩

lemma Told.closes (hw : Wired s) (h : Told s) (hclosing : (s.sockets k).readyState = .closing)
    (_hno : (s.sockets k).handling.session = none) (hs : Closes s k s') : Told s' := by
  have hleaving : (s.sockets k).leaving = .none := hw.standing k (by simp [hclosing])
  obtain ⟨hshown, hpresent, htold, howed⟩ := h
  cases hs with
  | stranger hstranger =>
    apply Told.keeps ⟨hshown, hpresent, htold, howed⟩ <;> grind
  | parks hid hrides hstays =>
    apply Told.keeps ⟨hshown, hpresent, htold, howed⟩ <;> grind
  | @leaves id hid hrides hlast hheld =>
    refine ⟨by grind, by grind, fun hd => ?_, fun _ => Or.inr ⟨k, by grind⟩⟩
    obtain ⟨n, d, hd⟩ := hd
    rcases htold ⟨n, d, by grind⟩ with hno' | ⟨k', hk'⟩
    · exact Or.inl hno'
    · exact Or.inr ⟨k', by grind⟩

lemma Told.step (hw : Wired s) (he : Entered s) (hp : Placed s) (h : Told s) (hok : Orderly s event)
    (hs : Step s event s') : Told s' := by
  have hshown := h.shown
  have hpresent := h.present
  cases hs with
  | connect n hk =>
    apply h.keeps <;> grind [Socket.absent]
  | @identify k d presence hnew hid =>
    have hfresh := hw.fresh k hnew
    have hvisible := hok.1
    apply h.keeps <;> grind
  | @resume k id hnew hlisted hnode =>
    refine ⟨by grind, by grind, fun _ => Or.inr ⟨k, by grind⟩, fun _ => Or.inl ?_⟩
    exact ⟨(s.sessions id).node, (s.sessions id).device, by grind⟩
  | @resumeFails k id hnew hlisted hnode =>
    apply h.keeps <;> grind
  | @enter k id presence hh =>
    have hentering := hshown k
    refine ⟨by grind, by grind, fun _ => Or.inr ⟨k, by grind⟩, fun _ => Or.inl ?_⟩
    exact ⟨(s.sessions id).node, (s.sessions id).device, by grind⟩
  | @inserted k id status hh =>
    have hinserting := hshown k
    apply h.keeps <;> grind
  | @updated k id status hh =>
    -- the user is not offline any more, and the device is held
    have hupdating := hshown k
    have hentry := he.connecting k id
    refine ⟨by grind, by grind, fun _ => Or.inl (by grind), fun _ => Or.inl ?_⟩
    exact ⟨(s.sessions id).node, (s.sessions id).device, by grind⟩
  | @returned k id status hh =>
    have hreturning := hshown k
    apply h.keeps <;> grind
  | @setStatus k id status hh hid hheld =>
    have hvisible : status ≠ .offline := hok
    apply h.keeps <;> grind
  | setNothing status hh hid hheld =>
    have hvisible : status ≠ .offline := hok
    apply h.keeps <;> grind
  | @rowSet k d status hh =>
    have hsetting := hshown k
    apply h.keeps <;> grind
  | @userSet k status hh =>
    have hsetting := hshown k
    refine ⟨by grind, by grind, fun _ => Or.inl (by grind), fun _ => ?_⟩
    rcases hok with ⟨n, d, hd⟩ | ⟨k', hk'⟩
    · exact Or.inl ⟨n, d, hd⟩
    · exact Or.inr ⟨k', by grind⟩
  | closing k => apply h.keeps <;> grind
  | closeEvent hclosing hs => exact h.closes hw hclosing hok.1 hs
  | deleted hl => apply h.keeps <;> grind
  | countedNone hl hnone => apply h.keeps <;> grind
  | @countedSome k hl hsome =>
    -- the row that was counted is of a device that is held, or that another is about to delete
    obtain ⟨d, r, hr, -⟩ := hsome
    refine ⟨by grind, by grind, fun hd => ?_, fun _ => ?_⟩
    · rcases h.told hd with hno | ⟨k', hk'⟩
      · exact Or.inl hno
      · exact Or.inr ⟨k', by grind⟩
    · rcases hp.placed d r hr with hd | ⟨k', hk'⟩
      · exact Or.inl ⟨r.node, d, hd⟩
      · exact Or.inr ⟨k', by grind⟩
  | @wroteOffline k hl =>
    refine ⟨by grind, by grind, fun hd => ?_, by grind⟩
    obtain ⟨k', hk'⟩ := hok hd
    exact Or.inr ⟨k', by grind⟩
  | closeSession id => apply h.keeps <;> grind
  | evict id => apply h.keeps <;> grind
  | reap hparked => apply h.keeps <;> grind
  | refresh n => apply h.keeps <;> grind
  | lapse d hno => apply h.keeps <;> grind

/-! ### Runs -/

structure Truth (s : State) : Prop where
  wired : Wired s
  entered : Entered s
  placed : Placed s
  told : Told s

lemma Truth.step (h : Truth s) (hok : Orderly s event) (hs : Step s event s') : Truth s' where
  wired := h.wired.step hok hs
  entered := h.entered.step h.wired hok hs
  placed := h.placed.step h.wired h.entered hok hs
  told := h.told.step h.wired h.entered h.placed hok hs

def State.hello (s : State) (n : NodeId) (k : SocketId) (d : DeviceId) : State where
  sockets := Function.update s.sockets k ⟨n, .opened, true, some k, .idle, .none⟩
  sessions := Function.update s.sessions k ⟨n, d, some k, .online, true⟩
  held := Function.update s.held n (Function.update (s.held n) d (some .online))
  rows := Function.update s.rows d (some ⟨n, .online, true⟩)
  status := if s.status = .offline then .online else s.status

@[grind =] lemma start_sockets : start.sockets k = .absent := rfl
@[grind =] lemma start_sessions : start.sessions id = .absent := rfl
@[grind =] lemma start_held : start.held n d = none := rfl
@[grind =] lemma start_rows : start.rows d = none := rfl

@[grind =] lemma hello_sockets : (s.hello n k d).sockets k' =
    if k' = k then ⟨n, .opened, true, some k, .idle, .none⟩ else s.sockets k' := Function.update_apply ..
@[grind =] lemma hello_sessions : (s.hello n k d).sessions id =
    if id = k then ⟨n, d, some k, .online, true⟩ else s.sessions id := Function.update_apply ..
@[grind =] lemma hello_rows : (s.hello n k d).rows d' =
    if d' = d then some ⟨n, .online, true⟩ else s.rows d' := Function.update_apply ..

@[grind =] lemma hello_held : (s.hello n k d).held n' d' =
    if n' = n ∧ d' = d then some .online else s.held n' d' := by
  by_cases hn : n' = n
  · simp [State.hello, hn, Function.update_apply]
  · simp [State.hello, hn]

def State.uncounted (s : State) (n : NodeId) (k : SocketId) (d : DeviceId) : State where
  sockets := Function.update s.sockets k ⟨n, .closed, true, some k, .idle, .counting⟩
  sessions := Function.update s.sessions k ⟨n, d, none, .online, true⟩
  held := Function.update s.held n (Function.update (s.held n) d none)
  rows := Function.update s.rows d none
  status := s.status

@[grind =] lemma uncounted_sockets : (s.uncounted n k d).sockets k' =
    if k' = k then ⟨n, .closed, true, some k, .idle, .counting⟩ else s.sockets k' :=
  Function.update_apply ..
@[grind =] lemma uncounted_sessions : (s.uncounted n k d).sessions id =
    if id = k then ⟨n, d, none, .online, true⟩ else s.sessions id := Function.update_apply ..
@[grind =] lemma uncounted_rows : (s.uncounted n k d).rows d' = if d' = d then none else s.rows d' :=
  Function.update_apply ..

end Yappy.Presence
