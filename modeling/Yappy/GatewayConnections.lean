import Yappy.GatewaySession
import Yappy.Runs

/-!
# The sessions of a gateway

The connection handling of `apps/gateway/src/server.ts`: sockets, the handlers that suspend
between the frame and its answer, and the map of sessions the sweep walks. A step is what runs
between two suspensions, so a close event can come between any two of them.
-/
namespace Yappy.Gateway.Server
open Yappy.Gateway

abbrev SessionId := ℕ
abbrev UserId := ℕ
abbrev DeviceId := ℕ

structure Config where
  heartbeatIntervalMs : ℕ
  heartbeatTimeoutMs : ℕ
  sessionResumeWindowMs : ℕ
  maxConnectionsPerUser : ℕ

/-- A session in the map; its replay buffer is in `Gateway.Session`. -/
structure Entry where
  user : UserId
  deviceId : DeviceId
  socket : Option SocketId
  disconnectedAt : Option ℕ
  lastHeartbeatAt : ℕ

/-- Where the handler of a connection's IDENTIFY or RESUME stands. -/
inductive Handling
  | idle
  /-- Suspended in `authenticate`. -/
  | identifying
  | resuming (id : SessionId)
  /-- The session rides this socket, and the handler is suspended before it returns it. -/
  | attached (id : SessionId)
  | failing (id : SessionId)

structure Connection where
  /-- `closed` once the close event has been handled. -/
  readyState : ReadyState
  identified : Bool
  handling : Handling
  /-- The `session` of the connection's closure. -/
  session : Option SessionId

/-- A session identified on a connection takes the id that the connection said hello with, so
one number names both. -/
structure Node where
  sessions : SessionId → Option Entry
  byUser : UserId → List SessionId
  connections : SocketId → Option Connection

namespace Node
variable (config : Config)

def onSession (g : Node) (id : SessionId) (f : Entry → Entry) : Node :=
  { g with sessions := Function.update g.sessions id ((g.sessions id).map f) }

def onConnection (g : Node) (k : SocketId) (f : Connection → Connection) : Node :=
  { g with connections := Function.update g.connections k ((g.connections k).map f) }

/-- `socket.close` and `socket.terminate`: an open socket begins to close. -/
def closeSocket (g : Node) (k : SocketId) : Node :=
  g.onConnection k fun c =>
    if c.readyState = .opened then { c with readyState := .closing } else c

def isConnected (g : Node) (e : Entry) : Bool :=
  e.socket.any fun k => (g.connections k).any fun c => c.readyState = .opened

def isExpired (e : Entry) (now : ℕ) : Bool :=
  e.disconnectedAt.any fun t => config.sessionResumeWindowMs < now - t

def closeSession (g : Node) (id : SessionId) : Node :=
  match (g.sessions id).bind Entry.socket with
  | some k => (g.closeSocket k).onSession id fun e => { e with socket := none }
  | none => g

def destroySession (g : Node) (id : SessionId) : Node :=
  match g.sessions id with
  | some e => { g with
    sessions := Function.update g.sessions id none
    byUser := Function.update g.byUser e.user ((g.byUser e.user).erase id) }
  | none => g

def makeRoom (g : Node) (user : UserId) : Node :=
  if config.maxConnectionsPerUser ≤ (g.byUser user).length then
    match (g.byUser user).head? with
    | some oldest => (g.closeSession oldest).destroySession oldest
    | none => g
  else g

def refuse (g : Node) (k : SocketId) : Node :=
  (g.closeSocket k).onConnection k fun c => { c with handling := .idle }

/-- `handleIdentify`, from the answer of `authenticate` to the first await after it. -/
def register (g : Node) (k : SocketId) (user : UserId) (deviceId : DeviceId) (now : ℕ) :
    Node :=
  let g := g.makeRoom config user
  { g with
    sessions := Function.update g.sessions k (some ⟨user, deviceId, some k, none, now⟩)
    byUser := Function.update g.byUser user (g.byUser user ++ [k]) }.onConnection k
      fun c => { c with handling := .attached k }

/-- `stale.terminate()`: the socket that the session still rides is retired. -/
def retire (g : Node) (e : Entry) (k : SocketId) : Node :=
  match e.socket with
  | some stale => if stale ≠ k then g.closeSocket stale else g
  | none => g

/-- `session.resume`. -/
def attach (g : Node) (id : SessionId) (e : Entry) (k : SocketId) (now : ℕ) : Node :=
  ((g.retire e k).onSession id fun e =>
    { e with socket := some k, disconnectedAt := none, lastHeartbeatAt := now }).onConnection k
      fun c => { c with handling := .attached id }

/-- `handleResume`, from the answer of `authenticate` to the next await; `replayed` is what
`replayFrom` answers. -/
def resume (g : Node) (k : SocketId) (id : SessionId) (user : UserId) (deviceId : DeviceId)
    (now : ℕ) (replayed : Bool) : Node :=
  match g.sessions id with
  | none => g.refuse k
  | some e =>
    if e.user ≠ user ∨ e.deviceId ≠ deviceId ∨ isExpired config e now then g.refuse k
    else if replayed then g.attach id e k now
    else ((g.attach id e k now).destroySession id).refuse k

/-- The close event. Only the socket that the session rides, or none, may park it. -/
def closeEvent (g : Node) (k : SocketId) (now : ℕ) : Node :=
  let g' := g.onConnection k fun c => { c with readyState := .closed }
  match (g.connections k).bind Connection.session with
  | some id => g'.onSession id fun e =>
    if e.socket = some k ∨ e.socket = none then
      { e with disconnectedAt := some now, socket := none }
    else e
  | none => g'

def sweep (g : Node) (id : SessionId) (now : ℕ) : Node :=
  match g.sessions id with
  | none => g
  | some e =>
    if isExpired config e now then g.destroySession id
    else if g.isConnected e ∧
        config.heartbeatIntervalMs + config.heartbeatTimeoutMs < now - e.lastHeartbeatAt then
      g.closeSession id
    else g

end Node

inductive Event
  | connect (k : SocketId)
  | identifyTimeout (k : SocketId)
  /-- A frame that is malformed, unsupported, too much or out of turn. -/
  | refuse (k : SocketId)
  | identify (k : SocketId)
  | resume (k : SocketId) (id : SessionId)
  /-- `authenticate` answers the handler of `k`, with an account and a device or with nothing. -/
  | authenticated (k : SocketId) (auth : Option (UserId × DeviceId)) (now : ℕ) (replayed : Bool)
  | handled (k : SocketId)
  | failed (k : SocketId)
  | tornDown (k : SocketId)
  | heartbeat (k : SocketId) (now : ℕ)
  | closing (k : SocketId)
  | closeEvent (k : SocketId) (now : ℕ)
  | error (k : SocketId)
  | closeSession (id : SessionId)
  | revoke (id : SessionId)
  | sweep (id : SessionId) (now : ℕ)

def Node.connect (g : Node) (k : SocketId) : Node :=
  match g.connections k with
  | some _ => g
  | none => { g with connections :=
      Function.update g.connections k (some ⟨.opened, false, .idle, none⟩) }

def Connection.handled (c : Connection) : Connection :=
  match c.handling with
  | .attached id => { c with handling := .idle, session := some id }
  | _ => c

def Connection.thrown (c : Connection) : Connection :=
  match c.handling with
  | .attached id => { c with handling := .failing id }
  | _ => c

def Node.take (g : Node) (k : SocketId) (handling : Handling) : Node :=
  match g.connections k with
  | some c =>
    if c.identified then g.closeSocket k
    else g.onConnection k fun c => { c with identified := true, handling := handling }
  | none => g

def Node.step (config : Config) (g : Node) : Event → Node
  | .connect k => g.connect k
  | .identifyTimeout k =>
    if (g.connections k).any fun c => !c.identified then g.closeSocket k else g
  | .refuse k => g.closeSocket k
  | .identify k => g.take k .identifying
  | .resume k id => g.take k (.resuming id)
  | .authenticated k auth now replayed =>
    match (g.connections k).map Connection.handling, auth with
    | some .identifying, none => g.refuse k
    | some .identifying, some (user, deviceId) => g.register config k user deviceId now
    | some (.resuming _), none => g.refuse k
    | some (.resuming id), some (user, deviceId) =>
      g.resume config k id user deviceId now replayed
    | _, _ => g
  | .handled k => g.onConnection k Connection.handled
  | .failed k => g.onConnection k Connection.thrown
  | .tornDown k =>
    match (g.connections k).map Connection.handling with
    | some (.failing id) => (g.destroySession id).refuse k
    | _ => g
  | .heartbeat k now =>
    match (g.connections k).bind Connection.session with
    | some id => g.onSession id fun e => { e with lastHeartbeatAt := now }
    | none => g.closeSocket k
  | .closing k => g.closeSocket k
  | .closeEvent k now => g.closeEvent k now
  | .error _ => g
  | .closeSession id => g.closeSession id
  | .revoke id => (g.closeSession id).destroySession id
  | .sweep id now => g.sweep config id now

/-! ### Who answers for a session -/

/-- The closure of a connection holds the session, or the handler that will put it there is
suspended. -/
def Holds (c : Connection) (id : SessionId) : Prop :=
  c.session = some id ∨ c.handling = .attached id ∨ c.handling = .failing id

/-- Marked as disconnected; or riding a socket whose close event is still to come; or, having
closed itself, left to the close event of the socket it rode. -/
def Attended (g : Node) : Prop :=
  ∀ id e, g.sessions id = some e → e.disconnectedAt.isSome ∨
    ∃ k c, g.connections k = some c ∧ c.readyState ≠ .closed ∧ Holds c id ∧
      (e.socket = some k ∨ e.socket = none ∧ c.readyState = .closing)

structure Flow (c : Connection) : Prop where
  fresh : c.identified = false → c.handling = .idle ∧ c.session = none
  settled : c.handling ≠ .idle → c.session = none

def Flowing (g : Node) : Prop := ∀ k c, g.connections k = some c → Flow c

structure Invariant (g : Node) : Prop where
  attended : Attended g
  flowing : Flowing g

/-- What happens between suspensions is harmless: no close event comes while the handler that
attached a session to the socket is suspended, unless the session was parked or has moved on, and
none came before a handler attaches one. -/
def Settled (g : Node) : Event → Prop
  | .closeEvent k _ => ∀ c id e, g.connections k = some c →
      c.handling = .attached id ∨ c.handling = .failing id → g.sessions id = some e →
      e.disconnectedAt.isSome ∨ ∃ k', e.socket = some k' ∧ k' ≠ k
  | .authenticated k _ _ _ => ∀ c, g.connections k = some c → c.readyState ≠ .closed
  | _ => True

variable {config : Config} {g g' : Node} {k : SocketId} {id : SessionId}

structure Keeps (g g' : Node) : Prop where
  connections : ∀ k c, g.connections k = some c → c.readyState ≠ .closed →
    ∃ c', g'.connections k = some c' ∧ c'.readyState ≠ .closed ∧
      (c.readyState = .closing → c'.readyState = .closing) ∧ ∀ id, Holds c id → Holds c' id
  sessions : ∀ id e', g'.sessions id = some e' → ∃ e, g.sessions id = some e ∧
    (e.disconnectedAt.isSome → e'.disconnectedAt.isSome) ∧ e'.socket = e.socket

lemma Attended.keeps (h : Attended g) (hk : Keeps g g') : Attended g' := by
  intro id e' he'
  obtain ⟨e, he, hmark, hsock⟩ := hk.sessions id e' he'
  rcases h id e he with hm | ⟨k, c, hc, hopen, hholds, hride⟩
  · exact Or.inl (hmark hm)
  · obtain ⟨c', hc', hopen', hclosing, hholds'⟩ := hk.connections k c hc hopen
    refine Or.inr ⟨k, c', hc', hopen', hholds' id hholds, ?_⟩
    rw [hsock]
    exact hride.imp_right fun hr => ⟨hr.1, hclosing hr.2⟩

lemma Keeps.refl (g : Node) : Keeps g g :=
  ⟨fun _ c hc hopen => ⟨c, hc, hopen, fun h => h, fun _ h => h⟩,
    fun _ e he => ⟨e, he, fun h => h, rfl⟩⟩

lemma onConnection_apply (f : Connection → Connection) (k' : SocketId) :
    (g.onConnection k f).connections k' =
      if k' = k then (g.connections k).map f else g.connections k' := by
  simp [Node.onConnection, Function.update_apply]

lemma onSession_apply (f : Entry → Entry) (id' : SessionId) :
    (g.onSession id f).sessions id' =
      if id' = id then (g.sessions id).map f else g.sessions id' := by
  simp [Node.onSession, Function.update_apply]

lemma Keeps.onConnection {f : Connection → Connection}
    (hf : ∀ c, g.connections k = some c → c.readyState ≠ .closed → (f c).readyState ≠ .closed ∧
      (c.readyState = .closing → (f c).readyState = .closing) ∧ ∀ id, Holds c id → Holds (f c) id) :
    Keeps g (g.onConnection k f) := by
  refine ⟨fun k' c hc hopen => ?_, fun id e he => ⟨e, he, fun h => h, rfl⟩⟩
  rw [onConnection_apply]
  by_cases hk : k' = k
  · subst hk
    obtain ⟨h1, h2, h3⟩ := hf c hc hopen
    exact ⟨f c, by simp [hc], h1, h2, h3⟩
  · exact ⟨c, by simp [hk, hc], hopen, fun h => h, fun _ h => h⟩

lemma Keeps.onSession {f : Entry → Entry}
    (hf : ∀ e, (e.disconnectedAt.isSome → (f e).disconnectedAt.isSome) ∧
      (f e).socket = e.socket) : Keeps g (g.onSession id f) := by
  refine ⟨fun _ c hc hopen => ⟨c, hc, hopen, fun h => h, fun _ h => h⟩, fun id' e' he' => ?_⟩
  rw [onSession_apply] at he'
  by_cases hid : id' = id
  · subst hid
    rw [if_pos rfl] at he'
    obtain ⟨e, he, rfl⟩ := Option.map_eq_some_iff.mp he'
    exact ⟨e, he, (hf e).1, (hf e).2⟩
  · rw [if_neg hid] at he'
    exact ⟨e', he', fun h => h, rfl⟩

lemma closeSocket_keeps : Keeps g (g.closeSocket k) := by
  refine Keeps.onConnection fun c _ hopen => ?_
  split_ifs with ho
  · exact ⟨by simp, fun _ => rfl, fun _ h => h⟩
  · exact ⟨hopen, fun h => h, fun _ h => h⟩

lemma destroySession_keeps : Keeps g (g.destroySession id) := by
  unfold Node.destroySession
  cases hid : g.sessions id with
  | none => exact Keeps.refl g
  | some e =>
    refine ⟨fun _ c hc hopen => ⟨c, hc, hopen, fun h => h, fun _ h => h⟩, fun id' e' he' => ?_⟩
    simp only [Function.update_apply] at he'
    split_ifs at he' with hne
    exact ⟨e', he', fun h => h, rfl⟩

lemma closeSession_attended (h : Attended g) : Attended (g.closeSession id) := by
  unfold Node.closeSession
  cases hsock : (g.sessions id).bind Entry.socket with
  | none => exact h
  | some k =>
    obtain ⟨e₀, he₀, hk⟩ := Option.bind_eq_some_iff.mp hsock
    have hc := h.keeps (closeSocket_keeps (k := k))
    intro id' e' he'
    rw [onSession_apply] at he'
    by_cases hid : id' = id
    · subst hid
      rw [if_pos rfl] at he'
      obtain ⟨e, he, rfl⟩ := Option.map_eq_some_iff.mp he'
      obtain rfl : e₀ = e := Option.some.inj (he₀.symm.trans he)
      rcases h id' e₀ he₀ with hm | ⟨k', c, hconn, hopen, hholds, hride⟩
      · exact Or.inl hm
      · obtain rfl : k' = k := by
          rcases hride with hr | ⟨hr, -⟩
          · exact Option.some.inj (hr.symm.trans hk)
          · rw [hk] at hr
            cases hr
        refine Or.inr ⟨k', if c.readyState = .opened then { c with readyState := .closing } else c,
          ?_, ?_, ?_, Or.inr ⟨rfl, ?_⟩⟩
        · simp [Node.onSession, Node.closeSocket, onConnection_apply, hconn]
        · split_ifs with ho
          · simp
          · exact hopen
        · split_ifs <;> exact hholds
        · split_ifs with ho
          · rfl
          · cases hs : c.readyState with
            | opened => exact absurd hs ho
            | closing => rfl
            | closed => exact absurd hs hopen
    · rw [if_neg hid] at he'
      exact hc id' e' he'

lemma refuse_attended (h : Attended g)
    (hfree : ∀ c id e, g.connections k = some c → Holds c id → g.sessions id ≠ some e) :
    Attended (g.refuse k) := by
  have hc := h.keeps (closeSocket_keeps (k := k))
  intro id e he
  rcases hc id e he with hm | ⟨k', c, hconn, hopen, hholds, hride⟩
  · exact Or.inl hm
  · have hne : k' ≠ k := by
      rintro rfl
      simp only [Node.closeSocket, onConnection_apply, if_pos] at hconn
      obtain ⟨c₀, hc₀, rfl⟩ := Option.map_eq_some_iff.mp hconn
      refine hfree c₀ id e hc₀ ?_ he
      split_ifs at hholds <;> exact hholds
    exact Or.inr ⟨k', c, by rw [Node.refuse, onConnection_apply, if_neg hne]; exact hconn,
      hopen, hholds, hride⟩

/-- A session put on an open connection that answered for nobody is attended, and the others
stay so. -/
theorem put_attended (id : SessionId) (h : Attended g) {c : Connection} (hc : g.connections k = some c)
    (hopen : c.readyState ≠ .closed) (hfree : ∀ id, ¬ Holds c id)
    (hput : ∀ e, g'.sessions id = some e → e.socket = some k)
    (hsessions : ∀ id', id' ≠ id → g'.sessions id' = g.sessions id')
    (hconnections : g'.connections = Function.update g.connections k
      (some { c with handling := .attached id })) : Attended g' := by
  intro id' e he
  by_cases hid : id' = id
  · subst hid
    exact Or.inr ⟨k, { c with handling := .attached id' }, by rw [hconnections, Function.update_self],
      hopen, Or.inr (Or.inl rfl), Or.inl (hput e he)⟩
  · rw [hsessions id' hid] at he
    rcases h id' e he with hm | ⟨k', c', hc', hopen', hholds, hride⟩
    · exact Or.inl hm
    · have hne : k' ≠ k := by
        rintro rfl
        obtain rfl := Option.some.inj (hc.symm.trans hc')
        exact hfree id' hholds
      exact Or.inr ⟨k', c', by rw [hconnections, Function.update_of_ne hne]; exact hc', hopen',
        hholds, hride⟩

lemma Flow.holds_not {c : Connection} (h : Flow c)
    (hwaits : c.handling = .identifying ∨ ∃ id, c.handling = .resuming id) (id : SessionId) :
    ¬ Holds c id := by
  have hnone : c.session = none := by
    apply h.settled
    rcases hwaits with hw | ⟨_, hw⟩ <;> rw [hw] <;> simp
  rintro (hs | hs | hs)
  · rw [hnone] at hs
    cases hs
  · rcases hwaits with hw | ⟨_, hw⟩ <;> rw [hw] at hs <;> cases hs
  · rcases hwaits with hw | ⟨_, hw⟩ <;> rw [hw] at hs <;> cases hs

/-- Closing and forgetting other sessions leaves a connection that answers for nobody as it was,
save that it may begin to close. -/
theorem makeRoom_connection (config : Config) (user : UserId) {c : Connection}
    (hc : g.connections k = some c)
    (hopen : c.readyState ≠ .closed) :
    ∃ c', (g.makeRoom config user).connections k = some c' ∧ c'.readyState ≠ .closed ∧
      c'.handling = c.handling ∧ c'.session = c.session ∧ c'.identified = c.identified := by
  have hdestroy : ∀ (g : Node) id, (g.destroySession id).connections = g.connections := by
    intro g id
    unfold Node.destroySession
    cases g.sessions id <;> rfl
  have hclose : ∀ id, ∃ c', (g.closeSession id).connections k = some c' ∧
      c'.readyState ≠ .closed ∧ c'.handling = c.handling ∧ c'.session = c.session ∧
      c'.identified = c.identified := by
    intro id
    unfold Node.closeSession
    cases (g.sessions id).bind Entry.socket with
    | none => exact ⟨c, hc, hopen, rfl, rfl, rfl⟩
    | some k₀ =>
      simp only [Node.onSession, Node.closeSocket, onConnection_apply]
      by_cases hk : k = k₀
      · subst hk
        rw [if_pos rfl, hc, Option.map_some]
        refine ⟨_, rfl, ?_⟩
        split_ifs with ho
        · exact ⟨by simp, rfl, rfl, rfl⟩
        · exact ⟨hopen, rfl, rfl, rfl⟩
      · rw [if_neg hk]
        exact ⟨c, hc, hopen, rfl, rfl, rfl⟩
  unfold Node.makeRoom
  split_ifs
  · cases (g.byUser user).head? with
    | none => exact ⟨c, hc, hopen, rfl, rfl, rfl⟩
    | some oldest =>
      simp only [hdestroy]
      exact hclose oldest
  · exact ⟨c, hc, hopen, rfl, rfl, rfl⟩

lemma makeRoom_attended {user : UserId} (h : Attended g) :
    Attended (g.makeRoom config user) := by
  unfold Node.makeRoom
  split_ifs
  · cases (g.byUser user).head? with
    | none => exact h
    | some oldest => exact (closeSession_attended h).keeps destroySession_keeps
  · exact h

lemma register_attended {user : UserId} {deviceId : DeviceId} {now : ℕ} {c : Connection}
    (h : Attended g) (hc : g.connections k = some c) (hflow : Flow c)
    (hwaits : c.handling = .identifying) (hopen : c.readyState ≠ .closed) :
    Attended (g.register config k user deviceId now) := by
  obtain ⟨c', hc', hopen', hhandling, hsession, -⟩ :=
    makeRoom_connection config user hc hopen
  have hfree : ∀ id, ¬ Holds c' id := by
    intro id hholds
    refine hflow.holds_not (Or.inl hwaits) id ?_
    unfold Holds at hholds ⊢
    rwa [hhandling, hsession] at hholds
  refine put_attended k (makeRoom_attended h) hc' hopen' hfree ?_ ?_ ?_
  · intro e he
    simp only [Node.register, Node.onConnection, Function.update_self, Option.some.injEq] at he
    rw [← he]
  · intro id' hne
    simp [Node.register, Node.onConnection, hne]
  · simp [Node.register, Node.onConnection, hc']

lemma retire_spec {e : Entry} {c : Connection} (hc : g.connections k = some c) :
    Keeps g (g.retire e k) ∧ (g.retire e k).connections k = some c := by
  unfold Node.retire
  cases e.socket with
  | none => exact ⟨Keeps.refl g, hc⟩
  | some stale =>
    by_cases hne : stale ≠ k
    · simp only [if_pos hne]
      refine ⟨closeSocket_keeps, ?_⟩
      rw [Node.closeSocket, onConnection_apply, if_neg hne.symm, hc]
    · simp only [if_neg hne]
      exact ⟨Keeps.refl g, hc⟩

lemma attach_attended {e : Entry} {now : ℕ} {c : Connection} (h : Attended g)
    (hc : g.connections k = some c) (hflow : Flow c) (hwaits : ∃ id, c.handling = .resuming id)
    (hopen : c.readyState ≠ .closed) : Attended (g.attach id e k now) := by
  obtain ⟨hkeeps, hc₁⟩ := retire_spec (e := e) hc
  refine put_attended id (h.keeps hkeeps) hc₁ hopen (hflow.holds_not (Or.inr hwaits)) ?_ ?_ ?_
  · intro e' he'
    simp only [Node.attach, Node.onConnection, Node.onSession, Function.update_self] at he'
    obtain ⟨e₀, -, rfl⟩ := Option.map_eq_some_iff.mp he'
    rfl
  · intro id' hne
    simp [Node.attach, Node.onConnection, Node.onSession, hne]
  · simp [Node.attach, Node.onConnection, Node.onSession, hc₁]

lemma closeEvent_attended {now : ℕ} (h : Attended g) (hok : Settled g (.closeEvent k now)) :
    Attended (g.closeEvent k now) := by
  -- what the closure holds, and where the sessions end up
  have hsessions : ∀ id e', (g.closeEvent k now).sessions id = some e' →
      ∃ e, g.sessions id = some e ∧ (e' = e ∨ e'.disconnectedAt.isSome) ∧
        ((g.connections k).bind Connection.session = some id →
          e.socket = some k ∨ e.socket = none → e'.disconnectedAt.isSome) := by
    intro id e' he'
    unfold Node.closeEvent at he'
    cases hs : (g.connections k).bind Connection.session with
    | none =>
      simp only [hs] at he'
      exact ⟨e', he', Or.inl rfl, fun hh => by cases hh⟩
    | some id₀ =>
      simp only [hs, onSession_apply] at he'
      by_cases hid : id = id₀
      · subst hid
        rw [if_pos rfl] at he'
        obtain ⟨e, he, rfl⟩ := Option.map_eq_some_iff.mp he'
        refine ⟨e, he, ?_, fun _ hride => by rw [if_pos hride]; rfl⟩
        split_ifs
        · exact Or.inr rfl
        · exact Or.inl rfl
      · rw [if_neg hid] at he'
        exact ⟨e', he', Or.inl rfl, fun hh => absurd (Option.some.inj hh).symm hid⟩
  have hconnections : ∀ k', k' ≠ k → (g.closeEvent k now).connections k' = g.connections k' := by
    intro k' hne
    unfold Node.closeEvent
    cases (g.connections k).bind Connection.session with
    | none => exact (onConnection_apply _ k').trans (if_neg hne)
    | some id₀ => exact (onConnection_apply _ k').trans (if_neg hne)
  intro id e' he'
  obtain ⟨e, he, hsame, hparks⟩ := hsessions id e' he'
  rcases hsame with rfl | hm
  · rcases h id e' he with hm | ⟨k', c, hc, hopen, hholds, hride⟩
    · exact Or.inl hm
    · by_cases hk : k' = k
      · subst hk
        have hrides : e'.socket = some k' ∨ e'.socket = none := hride.imp_right And.left
        rcases hholds with hs | hs
        · exact Or.inl (hparks (by rw [hc]; exact hs) hrides)
        · -- its handler is still suspended
          rcases hok c id e' hc hs he with hm | ⟨k'', hk'', hne⟩
          · exact Or.inl hm
          · rw [hk''] at hrides
            rcases hrides with hr | hr
            · exact absurd (Option.some.inj hr) hne
            · cases hr
      · exact Or.inr ⟨k', c, (hconnections k' hk).trans hc, hopen, hholds, hride⟩
  · exact Or.inl hm

/-! ### A connection goes through one handler -/

lemma Flowing.onConnection {f : Connection → Connection} (h : Flowing g)
    (hf : ∀ c, g.connections k = some c → Flow c → Flow (f c)) : Flowing (g.onConnection k f) := by
  intro k' c' hc'
  rw [onConnection_apply] at hc'
  by_cases hk : k' = k
  · subst hk
    rw [if_pos rfl] at hc'
    obtain ⟨c, hc, rfl⟩ := Option.map_eq_some_iff.mp hc'
    exact hf c hc (h k' c hc)
  · rw [if_neg hk] at hc'
    exact h k' c' hc'

lemma Flowing.congr (h : Flowing g) (hc : g'.connections = g.connections) : Flowing g' := by
  intro k c hk
  rw [hc] at hk
  exact h k c hk

lemma Flowing.closeSocket (h : Flowing g) : Flowing (g.closeSocket k) := by
  refine h.onConnection fun c _ hc => ?_
  split_ifs
  · exact ⟨hc.fresh, hc.settled⟩
  · exact hc

lemma Flowing.closeSession (h : Flowing g) : Flowing (g.closeSession id) := by
  unfold Node.closeSession
  cases (g.sessions id).bind Entry.socket with
  | none => exact h
  | some k => exact (h.closeSocket (k := k)).congr rfl

lemma Flowing.destroySession (h : Flowing g) : Flowing (g.destroySession id) := by
  unfold Node.destroySession
  cases g.sessions id with
  | none => exact h
  | some e => exact h.congr rfl

lemma Flowing.refuse (h : Flowing g) : Flowing (g.refuse k) :=
  h.closeSocket.onConnection fun _ _ hc => ⟨fun hi => ⟨rfl, (hc.fresh hi).2⟩, fun hh => absurd rfl hh⟩

lemma Flow.goes_on {c : Connection} (h : Flow c) (hbusy : c.handling ≠ .idle)
    (handling : Handling) : Flow { c with handling := handling } :=
  ⟨fun hi => absurd (h.fresh hi).1 hbusy, fun _ => h.settled hbusy⟩

lemma Flowing.makeRoom {user : UserId} (h : Flowing g) : Flowing (g.makeRoom config user) := by
  unfold Node.makeRoom
  split_ifs
  · cases (g.byUser user).head? with
    | none => exact h
    | some oldest => exact h.closeSession.destroySession
  · exact h

lemma Flowing.register {user : UserId} {deviceId : DeviceId} {now : ℕ} {c : Connection}
    (h : Flowing g) (hc : g.connections k = some c) (hwaits : c.handling = .identifying)
    (hopen : c.readyState ≠ .closed) : Flowing (g.register config k user deviceId now) := by
  obtain ⟨c', hc', -, hhandling, -, -⟩ :=
    makeRoom_connection config user hc hopen
  have hroom : Flowing (g.makeRoom config user) := h.makeRoom
  refine Flowing.onConnection (hroom.congr rfl) fun c'' hc'' hflow => hflow.goes_on ?_ _
  obtain rfl : c' = c'' := Option.some.inj (hc'.symm.trans hc'')
  rw [hhandling, hwaits]
  simp

lemma Flowing.attach {e : Entry} {now : ℕ} {c : Connection} (h : Flowing g)
    (hc : g.connections k = some c) (hbusy : c.handling ≠ .idle) :
    Flowing (g.attach id e k now) := by
  have hretire : Flowing (g.retire e k) := by
    unfold Node.retire
    cases e.socket with
    | none => exact h
    | some stale =>
      simp only
      split_ifs
      · exact h.closeSocket
      · exact h
  refine Flowing.onConnection (hretire.congr rfl) fun c' hc' hflow => hflow.goes_on ?_ _
  obtain rfl : c = c' := Option.some.inj ((retire_spec hc).2.symm.trans hc')
  exact hbusy

/-! ### Every step -/

lemma Invariant.keeps (h : Invariant g) (hk : Keeps g g') (hf : Flowing g') : Invariant g' :=
  ⟨h.attended.keeps hk, hf⟩

lemma take_invariant {handling : Handling} (h : Invariant g) :
    Invariant (g.take k handling) := by
  unfold Node.take
  cases hc : g.connections k with
  | none => exact h
  | some c =>
    simp only
    split_ifs with hid
    · exact h.keeps closeSocket_keeps h.flowing.closeSocket
    · have hfresh := (h.flowing k c hc).fresh (by simpa using hid)
      refine h.keeps (Keeps.onConnection fun c' hc' hopen => ?_)
        (h.flowing.onConnection fun c' hc' _ => ?_)
      · obtain rfl : c = c' := Option.some.inj (hc.symm.trans hc')
        refine ⟨hopen, fun hh => hh, fun id hholds => ?_⟩
        rcases hholds with hh | hh | hh
        · rw [hfresh.2] at hh
          cases hh
        · rw [hfresh.1] at hh
          cases hh
        · rw [hfresh.1] at hh
          cases hh
      · obtain rfl : c = c' := Option.some.inj (hc.symm.trans hc')
        exact ⟨fun hh => by simp at hh, fun _ => hfresh.2⟩

lemma refuse_invariant {c : Connection} (h : Invariant g) (hc : g.connections k = some c)
    (hwaits : c.handling = .identifying ∨ ∃ id, c.handling = .resuming id) :
    Invariant (g.refuse k) := by
  refine ⟨refuse_attended h.attended fun c' id e hc' hholds => ?_, h.flowing.refuse⟩
  obtain rfl : c = c' := Option.some.inj (hc.symm.trans hc')
  exact absurd hholds ((h.flowing k c hc).holds_not hwaits id)

lemma Flow.holds_eq {c : Connection} {id' : SessionId} (h : Flow c)
    (hc : c.handling = .attached id ∨ c.handling = .failing id) (hholds : Holds c id') :
    id' = id := by
  have hnone : c.session = none := by
    apply h.settled
    rcases hc with hc | hc <;> rw [hc] <;> simp
  rcases hholds with hh | hh | hh
  · rw [hnone] at hh
    cases hh
  · rcases hc with hc | hc <;> rw [hc] at hh <;> cases hh
    rfl
  · rcases hc with hc | hc <;> rw [hc] at hh <;> cases hh
    rfl

lemma destroySession_apply (id : SessionId) : (g.destroySession id).sessions id = none := by
  unfold Node.destroySession
  cases hid : g.sessions id with
  | none => exact hid
  | some e => simp

lemma destroySession_connections : (g.destroySession id).connections = g.connections := by
  unfold Node.destroySession
  cases g.sessions id <;> rfl

lemma tearDown_invariant {c : Connection} (h : Invariant g) (hc : g.connections k = some c)
    (hheld : c.handling = .attached id ∨ c.handling = .failing id) :
    Invariant ((g.destroySession id).refuse k) := by
  refine ⟨refuse_attended (h.attended.keeps destroySession_keeps) fun c' id' e hc' hholds => ?_,
    h.flowing.destroySession.refuse⟩
  rw [destroySession_connections] at hc'
  obtain rfl : c = c' := Option.some.inj (hc.symm.trans hc')
  obtain rfl := (h.flowing k c hc).holds_eq hheld hholds
  rw [destroySession_apply]
  simp

lemma resume_invariant {user : UserId} {deviceId : DeviceId} {now : ℕ} {replayed : Bool}
    {c : Connection} (h : Invariant g) (hc : g.connections k = some c)
    (hwaits : c.handling = .resuming id) (hopen : c.readyState ≠ .closed) :
    Invariant (g.resume config k id user deviceId now replayed) := by
  unfold Node.resume
  cases hs : g.sessions id with
  | none => exact refuse_invariant h hc (Or.inr ⟨id, hwaits⟩)
  | some e =>
    have hattach : Invariant (g.attach id e k now) :=
      ⟨attach_attended h.attended hc (h.flowing k c hc) ⟨id, hwaits⟩ hopen,
        h.flowing.attach hc (by rw [hwaits]; simp)⟩
    simp only
    split_ifs
    · exact refuse_invariant h hc (Or.inr ⟨id, hwaits⟩)
    · exact hattach
    · refine tearDown_invariant (c := { c with handling := .attached id }) hattach ?_ (Or.inl rfl)
      simp [Node.attach, onConnection_apply, Node.onSession, (retire_spec hc).2]

lemma authenticated_invariant {auth : Option (UserId × DeviceId)} {now : ℕ} {replayed : Bool}
    (h : Invariant g) (hok : Settled g (.authenticated k auth now replayed)) :
    Invariant (g.step config (.authenticated k auth now replayed)) := by
  cases hc : g.connections k with
  | none => simpa [Node.step, hc] using h
  | some c =>
    have hopen := hok c hc
    cases hh : c.handling with
    | idle => simpa [Node.step, hc, hh] using h
    | attached id => simpa [Node.step, hc, hh] using h
    | failing id => simpa [Node.step, hc, hh] using h
    | identifying =>
      cases auth with
      | none => simpa [Node.step, hc, hh] using refuse_invariant h hc (Or.inl hh)
      | some who =>
        have hr : Invariant (g.register config k who.1 who.2 now) :=
          ⟨register_attended h.attended hc (h.flowing k c hc) hh hopen,
            h.flowing.register hc hh hopen⟩
        simpa [Node.step, hc, hh] using hr
    | resuming id =>
      cases auth with
      | none => simpa [Node.step, hc, hh] using refuse_invariant h hc (Or.inr ⟨id, hh⟩)
      | some who =>
        have hr : Invariant (g.resume config k id who.1 who.2 now replayed) :=
          resume_invariant h hc hh hopen
        simpa [Node.step, hc, hh] using hr

lemma Flowing.closeEvent {now : ℕ} (h : Flowing g) : Flowing (g.closeEvent k now) := by
  have hc : Flowing (g.onConnection k fun c => { c with readyState := .closed }) :=
    h.onConnection fun _ _ hc => ⟨hc.fresh, hc.settled⟩
  unfold Node.closeEvent
  cases (g.connections k).bind Connection.session with
  | none => exact hc
  | some id => exact hc.congr rfl

lemma connect_invariant (h : Invariant g) : Invariant (g.connect k) := by
  unfold Node.connect
  cases hk : g.connections k with
  | some c => exact h
  | none =>
    refine h.keeps ⟨fun k' c hc hopen => ?_, fun id e he => ⟨e, he, fun hh => hh, rfl⟩⟩ ?_
    · have hne : k' ≠ k := by
        rintro rfl
        rw [hk] at hc
        cases hc
      exact ⟨c, by simp [hne, hc], hopen, fun hh => hh, fun _ hh => hh⟩
    · intro k' c hc
      by_cases hne : k' = k
      · subst hne
        simp only [Function.update_self, Option.some.injEq] at hc
        subst hc
        exact ⟨fun _ => ⟨rfl, rfl⟩, fun hh => absurd rfl hh⟩
      · simp only [ne_eq, hne, not_false_eq_true, Function.update_of_ne] at hc
        exact h.flowing k' c hc

lemma handled_invariant (h : Invariant g) :
    Invariant (g.onConnection k Connection.handled) := by
  have hcases : ∀ c : Connection, (∃ id, c.handling = .attached id ∧
      c.handled = { c with handling := .idle, session := some id }) ∨ c.handled = c := by
    intro c
    unfold Connection.handled
    cases c.handling with
    | attached id => exact Or.inl ⟨id, rfl, rfl⟩
    | idle | identifying | resuming | failing => exact Or.inr rfl
  refine h.keeps (Keeps.onConnection fun c hc hopen => ?_) (h.flowing.onConnection fun c hc hf => ?_)
  · rcases hcases c with ⟨id, hh, he⟩ | he
    · rw [he]
      refine ⟨hopen, fun hx => hx, fun id' hholds => Or.inl ?_⟩
      rw [(h.flowing k c hc).holds_eq (Or.inl hh) hholds]
    · rw [he]
      exact ⟨hopen, fun hx => hx, fun _ hx => hx⟩
  · rcases hcases c with ⟨id, hh, he⟩ | he
    · rw [he]
      exact ⟨fun hi => absurd ((hf.fresh hi).1.symm.trans hh) (by simp), fun hx => absurd rfl hx⟩
    · rw [he]
      exact hf

lemma failed_invariant (h : Invariant g) :
    Invariant (g.onConnection k Connection.thrown) := by
  have hcases : ∀ c : Connection, (∃ id, c.handling = .attached id ∧
      c.thrown = { c with handling := .failing id }) ∨ c.thrown = c := by
    intro c
    unfold Connection.thrown
    cases c.handling with
    | attached id => exact Or.inl ⟨id, rfl, rfl⟩
    | idle | identifying | resuming | failing => exact Or.inr rfl
  refine h.keeps (Keeps.onConnection fun c hc hopen => ?_) (h.flowing.onConnection fun c hc hf => ?_)
  · rcases hcases c with ⟨id, hh, he⟩ | he
    · rw [he]
      refine ⟨hopen, fun hx => hx, fun id' hholds => Or.inr (Or.inr ?_)⟩
      rw [(h.flowing k c hc).holds_eq (Or.inl hh) hholds]
    · rw [he]
      exact ⟨hopen, fun hx => hx, fun _ hx => hx⟩
  · rcases hcases c with ⟨id, hh, he⟩ | he
    · rw [he]
      exact hf.goes_on (by rw [hh]; simp) _
    · rw [he]
      exact hf

lemma sweep_invariant {now : ℕ} (h : Invariant g) : Invariant (g.sweep config id now) := by
  unfold Node.sweep
  cases g.sessions id with
  | none => exact h
  | some e =>
    simp only
    split_ifs
    · exact h.keeps destroySession_keeps h.flowing.destroySession
    · exact ⟨closeSession_attended h.attended, h.flowing.closeSession⟩
    · exact h

lemma step_invariant {event : Event} (h : Invariant g) (hok : Settled g event) :
    Invariant (g.step config event) := by
  cases event with
  | connect k => exact connect_invariant h
  | identifyTimeout k =>
    simp only [Node.step]
    split_ifs
    · exact h.keeps closeSocket_keeps h.flowing.closeSocket
    · exact h
  | refuse k => exact h.keeps closeSocket_keeps h.flowing.closeSocket
  | identify k => exact take_invariant h
  | resume k id => exact take_invariant h
  | authenticated k auth now replayed => exact authenticated_invariant h hok
  | handled k => exact handled_invariant h
  | failed k => exact failed_invariant h
  | tornDown k =>
    simp only [Node.step]
    cases hc : g.connections k with
    | none => exact h
    | some c =>
      cases hh : c.handling with
      | failing id => simpa [hh] using tearDown_invariant h hc (Or.inr hh)
      | idle | identifying | resuming | attached => simpa [hh] using h
  | heartbeat k now =>
    simp only [Node.step]
    cases (g.connections k).bind Connection.session with
    | none => exact h.keeps closeSocket_keeps h.flowing.closeSocket
    | some id => exact h.keeps (Keeps.onSession fun e => ⟨fun hh => hh, rfl⟩) (h.flowing.congr rfl)
  | closing k => exact h.keeps closeSocket_keeps h.flowing.closeSocket
  | closeEvent k now => exact ⟨closeEvent_attended h.attended hok, h.flowing.closeEvent⟩
  | error k => exact h
  | closeSession id => exact ⟨closeSession_attended h.attended, h.flowing.closeSession⟩
  | revoke id =>
    exact ⟨(closeSession_attended h.attended).keeps destroySession_keeps,
      h.flowing.closeSession.destroySession⟩
  | sweep id now => exact sweep_invariant h

def Node.started : Node := ⟨fun _ => none, fun _ => [], fun _ => none⟩

lemma started_invariant : Invariant Node.started where
  attended id e he := by cases he
  flowing k c hc := by cases hc

/-- No session is orphaned: whatever the handlers, the sockets and the sweep do between each
other's suspensions, as long as no close event falls between the attaching of a session and the
end of the handler that attached it, every session is marked as disconnected or has a socket
whose close event is still to come and will find it. -/
theorem run_attended (config : Config) {g : Node}
    (h : RunWhere (fun g event g' => g.step config event = g') Settled Node.started g) :
    Attended g := by
  have hi : Invariant g := h.invariant started_invariant fun g event g' hi hok hs => by
    subst hs
    exact step_invariant hi hok
  exact hi.attended

namespace Sample

def limits : Config := ⟨41250, 15000, 120000, 8⟩

def identified : Node :=
  [Event.connect 1, .identify 1, .authenticated 1 (some (7, 8)) 0 true].foldl (Node.step limits)
    .started

def parked : Node :=
  [Event.handled 1, .closing 1, .closeEvent 1 5].foldl (Node.step limits) identified

def raced : Node :=
  [Event.closing 1, .closeEvent 1 5, .handled 1].foldl (Node.step limits) identified

end Sample

/-- A session whose handler had ended is marked. -/
theorem run_attended_parked : Attended Sample.parked := by
  refine run_attended Sample.limits ?_
  have hopen : Settled (([Event.connect 1, .identify 1].foldl (Node.step Sample.limits)
      .started)) (.authenticated 1 (some (7, 8)) 0 true) := by
    intro c hc
    cases hc
    decide
  have hdone : Settled ([Event.handled 1, .closing 1].foldl (Node.step Sample.limits)
      Sample.identified) (.closeEvent 1 5) := by
    intro c id e hc hh
    cases hc
    rcases hh with hh | hh <;> cases hh
  exact .head (i := .connect 1) trivial rfl (.head (i := .identify 1) trivial rfl
    (.head hopen rfl (.head (i := .handled 1) trivial rfl (.head (i := .closing 1) trivial rfl
      (.head hdone rfl (.refl _))))))

/-- Otherwise it rides a dead socket unmarked, and no sweep ever takes it. -/
theorem identify_race_orphans :
    ¬ Attended Sample.raced ∧ ∀ now, Sample.raced.sweep Sample.limits 1 now = Sample.raced := by
  have hentry : Sample.raced.sessions 1 = some ⟨7, 8, some 1, none, 0⟩ := rfl
  have hclosed : ∀ k c, Sample.raced.connections k = some c → c.readyState = .closed := by
    intro k c hc
    by_cases hk : k = 1
    · subst hk
      cases hc
      rfl
    · -- every step is about the one connection there is
      have hnone : Sample.raced.connections k = none :=
        (Function.update_of_ne hk _ _).trans <| (Function.update_of_ne hk _ _).trans <|
          (Function.update_of_ne hk _ _).trans <| (Function.update_of_ne hk _ _).trans <|
            (Function.update_of_ne hk _ _).trans <| (Function.update_of_ne hk _ _).trans rfl
      rw [hnone] at hc
      cases hc
  constructor
  · intro h
    rcases h 1 _ hentry with hm | ⟨k, c, hc, hopen, -⟩
    · cases hm
    · exact hopen (hclosed k c hc)
  · intro now
    have hidle : Sample.raced.isConnected ⟨7, 8, some 1, none, 0⟩ = false := rfl
    simp [Node.sweep, hentry, hidle, Node.isExpired]

end Yappy.Gateway.Server
