import Yappy.Runs

/-!
# The gateway client of the web app

`GatewayClient` of `lib/gateway.ts`. The runtime opens and kills sockets when it likes, a token that is being
fetched comes when it likes, and the server sends what frames it likes on a socket that is open.
-/
namespace Yappy.WebGateway

inductive ReadyState
  | connecting | opened | closing | closed
  deriving DecidableEq

inductive Handshake
  | identify
  /-- With the number of the last dispatch of the session that had been handed to `onEvent`. -/
  | resume (sessionId seq handed : ℕ)

structure Socket where
  readyState : ReadyState
  /-- Its `close` has been delivered. -/
  finished : Bool
  greeted : Bool
  sent : List Handshake
  session : Option ℕ

/-- The fields of the client, with its sockets and timers, the sockets whose HELLO waits for a token, and a record
of what has been handed to the handlers. -/
structure State where
  sockets : ℕ → Socket
  created : ℕ
  socket : Option ℕ
  sessionId : Option ℕ
  seq : ℕ
  closedByUs : Bool
  reconnectTimer : Option ℕ
  armed : List ℕ
  timers : ℕ
  fetches : List ℕ
  /-- For each session, the number of the last dispatch handed to `onEvent`. -/
  handed : ℕ → ℕ
  /-- An event has reached the handlers after `disconnect`. -/
  late : Bool

/-- `op`, with what the client reads of the frame. -/
inductive Frame
  | hello
  | ready (sessionId : ℕ)
  | resumed
  /-- `s`, and whether there is a `t`. -/
  | dispatch (s : Option ℕ) (t : Bool)
  | heartbeatAck
  | invalidSession
  | reconnect

def isResumable (code : ℕ) : Bool := code < 4010

section Client
variable (s : State)

def setSocket (w : ℕ) (ws : Socket) : State := { s with sockets := Function.update s.sockets w ws }

/-- `socket.close(…)` -/
def closeSocket (w : ℕ) : State :=
  if (s.sockets w).readyState = .connecting ∨ (s.sockets w).readyState = .opened then
    setSocket s w { s.sockets w with readyState := .closing }
  else s

/-- `open` -/
def opens : State :=
  { s with
    sockets := Function.update s.sockets s.created ⟨.connecting, false, false, [], none⟩
    created := s.created + 1
    socket := some s.created }

def connect : State := opens { s with closedByUs := false }

def clearReconnect : State :=
  match s.reconnectTimer with
  | some t => { s with armed := s.armed.erase t }
  | none => s

def disconnect : State :=
  let s := clearReconnect { s with closedByUs := true }
  let s := match s.socket with
    | some w => closeSocket s w
    | none => s
  { s with socket := none, sessionId := none, seq := 0 }

def scheduleReconnect : State :=
  { s with reconnectTimer := some s.timers, armed := s.timers :: s.armed, timers := s.timers + 1 }

def onClose (w code : ℕ) : State :=
  if s.socket = some w then
    if s.closedByUs then s
    else scheduleReconnect (if isResumable code then s else { s with sessionId := none, seq := 0 })
  else s

def handshake : Handshake :=
  match s.sessionId with
  | some sessionId => .resume sessionId s.seq (s.handed sessionId)
  | none => .identify

def send : State :=
  match s.socket with
  | some c =>
    if (s.sockets c).readyState = .opened then
      setSocket s c { s.sockets c with
        sent := handshake s :: (s.sockets c).sent
        session := s.sessionId.or (s.sockets c).session }
    else s
  | none => s

def onToken (w : ℕ) (token : Bool) : State :=
  let s := { s with fetches := s.fetches.erase w }
  if token then send s else closeSocket s w

def onFrame (w : ℕ) : Frame → State
  | .hello => { setSocket s w { s.sockets w with greeted := true } with fetches := w :: s.fetches }
  | .ready sessionId =>
    { setSocket s w { s.sockets w with session := some sessionId } with
      sessionId := some sessionId
      seq := 0
      handed := Function.update s.handed sessionId 0
      late := s.late || s.closedByUs }
  | .dispatch n t =>
    { s with
      seq := n.getD s.seq
      handed := match (s.sockets w).session, n, t with
        | some sessionId, some n, true => Function.update s.handed sessionId n
        | _, _, _ => s.handed
      late := s.late || (t && s.closedByUs) }
  | .invalidSession => { s with sessionId := none, seq := 0 }
  | .reconnect =>
    match s.socket with
    | some c => closeSocket s c
    | none => s
  | .resumed | .heartbeatAck => s

end Client

inductive Event
  | connect
  | disconnect
  /-- The socket `w` opens, or dies. -/
  | opened (w : ℕ)
  | dies (w : ℕ)
  | close (w code : ℕ)
  | frame (w : ℕ) (frame : Frame)
  /-- The token for the HELLO of `w` is there, or is none. -/
  | token (w : ℕ) (token : Bool)
  | fires (timer : ℕ)

inductive Step : State → Event → State → Prop
  | connect {s : State} : Step s .connect (connect s)
  | disconnect {s : State} : Step s .disconnect (disconnect s)
  | opened {s : State} {w : ℕ} (h : (s.sockets w).readyState = .connecting) :
      Step s (.opened w) (setSocket s w { s.sockets w with readyState := .opened })
  | dies {s : State} {w : ℕ} (h : (s.sockets w).readyState ≠ .closed) :
      Step s (.dies w) (setSocket s w { s.sockets w with readyState := .closed })
  | close {s : State} {w code : ℕ} (h : (s.sockets w).readyState = .closed ∧ (s.sockets w).finished = false) :
      Step s (.close w code) (onClose (setSocket s w { s.sockets w with finished := true }) w code)
  | frame {s : State} {w : ℕ} (h : (s.sockets w).readyState = .opened) (frame : Frame) :
      Step s (.frame w frame) (onFrame s w frame)
  | token {s : State} {w : ℕ} (h : w ∈ s.fetches) (token : Bool) : Step s (.token w token) (onToken s w token)
  | fires {s : State} {timer : ℕ} (h : timer ∈ s.armed) :
      Step s (.fires timer) (opens { s with armed := s.armed.erase timer })

/-! ## What holds -/

/-- One handshake at most and after HELLO, and a RESUME with the right number. -/
structure Socket.Orderly (ws : Socket) : Prop where
  once : ws.sent.length ≤ 1
  greeted : ws.sent ≠ [] → ws.greeted = true
  exact : ∀ sessionId seq handed, .resume sessionId seq handed ∈ ws.sent → seq = handed

/-- So it is on every socket, and nothing reaches the handlers after `disconnect`. -/
structure Orderly (s : State) : Prop where
  sockets : ∀ w, (s.sockets w).Orderly
  silent : s.late = false

/-- HELLO comes once on a socket; READY and dispatches come on the current one, dispatches in a session and with a
name; a token comes while the socket that it was fetched for is the current one, or while nothing can be sent; and
no timer is left when the client disconnects. -/
def InTurn (s : State) : Event → Prop
  | .frame w .hello => (s.sockets w).greeted = false
  | .frame w (.ready _) => s.socket = some w
  | .frame w (.dispatch n t) => s.socket = some w ∧ (s.sockets w).session ≠ none ∧ (n ≠ none → t = true)
  | .token w true => s.socket = some w ∨ ∀ c, s.socket = some c → (s.sockets c).readyState ≠ .opened
  | .fires _ => s.closedByUs = false
  | _ => True

variable {s s' s'' : State} {w : ℕ} {e : Event} {ws : Socket}

structure Inv (s : State) : Prop where
  orderly : Orderly s
  numbers : ∀ sessionId ∈ s.sessionId, s.seq = s.handed sessionId
  speaks : ∀ w, s.socket = some w → ∀ sid ∈ (s.sockets w).session, ∀ sid' ∈ s.sessionId, sid = sid'
  quiet : s.closedByUs = true → s.socket = none
  fetching : ∀ w, w ∈ s.fetches → (s.sockets w).greeted = true ∧ (s.sockets w).sent = []
  nodup : s.fetches.Nodup
  born : ∀ w, s.created ≤ w → (s.sockets w).readyState = .closed ∧ (s.sockets w).greeted = false

lemma Inv.open (h : Inv s) (hw : s.socket = some w) : s.closedByUs = false := by
  by_contra hby
  rw [h.quiet (Bool.eq_true_of_not_eq_false hby)] at hw
  cases hw

/-! ## Sockets and timers -/

structure Socket.Same (ws ws' : Socket) : Prop where
  greeted : ws'.greeted = ws.greeted
  sent : ws'.sent = ws.sent
  session : ws'.session = ws.session
  dead : ws.readyState = .closed → ws'.readyState = .closed

lemma Socket.Same.refl (ws : Socket) : ws.Same ws := ⟨rfl, rfl, rfl, fun h => h⟩

lemma Socket.Same.trans {ws' ws'' : Socket} (h : ws.Same ws') (h' : ws'.Same ws'') : ws.Same ws'' :=
  ⟨h'.greeted.trans h.greeted, h'.sent.trans h.sent, h'.session.trans h.session, fun hd => h'.dead (h.dead hd)⟩

lemma Socket.Orderly.same {ws' : Socket} (h : ws.Orderly) (hs : ws.Same ws') : ws'.Orderly where
  once := hs.sent ▸ h.once
  greeted hne := hs.greeted.trans (h.greeted (hs.sent ▸ hne))
  exact := hs.sent ▸ h.exact

structure Calms (s s' : State) : Prop where
  sockets : ∀ w, (s.sockets w).Same (s'.sockets w)
  created : s'.created = s.created
  sessionId : s'.sessionId = s.sessionId
  seq : s'.seq = s.seq
  fetches : s'.fetches = s.fetches
  handed : s'.handed = s.handed
  late : s'.late = s.late

lemma Calms.refl (s : State) : Calms s s := ⟨fun _ => .refl _, rfl, rfl, rfl, rfl, rfl, rfl⟩

lemma Calms.trans (h : Calms s s') (h' : Calms s' s'') : Calms s s'' where
  sockets w := (h.sockets w).trans (h'.sockets w)
  created := h'.created.trans h.created
  sessionId := h'.sessionId.trans h.sessionId
  seq := h'.seq.trans h.seq
  fetches := h'.fetches.trans h.fetches
  handed := h'.handed.trans h.handed
  late := h'.late.trans h.late

lemma calms_setSocket (hw : (s.sockets w).Same ws) : Calms s (setSocket s w ws) where
  sockets := (Function.forall_update_iff s.sockets fun w' ws' => (s.sockets w').Same ws').mpr ⟨hw, fun _ _ => .refl _⟩
  created := rfl
  sessionId := rfl
  seq := rfl
  fetches := rfl
  handed := rfl
  late := rfl

lemma calms_closeSocket : Calms s (closeSocket s w) := by
  unfold closeSocket
  split_ifs with h
  · refine calms_setSocket ⟨rfl, rfl, rfl, fun hc => ?_⟩
    rw [hc] at h
    exact h.elim nofun nofun
  · exact .refl s

lemma closeSocket_socket : (closeSocket s w).socket = s.socket := by
  unfold closeSocket
  split_ifs <;> rfl

lemma closeSocket_closedByUs : (closeSocket s w).closedByUs = s.closedByUs := by
  unfold closeSocket
  split_ifs <;> rfl

lemma calms_clearReconnect : Calms s (clearReconnect s) := by
  unfold clearReconnect
  split
  · exact ⟨fun _ => .refl _, rfl, rfl, rfl, rfl, rfl, rfl⟩
  · exact .refl s

lemma Orderly.calms (h : Orderly s) (hc : Calms s s') : Orderly s' :=
  ⟨fun w => (h.sockets w).same (hc.sockets w), hc.late.trans h.silent⟩

lemma Inv.calms (h : Inv s) (hc : Calms s s') (hsocket : s'.socket = s.socket)
    (hclosed : s'.closedByUs = s.closedByUs) : Inv s' where
  orderly := h.orderly.calms hc
  numbers sid hsid := by
    rw [hc.sessionId] at hsid
    rw [hc.seq, hc.handed]
    exact h.numbers sid hsid
  speaks w hw := by
    rw [hsocket] at hw
    rw [(hc.sockets w).session, hc.sessionId]
    exact h.speaks w hw
  quiet hby := by
    rw [hsocket]
    exact h.quiet (hclosed.symm.trans hby)
  fetching w hw := by
    rw [hc.fetches] at hw
    rw [(hc.sockets w).greeted, (hc.sockets w).sent]
    exact h.fetching w hw
  nodup := hc.fetches ▸ h.nodup
  born w hw := by
    rw [hc.created] at hw
    rw [(hc.sockets w).greeted]
    exact ⟨(hc.sockets w).dead (h.born w hw).1, (h.born w hw).2⟩

lemma Inv.closeSocket (h : Inv s) : Inv (closeSocket s w) :=
  h.calms calms_closeSocket closeSocket_socket closeSocket_closedByUs

lemma Inv.forget (h : Inv s) : Inv { s with sessionId := none, seq := 0 } where
  orderly := ⟨h.orderly.sockets, h.orderly.silent⟩
  numbers _ hsid := by cases hsid
  speaks _ _ _ _ _ hsid := by cases hsid
  quiet := h.quiet
  fetching := h.fetching
  nodup := h.nodup
  born := h.born

lemma Inv.disconnected (h : Inv s) (hc : Calms s s') : Inv { s' with socket := none, sessionId := none, seq := 0 } where
  orderly := ⟨(h.orderly.calms hc).sockets, (h.orderly.calms hc).silent⟩
  numbers _ hsid := by cases hsid
  speaks _ hw := by cases hw
  quiet _ := rfl
  fetching w hw := by
    have hmem : w ∈ s.fetches := hc.fetches ▸ hw
    exact ⟨(hc.sockets w).greeted.trans (h.fetching w hmem).1, (hc.sockets w).sent.trans (h.fetching w hmem).2⟩
  nodup := by
    change s'.fetches.Nodup
    rw [hc.fetches]
    exact h.nodup
  born w hw := by
    have hle : s.created ≤ w := hc.created ▸ hw
    exact ⟨(hc.sockets w).dead (h.born w hle).1, (hc.sockets w).greeted.trans (h.born w hle).2⟩

lemma Inv.disconnect (h : Inv s) : Inv (disconnect s) := by
  have hmarked : Calms s { s with closedByUs := true } := ⟨fun _ => .refl _, rfl, rfl, rfl, rfl, rfl, rfl⟩
  have hcleared : Calms s (clearReconnect { s with closedByUs := true }) := hmarked.trans calms_clearReconnect
  unfold WebGateway.disconnect
  generalize clearReconnect { s with closedByUs := true } = s₁ at hcleared
  dsimp only
  cases s₁.socket with
  | none => exact h.disconnected hcleared
  | some w => exact h.disconnected (hcleared.trans calms_closeSocket)

lemma Inv.opens (h : Inv s) (hopen : s.closedByUs = false) : Inv (opens s) where
  orderly := by
    refine ⟨(Function.forall_update_iff s.sockets fun _ ws => ws.Orderly).mpr ⟨?_, fun w _ => h.orderly.sockets w⟩,
      h.orderly.silent⟩
    exact ⟨Nat.zero_le _, fun hne => absurd rfl hne, nofun⟩
  numbers := h.numbers
  speaks w hw sid hsid := by
    obtain rfl : s.created = w := Option.some.inj hw
    change sid ∈ (Function.update s.sockets s.created _ s.created).session at hsid
    rw [Function.update_self] at hsid
    cases hsid
  quiet hby := by
    have hclosed : s.closedByUs = true := hby
    rw [hopen] at hclosed
    cases hclosed
  fetching := by
    refine (Function.forall_update_iff s.sockets fun w ws => w ∈ s.fetches → ws.greeted = true ∧ ws.sent = []).mpr
      ⟨fun hmem => ?_, fun w _ => h.fetching w⟩
    have hgreeted := (h.fetching s.created hmem).1
    rw [(h.born s.created le_rfl).2] at hgreeted
    cases hgreeted
  nodup := h.nodup
  born w hw := by
    have hlt : s.created < w := hw
    have hother : (WebGateway.opens s).sockets w = s.sockets w := Function.update_of_ne hlt.ne' ..
    rw [hother]
    exact h.born w hlt.le

lemma Inv.close (h : Inv s) (code : ℕ) : Inv (onClose (setSocket s w { s.sockets w with finished := true }) w code) := by
  have hset : Inv (setSocket s w { s.sockets w with finished := true }) :=
    h.calms (calms_setSocket ⟨rfl, rfl, rfl, fun hc => hc⟩) rfl rfl
  have harm : ∀ s', Inv s' → Inv (scheduleReconnect s') := fun s' h' =>
    h'.calms ⟨fun _ => .refl _, rfl, rfl, rfl, rfl, rfl, rfl⟩ rfl rfl
  unfold onClose
  generalize setSocket s w { s.sockets w with finished := true } = s₁ at hset
  split_ifs
  · exact hset
  · exact harm _ hset
  · exact harm _ hset.forget
  · exact hset

/-! ## Frames -/

lemma Inv.hello (h : Inv s) (hopen : (s.sockets w).readyState = .opened) (hnew : (s.sockets w).greeted = false) :
    Inv (onFrame s w .hello) where
  orderly := by
    refine ⟨(Function.forall_update_iff s.sockets fun _ ws => ws.Orderly).mpr ⟨?_, fun w _ => h.orderly.sockets w⟩,
      h.orderly.silent⟩
    exact ⟨(h.orderly.sockets w).once, fun _ => rfl, (h.orderly.sockets w).exact⟩
  numbers := h.numbers
  speaks := by
    refine (Function.forall_update_iff s.sockets fun w ws =>
      s.socket = some w → ∀ sid ∈ ws.session, ∀ sid' ∈ s.sessionId, sid = sid').mpr ⟨h.speaks w, fun w _ => h.speaks w⟩
  quiet := h.quiet
  fetching := by
    refine (Function.forall_update_iff s.sockets fun w' ws =>
      w' ∈ w :: s.fetches → ws.greeted = true ∧ ws.sent = []).mpr ⟨fun _ => ⟨rfl, ?_⟩, fun w' hne hmem => ?_⟩
    · by_contra hsent
      have hgreeted := (h.orderly.sockets w).greeted hsent
      rw [hnew] at hgreeted
      cases hgreeted
    · exact h.fetching w' ((List.mem_cons.mp hmem).resolve_left hne)
  nodup := by
    refine List.nodup_cons.mpr ⟨fun hmem => ?_, h.nodup⟩
    have hgreeted := (h.fetching w hmem).1
    rw [hnew] at hgreeted
    cases hgreeted
  born := by
    refine (Function.forall_update_iff s.sockets fun w' ws =>
      s.created ≤ w' → ws.readyState = .closed ∧ ws.greeted = false).mpr ⟨fun hle => ?_, fun w' _ => h.born w'⟩
    have hdead := (h.born w hle).1
    rw [hopen] at hdead
    cases hdead

lemma Inv.ready (h : Inv s) (hw : s.socket = some w) (sessionId : ℕ) : Inv (onFrame s w (.ready sessionId)) where
  orderly := by
    refine ⟨(Function.forall_update_iff s.sockets fun _ ws => ws.Orderly).mpr ⟨?_, fun w _ => h.orderly.sockets w⟩, ?_⟩
    · exact ⟨(h.orderly.sockets w).once, (h.orderly.sockets w).greeted, (h.orderly.sockets w).exact⟩
    · change (s.late || s.closedByUs) = false
      rw [h.orderly.silent, h.open hw]
      rfl
  numbers sid hsid := by
    cases hsid
    exact (Function.update_self (β := fun _ => ℕ) sessionId 0 s.handed).symm
  speaks w' hw' sid hsid sid' hsid' := by
    obtain rfl : w = w' := Option.some.inj (hw.symm.trans hw')
    change sid ∈ (Function.update s.sockets w _ w).session at hsid
    rw [Function.update_self] at hsid
    cases hsid
    cases hsid'
    rfl
  quiet := h.quiet
  fetching := (Function.forall_update_iff s.sockets fun w ws => w ∈ s.fetches → ws.greeted = true ∧ ws.sent = []).mpr
    ⟨h.fetching w, fun w _ => h.fetching w⟩
  nodup := h.nodup
  born := (Function.forall_update_iff s.sockets fun w ws =>
    s.created ≤ w → ws.readyState = .closed ∧ ws.greeted = false).mpr ⟨h.born w, fun w _ => h.born w⟩

lemma Inv.dispatch (h : Inv s) (hw : s.socket = some w) (hspeaks : (s.sockets w).session ≠ none) {n : Option ℕ} {t : Bool}
    (hnamed : n ≠ none → t = true) : Inv (onFrame s w (.dispatch n t)) where
  orderly := by
    refine ⟨h.orderly.sockets, ?_⟩
    change (s.late || (t && s.closedByUs)) = false
    rw [h.orderly.silent, h.open hw, Bool.and_false]
    rfl
  numbers sid hsid := by
    obtain ⟨sid', hsid'⟩ := Option.ne_none_iff_exists'.mp hspeaks
    obtain rfl : sid' = sid := h.speaks w hw sid' hsid' sid hsid
    change n.getD s.seq = (match (s.sockets w).session, n, t with
      | some sessionId, some n, true => Function.update s.handed sessionId n
      | _, _, _ => s.handed) sid'
    rw [hsid']
    cases n with
    | none => exact h.numbers sid' hsid
    | some n =>
      rw [hnamed nofun]
      exact (Function.update_self (β := fun _ => ℕ) sid' n s.handed).symm
  speaks := h.speaks
  quiet := h.quiet
  fetching := h.fetching
  nodup := h.nodup
  born := h.born

lemma Inv.frame (h : Inv s) (hopen : (s.sockets w).readyState = .opened) {frame : Frame}
    (hok : InTurn s (.frame w frame)) : Inv (onFrame s w frame) := by
  cases frame with
  | hello => exact h.hello hopen hok
  | ready sessionId => exact h.ready hok sessionId
  | resumed => exact h
  | dispatch n t => exact h.dispatch hok.1 hok.2.1 hok.2.2
  | heartbeatAck => exact h
  | invalidSession => exact h.forget
  | reconnect =>
    change Inv (match s.socket with
      | some c => WebGateway.closeSocket s c
      | none => s)
    cases s.socket with
    | none => exact h
    | some c => exact h.closeSocket

/-! ## Tokens -/

lemma Inv.handshake_exact (h : Inv s) {sessionId seq handed : ℕ}
    (hr : .resume sessionId seq handed = handshake s) : seq = handed := by
  unfold handshake at hr
  cases hsid : s.sessionId with
  | none =>
    rw [hsid] at hr
    cases hr
  | some sid =>
    rw [hsid] at hr
    cases hr
    exact h.numbers _ hsid

lemma Inv.sends (h : Inv s) (hw : s.socket = some w) (hgreeted : (s.sockets w).greeted = true)
    (hfirst : (s.sockets w).sent = []) (hlast : w ∉ s.fetches) :
    Inv (setSocket s w { s.sockets w with
      sent := handshake s :: (s.sockets w).sent
      session := s.sessionId.or (s.sockets w).session }) where
  orderly := by
    refine ⟨(Function.forall_update_iff s.sockets fun _ ws => ws.Orderly).mpr ⟨?_, fun w _ => h.orderly.sockets w⟩,
      h.orderly.silent⟩
    rw [hfirst]
    exact ⟨le_rfl, fun _ => hgreeted, fun _ _ _ hr => h.handshake_exact (List.mem_singleton.mp hr)⟩
  numbers := h.numbers
  speaks w' hw' sid hsid sid' hsid' := by
    obtain rfl : w = w' := Option.some.inj (hw.symm.trans hw')
    have hsession : s.sessionId = some sid' := hsid'
    change sid ∈ (Function.update s.sockets w _ w).session at hsid
    rw [Function.update_self, hsession] at hsid
    cases hsid
    rfl
  quiet := h.quiet
  fetching := (Function.forall_update_iff s.sockets fun w ws => w ∈ s.fetches → ws.greeted = true ∧ ws.sent = []).mpr
    ⟨fun hmem => absurd hmem hlast, fun w _ => h.fetching w⟩
  nodup := h.nodup
  born := (Function.forall_update_iff s.sockets fun w ws =>
    s.created ≤ w → ws.readyState = .closed ∧ ws.greeted = false).mpr ⟨h.born w, fun w _ => h.born w⟩

lemma Inv.token (h : Inv s) (hmem : w ∈ s.fetches) {token : Bool} (hok : InTurn s (.token w token)) :
    Inv (onToken s w token) := by
  have herased : Inv { s with fetches := s.fetches.erase w } :=
    ⟨⟨h.orderly.sockets, h.orderly.silent⟩, h.numbers, h.speaks, h.quiet,
      fun w' hw' => h.fetching w' (List.mem_of_mem_erase hw'), h.nodup.erase w, h.born⟩
  obtain ⟨hgreeted, hfirst⟩ := h.fetching w hmem
  cases token with
  | false => exact herased.closeSocket
  | true =>
    change Inv (send { s with fetches := s.fetches.erase w })
    unfold send
    split
    · rename_i c hc
      split_ifs with hopen
      · rcases hok with hw | hnone
        · obtain rfl : w = c := Option.some.inj (hw.symm.trans hc)
          exact herased.sends hw hgreeted hfirst h.nodup.not_mem_erase
        · exact absurd hopen (hnone c hc)
      · exact herased
    · exact herased

/-! ## Runs -/

lemma Step.inv (hstep : Step s e s') (h : Inv s) (hok : InTurn s e) : Inv s' := by
  cases hstep with
  | connect =>
    have hopen : Inv { s with closedByUs := false } :=
      ⟨⟨h.orderly.sockets, h.orderly.silent⟩, h.numbers, h.speaks, nofun, h.fetching, h.nodup, h.born⟩
    exact hopen.opens rfl
  | disconnect => exact h.disconnect
  | opened hw =>
    refine h.calms (calms_setSocket ⟨rfl, rfl, rfl, fun hc => ?_⟩) rfl rfl
    rw [hw] at hc
    cases hc
  | dies => exact h.calms (calms_setSocket ⟨rfl, rfl, rfl, fun _ => rfl⟩) rfl rfl
  | close => exact h.close _
  | frame hopen => exact h.frame hopen hok
  | token hmem => exact h.token hmem hok
  | @fires timer =>
    have hfired : Inv { s with armed := s.armed.erase timer } :=
      h.calms ⟨fun _ => .refl _, rfl, rfl, rfl, rfl, rfl, rfl⟩ rfl rfl
    exact hfired.opens hok

end Yappy.WebGateway
