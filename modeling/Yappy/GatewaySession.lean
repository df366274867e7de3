import Mathlib

/-!
# A gateway session and its replay buffer

`apps/gateway/src/session.ts`, the resume path of `server.ts` and the frame helpers of
`protocol.ts`. A session outlives its sockets: every dispatch is numbered and buffered, and a
client that comes back names the last number it processed.
-/
namespace Yappy.Gateway

abbrev SocketId := ℕ

/-- `WebSocket.readyState`, in its order; a server is handed its sockets open. -/
inductive ReadyState
  | opened | closing | closed
  deriving DecidableEq

def ReadyState.rank : ReadyState → ℕ
  | opened => 1
  | closing => 2
  | closed => 3

/-- What a socket was handed: a numbered dispatch, or any other frame. -/
inductive Sent
  | dispatch (s : ℕ) (frame : String)
  | control (frame : String)

structure Socket where
  readyState : ReadyState
  bufferedAmount : ℕ
  identified : Bool
  sent : List Sent

def Socket.dispatches (k : Socket) : List (ℕ × String) :=
  k.sent.filterMap fun
    | .dispatch s frame => some (s, frame)
    | .control _ => none

structure Session where
  socket : Option SocketId
  seq : ℕ
  replay : List (ℕ × String)
  disconnectedAt : Option ℕ

/-! ### Frames -/

/-- `encodeFrame` of a dispatch. `quote` is `JSON.stringify` on a text, and `data` the JSON of
the payload, which an undefined payload does not have. -/
def encodeFrame (quote : String → String) (event : String) (s : ℕ) (data : Option String) :
    String :=
  "\x7b\"op\":0,\"t\":" ++ quote event ++ ",\"s\":" ++ toString s ++
    (data.elim "" fun d => ",\"d\":" ++ d) ++ "\x7d"

structure PreparedDispatch where
  head : String
  tail : String

def prepareDispatch (quote : String → String) (event : String) (data : Option String) :
    Option PreparedDispatch :=
  data.map fun d =>
    ⟨"\x7b\"op\":0,\"t\":" ++ quote event ++ ",\"s\":", ",\"d\":" ++ d ++ "\x7d"⟩

lemma splice_eq_encodeFrame {quote : String → String} {event : String} {data : Option String}
    {prepared : PreparedDispatch} (h : prepareDispatch quote event data = some prepared) (s : ℕ) :
    prepared.head ++ toString s ++ prepared.tail = encodeFrame quote event s data := by
  obtain ⟨d, rfl, rfl⟩ := Option.map_eq_some_iff.mp h
  delta encodeFrame
  simp only [Option.elim_some, String.append_assoc]

/-! ### One session and the sockets it meets -/

def replayBufferSize : ℕ := 256
def slowConsumerBytes : ℕ := 1024 * 1024

structure World where
  session : Session
  sockets : SocketId → Socket
  destroyed : Bool
  dispatched : List (ℕ × String)

namespace World

def isConnected (w : World) : Bool :=
  w.session.socket.any fun k => (w.sockets k).readyState = .opened

def onSocket (w : World) (k : SocketId) (f : Socket → Socket) : World :=
  { w with sockets := Function.update w.sockets k (f (w.sockets k)) }

def hand (w : World) (k : SocketId) (frame : Sent) : World :=
  w.onSocket k fun socket => { socket with sent := socket.sent ++ [frame] }

def setReady (w : World) (k : SocketId) (state : ReadyState) : World :=
  w.onSocket k fun socket =>
    if socket.readyState.rank ≤ state.rank then { socket with readyState := state } else socket

/-- `session.close`: the socket is told to close, and let go of. -/
def close (w : World) : World :=
  match w.session.socket with
  | some k =>
    let w := w.setReady k .closing
    { w with session := { w.session with socket := none } }
  | none => w

def send (w : World) (frame : String) : World :=
  match w.session.socket with
  | some k => if w.isConnected then w.hand k (.control frame) else w
  | none => w

/-- `push`, and `shift` once the buffer is past its size. -/
def buffered (replay : List (ℕ × String)) (entry : ℕ × String) : List (ℕ × String) :=
  if replayBufferSize < (replay ++ [entry]).length then (replay ++ [entry]).tail
  else replay ++ [entry]

def deliver (w : World) (encoded : String) : World :=
  match w.session.socket with
  | some k =>
    if w.isConnected then
      if slowConsumerBytes < (w.sockets k).bufferedAmount then w.close
      else w.hand k (.dispatch w.session.seq encoded)
    else w
  | none => w

def emit (w : World) (encoded : String) : World :=
  deliver { w with session := { w.session with
    replay := buffered w.session.replay (w.session.seq, encoded) } } encoded

def count (w : World) (frame : ℕ → String) : World :=
  { w with
    session := { w.session with seq := w.session.seq + 1 }
    dispatched := w.dispatched ++ [(w.session.seq + 1, frame (w.session.seq + 1))] }

def dispatch (quote : String → String) (w : World) (event : String) (data : Option String) :
    World :=
  let w := w.count fun s => encodeFrame quote event s data
  w.emit (encodeFrame quote event w.session.seq data)

def dispatchPrepared (w : World) (prepared : PreparedDispatch) : World :=
  let w := w.count fun s => prepared.head ++ toString s ++ prepared.tail
  w.emit (prepared.head ++ toString w.session.seq ++ prepared.tail)

def fanOut (quote : String → String) (w : World) (event : String) (data : Option String) :
    World :=
  match prepareDispatch quote event data with
  | some prepared => w.dispatchPrepared prepared
  | none => w.dispatch quote event data

def park (w : World) (now : ℕ) : World :=
  { w with session := { w.session with disconnectedAt := some now, socket := none } }

/-- `session.resume`, and the mark that this connection has had its one IDENTIFY or RESUME. -/
def attach (w : World) (k : SocketId) : World :=
  let w := { w with session := { w.session with socket := some k, disconnectedAt := none } }
  w.onSocket k fun socket => { socket with identified := true }

/-- The loop of `replayFrom`. -/
def replayLoop (afterSeq : ℕ) : List (ℕ × String) → World → World
  | [], w => w
  | entry :: rest, w =>
    replayLoop afterSeq rest
      (match w.session.socket with
      | some k =>
        if afterSeq < entry.1 ∧ w.isConnected then w.hand k (.dispatch entry.1 entry.2) else w
      | none => w)

/-- Replay everything after `afterSeq`, or answer false. -/
def replayFrom (w : World) (afterSeq : ℕ) : World × Bool :=
  -- the client claims to be ahead
  if afterSeq > w.session.seq then (w, false)
  else
    let oldest := (w.session.replay.head?.map Prod.fst).getD (w.session.seq + 1)
    if (afterSeq : ℤ) < (oldest : ℤ) - 1 then (w, false)
    else (replayLoop afterSeq w.session.replay w, true)

/-- `stale.terminate()`: the socket the session still rides is retired. -/
def retire (w : World) (k : SocketId) : World :=
  match w.session.socket with
  | some stale => if stale ≠ k then w.setReady stale .closing else w
  | none => w

/-- `handleResume`, once the session is found to be resumable. -/
def handleResume (w : World) (k : SocketId) (afterSeq : ℕ) (resumed invalid : String) : World :=
  let r := ((w.retire k).attach k).replayFrom afterSeq
  if r.2 then r.1.send resumed
  else
    let w := r.1.hand k (.control invalid)
    { w.setReady k .closing with destroyed := true }

end World

inductive Event
  | dispatch (event : String) (data : Option String)
  | fanOut (event : String) (data : Option String)
  | send (frame : String)
  | ready (k : SocketId) (state : ReadyState)
  | backlog (k : SocketId) (bytes : ℕ)
  | close
  | park (now : ℕ)
  | resume (k : SocketId) (afterSeq : ℕ) (resumed invalid : String)
  | destroy

/-- What the event does, if the session is still there and the connection may still take one. -/
def World.step (quote : String → String) (w : World) (e : Event) : World :=
  if w.destroyed then w
  else match e with
  | .dispatch event data => w.dispatch quote event data
  | .fanOut event data => w.fanOut quote event data
  | .send frame => w.send frame
  | .ready k state => w.setReady k state
  | .backlog k bytes => w.onSocket k fun socket => { socket with bufferedAmount := bytes }
  | .close => w.close
  | .park now => w.park now
  | .resume k afterSeq resumed invalid =>
    if (w.sockets k).identified then w else w.handleResume k afterSeq resumed invalid
  | .destroy => { w with destroyed := true }

def World.run (quote : String → String) (w : World) (events : List Event) : World :=
  events.foldl (World.step quote) w

/-- A session as IDENTIFY makes it, on socket `k`; nothing numbered was sent anywhere. -/
structure Started (w : World) : Prop where
  seq : w.session.seq = 0
  replay : w.session.replay = []
  dispatched : w.dispatched = []
  unsent : ∀ k, (w.sockets k).dispatches = []
  rides : ∀ k, w.session.socket = some k → (w.sockets k).identified = true

variable {quote : String → String} {w : World}

/-! ### What a dispatch does -/

lemma fanOut_eq_dispatch (event : String) (data : Option String) :
    w.fanOut quote event data = w.dispatch quote event data := by
  unfold World.fanOut
  cases hp : prepareDispatch quote event data with
  | none => rfl
  | some prepared =>
    simp only [World.dispatchPrepared, World.dispatch, splice_eq_encodeFrame hp]

lemma deliver_cases (encoded : String) :
    (w.isConnected = false ∧ w.deliver encoded = w) ∨
      ∃ k, w.session.socket = some k ∧ (w.sockets k).readyState = .opened ∧
        (w.deliver encoded = w.close ∨
          w.deliver encoded = w.hand k (.dispatch w.session.seq encoded)) := by
  cases hk : w.session.socket with
  | none => exact Or.inl ⟨by simp [World.isConnected, hk], by simp [World.deliver, hk]⟩
  | some k =>
    by_cases hc : (w.sockets k).readyState = .opened
    · refine Or.inr ⟨k, rfl, hc, ?_⟩
      have hconn : w.isConnected = true := by simp [World.isConnected, hk, hc]
      by_cases hslow : slowConsumerBytes < (w.sockets k).bufferedAmount
      · exact Or.inl (by simp [World.deliver, hk, hconn, hslow])
      · exact Or.inr (by simp [World.deliver, hk, hconn, hslow])
    · have hconn : w.isConnected = false := by simp [World.isConnected, hk, hc]
      exact Or.inl ⟨hconn, by simp [World.deliver, hk, hconn]⟩

def enqueued (w : World) (frame : String) : World where
  session := { w.session with
    seq := w.session.seq + 1
    replay := World.buffered w.session.replay (w.session.seq + 1, frame) }
  sockets := w.sockets
  destroyed := w.destroyed
  dispatched := w.dispatched ++ [(w.session.seq + 1, frame)]

lemma dispatch_eq (event : String) (data : Option String) :
    w.dispatch quote event data =
      (enqueued w (encodeFrame quote event (w.session.seq + 1) data)).deliver
        (encodeFrame quote event (w.session.seq + 1) data) := rfl

/-! ### What a session remembers -/

/-- The frames are numbered from 1, the buffer holds the last of them, and a connection that
has not identified was handed none. -/
structure Coherent (w : World) : Prop where
  numbered : w.dispatched.map Prod.fst = List.range' 1 w.session.seq
  replay : w.session.replay = w.dispatched.drop (w.session.seq - replayBufferSize)
  rides : ∀ k, w.session.socket = some k → (w.sockets k).identified = true
  unsent : ∀ k, (w.sockets k).identified = false → (w.sockets k).dispatches = []

lemma Coherent.length (h : Coherent w) : w.dispatched.length = w.session.seq := by
  simpa using congrArg List.length h.numbered

lemma Started.coherent (h : Started w) : Coherent w where
  numbered := by simp [h.dispatched, h.seq]
  replay := by simp [h.dispatched, h.replay]
  rides := h.rides
  unsent k _ := h.unsent k

lemma Coherent.congr {w' : World} (h : Coherent w) (hseq : w'.session.seq = w.session.seq)
    (hreplay : w'.session.replay = w.session.replay) (hdispatched : w'.dispatched = w.dispatched)
    (hrides : ∀ k, w'.session.socket = some k → (w'.sockets k).identified = true)
    (hunsent : ∀ k, (w'.sockets k).identified = false → (w'.sockets k).dispatches = []) :
    Coherent w' where
  numbered := by rw [hdispatched, hseq, h.numbered]
  replay := by rw [hreplay, hdispatched, hseq, h.replay]
  rides := hrides
  unsent := hunsent

lemma Coherent.enqueued (h : Coherent w) (frame : String) : Coherent (enqueued w frame) where
  numbered := by
    simp [Gateway.enqueued, h.numbered, List.range'_1_concat, Nat.add_comm]
  replay := by
    have hlen := h.length
    simp only [Gateway.enqueued, World.buffered, h.replay, List.length_append, List.length_drop,
      List.length_singleton, hlen]
    split_ifs with hfull
    · have hd : w.session.seq - replayBufferSize + 1 = w.session.seq + 1 - replayBufferSize := by
        omega
      rw [← List.drop_append_of_le_length (by omega), List.tail_drop, hd]
    · have hd : w.session.seq - replayBufferSize = w.session.seq + 1 - replayBufferSize := by
        omega
      rw [← List.drop_append_of_le_length (by omega), hd]
  rides := h.rides
  unsent := h.unsent

structure Quiet (w w' : World) : Prop where
  seq : w'.session.seq = w.session.seq
  replay : w'.session.replay = w.session.replay
  dispatched : w'.dispatched = w.dispatched
  identified : ∀ k, (w'.sockets k).identified = (w.sockets k).identified
  dispatches : ∀ k, (w'.sockets k).dispatches = (w.sockets k).dispatches
  ready : ∀ k, (w'.sockets k).readyState = .opened → (w.sockets k).readyState = .opened
  rides : ∀ k, w'.session.socket = some k → w.session.socket = some k

variable {w' w'' : World} {k : SocketId}

lemma Quiet.refl (w : World) : Quiet w w :=
  ⟨rfl, rfl, rfl, fun _ => rfl, fun _ => rfl, fun _ h => h, fun _ h => h⟩

lemma Quiet.trans (h : Quiet w w') (h' : Quiet w' w'') : Quiet w w'' where
  seq := h'.seq.trans h.seq
  replay := h'.replay.trans h.replay
  dispatched := h'.dispatched.trans h.dispatched
  identified k := (h'.identified k).trans (h.identified k)
  dispatches k := (h'.dispatches k).trans (h.dispatches k)
  ready k hk := h.ready k (h'.ready k hk)
  rides k hk := h.rides k (h'.rides k hk)

lemma Quiet.onSocket {f : Socket → Socket} (hi : ∀ x, (f x).identified = x.identified)
    (hd : ∀ x, (f x).dispatches = x.dispatches)
    (hr : ∀ x, (f x).readyState = .opened → x.readyState = .opened) :
    Quiet w (w.onSocket k f) := by
  refine ⟨rfl, rfl, rfl, fun k' => ?_, fun k' => ?_, fun k' => ?_, fun _ h => h⟩
  · by_cases hk : k' = k
    · subst hk
      simp [World.onSocket, hi]
    · simp [World.onSocket, hk]
  · by_cases hk : k' = k
    · subst hk
      simp [World.onSocket, hd]
    · simp [World.onSocket, hk]
  · by_cases hk : k' = k
    · subst hk
      simpa [World.onSocket] using hr _
    · simp [World.onSocket, hk]

lemma setReady_quiet (state : ReadyState) : Quiet w (w.setReady k state) := by
  apply Quiet.onSocket
  · intro x
    split_ifs <;> rfl
  · intro x
    split_ifs <;> rfl
  · intro x h
    split_ifs at h with hrank
    · simp only at h
      subst h
      cases hx : x.readyState with
      | opened => rfl
      | closing => simp [hx, ReadyState.rank] at hrank
      | closed => simp [hx, ReadyState.rank] at hrank
    · exact h

lemma hand_control_quiet (frame : String) : Quiet w (w.hand k (.control frame)) :=
  Quiet.onSocket (fun _ => rfl) (fun x => by simp [Socket.dispatches]) fun _ h => h

lemma close_quiet : Quiet w w.close := by
  unfold World.close
  split
  · next k hk =>
    have h := setReady_quiet (w := w) (k := k) .closing
    exact ⟨h.seq, h.replay, h.dispatched, h.identified, h.dispatches, h.ready, by simp⟩
  · exact Quiet.refl w

lemma send_quiet (frame : String) : Quiet w (w.send frame) := by
  unfold World.send
  split
  · split_ifs
    · exact hand_control_quiet frame
    · exact Quiet.refl w
  · exact Quiet.refl w

lemma park_quiet (now : ℕ) : Quiet w (w.park now) :=
  ⟨rfl, rfl, rfl, fun _ => rfl, fun _ => rfl, fun _ h => h, by simp [World.park]⟩

lemma retire_quiet : Quiet w (w.retire k) := by
  unfold World.retire
  split
  · split_ifs
    · exact setReady_quiet _
    · exact Quiet.refl w
  · exact Quiet.refl w

lemma Coherent.quiet (h : Coherent w) (hq : Quiet w w') : Coherent w' where
  numbered := by rw [hq.dispatched, hq.seq, h.numbered]
  replay := by rw [hq.replay, hq.dispatched, hq.seq, h.replay]
  rides k hk := (hq.identified k).trans (h.rides k (hq.rides k hk))
  unsent k hk := (hq.dispatches k).trans (h.unsent k ((hq.identified k).symm.trans hk))

/-! ### Replaying -/

lemma filter_after {l : List (ℕ × String)} {a b : ℕ}
    (h : l.map Prod.fst = List.range' (b + 1) l.length) :
    l.filter (fun e => a < e.1) = l.drop (a - b) := by
  induction l generalizing b with
  | nil => simp
  | cons e l ih =>
    simp only [List.map_cons, List.length_cons, List.range'_succ, List.cons.injEq] at h
    obtain ⟨he, hl⟩ := h
    by_cases ha : a ≤ b
    · have hrest := ih hl
      have hdrop : a - (b + 1) = 0 := by omega
      rw [hdrop, List.drop_zero] at hrest
      rw [List.filter_cons_of_pos (by simp; omega), hrest, Nat.sub_eq_zero_of_le ha,
        List.drop_zero]
    · have hdrop : a - b = (a - (b + 1)) + 1 := by omega
      rw [List.filter_cons_of_neg (by simp; omega), ih hl, hdrop, List.drop_succ_cons]

lemma Coherent.mem_replay (h : Coherent w) (n : ℕ) :
    (∃ frame, (n, frame) ∈ w.session.replay) ↔
      w.session.seq - replayBufferSize < n ∧ n ≤ w.session.seq := by
  have hmap : w.session.replay.map Prod.fst =
      List.range' (1 + (w.session.seq - replayBufferSize) * 1)
        (w.session.seq - (w.session.seq - replayBufferSize)) := by
    rw [h.replay, List.map_drop, h.numbered, List.drop_range']
  have hmem : (∃ frame, (n, frame) ∈ w.session.replay) ↔ n ∈ w.session.replay.map Prod.fst := by
    simp
  rw [hmem, hmap, List.mem_range'_1]
  omega

lemma Coherent.oldest (h : Coherent w) :
    (w.session.replay.head?.map Prod.fst).getD (w.session.seq + 1) =
      w.session.seq - replayBufferSize + 1 := by
  rw [← List.head?_map, h.replay, List.map_drop, h.numbered, List.drop_range', List.head?_range']
  have hpos : 0 < replayBufferSize := by decide
  split_ifs with hz
  · simp only [Option.getD_none]
    omega
  · simp only [Option.getD_some]
    omega

lemma Coherent.replayFrom_iff (h : Coherent w) (a : ℕ) :
    (w.replayFrom a).2 = true ↔ a ≤ w.session.seq ∧
      ∀ n, a < n → n ≤ w.session.seq → ∃ frame, (n, frame) ∈ w.session.replay := by
  have hrecent : (∀ n, a < n → n ≤ w.session.seq → ∃ frame, (n, frame) ∈ w.session.replay) ↔
      w.session.seq ≤ a ∨ w.session.seq - replayBufferSize ≤ a := by
    constructor
    · intro hall
      by_cases hlast : w.session.seq ≤ a
      · exact Or.inl hlast
      · have := ((h.mem_replay (a + 1)).mp (hall (a + 1) (by omega) (by omega))).1
        exact Or.inr (by omega)
    · intro hcase n han hn
      exact (h.mem_replay n).mpr ⟨by omega, hn⟩
  rw [hrecent]
  unfold World.replayFrom
  simp only [h.oldest]
  split_ifs with hahead hold
  · simp only [false_iff]
    omega
  · simp only [false_iff]
    omega
  · simp only [true_iff]
    omega

lemma replayLoop_sockets (a : ℕ) (entries : List (ℕ × String)) (hk : w.session.socket = some k)
    (hopen : (w.sockets k).readyState = .opened) :
    World.replayLoop a entries w = w.onSocket k fun socket => { socket with
      sent := socket.sent ++
        (entries.filter fun e => a < e.1).map fun e => .dispatch e.1 e.2 } := by
  induction entries generalizing w with
  | nil => simp [World.replayLoop, World.onSocket]
  | cons e entries ih =>
    have hconn : w.isConnected = true := by simp [World.isConnected, hk, hopen]
    simp only [World.replayLoop, hk]
    by_cases ha : a < e.1
    · rw [if_pos ⟨ha, hconn⟩]
      have hih := ih (w := w.hand k (.dispatch e.1 e.2)) hk
        (by simpa [World.hand, World.onSocket] using hopen)
      rw [hih, List.filter_cons_of_pos (by simpa using ha)]
      simp [World.hand, World.onSocket]
    · rw [if_neg (by simp [ha]), ih hk hopen, List.filter_cons_of_neg (by simpa using ha)]

lemma replayLoop_closed (a : ℕ) (entries : List (ℕ × String)) (hconn : w.isConnected = false) :
    World.replayLoop a entries w = w := by
  induction entries with
  | nil => rfl
  | cons e entries ih =>
    simp only [World.replayLoop, hconn, Bool.false_eq_true, and_false, if_false]
    split <;> exact ih

/-- What a replay leaves of the sockets: `k` is handed the frames after `a` if it is open. -/
structure Replayed (w w' : World) (k : SocketId) (a : ℕ) : Prop where
  session : w'.session = w.session
  dispatched : w'.dispatched = w.dispatched
  others : ∀ k', k' ≠ k → w'.sockets k' = w.sockets k'
  identified : (w'.sockets k).identified = (w.sockets k).identified
  ready : (w'.sockets k).readyState = (w.sockets k).readyState
  handed : (w'.sockets k).dispatches = (w.sockets k).dispatches ∨
    (w'.sockets k).dispatches = (w.sockets k).dispatches ++ w.dispatched.drop a
  handed_open : (w.sockets k).readyState = .opened →
    (w'.sockets k).dispatches = (w.sockets k).dispatches ++ w.dispatched.drop a

lemma Coherent.replayed (h : Coherent w) (hk : w.session.socket = some k) {a : ℕ}
    (hsuccess : (w.replayFrom a).2 = true) : Replayed w (w.replayFrom a).1 k a := by
  have hloop : (w.replayFrom a).1 = World.replayLoop a w.session.replay w := by
    unfold World.replayFrom at hsuccess ⊢
    by_cases hahead : a > w.session.seq
    · simp [hahead] at hsuccess
    · rw [if_neg hahead] at hsuccess ⊢
      dsimp only at hsuccess ⊢
      split_ifs at hsuccess ⊢
      rfl
  have hrecent : w.session.seq - replayBufferSize ≤ a := by
    obtain ⟨hle, hall⟩ := (h.replayFrom_iff a).mp hsuccess
    by_cases hlast : w.session.seq ≤ a
    · omega
    · have := ((h.mem_replay (a + 1)).mp (hall (a + 1) (by omega) (by omega))).1
      omega
  have hfilter : w.session.replay.filter (fun e => a < e.1) = w.dispatched.drop a := by
    have hnum : w.session.replay.map Prod.fst =
        List.range' (w.session.seq - replayBufferSize + 1) w.session.replay.length := by
      have hstart : 1 + (w.session.seq - replayBufferSize) * 1 =
          w.session.seq - replayBufferSize + 1 := by omega
      rw [h.replay, List.map_drop, h.numbered, List.drop_range', List.length_drop, h.length, hstart]
    have hdrop : w.session.seq - replayBufferSize + (a - (w.session.seq - replayBufferSize)) = a :=
      Nat.add_sub_cancel' hrecent
    rw [filter_after hnum, h.replay, List.drop_drop, hdrop]
  rw [hloop]
  by_cases hopen : (w.sockets k).readyState = .opened
  · rw [replayLoop_sockets a _ hk hopen, hfilter]
    have hdispatches : ∀ l : List (ℕ × String), ((w.onSocket k fun socket => { socket with
        sent := socket.sent ++ l.map fun e => Sent.dispatch e.1 e.2 }).sockets k).dispatches =
        (w.sockets k).dispatches ++ l := by
      intro l
      simp [World.onSocket, Socket.dispatches, List.filterMap_map]
    exact ⟨rfl, rfl, fun k' hne => by simp [World.onSocket, hne], by simp [World.onSocket],
      by simp [World.onSocket], Or.inr (hdispatches _), fun _ => hdispatches _⟩
  · rw [replayLoop_closed a _ (by simp [World.isConnected, hk, hopen])]
    exact ⟨rfl, rfl, fun _ _ => rfl, rfl, rfl, Or.inl rfl, fun hop => absurd hop hopen⟩

/-! ### Resuming -/

def attached (w : World) (k : SocketId) : World := (w.retire k).attach k

lemma attached_spec (hk : ¬ w.session.socket = some k) :
    (attached w k).session.socket = some k ∧
      (attached w k).session.seq = w.session.seq ∧
      (attached w k).session.replay = w.session.replay ∧
      (attached w k).dispatched = w.dispatched ∧
      (∀ k', k' ≠ k → ((attached w k).sockets k').identified = (w.sockets k').identified) ∧
      ((attached w k).sockets k).identified = true ∧
      (∀ k', ((attached w k).sockets k').dispatches = (w.sockets k').dispatches) ∧
      ((attached w k).sockets k).readyState = (w.sockets k).readyState := by
  have hq := retire_quiet (w := w) (k := k)
  have hready : ((w.retire k).sockets k).readyState = (w.sockets k).readyState := by
    unfold World.retire
    cases hs : w.session.socket with
    | none => rfl
    | some stale =>
      have hne : stale ≠ k := fun he => hk (he ▸ hs)
      simp [hne, World.setReady, World.onSocket, hne.symm]
  refine ⟨rfl, hq.seq, hq.replay, hq.dispatched, fun k' hne => ?_, ?_, fun k' => ?_, ?_⟩
  · simpa [attached, World.attach, World.onSocket, hne] using hq.identified k'
  · simp [attached, World.attach, World.onSocket]
  · rw [← hq.dispatches k']
    by_cases hk' : k' = k
    · subst hk'
      simp [attached, World.attach, World.onSocket, Socket.dispatches]
    · simp [attached, World.attach, World.onSocket, hk']
  · rw [← hready]
    simp [attached, World.attach, World.onSocket]

lemma Coherent.not_rides (h : Coherent w) (hk : (w.sockets k).identified = false) :
    ¬ w.session.socket = some k := by
  intro hs
  rw [h.rides k hs] at hk
  cases hk

lemma Coherent.attached (h : Coherent w) (hk : (w.sockets k).identified = false) :
    Coherent (attached w k) := by
  obtain ⟨hsock, hseq, hreplay, hdisp, hother, hself, hsent, -⟩ := attached_spec (h.not_rides hk)
  refine h.congr hseq hreplay hdisp ?_ ?_
  · intro k' hk'
    obtain rfl := Option.some.inj (hsock.symm.trans hk')
    exact hself
  · intro k' hk'
    by_cases hne : k' = k
    · subst hne
      rw [hself] at hk'
      cases hk'
    · rw [hsent]
      exact h.unsent k' ((hother k' hne).symm.trans hk')

lemma handleResume_success (h : Coherent w) (hk : (w.sockets k).identified = false) {a : ℕ}
    (hsuccess : ((attached w k).replayFrom a).2 = true) (resumed invalid : String) :
    let w' := w.handleResume k a resumed invalid
    w'.session.socket = some k ∧ w'.session.seq = w.session.seq ∧ w'.dispatched = w.dispatched ∧
      (w'.sockets k).identified = true ∧
      ((w'.sockets k).dispatches = [] ∨ (w'.sockets k).dispatches = w.dispatched.drop a) ∧
      ((w'.sockets k).readyState = .opened → (w'.sockets k).dispatches = w.dispatched.drop a) ∧
      ((w.sockets k).readyState = .opened → (w'.sockets k).dispatches = w.dispatched.drop a) ∧
      Coherent w' := by
  obtain ⟨hsock, hseq, hreplay, hdisp, hother, hself, hsent, hready⟩ :=
    attached_spec (h.not_rides hk)
  have hc := h.attached hk
  have hr := hc.replayed hsock hsuccess
  have hnone : ((attached w k).sockets k).dispatches = [] := (hsent k).trans (h.unsent k hk)
  have hw' : w.handleResume k a resumed invalid = ((attached w k).replayFrom a).1.send resumed := by
    unfold World.handleResume
    exact if_pos hsuccess
  have hq := send_quiet (w := ((attached w k).replayFrom a).1) resumed
  have hcr : Coherent ((attached w k).replayFrom a).1 := by
    refine hc.congr (by rw [hr.session]) (by rw [hr.session]) hr.dispatched ?_ ?_
    · intro k' hk'
      rw [hr.session, hsock] at hk'
      obtain rfl := Option.some.inj hk'
      rw [hr.identified, hself]
    · intro k' hk'
      by_cases hne : k' = k
      · subst hne
        rw [hr.identified, hself] at hk'
        cases hk'
      · rw [hr.others k' hne] at hk' ⊢
        exact hc.unsent k' hk'
  simp only [hw']
  have hsocket : (((attached w k).replayFrom a).1.send resumed).session.socket = some k := by
    unfold World.send
    rw [hr.session, hsock]
    simp only
    split_ifs
    · simpa [World.hand, World.onSocket, hr.session] using hsock
    · rw [hr.session, hsock]
  refine ⟨hsocket, ?_, ?_, ?_, ?_, fun hop => ?_, fun hop => ?_, hcr.quiet hq⟩
  · rw [hq.seq, hr.session, hseq]
  · rw [hq.dispatched, hr.dispatched, hdisp]
  · rw [hq.identified, hr.identified, hself]
  · rw [hq.dispatches]
    rcases hr.handed with hd | hd
    · exact Or.inl (hd.trans hnone)
    · exact Or.inr (by rw [hd, hnone, List.nil_append, hdisp])
  · rw [hq.dispatches, hr.handed_open (hr.ready ▸ hq.ready k hop), hnone, List.nil_append, hdisp]
  · rw [hq.dispatches, hr.handed_open (hready.trans hop), hnone, List.nil_append, hdisp]

lemma handleResume_failure {a : ℕ} (hfailure : ((attached w k).replayFrom a).2 ≠ true) (resumed invalid : String) :
    Quiet (attached w k) (w.handleResume k a resumed invalid) := by
  have hstay : ((attached w k).replayFrom a).1 = attached w k := by
    unfold World.replayFrom at hfailure ⊢
    by_cases hahead : a > (attached w k).session.seq
    · rw [if_pos hahead]
    · rw [if_neg hahead] at hfailure ⊢
      dsimp only at hfailure ⊢
      split_ifs at hfailure ⊢
      · rfl
      · simp at hfailure
  have hw' : w.handleResume k a resumed invalid =
      { ((attached w k).hand k (.control invalid)).setReady k .closing with destroyed := true } := by
    unfold World.handleResume
    exact (if_neg hfailure).trans (congrArg (fun u : World =>
      { (u.hand k (.control invalid)).setReady k .closing with destroyed := true }) hstay)
  have hq := (hand_control_quiet (w := attached w k) (k := k) invalid).trans
    (setReady_quiet (k := k) .closing)
  rw [hw']
  exact ⟨hq.seq, hq.replay, hq.dispatched, hq.identified, hq.dispatches, hq.ready, hq.rides⟩

/-! ### Every step -/

lemma dispatch_coherent (h : Coherent w) (event : String) (data : Option String) :
    Coherent (w.dispatch quote event data) := by
  rw [dispatch_eq]
  have he := h.enqueued (encodeFrame quote event (w.session.seq + 1) data)
  rcases deliver_cases (w := enqueued w (encodeFrame quote event (w.session.seq + 1) data))
    (encodeFrame quote event (w.session.seq + 1) data) with ⟨-, hd⟩ | ⟨k, hk, -, hd | hd⟩
  · rw [hd]
    exact he
  · rw [hd]
    exact he.quiet close_quiet
  · rw [hd]
    refine he.congr rfl rfl rfl (fun k' hk' => ?_) fun k' hk' => ?_
    · obtain rfl := Option.some.inj (hk.symm.trans hk')
      simpa [World.hand, World.onSocket] using he.rides k hk
    · by_cases hne : k' = k
      · subst hne
        have hid := he.rides k' hk
        simp [World.hand, World.onSocket, hid] at hk'
      · have hsame : ((World.hand (enqueued w (encodeFrame quote event (w.session.seq + 1) data)) k
            (.dispatch (w.session.seq + 1) (encodeFrame quote event (w.session.seq + 1) data))
            ).sockets k') = w.sockets k' := by
          simp [World.hand, World.onSocket, hne, enqueued]
        exact he.unsent k' (by simpa [World.hand, World.onSocket, hne] using hk') ▸
          congrArg Socket.dispatches hsame

lemma resume_coherent (h : Coherent w) (hk : (w.sockets k).identified = false) (a : ℕ)
    (resumed invalid : String) : Coherent (w.handleResume k a resumed invalid) := by
  by_cases hsuccess : ((attached w k).replayFrom a).2 = true
  · obtain ⟨-, -, -, -, -, -, -, hc⟩ := handleResume_success h hk hsuccess resumed invalid
    exact hc
  · exact (h.attached hk).quiet (handleResume_failure hsuccess resumed invalid)

lemma step_coherent (h : Coherent w) (e : Event) : Coherent (w.step quote e) := by
  unfold World.step
  split_ifs with hd
  · exact h
  · cases e with
    | dispatch event data => exact dispatch_coherent h event data
    | fanOut event data =>
      simp only [fanOut_eq_dispatch]
      exact dispatch_coherent h event data
    | send frame => exact h.quiet (send_quiet frame)
    | ready k state => exact h.quiet (setReady_quiet state)
    | backlog k bytes =>
      exact h.quiet (Quiet.onSocket (fun _ => rfl) (fun _ => rfl) fun _ hx => hx)
    | close => exact h.quiet close_quiet
    | park now => exact h.quiet (park_quiet now)
    | resume k a resumed invalid =>
      simp only
      split_ifs with hk
      · exact h
      · exact resume_coherent h (by simpa using hk) a resumed invalid
    | destroy => exact ⟨h.numbered, h.replay, h.rides, h.unsent⟩

lemma run_coherent (h : Coherent w) (events : List Event) : Coherent (w.run quote events) := by
  induction events generalizing w with
  | nil => exact h
  | cons e events ih => exact ih (step_coherent h e)

/-! ### What a resumed client goes on to receive -/

/-- Socket `k`, resumed from `a`, was handed `first` and then what followed, as far as it was
listening; while it listens it has been handed everything. -/
structure Following (w : World) (k : SocketId) (a : ℕ) (first : List (ℕ × String)) : Prop where
  identified : (w.sockets k).identified = true
  behind : a ≤ w.dispatched.length
  first : first <+: (w.sockets k).dispatches
  received : (w.sockets k).dispatches <+: w.dispatched.drop a
  live : w.session.socket = some k → (w.sockets k).readyState = .opened →
    (w.sockets k).dispatches = w.dispatched.drop a

variable {a : ℕ} {first : List (ℕ × String)}

lemma Following.quiet (h : Following w k a first) (hq : Quiet w w') :
    Following w' k a first where
  identified := (hq.identified k).trans h.identified
  behind := by rw [hq.dispatched]; exact h.behind
  first := by rw [hq.dispatches]; exact h.first
  received := by rw [hq.dispatches, hq.dispatched]; exact h.received
  live hk ho := by
    rw [hq.dispatches, hq.dispatched]
    exact h.live (hq.rides k hk) (hq.ready k ho)

lemma Following.dispatch (h : Following w k a first) (event : String) (data : Option String) :
    Following (w.dispatch quote event data) k a first := by
  rw [dispatch_eq]
  generalize encodeFrame quote event (w.session.seq + 1) data = frame
  -- the frame joins the record, and nobody was handed it yet
  have hgrow : (enqueued w frame).dispatched.drop a =
      w.dispatched.drop a ++ [(w.session.seq + 1, frame)] :=
    List.drop_append_of_le_length h.behind
  have hbehind : a ≤ (enqueued w frame).dispatched.length := by
    simp only [enqueued, List.length_append]
    exact Nat.le_add_right_of_le h.behind
  have hreceived : (w.sockets k).dispatches <+: (enqueued w frame).dispatched.drop a := by
    rw [hgrow]
    exact h.received.trans (List.prefix_append _ _)
  rcases deliver_cases (w := enqueued w frame) frame with ⟨hconn, hd⟩ | ⟨k₀, hk₀, hopen, hd | hd⟩
  · rw [hd]
    refine ⟨h.identified, hbehind, h.first, hreceived, fun hk ho => ?_⟩
    simp [World.isConnected, hk, ho] at hconn
  · have hq := close_quiet (w := enqueued w frame)
    rw [hd]
    refine ⟨(hq.identified k).trans h.identified, by rw [hq.dispatched]; exact hbehind,
      by rw [hq.dispatches]; exact h.first, by rw [hq.dispatches, hq.dispatched]; exact hreceived,
      fun hk _ => ?_⟩
    simp [World.close, hk₀] at hk
  · rw [hd]
    by_cases hk : k = k₀
    · subst hk
      have hlive : (w.sockets k).dispatches = w.dispatched.drop a := h.live hk₀ hopen
      have hsent : (((enqueued w frame).hand k (.dispatch (w.session.seq + 1) frame)).sockets k
          ).dispatches = (enqueued w frame).dispatched.drop a := by
        rw [hgrow, ← hlive]
        simp [World.hand, World.onSocket, Socket.dispatches, enqueued]
      have hid : (((enqueued w frame).hand k (.dispatch (w.session.seq + 1) frame)).sockets k
          ).identified = true := by
        simpa [World.hand, World.onSocket, enqueued] using h.identified
      refine ⟨hid, hbehind, ?_, ?_, ?_⟩
      · exact hsent ▸ hgrow ▸ hlive ▸ h.first.trans (List.prefix_append _ _)
      · exact hsent ▸ List.prefix_refl _
      · exact fun _ _ => hsent
    · have hsame : ((enqueued w frame).hand k₀ (.dispatch (w.session.seq + 1) frame)).sockets k =
          w.sockets k := by
        simp [World.hand, World.onSocket, hk, enqueued]
      refine ⟨hsame ▸ h.identified, hbehind, hsame ▸ h.first, hsame ▸ hreceived, fun hk' _ => ?_⟩
      exact absurd (Option.some.inj (hk₀.symm.trans hk')).symm hk

lemma Following.resume (h : Following w k a first) (hc : Coherent w) {k' : SocketId}
    (hk' : (w.sockets k').identified = false) (afterSeq : ℕ) (resumed invalid : String) :
    Following (w.handleResume k' afterSeq resumed invalid) k a first := by
  have hne : k ≠ k' := by
    rintro rfl
    rw [h.identified] at hk'
    cases hk'
  obtain ⟨hsock, hseq, hreplay, hdisp, hother, hself, hsent, -⟩ :=
    attached_spec (hc.not_rides hk')
  have hattached : Following (Gateway.attached w k') k a first := by
    refine ⟨(hother k hne).trans h.identified, hdisp ▸ h.behind, hsent k ▸ h.first, ?_,
      fun hk _ => absurd (Option.some.inj (hsock.symm.trans hk)) (Ne.symm hne)⟩
    rw [hsent k, hdisp]
    exact h.received
  by_cases hsuccess : ((Gateway.attached w k').replayFrom afterSeq).2 = true
  · have hr := (hc.attached hk').replayed hsock hsuccess
    have hreplayed : Following ((Gateway.attached w k').replayFrom afterSeq).1 k a first := by
      refine ⟨?_, hr.dispatched ▸ hattached.behind, ?_, ?_, fun hk _ => ?_⟩
      · rw [hr.others k hne]
        exact hattached.identified
      · rw [hr.others k hne]
        exact hattached.first
      · rw [hr.others k hne, hr.dispatched]
        exact hattached.received
      · rw [hr.session, hsock] at hk
        exact absurd (Option.some.inj hk) (Ne.symm hne)
    have hw' : w.handleResume k' afterSeq resumed invalid =
        ((Gateway.attached w k').replayFrom afterSeq).1.send resumed := by
      unfold World.handleResume
      exact if_pos hsuccess
    rw [hw']
    exact hreplayed.quiet (send_quiet resumed)
  · exact hattached.quiet (handleResume_failure hsuccess resumed invalid)

lemma Following.step (h : Following w k a first) (hc : Coherent w) (e : Event) :
    Following (w.step quote e) k a first := by
  unfold World.step
  split_ifs with hd
  · exact h
  · cases e with
    | dispatch event data => exact h.dispatch event data
    | fanOut event data =>
      simp only [fanOut_eq_dispatch]
      exact h.dispatch event data
    | send frame => exact h.quiet (send_quiet frame)
    | ready k state => exact h.quiet (setReady_quiet state)
    | backlog k bytes =>
      exact h.quiet (Quiet.onSocket (fun _ => rfl) (fun _ => rfl) fun _ hx => hx)
    | close => exact h.quiet close_quiet
    | park now => exact h.quiet (park_quiet now)
    | resume k' afterSeq resumed invalid =>
      simp only
      split_ifs with hk
      · exact h
      · exact h.resume hc (by simpa using hk) afterSeq resumed invalid
    | destroy => exact ⟨h.identified, h.behind, h.first, h.received, h.live⟩

lemma Following.run (h : Following w k a first) (hc : Coherent w) (events : List Event) :
    Following (w.run quote events) k a first := by
  induction events generalizing w with
  | nil => exact h
  | cons e events ih => exact ih (h.step hc e) (step_coherent hc e)

/-- Resume is exact. After any run, a connection's `a` is replayed if and only if it is not ahead
and every later frame is still buffered; then an open connection is handed the frames after `a`,
and from there on the frames that follow, in order and without a gap, for as long as it listens. -/
theorem resume_exact (quote : String → String) (hs : Started w) (events : List Event)
    (k : SocketId) (a : ℕ) (resumed invalid : String) :
    let before := w.run quote events
    (before.sockets k).identified = false → before.destroyed = false →
    before.dispatched.map Prod.fst = List.range' 1 before.session.seq ∧
    (((attached before k).replayFrom a).2 = true ↔ a ≤ before.session.seq ∧
      ∀ n, a < n → n ≤ before.session.seq → ∃ frame, (n, frame) ∈ before.session.replay) ∧
    (((attached before k).replayFrom a).2 = true → (before.sockets k).readyState = .opened →
      let after := before.step quote (.resume k a resumed invalid)
      (after.sockets k).dispatches = before.dispatched.drop a ∧
      ∀ later : List Event,
        before.dispatched.drop a <+: ((after.run quote later).sockets k).dispatches ∧
        ((after.run quote later).sockets k).dispatches <+: (after.run quote later).dispatched.drop a
        ∧ ((after.run quote later).session.socket = some k →
          ((after.run quote later).sockets k).readyState = .opened →
          ((after.run quote later).sockets k).dispatches =
            (after.run quote later).dispatched.drop a)) := by
  intro before hk hlive
  have hc : Coherent before := run_coherent hs.coherent events
  obtain ⟨-, hseq, hreplay, -⟩ := attached_spec (hc.not_rides hk)
  have hiff := (hc.attached hk).replayFrom_iff a
  rw [hseq, hreplay] at hiff
  refine ⟨hc.numbered, hiff, fun hsuccess hopen => ?_⟩
  have hafter : before.step quote (.resume k a resumed invalid) =
      before.handleResume k a resumed invalid := by
    simp [World.step, hlive, hk]
  obtain ⟨hsock, -, hdisp, hid, -, hopened, hhanded, hcoh⟩ :=
    handleResume_success hc hk hsuccess resumed invalid
  simp only [hafter]
  have hgot := hhanded hopen
  have hbehind : a ≤ before.dispatched.length := hc.length ▸ (hiff.mp hsuccess).1
  have hfollow : Following (before.handleResume k a resumed invalid) k a
      (before.dispatched.drop a) :=
    ⟨hid, hdisp ▸ hbehind, hgot ▸ List.prefix_refl _, by rw [hgot, hdisp],
      fun _ _ => by rw [hgot, hdisp]⟩
  refine ⟨hgot, fun later => ?_⟩
  have hrun : Following ((before.handleResume k a resumed invalid).run quote later) k a
      (before.dispatched.drop a) := hfollow.run hcoh later
  exact ⟨hrun.first, hrun.received, hrun.live⟩

namespace Sample

def world : World where
  session := ⟨some 0, 0, [], none⟩
  sockets k := ⟨.opened, 0, k == 0, []⟩
  destroyed := false
  dispatched := []

lemma world_started : Started world where
  seq := rfl
  replay := rfl
  dispatched := rfl
  unsent _ := rfl
  rides k hk := by
    obtain rfl : 0 = k := Option.some.inj hk
    rfl

def quoted (text : String) : String := "\"" ++ text ++ "\""

def tunnel : List Event :=
  [.dispatch "typing" (some "1"), .fanOut "message.create" (some "2"), .ready 0 .closed, .park 5]

end Sample

/-- A client that processed the first of two frames gets the second, and then the third. -/
theorem resume_exact_tunnel :
    ((Sample.world.run Sample.quoted (Sample.tunnel ++ [.resume 1 1 "" ""])).sockets 1).dispatches =
      (Sample.world.run Sample.quoted Sample.tunnel).dispatched.drop 1 := by
  obtain ⟨-, -, hresume⟩ := resume_exact Sample.quoted Sample.world_started
    Sample.tunnel 1 1 "" "" rfl rfl
  exact (hresume (by decide) rfl).1

/-- A number that was never dispatched is refused, although no frame after it is missing. -/
theorem ahead_is_refused :
    ((attached Sample.world 1).replayFrom 1).2 = false ∧
      ∀ n, 1 < n → n ≤ Sample.world.session.seq →
        ∃ frame, (n, frame) ∈ Sample.world.session.replay := by
  refine ⟨by decide, fun n hlow hhigh => ?_⟩
  have hzero : Sample.world.session.seq = 0 := rfl
  omega

end Yappy.Gateway
