import Yappy.Runs

/-!
# The connection of a bot

`connectGateway` of `packages/bot-sdk/src/gateway.ts`. The runtime opens and kills sockets when it likes, and
delivers the `error` and the `close` of a dead one when it likes, each at most once. The handlers of the caller
run inside the steps, and may call `close`.
-/
namespace Yappy.BotConnection

inductive ReadyState
  | connecting | opened | closing | closed
  deriving DecidableEq

structure Socket where
  readyState : ReadyState
  /-- Its `error`, and its `close`, has been delivered. -/
  errored : Bool
  finished : Bool

def Socket.Live (ws : Socket) : Prop := ws.readyState = .connecting ∨ ws.readyState = .opened

instance : DecidablePred Socket.Live := fun _ => inferInstanceAs (Decidable (_ ∨ _))

def fatalClose : ℕ := 4010

/-- The variables of one call of `connectGateway`, with the sockets and the timers it has made. -/
structure State where
  sockets : ℕ → Socket
  created : ℕ
  socket : Option ℕ
  heartbeat : Bool
  retryTimer : Option ℕ
  armed : List ℕ
  timers : ℕ
  attempt : ℕ
  closed : Bool
  identified : Bool
  settled : Bool

def start : State where
  sockets _ := ⟨.closed, true, true⟩
  created := 0
  socket := none
  heartbeat := false
  retryTimer := none
  armed := []
  timers := 0
  attempt := 0
  closed := false
  identified := false
  settled := false

section Handlers
variable (s : State)

def setSocket (w : ℕ) (ws : Socket) : State := { s with sockets := Function.update s.sockets w ws }

/-- `ws.close()`. -/
def closeSocket (w : ℕ) : State :=
  if (s.sockets w).Live then setSocket s w { s.sockets w with readyState := .closing } else s

/-- `clearTimeout(retryTimer)`. -/
def clearRetry : State :=
  match s.retryTimer with
  | some t => { s with armed := s.armed.erase t }
  | none => s

/-- The `close` of the connection. -/
def close : State :=
  let s := clearRetry { s with closed := true, heartbeat := false }
  let s := match s.socket with
    | some w => closeSocket s w
    | none => s
  { s with socket := none }

/-- The failure is settled, and the caller told of it; `closes`: its `onDisconnect` calls `close`. -/
def settle (closes : Bool) : State :=
  let s := { s with settled := true, heartbeat := false, identified := false, socket := none }
  if closes then close s else s

/-- `retryTimer = setTimeout(open, …)`. -/
def arm : State :=
  { s with
    attempt := s.attempt + 1
    retryTimer := some s.timers
    armed := s.timers :: s.armed
    timers := s.timers + 1 }

def scheduleReconnect (code : ℕ) (closes : Bool) : State :=
  if s.settled then s
  else
    let willRetry := !s.closed && code < fatalClose
    if willRetry then arm (settle s closes) else settle s closes

structure Opening where
  /-- `new WebSocket` does not throw. -/
  constructs : Bool
  /-- `onError`, and `onDisconnect`, call `close`. -/
  onErrorCloses : Bool
  onDisconnectCloses : Bool

/-- `open`. -/
def opens (o : Opening) : State :=
  if s.closed then s
  else
    let s := { s with retryTimer := none, settled := false }
    if o.constructs then
      { s with
        sockets := Function.update s.sockets s.created ⟨.connecting, false, false⟩
        created := s.created + 1
        socket := some s.created }
    else scheduleReconnect (if o.onErrorCloses then close s else s) 1006 o.onDisconnectCloses

inductive Frame
  | hello | ready | dispatch | invalidSession | reconnect

/-- The listener for `message`. -/
def onMessage (w : ℕ) : Frame → State
  | .hello => { s with heartbeat := true }
  | .ready => { s with identified := true, attempt := 0 }
  | .dispatch => s
  | .invalidSession | .reconnect => closeSocket s w

end Handlers

def connectGateway (o : Opening) : State := opens start o

inductive Event
  /-- The socket `w` opens, or dies. -/
  | opened (w : ℕ)
  | dies (w : ℕ)
  | message (w : ℕ) (frame : Frame)
  | error (w : ℕ) (onErrorCloses onDisconnectCloses : Bool)
  | close (w : ℕ) (code : ℕ) (onDisconnectCloses : Bool)
  | fires (timer : ℕ) (o : Opening)
  /-- The caller calls `close`. -/
  | closed

inductive Step : State → Event → State → Prop
  | opened {s : State} {w : ℕ} (h : (s.sockets w).readyState = .connecting) :
      Step s (.opened w) (setSocket s w { s.sockets w with readyState := .opened })
  | dies {s : State} {w : ℕ} (h : (s.sockets w).readyState ≠ .closed) :
      Step s (.dies w) (setSocket s w { s.sockets w with readyState := .closed })
  | message {s : State} {w : ℕ} (h : (s.sockets w).readyState = .opened) (frame : Frame) :
      Step s (.message w frame) (onMessage s w frame)
  | error {s : State} {w : ℕ} (h : (s.sockets w).readyState = .closed) (hnew : (s.sockets w).errored = false)
      (onErrorCloses onDisconnectCloses : Bool) :
      Step s (.error w onErrorCloses onDisconnectCloses)
        (let s := setSocket s w { s.sockets w with errored := true }
         scheduleReconnect (if onErrorCloses then close s else s) 1006 onDisconnectCloses)
  | close {s : State} {w : ℕ} (h : (s.sockets w).readyState = .closed) (hnew : (s.sockets w).finished = false)
      (code : ℕ) (onDisconnectCloses : Bool) :
      Step s (.close w code onDisconnectCloses)
        (scheduleReconnect (setSocket s w { s.sockets w with finished := true }) (if code = 0 then 1006 else code)
          onDisconnectCloses)
  | fires {s : State} {timer : ℕ} (h : timer ∈ s.armed) (o : Opening) :
      Step s (.fires timer o) (opens { s with armed := s.armed.erase timer } o)
  | closed {s : State} : Step s .closed (close s)

/-! ## What holds -/

def Single (s : State) : Prop := ∀ w w', (s.sockets w).Live → (s.sockets w').Live → w = w'

/-- The events of a socket that has been replaced come in time: not after its successor has been opened, unless
nothing is armed on their account or the connection is closed. -/
def InTime (s : State) : Event → Prop
  | .error w onErrorCloses onDisconnectCloses =>
    w + 1 = s.created ∨ s.settled ∨ s.closed ∨ onErrorCloses ∨ onDisconnectCloses
  | .close w code onDisconnectCloses =>
    w + 1 = s.created ∨ s.settled ∨ s.closed ∨ fatalClose ≤ code ∨ onDisconnectCloses
  | _ => True

variable {s s' s'' : State} {w code : ℕ} {ws : Socket} {closes : Bool} {o : Opening}

structure Calms (s s' : State) : Prop where
  created : s'.created = s.created
  closed : s.closed → s'.closed
  live : ∀ w, (s'.sockets w).Live → (s.sockets w).Live

lemma Calms.refl (s : State) : Calms s s := ⟨rfl, fun h => h, fun _ h => h⟩

lemma Calms.trans (h : Calms s s') (h' : Calms s' s'') : Calms s s'' :=
  ⟨h'.created.trans h.created, fun hc => h'.closed (h.closed hc), fun w hw => h.live w (h'.live w hw)⟩

lemma calms_setSocket (h : ws.Live → (s.sockets w).Live) : Calms s (setSocket s w ws) where
  created := rfl
  closed h := h
  live w' hw' := by
    change (Function.update s.sockets w ws w').Live at hw'
    by_cases he : w' = w
    · subst he
      rw [Function.update_self] at hw'
      exact h hw'
    · rwa [Function.update_of_ne he] at hw'

lemma calms_closeSocket : Calms s (closeSocket s w) := by
  unfold closeSocket
  split_ifs with h
  · exact calms_setSocket fun _ => h
  · exact .refl s

lemma closeSocket_armed : (closeSocket s w).armed = s.armed := by
  unfold closeSocket
  split_ifs <;> rfl

lemma closeSocket_settled : (closeSocket s w).settled = s.settled := by
  unfold closeSocket
  split_ifs <;> rfl

lemma closeSocket_retryTimer : (closeSocket s w).retryTimer = s.retryTimer := by
  unfold closeSocket
  split_ifs <;> rfl

lemma closeSocket_closed : (closeSocket s w).closed = s.closed := by
  unfold closeSocket
  split_ifs <;> rfl

/-- At most one timer is armed, the one `retryTimer` holds, and only while a failure is settled. -/
def Timed (s : State) : Prop := s.armed = [] ∨ ∃ t, s.armed = [t] ∧ s.retryTimer = some t ∧ s.settled

lemma clearRetry_armed (h : Timed s) : (clearRetry s).armed = [] := by
  unfold clearRetry
  rcases h with h | ⟨t, ht, hr, -⟩
  · cases s.retryTimer with
    | none => exact h
    | some t =>
      change s.armed.erase t = []
      rw [h]
      rfl
  · rw [hr]
    change s.armed.erase t = []
    rw [ht]
    exact List.erase_cons_head ..

lemma calms_clearRetry : Calms s (clearRetry s) := by
  unfold clearRetry
  split <;> exact ⟨rfl, fun h => h, fun _ h => h⟩

lemma clearRetry_closed : (clearRetry s).closed = s.closed := by
  unfold clearRetry
  split <;> rfl

structure Ends (s s' : State) : Prop extends Calms s s' where
  ended : s'.closed
  armed : s'.armed = []

lemma ends_close (h : Timed s) : Ends s (close s) := by
  have hcleared : (clearRetry { s with closed := true, heartbeat := false }).armed = [] := clearRetry_armed h
  have hclosed : (clearRetry { s with closed := true, heartbeat := false }).closed = true := clearRetry_closed
  have hmarked : Calms s { s with closed := true, heartbeat := false } := ⟨rfl, fun _ => rfl, fun _ h => h⟩
  have hcalms : Calms s (clearRetry { s with closed := true, heartbeat := false }) := hmarked.trans calms_clearRetry
  unfold close
  generalize clearRetry { s with closed := true, heartbeat := false } = s₁ at hcleared hclosed hcalms
  dsimp only
  cases s₁.socket with
  | none => exact ⟨⟨hcalms.created, hcalms.closed, hcalms.live⟩, hclosed, hcleared⟩
  | some w =>
    have hw := hcalms.trans (calms_closeSocket (w := w))
    exact ⟨⟨hw.created, hw.closed, hw.live⟩, closeSocket_closed.trans hclosed, closeSocket_armed.trans hcleared⟩

lemma Timed.unsettled (h : Timed s) (hs : s.settled = false) : s.armed = [] :=
  h.resolve_right fun ⟨_, _, _, hsettled⟩ => by rw [hs] at hsettled; cases hsettled

lemma settle_eq : settle s closes =
    if closes then close { s with settled := true, heartbeat := false, identified := false, socket := none }
    else { s with settled := true, heartbeat := false, identified := false, socket := none } := rfl

lemma close_settled : (close s).settled = s.settled := by
  have hcleared : (clearRetry { s with closed := true, heartbeat := false }).settled = s.settled := by
    unfold clearRetry
    split <;> rfl
  unfold close
  generalize clearRetry { s with closed := true, heartbeat := false } = s₁ at hcleared
  dsimp only
  cases s₁.socket with
  | none => exact hcleared
  | some w => exact closeSocket_settled.trans hcleared

structure Settles (closes : Bool) (s s' : State) : Prop extends Calms s s' where
  settled : s'.settled
  armed : s'.armed = []
  ended : closes → s'.closed

lemma settles_settle (h : s.armed = []) : Settles closes s (settle s closes) := by
  rw [settle_eq]
  have hmarked : Calms s { s with settled := true, heartbeat := false, identified := false, socket := none } :=
    ⟨rfl, fun h => h, fun _ h => h⟩
  split_ifs with hcloses
  · have hends := ends_close (s := { s with settled := true, heartbeat := false, identified := false, socket := none })
      (Or.inl h)
    exact ⟨hmarked.trans hends.toCalms, close_settled, hends.armed, fun _ => hends.ended⟩
  · exact ⟨hmarked, rfl, h, fun h => absurd h hcloses⟩

lemma calms_arm : Calms s (arm s) := ⟨rfl, fun h => h, fun _ h => h⟩

lemma schedule_cases (h : Timed s) : (s.settled ∧ scheduleReconnect s code closes = s) ∨
    ∃ s₁, Settles closes s s₁ ∧ s.settled = false ∧
      ((scheduleReconnect s code closes = s₁ ∧ (s.closed ∨ fatalClose ≤ code)) ∨
        (scheduleReconnect s code closes = arm s₁ ∧ s.closed = false ∧ code < fatalClose)) := by
  unfold scheduleReconnect
  cases hsettled : s.settled with
  | true => exact Or.inl ⟨rfl, if_pos rfl⟩
  | false =>
    refine Or.inr ⟨settle s closes, settles_settle (h.unsettled hsettled), rfl, ?_⟩
    rw [if_neg Bool.false_ne_true]
    dsimp only
    by_cases hretry : (!s.closed && decide (code < fatalClose)) = true
    · rw [if_pos hretry]
      rw [Bool.and_eq_true, Bool.not_eq_true', decide_eq_true_iff] at hretry
      exact Or.inr ⟨rfl, hretry⟩
    · rw [if_neg hretry]
      refine Or.inl ⟨rfl, ?_⟩
      rw [Bool.and_eq_true, Bool.not_eq_true', decide_eq_true_iff, not_and_or, Bool.not_eq_false, not_lt] at hretry
      exact hretry

lemma calms_schedule (h : Timed s) : Calms s (scheduleReconnect s code closes) := by
  rcases schedule_cases h with ⟨-, he⟩ | ⟨s₁, hs₁, -, ⟨he, -⟩ | ⟨he, -⟩⟩ <;> rw [he]
  · exact .refl s
  · exact hs₁.toCalms
  · exact hs₁.toCalms.trans calms_arm

lemma timed_schedule (h : Timed s) : Timed (scheduleReconnect s code closes) := by
  rcases schedule_cases h with ⟨-, he⟩ | ⟨s₁, hs₁, -, ⟨he, -⟩ | ⟨he, -⟩⟩ <;> rw [he]
  · exact h
  · exact Or.inl hs₁.armed
  · exact Or.inr ⟨s₁.timers, by rw [arm, hs₁.armed], rfl, hs₁.settled⟩

/-! ## Timers -/

lemma timed_setSocket (h : Timed s) : Timed (setSocket s w ws) := h

lemma armed_erase {timer : ℕ} (h : Timed s) (ht : timer ∈ s.armed) : s.armed.erase timer = [] := by
  obtain ⟨t, harmed, -, -⟩ := h.resolve_left (List.ne_nil_of_mem ht)
  rw [harmed] at ht ⊢
  rw [List.mem_singleton.mp ht]
  exact List.erase_cons_head ..

lemma timed_opens (h : s.armed = []) : Timed (opens s o) := by
  unfold opens
  split_ifs
  · exact Or.inl h
  · exact Or.inl h
  · have hends := ends_close (s := { s with retryTimer := none, settled := false }) (Or.inl h)
    exact timed_schedule (Or.inl hends.armed)
  · exact timed_schedule (Or.inl h)

lemma closeSocket_timed (h : Timed s) : Timed (closeSocket s w) := by
  unfold Timed
  rwa [closeSocket_armed, closeSocket_retryTimer, closeSocket_settled]

lemma Step.timed {e : Event} (hstep : Step s e s') (h : Timed s) : Timed s' := by
  cases hstep with
  | opened => exact h
  | dies => exact h
  | message _ frame =>
    cases frame with
    | hello => exact h
    | ready => exact h
    | dispatch => exact h
    | invalidSession => exact closeSocket_timed h
    | reconnect => exact closeSocket_timed h
  | error _ _ onErrorCloses onDisconnectCloses =>
    refine timed_schedule ?_
    split_ifs
    · exact Or.inl (ends_close (timed_setSocket h)).armed
    · exact timed_setSocket h
  | close => exact timed_schedule (timed_setSocket h)
  | fires ht o => exact timed_opens (armed_erase h ht)
  | closed => exact Or.inl (ends_close h).armed

lemma Timed.length (h : Timed s) : s.armed.length ≤ 1 := by
  rcases h with h | ⟨t, h, -⟩ <;> rw [h]
  · exact Nat.zero_le _
  · exact le_rfl

/-! ## Sockets -/

lemma Step.calms {e : Event} (hstep : Step s e s') (h : Timed s) (he : ∀ timer o, e ≠ .fires timer o) :
    Calms s s' := by
  cases hstep with
  | opened hw => exact calms_setSocket fun _ => Or.inl hw
  | dies => exact calms_setSocket fun hl => hl.elim nofun nofun
  | message _ frame =>
    cases frame with
    | hello => exact ⟨rfl, fun h => h, fun _ h => h⟩
    | ready => exact ⟨rfl, fun h => h, fun _ h => h⟩
    | dispatch => exact .refl s
    | invalidSession => exact calms_closeSocket
    | reconnect => exact calms_closeSocket
  | @error w hw _ onErrorCloses onDisconnectCloses =>
    have hset : Calms s (setSocket s w { s.sockets w with errored := true }) := calms_setSocket fun hl => hl
    dsimp only
    split_ifs
    · have hends := ends_close (s := setSocket s w { s.sockets w with errored := true }) (timed_setSocket h)
      exact (hset.trans hends.toCalms).trans (calms_schedule (Or.inl hends.armed))
    · exact hset.trans (calms_schedule (timed_setSocket h))
  | @close w =>
    have hset : Calms s (setSocket s w { s.sockets w with finished := true }) := calms_setSocket fun hl => hl
    exact hset.trans (calms_schedule (timed_setSocket h))
  | fires _ o => exact absurd rfl (he _ o)
  | closed => exact (ends_close h).toCalms

lemma Step.after_close {e : Event} (hstep : Step s e s') (h : Timed s) (hclosed : s.closed) :
    s'.created = s.created ∧ s'.closed := by
  by_cases he : ∃ timer o, e = .fires timer o
  · obtain ⟨timer, o, rfl⟩ := he
    cases hstep with
    | fires =>
      unfold opens
      rw [if_pos hclosed]
      exact ⟨rfl, hclosed⟩
  · have hcalms := hstep.calms h fun timer o ht => he ⟨timer, o, ht⟩
    exact ⟨hcalms.created, hcalms.closed hclosed⟩

structure Alone (s : State) : Prop where
  newest : ∀ w, (s.sockets w).Live → w + 1 = s.created
  waiting : s.armed ≠ [] → s.closed ∨ ∀ w, ¬ (s.sockets w).Live

lemma Alone.calms (h : Alone s) (hc : Calms s s') (harmed : s'.armed ≠ [] → s.armed ≠ []) : Alone s' where
  newest w hw := (h.newest w (hc.live w hw)).trans hc.created.symm
  waiting ha := (h.waiting (harmed ha)).imp hc.closed fun hnone w hw => hnone w (hc.live w hw)

lemma Alone.schedule (h : Alone s) (ht : Timed s)
    (hfails : s.settled ∨ s.closed ∨ fatalClose ≤ code ∨ closes ∨ ∀ w, ¬ (s.sockets w).Live) :
    Alone (scheduleReconnect s code closes) := by
  rcases schedule_cases ht with ⟨-, he⟩ | ⟨s₁, hs₁, hsettled, ⟨he, -⟩ | ⟨he, hclosed, hcode⟩⟩ <;> rw [he]
  · exact h
  · exact h.calms hs₁.toCalms fun ha => absurd hs₁.armed ha
  · have hcalms := hs₁.toCalms.trans calms_arm
    refine ⟨fun w hw => (h.newest w (hcalms.live w hw)).trans hcalms.created.symm, fun _ => ?_⟩
    rcases hfails with hf | hf | hf | hf | hf
    · rw [hsettled] at hf
      cases hf
    · rw [hclosed] at hf
      cases hf
    · exact absurd hf hcode.not_ge
    · exact Or.inl (hs₁.ended hf)
    · exact Or.inr fun w hw => hf w (hcalms.live w hw)

lemma Alone.opens (h : Alone s) (ha : s.armed = []) (hnone : s.closed ∨ ∀ w, ¬ (s.sockets w).Live) :
    Alone (opens s o) := by
  unfold BotConnection.opens
  split_ifs with hclosed hconstructs
  · exact h
  · have hnone := hnone.resolve_left hclosed
    constructor
    · intro w hw
      change (Function.update s.sockets s.created ⟨.connecting, false, false⟩ w).Live at hw
      by_cases he : w = s.created
      · rw [he]
      · rw [Function.update_of_ne he] at hw
        exact absurd hw (hnone w)
    · exact fun hne => absurd ha hne
  · have hends := ends_close (s := { s with retryTimer := none, settled := false }) (Or.inl ha)
    have halone : Alone (close { s with retryTimer := none, settled := false }) :=
      h.calms ⟨hends.created, hends.closed, hends.live⟩ fun hne => absurd hends.armed hne
    exact halone.schedule (Or.inl hends.armed) (Or.inr (Or.inl hends.ended))
  · have halone : Alone { s with retryTimer := none, settled := false } := h.calms ⟨rfl, fun h => h, fun _ h => h⟩ fun h => h
    exact halone.schedule (Or.inl ha)
      (Or.inr (Or.inr (Or.inr (Or.inr (hnone.resolve_left hclosed)))))

lemma alone_start : Alone start where
  newest _ hw := hw.elim nofun nofun
  waiting h := absurd rfl h

lemma Alone.dead (h : Alone s) (hw : w + 1 = s.created) (hdead : (s.sockets w).readyState = .closed) :
    ∀ w', ¬ (s.sockets w').Live := by
  intro w' hl
  have he : w' = w := Nat.succ.inj ((h.newest w' hl).trans hw.symm)
  rw [he, Socket.Live, hdead] at hl
  exact hl.elim nofun nofun

lemma Step.alone {e : Event} (hstep : Step s e s') (ht : Timed s) (h : Alone s) (hok : InTime s e) : Alone s' := by
  cases hstep with
  | @error w hw _ onErrorCloses onDisconnectCloses =>
    have hset : Calms s (setSocket s w { s.sockets w with errored := true }) := calms_setSocket fun hl => hl
    have hdead : w + 1 = s.created → ∀ w', ¬ ((setSocket s w { s.sockets w with errored := true }).sockets w').Live :=
      fun hnew w' hl => h.dead hnew hw w' (hset.live w' hl)
    have hone : Alone (setSocket s w { s.sockets w with errored := true }) := h.calms hset fun h => h
    dsimp only
    split_ifs with hcloses
    · have hends := ends_close (s := setSocket s w { s.sockets w with errored := true }) (timed_setSocket ht)
      exact (hone.calms hends.toCalms fun hne => absurd hends.armed hne).schedule (Or.inl hends.armed)
        (Or.inr (Or.inl hends.ended))
    · refine hone.schedule (timed_setSocket ht) ?_
      rcases hok with hok | hok | hok | hok | hok
      · exact Or.inr (Or.inr (Or.inr (Or.inr (hdead hok))))
      · exact Or.inl hok
      · exact Or.inr (Or.inl hok)
      · exact absurd hok hcloses
      · exact Or.inr (Or.inr (Or.inr (Or.inl hok)))
  | @close w hw _ code onDisconnectCloses =>
    have hset : Calms s (setSocket s w { s.sockets w with finished := true }) := calms_setSocket fun hl => hl
    have hone : Alone (setSocket s w { s.sockets w with finished := true }) := h.calms hset fun h => h
    refine hone.schedule (timed_setSocket ht) ?_
    rcases hok with hok | hok | hok | hok | hok
    · exact Or.inr (Or.inr (Or.inr (Or.inr fun w' hl => h.dead hok hw w' (hset.live w' hl))))
    · exact Or.inl hok
    · exact Or.inr (Or.inl hok)
    · refine Or.inr (Or.inr (Or.inl ?_))
      have hne : code ≠ 0 := by
        rintro rfl
        exact absurd hok (by decide)
      rwa [if_neg hne]
    · exact Or.inr (Or.inr (Or.inr (Or.inl hok)))
  | fires hmem o =>
    refine Alone.opens ⟨h.newest, fun hne => ?_⟩ (armed_erase ht hmem) (h.waiting (List.ne_nil_of_mem hmem))
    exact absurd (armed_erase ht hmem) hne
  | opened hw => exact h.calms (calms_setSocket fun _ => Or.inl hw) fun h => h
  | dies => exact h.calms (calms_setSocket fun hl => hl.elim nofun nofun) fun h => h
  | message hw frame =>
    have hcalms := (Step.message hw frame).calms ht nofun
    refine h.calms hcalms ?_
    cases frame <;> first | exact fun h => h | exact fun hne => closeSocket_armed ▸ hne
  | closed => exact h.calms (ends_close ht).toCalms fun hne => absurd (ends_close ht).armed hne

lemma Alone.single (h : Alone s) : Single s := fun w w' hw hw' =>
  Nat.succ.inj ((h.newest w hw).trans (h.newest w' hw').symm)

/-- In every run at most one timer is armed and `close` is final; in one whose late events come in time, at most
one socket is open or connecting. -/
theorem run_single :
    (RunWhere Step (fun _ _ => True) (connectGateway o) s → s.armed.length ≤ 1 ∧
      ∀ e s', Step s e s' → s.closed → s'.created = s.created ∧ s'.closed) ∧
    (RunWhere Step InTime (connectGateway o) s → Single s) := by
  have hstart : Timed (connectGateway o) := timed_opens rfl
  have htimed : RunWhere Step (fun _ _ => True) (connectGateway o) s → Timed s := fun hrun =>
    hrun.invariant hstart fun _ _ _ h _ hstep => hstep.timed h
  refine ⟨fun hrun => ⟨(htimed hrun).length, fun _ _ hstep => hstep.after_close (htimed hrun)⟩, fun hrun => ?_⟩
  have hone : Alone (connectGateway o) := alone_start.opens rfl (Or.inr fun _ hw => hw.elim nofun nofun)
  have hkeep : ∀ s e s', Timed s ∧ Alone s → InTime s e → Step s e s' → Timed s' ∧ Alone s' :=
    fun _ _ _ h hok hstep => ⟨hstep.timed h.1, hstep.alone h.1 h.2 hok⟩
  have halone : Timed s ∧ Alone s := hrun.invariant ⟨hstart, hone⟩ hkeep
  exact halone.2.single

def plain : Opening := ⟨true, false, false⟩

theorem run_single_reconnected : ∃ s, RunWhere Step InTime (connectGateway plain) s ∧ s.created = 2 ∧
    s.armed.length ≤ 1 ∧ Single s := by
  have hstart : RunWhere Step InTime (connectGateway plain) (connectGateway plain) := .refl _
  have hdead := hstart.on (.dies (w := 0) nofun) trivial
  have hclosed := hdead.on (.close (w := 0) rfl rfl 1006 false) (Or.inl rfl)
  have hopened := hclosed.on (.fires List.mem_cons_self plain) trivial
  exact ⟨_, hopened, rfl, ((@run_single _ plain).1 (hopened.mono fun _ _ _ => trivial)).1, (@run_single _ plain).2 hopened⟩

/-- The `close` of a socket arrives after its `error` has had it replaced. -/
theorem late_close_doubles : ¬ ∀ o s, RunWhere Step (fun _ _ => True) (connectGateway o) s → Single s ∧
    s.armed.length ≤ 1 ∧ ∀ e s', Step s e s' → s.closed → s'.created = s.created := by
  intro h
  have hstart : RunWhere Step (fun _ _ => True) (connectGateway plain) (connectGateway plain) := .refl _
  have hdead := hstart.on (.dies (w := 0) nofun) trivial
  have herrored := hdead.on (.error (w := 0) rfl rfl false false) trivial
  have hreplaced := herrored.on (.fires List.mem_cons_self plain) trivial
  have hlate := hreplaced.on (.close (w := 0) rfl rfl 1006 false) trivial
  have hdoubled := hlate.on (.fires List.mem_cons_self plain) trivial
  have htwo : (1 : ℕ) = 2 := (h _ _ hdoubled).1 1 2 (Or.inl rfl) (Or.inl rfl)
  cases htwo

end Yappy.BotConnection
