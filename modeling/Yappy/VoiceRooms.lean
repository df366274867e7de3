import Yappy.CallTables
import Yappy.Runs

/-!
# Voice channels

The voice routes and `reconcileVoice` of `apps/api/src/routes/spaces.ts` beside `reconcileStaleCalls` of
`apps/worker/src/jobs/calls.ts`, statement by statement. A call's room is named by the call. The calls
are those of voice channels, which share no row with others, and who may join is left open.
-/
namespace Yappy.VoiceRooms

open Permissions (Time Uuid)
open Calls (Call CallState Participant ParticipantState)

structure Sitter extends Participant where
  deviceId : Option Uuid
  isMuted : Bool

/-- The row of `call_participants` that a join inserts or writes over. -/
def Sitter.join (row : Option Sitter) (deviceId : Uuid) (isMuted : Bool) (now : Time) : Sitter :=
  { toParticipant := Participant.join (row.map Sitter.toParticipant) now, deviceId := some deviceId, isMuted }

def Sitter.isOf (row : Sitter) (deviceId : Uuid) : Bool := row.deviceId = none || row.deviceId = some deviceId

def Sitter.away (row : Sitter) (now : Time) : Sitter := { row with state := .left, leftAt := some now }

/-- `reconcileStaleCalls`, of someone who is not in the room. -/
def Sitter.gone (row : Sitter) (now : Time) : Sitter :=
  { row with toParticipant := row.toParticipant.ghost now }

def voiceCall (channelId initiatorId : Uuid) (now : Time) : Call where
  conversationId := some channelId
  initiatorId := some initiatorId
  state := .active
  nonce := ""
  maxParticipants := 32
  peakParticipants := 0
  ringExpiresAt := none
  startedAt := some now
  endedAt := none
  endReason := none
  durationSeconds := none
  createdAt := now

inductive JoinStage
  | starting
  | seating (callId : Uuid)
  /-- Its row is written, and `left` once its user has left since. -/
  | minting (callId : Uuid) (left : Bool)

structure Join where
  channelId : Uuid
  userId : Uuid
  deviceId : Uuid
  isMuted : Bool
  stage : JoinStage

structure Update where
  callId : Uuid
  userId : Uuid
  deviceId : Uuid
  isMuted : Option Bool

inductive Sweeper
  | voice | stale

inductive SweepStage
  | chosen
  | listed (participants : Uuid → Bool)
  | marking (ghosts : Uuid → Bool)

structure Sweep where
  sweeper : Sweeper
  callId : Uuid
  stage : SweepStage

structure State where
  now : Time
  calls : Uuid → Option Call
  /-- `call_participants`, by call and user. -/
  rows : Uuid → Uuid → Option Sitter
  /-- By channel and user, the room of the token of who has joined, and neither left nor been removed. -/
  inside : Uuid → Uuid → Option Uuid
  joins : ℕ → Option Join
  updates : ℕ → Option Update
  sweeps : ℕ → Option Sweep

def start (now : Time) : State :=
  ⟨now, fun _ => none, fun _ _ => none, fun _ _ => none, fun _ => none, fun _ => none, fun _ => none⟩

def Open (channelId : Uuid) (call : Call) : Prop := call.conversationId = some channelId ∧ call.state ≠ .ended

namespace State

variable (s : State)

def setCall (c : Uuid) (call : Call) : State := { s with calls := Function.update s.calls c (some call) }

def setRow (c user : Uuid) (row : Sitter) : State :=
  { s with rows := fun c' user' => if c' = c ∧ user' = user then some row else s.rows c' user' }

def setJoin (r : ℕ) (join : Option Join) : State := { s with joins := Function.update s.joins r join }

def setUpdate (r : ℕ) (update : Option Update) : State :=
  { s with updates := Function.update s.updates r update }

def setSweep (w : ℕ) (sweep : Option Sweep) : State := { s with sweeps := Function.update s.sweeps w sweep }

def participants (c user : Uuid) : Bool :=
  ((s.calls c).bind Call.conversationId).any fun channelId => s.inside channelId user = some c

def enter (join : Join) (c : Uuid) (left : Bool) : State :=
  if left then s
  else { s with inside := fun channelId user =>
    if channelId = join.channelId ∧ user = join.userId then some c else s.inside channelId user }

def exit (c user : Uuid) : State :=
  { s with
    inside := fun channelId user' =>
      if user' = user ∧ s.inside channelId user' = some c then none else s.inside channelId user'
    joins := fun r => (s.joins r).map fun join =>
      match join.stage with
      | .minting c' left => { join with stage := .minting c' (left || (c' = c && join.userId = user)) }
      | _ => join }

/-- `update call_participants …`, of one device's row. -/
def apply (update : Update) : State :=
  match (s.rows update.callId update.userId).filter fun row => row.isOf update.deviceId with
  | none => s
  | some row =>
    match update.isMuted with
    | some isMuted => s.setRow update.callId update.userId { row with isMuted }
    | none => (s.setRow update.callId update.userId (row.away s.now)).exit update.callId update.userId

/-- Who has a row that says joined, is not in the room and has had time to connect. -/
def ghosts (sweep : Sweep) (participants : Uuid → Bool) (user : Uuid) : Bool :=
  (s.rows sweep.callId user).any fun row => row.state = .joined && !participants user &&
    match sweep.sweeper with
    | .voice => row.joinedAt.all fun joinedAt => joinedAt + 60000 < s.now
    | .stale => row.joinedAt.any fun joinedAt => joinedAt + 90000 < s.now

/-- Whom the update of `reconcileVoice` marks: ghosts whose row still says joined, and for long. -/
def marked (c : Uuid) (ghosts : Uuid → Bool) (user : Uuid) : Bool :=
  ghosts user && (s.rows c user).any fun row =>
    row.state = .joined && row.joinedAt.all fun joinedAt => joinedAt + 60000 < s.now

def markAll (c : Uuid) (ghosts : Uuid → Bool) : State :=
  { s with
    rows := fun c' user => (s.rows c' user).map fun row : Sitter =>
      if c' = c ∧ s.marked c ghosts user then row.away s.now else row }

end State

inductive Event
  | tick (now : Time)
  | join (r : ℕ) (channelId userId deviceId : Uuid) (isMuted : Bool)
  | find (r : ℕ)
  | create (r : ℕ) (callId : Uuid)
  | seat (r : ℕ)
  | mint (r : ℕ)
  | fail (r : ℕ)
  | leave (r : ℕ) (channelId userId deviceId : Uuid)
  | state (r : ℕ) (channelId userId deviceId : Uuid) (isMuted : Bool)
  | update (r : ℕ)
  | remove (channelId userId : Uuid)
  | reconcileVoice (w : ℕ) (channelId : Uuid)
  | reconcileCall (w : ℕ) (callId : Uuid)
  | list (w : ℕ)
  | read (w : ℕ)
  | markAll (w : ℕ)
  | mark (w : ℕ) (userId : Uuid)
  | finish (w : ℕ)
  /-- The first statement of `reconcileStaleCalls`, and the last. -/
  | endStale
  | endEmpty (emptied : Uuid → Bool)

inductive Step : State → Event → State → Prop
  | tick {s : State} {now : Time} (h : s.now ≤ now) : Step s (.tick now) { s with now }
  | join {s : State} {r : ℕ} {channelId userId deviceId : Uuid} {isMuted : Bool}
      (hr : s.joins r = none) : Step s (.join r channelId userId deviceId isMuted)
        (s.setJoin r (some ⟨channelId, userId, deviceId, isMuted, .starting⟩))
  -- find or create, under the channel's advisory lock
  | find {s : State} {r : ℕ} {join : Join} {c : Uuid} {call : Call} (hj : s.joins r = some join)
      (hs : join.stage = .starting) (hc : s.calls c = some call) (ho : Open join.channelId call) :
      Step s (.find r) (s.setJoin r (some { join with stage := .seating c }))
  | create {s : State} {r : ℕ} {join : Join} {c : Uuid} (hj : s.joins r = some join)
      (hs : join.stage = .starting) (hc : s.calls c = none)
      (hnone : ∀ c call, s.calls c = some call → ¬ Open join.channelId call) :
      Step s (.create r c) ((s.setCall c (voiceCall join.channelId join.userId s.now)).setJoin r
        (some { join with stage := .seating c }))
  | seat {s : State} {r : ℕ} {join : Join} {c : Uuid} (hj : s.joins r = some join)
      (hs : join.stage = .seating c) : Step s (.seat r) ((s.setRow c join.userId
        (Sitter.join (s.rows c join.userId) join.deviceId join.isMuted s.now)).setJoin r
          (some { join with stage := .minting c false }))
  | mint {s : State} {r : ℕ} {join : Join} {c : Uuid} {left : Bool} (hj : s.joins r = some join)
      (hs : join.stage = .minting c left) : Step s (.mint r) ((s.enter join c left).setJoin r none)
  | fail {s : State} {r : ℕ} : Step s (.fail r) (s.setJoin r none)
  | leave {s : State} {r : ℕ} {channelId userId deviceId c : Uuid} {call : Call}
      (hr : s.updates r = none) (hc : s.calls c = some call) (ho : Open channelId call) :
      Step s (.leave r channelId userId deviceId) (s.setUpdate r (some ⟨c, userId, deviceId, none⟩))
  | state {s : State} {r : ℕ} {channelId userId deviceId c : Uuid} {isMuted : Bool} {call : Call}
      (hr : s.updates r = none) (hc : s.calls c = some call) (ho : Open channelId call) :
      Step s (.state r channelId userId deviceId isMuted)
        (s.setUpdate r (some ⟨c, userId, deviceId, some isMuted⟩))
  | update {s : State} {r : ℕ} {update : Update} (hu : s.updates r = some update) :
      Step s (.update r) ((s.apply update).setUpdate r none)
  | remove {s : State} {channelId userId : Uuid} : Step s (.remove channelId userId)
      { s with inside := fun channelId' userId' =>
        if channelId' = channelId ∧ userId' = userId then none else s.inside channelId' userId' }
  | reconcileVoice {s : State} {w : ℕ} {channelId c : Uuid} {call : Call} (hw : s.sweeps w = none)
      (hc : s.calls c = some call) (ho : Open channelId call) :
      Step s (.reconcileVoice w channelId) (s.setSweep w (some ⟨.voice, c, .chosen⟩))
  | reconcileCall {s : State} {w : ℕ} {c : Uuid} {call : Call} (hw : s.sweeps w = none)
      (hc : s.calls c = some call) (hs : call.settled s.now) :
      Step s (.reconcileCall w c) (s.setSweep w (some ⟨.stale, c, .chosen⟩))
  | list {s : State} {w : ℕ} {sweep : Sweep} (hw : s.sweeps w = some sweep)
      (hs : sweep.stage = .chosen) : Step s (.list w)
        (s.setSweep w (some { sweep with stage := .listed (s.participants sweep.callId) }))
  | read {s : State} {w : ℕ} {sweep : Sweep} {participants : Uuid → Bool}
      (hw : s.sweeps w = some sweep) (hs : sweep.stage = .listed participants) : Step s (.read w)
        (s.setSweep w (some { sweep with stage := .marking (s.ghosts sweep participants) }))
  | markAll {s : State} {w : ℕ} {sweep : Sweep} {ghosts : Uuid → Bool} (hw : s.sweeps w = some sweep)
      (hk : sweep.sweeper = .voice) (hs : sweep.stage = .marking ghosts) : Step s (.markAll w)
        ((s.markAll sweep.callId ghosts).setSweep w none)
  | mark {s : State} {w : ℕ} {sweep : Sweep} {ghosts : Uuid → Bool} {user : Uuid} {row : Sitter}
      (hw : s.sweeps w = some sweep) (hk : sweep.sweeper = .stale) (hs : sweep.stage = .marking ghosts)
      (hg : ghosts user) (hrow : s.rows sweep.callId user = some row) (hj : row.state = .joined) :
      Step s (.mark w user) (s.setRow sweep.callId user (row.gone s.now))
  | finish {s : State} {w : ℕ} : Step s (.finish w) (s.setSweep w none)
  | endStale {s : State} : Step s .endStale
      { s with calls := fun c => (s.calls c).map fun call =>
        if call.stale s.now then call.failed s.now else call }
  | endEmpty {s : State} {emptied : Uuid → Bool}
      (h : ∀ c, emptied c ↔ ∃ call, s.calls c = some call ∧ call.settled s.now ∧
        ∀ user row, s.rows c user = some row → row.state ≠ .joined) :
      Step s (.endEmpty emptied)
        { s with calls := fun c => (s.calls c).map fun call =>
          if emptied c then call.emptied s.now else call }

/-- Someone is on the way into the call's room: their join has found it, or has written its row. -/
def Coming (s : State) (c : Uuid) : Prop :=
  ∃ r join, s.joins r = some join ∧ (join.stage = .seating c ∨ join.stage = .minting c false)

/-- The user is in the room, or gets a token for it next. -/
def Present (s : State) (c user : Uuid) : Prop :=
  (∃ channelId, s.inside channelId user = some c) ∨
    ∃ r join, s.joins r = some join ∧ join.userId = user ∧ join.stage = .minting c false

/-- The jobs end no call that someone is in or coming into, and a sweep marks nobody who is in the
room or about to be. -/
def Undisturbed (s : State) : Event → Prop
  | .endStale => ∀ c call, s.calls c = some call → call.stale s.now →
    ¬ Coming s c ∧ ∀ user, ¬ Present s c user
  | .endEmpty emptied => ∀ c, emptied c → ¬ Coming s c
  | .markAll w => ∀ sweep ghosts user, s.sweeps w = some sweep → sweep.stage = .marking ghosts →
    s.marked sweep.callId ghosts user → ¬ Present s sweep.callId user
  | .mark w user => ∀ sweep, s.sweeps w = some sweep → ¬ Present s sweep.callId user
  | _ => True

section Channels
variable {s s' : State} {event : Event} {c c' user channelId : Uuid} {call : Call} {row : Sitter} {r : ℕ}
  {join : Join}

/-- Each channel has one call that has not ended. Whoever is in a room, or coming into one, is in that
call's, with a row that says so once it is written. -/
structure Sound (s : State) : Prop where
  one : ∀ {channelId c c' : Uuid} {call call' : Call}, s.calls c = some call → Open channelId call →
    s.calls c' = some call' → Open channelId call' → c = c'
  inside : ∀ {channelId user c : Uuid}, s.inside channelId user = some c →
    (∃ call, s.calls c = some call ∧ Open channelId call) ∧
      ∃ row, s.rows c user = some row ∧ row.state = .joined
  seating : ∀ {r : ℕ} {join : Join} {c : Uuid}, s.joins r = some join → join.stage = .seating c →
    ∃ call, s.calls c = some call ∧ Open join.channelId call
  minting : ∀ {r : ℕ} {join : Join} {c : Uuid}, s.joins r = some join → join.stage = .minting c false →
    (∃ call, s.calls c = some call ∧ Open join.channelId call) ∧
      ∃ row, s.rows c join.userId = some row ∧ row.state = .joined

lemma start_sound (now : Time) : Sound (start now) :=
  ⟨nofun, nofun, nofun, nofun⟩

lemma setJoin_self (s : State) (r : ℕ) (x : Option Join) : (s.setJoin r x).joins r = x :=
  Function.update_self ..

lemma setJoin_of_ne {r r' : ℕ} (s : State) (x : Option Join) (h : r' ≠ r) :
    (s.setJoin r x).joins r' = s.joins r' := Function.update_of_ne h ..

lemma Sound.setJoin (h : Sound s) {x : Option Join}
    (hseat : ∀ join c, x = some join → join.stage = .seating c →
      ∃ call, s.calls c = some call ∧ Open join.channelId call)
    (hmint : ∀ join c, x = some join → join.stage = .minting c false →
      (∃ call, s.calls c = some call ∧ Open join.channelId call) ∧
        ∃ row, s.rows c join.userId = some row ∧ row.state = .joined) : Sound (s.setJoin r x) where
  one := h.one
  inside := h.inside
  seating := by
    intro r' join c hj hs
    by_cases hr : r' = r
    · subst hr
      rw [setJoin_self] at hj
      exact hseat join c hj hs
    · rw [setJoin_of_ne _ _ hr] at hj
      exact h.seating hj hs
  minting := by
    intro r' join c hj hs
    by_cases hr : r' = r
    · subst hr
      rw [setJoin_self] at hj
      exact hmint join c hj hs
    · rw [setJoin_of_ne _ _ hr] at hj
      exact h.minting hj hs

lemma Sound.rows {rows : Uuid → Uuid → Option Sitter} (h : Sound s)
    (hkept : ∀ c user row, s.rows c user = some row → row.state = .joined → Present s c user →
      ∃ row', rows c user = some row' ∧ row'.state = .joined) : Sound { s with rows } where
  one := h.one
  inside hin := by
    obtain ⟨hcall, row, hrow, hjoined⟩ := h.inside hin
    exact ⟨hcall, hkept _ _ row hrow hjoined (Or.inl ⟨_, hin⟩)⟩
  seating := h.seating
  minting hj hs := by
    obtain ⟨hcall, row, hrow, hjoined⟩ := h.minting hj hs
    exact ⟨hcall, hkept _ _ row hrow hjoined (Or.inr ⟨_, _, hj, rfl, hs⟩)⟩

lemma setRow_rows (s : State) (c user c' user' : Uuid) (row : Sitter) :
    (s.setRow c user row).rows c' user' = if c' = c ∧ user' = user then some row else s.rows c' user' := rfl

lemma Sound.setRow (h : Sound s) (hrow : row.state = .joined ∨ ¬ Present s c user) :
    Sound (s.setRow c user row) := by
  refine h.rows fun c' user' row' hrow' hjoined hpresent => ?_
  by_cases hat : c' = c ∧ user' = user
  · rw [if_pos hat]
    obtain ⟨rfl, rfl⟩ := hat
    exact ⟨row, rfl, hrow.resolve_right fun hn => hn hpresent⟩
  · rw [if_neg hat]
    exact ⟨row', hrow', hjoined⟩

lemma Sound.calls {ended : Uuid → Bool} {f : Call → Call} (h : Sound s)
    (hf : ∀ call, (f call).state = .ended) (hcoming : ∀ c, ended c → ¬ Coming s c)
    (hin : ∀ c channelId user, ended c → s.inside channelId user ≠ some c) :
    Sound { s with calls := fun c => (s.calls c).map fun call => if ended c then f call else call } := by
  -- what is open now was open before, and what nobody ends still is
  have hold : ∀ {c call channelId}, (s.calls c).map (fun call => if ended c then f call else call) = some call →
      Open channelId call → s.calls c = some call := by
    intro c call channelId hc ho
    obtain ⟨call₀, hc₀, he⟩ := Option.map_eq_some_iff.mp hc
    split_ifs at he
    · subst he
      exact absurd (hf call₀) ho.2
    · rw [hc₀, he]
  have hkept : ∀ {c channelId}, ¬ ended c → (∃ call, s.calls c = some call ∧ Open channelId call) →
      ∃ call, (s.calls c).map (fun call => if ended c then f call else call) = some call ∧
        Open channelId call := by
    rintro c channelId hn ⟨call, hc, ho⟩
    exact ⟨call, by rw [hc, Option.map_some, if_neg hn], ho⟩
  exact {
    one hc ho hc' ho' := h.one (hold hc ho) ho (hold hc' ho') ho'
    inside hi := ⟨hkept (fun he => hin _ _ _ he hi) (h.inside hi).1, (h.inside hi).2⟩
    seating hj hs := hkept (fun he => hcoming _ he ⟨_, _, hj, Or.inl hs⟩) (h.seating hj hs)
    minting hj hs :=
      ⟨hkept (fun he => hcoming _ he ⟨_, _, hj, Or.inr hs⟩) (h.minting hj hs).1, (h.minting hj hs).2⟩
  }

lemma Sound.removed (h : Sound s) {inside : Uuid → Uuid → Option Uuid}
    (hin : ∀ channelId user c, inside channelId user = some c → s.inside channelId user = some c) :
    Sound { s with inside } where
  one := h.one
  inside hi := h.inside (hin _ _ _ hi)
  seating := h.seating
  minting := h.minting

lemma exit_joins {join' : Join} (hj : (s.exit c user).joins r = some join') :
    ∃ join, s.joins r = some join ∧ join.channelId = join'.channelId ∧ join.userId = join'.userId ∧
      (∀ c', join'.stage = .seating c' → join.stage = .seating c') ∧
      ∀ c', join'.stage = .minting c' false →
        join.stage = .minting c' false ∧ ¬ (c' = c ∧ join.userId = user) := by
  obtain ⟨join, hjoin, rfl⟩ := Option.map_eq_some_iff.mp hj
  refine ⟨join, hjoin, ?_⟩
  cases hs : join.stage with
  | starting => exact ⟨rfl, rfl, fun c' h => by simp [hs] at h, fun c' h => by simp [hs] at h⟩
  | seating c₀ => exact ⟨rfl, rfl, fun c' h => by simpa [hs] using h, fun c' h => by simp [hs] at h⟩
  | minting c₀ left =>
    refine ⟨rfl, rfl, fun c' h => (by simp at h), fun c' h => ?_⟩
    simp only [JoinStage.minting.injEq, Bool.or_eq_false_iff] at h
    obtain ⟨rfl, rfl, hat⟩ := h
    exact ⟨rfl, by simpa using hat⟩

lemma exit_absent : ¬ Present (s.exit c user) c user := by
  rintro (⟨channelId, hin⟩ | ⟨r, join, hj, hu, hs⟩)
  · change (if user = user ∧ s.inside channelId user = some c then none else s.inside channelId user) = _ at hin
    split_ifs at hin with hat
    exact hat ⟨rfl, hin⟩
  · obtain ⟨join', -, -, hu', -, hmint⟩ := exit_joins hj
    exact (hmint c hs).2 ⟨rfl, hu'.trans hu⟩

lemma Sound.exit (h : Sound s) : Sound (s.exit c user) where
  one := h.one
  inside hin := by
    refine h.inside ?_
    change (if _ ∧ _ then none else _) = _ at hin
    split_ifs at hin
    exact hin
  seating hj hs := by
    obtain ⟨join', hj', hch, -, hseat, -⟩ := exit_joins hj
    exact hch ▸ h.seating hj' (hseat _ hs)
  minting hj hs := by
    obtain ⟨join', hj', hch, hu, -, hmint⟩ := exit_joins hj
    exact hch ▸ hu ▸ h.minting hj' (hmint _ hs).1

lemma Sound.apply (h : Sound s) {update : Update} : Sound (s.apply update) := by
  unfold State.apply
  split
  · exact h
  · rename_i row hrow
    obtain ⟨hrow, -⟩ := Option.filter_eq_some_iff.mp hrow
    split
    · -- the row keeps its state
      refine h.rows fun c' user' row' hrow' hjoined _ => ?_
      by_cases hat : c' = update.callId ∧ user' = update.userId
      · obtain ⟨rfl, rfl⟩ := hat
        obtain rfl := Option.some.inj (hrow.symm.trans hrow')
        exact ⟨_, if_pos ⟨rfl, rfl⟩, hjoined⟩
      · exact ⟨row', (if_neg hat).trans hrow', hjoined⟩
    · exact h.exit.setRow (Or.inr exit_absent)

lemma join_joined (row : Option Sitter) (deviceId : Uuid) (isMuted : Bool) (now : Time) :
    (Sitter.join row deviceId isMuted now).state = .joined := by
  cases row <;> rfl

lemma setCall_self (s : State) (c : Uuid) (call : Call) : (s.setCall c call).calls c = some call :=
  Function.update_self ..

lemma setCall_of_ne (s : State) (call : Call) (h : c' ≠ c) : (s.setCall c call).calls c' = s.calls c' :=
  Function.update_of_ne h ..

/-- The first join of a channel, or the first since its call has ended. -/
theorem Sound.create (h : Sound s) {userId : Uuid} (hc : s.calls c = none)
    (hnone : ∀ c call, s.calls c = some call → ¬ Open join.channelId call) :
    Sound ((s.setCall c (voiceCall join.channelId userId s.now)).setJoin r
      (some { join with stage := .seating c })) := by
  have hnew : Open join.channelId (voiceCall join.channelId userId s.now) := ⟨rfl, by simp [voiceCall]⟩
  have hkept : ∀ {c₀ channelId}, (∃ call, s.calls c₀ = some call ∧ Open channelId call) →
      ∃ call, (s.setCall c (voiceCall join.channelId userId s.now)).calls c₀ = some call ∧
        Open channelId call := by
    rintro c₀ channelId ⟨call, hc₀, ho⟩
    refine ⟨call, ?_, ho⟩
    rw [setCall_of_ne]
    · exact hc₀
    · rintro rfl
      rw [hc] at hc₀
      cases hc₀
  have hone : ∀ {c₀ call channelId},
      (s.setCall c (voiceCall join.channelId userId s.now)).calls c₀ = some call → Open channelId call →
      c₀ = c ∧ channelId = join.channelId ∨ s.calls c₀ = some call ∧ channelId ≠ join.channelId := by
    intro c₀ call channelId hc₀ ho
    by_cases he : c₀ = c
    · subst he
      rw [setCall_self] at hc₀
      obtain rfl := Option.some.inj hc₀
      exact Or.inl ⟨rfl, (Option.some.inj ho.1).symm⟩
    · rw [setCall_of_ne _ _ he] at hc₀
      refine Or.inr ⟨hc₀, ?_⟩
      rintro rfl
      exact hnone c₀ call hc₀ ho
  have hsound : Sound (s.setCall c (voiceCall join.channelId userId s.now)) := {
    one hc₁ ho₁ hc₂ ho₂ := by
      rcases hone hc₁ ho₁ with ⟨rfl, hch⟩ | ⟨hc₁, hch⟩
      · rcases hone hc₂ ho₂ with ⟨rfl, -⟩ | ⟨-, hne⟩
        · rfl
        · exact absurd hch hne
      · rcases hone hc₂ ho₂ with ⟨-, he⟩ | ⟨hc₂, -⟩
        · exact absurd he hch
        · exact h.one hc₁ ho₁ hc₂ ho₂
    inside hin := ⟨hkept (h.inside hin).1, (h.inside hin).2⟩
    seating hj hs := hkept (h.seating hj hs)
    minting hj hs := ⟨hkept (h.minting hj hs).1, (h.minting hj hs).2⟩
  }
  refine hsound.setJoin (fun join' c' hx hs => ?_) fun join' c' hx hs => ?_
  · obtain rfl := Option.some.inj hx
    obtain rfl := JoinStage.seating.inj hs
    exact ⟨_, setCall_self .., hnew⟩
  · obtain rfl := Option.some.inj hx
    cases hs

lemma Sound.enter (h : Sound s) (hj : s.joins r = some join) (hs : join.stage = .minting c false) :
    Sound (s.enter join c false) where
  one := h.one
  inside hin := by
    change (if _ ∧ _ then some c else _) = _ at hin
    split_ifs at hin with hat
    · obtain rfl := Option.some.inj hin
      obtain ⟨rfl, rfl⟩ := hat
      exact h.minting hj hs
    · exact h.inside hin
  seating := h.seating
  minting := h.minting

lemma Sound.markAll (h : Sound s) {ghosts : Uuid → Bool}
    (hok : ∀ user, s.marked c ghosts user → ¬ Present s c user) : Sound (s.markAll c ghosts) := by
  refine h.rows fun c' user row hrow hjoined hpresent => ⟨row, ?_, hjoined⟩
  rw [hrow, Option.map_some, if_neg]
  rintro ⟨rfl, hm⟩
  exact hok user hm hpresent

lemma Sound.endStale (h : Sound s) (hok : Undisturbed s .endStale) :
    Sound { s with calls := fun c => (s.calls c).map fun call =>
      if call.stale s.now then call.failed s.now else call } := by
  have heq : (fun c => (s.calls c).map fun call => if call.stale s.now then call.failed s.now else call) =
      fun c => (s.calls c).map fun call => if ((s.calls c).any fun call => call.stale s.now) then
        call.failed s.now else call := by
    funext c
    cases s.calls c with
    | none => rfl
    | some call => rw [Option.map_some, Option.map_some, Option.any_some]
  rw [heq]
  refine h.calls (fun _ => rfl) (fun c he => ?_) fun c channelId user he hin => ?_
  · obtain ⟨call, hc, hstale⟩ := (Option.any_eq_true ..).mp he
    exact (hok c call hc hstale).1
  · obtain ⟨call, hc, hstale⟩ := (Option.any_eq_true ..).mp he
    exact (hok c call hc hstale).2 user (Or.inl ⟨channelId, hin⟩)

lemma Sound.step (h : Sound s) (hok : Undisturbed s event) (hs : Step s event s') : Sound s' := by
  cases hs with
  | tick | leave | state | reconcileVoice | reconcileCall | list | read | finish =>
    exact ⟨h.one, h.inside, h.seating, h.minting⟩
  | join =>
    refine h.setJoin (fun join c hx hs => ?_) fun join c hx hs => ?_
    all_goals
      obtain rfl := Option.some.inj hx
      cases hs
  | find hj hs hc ho =>
    refine h.setJoin (fun join c hx hs => ?_) fun join c hx hs => ?_
    · obtain rfl := Option.some.inj hx
      obtain rfl := JoinStage.seating.inj hs
      exact ⟨_, hc, ho⟩
    · obtain rfl := Option.some.inj hx
      cases hs
  | create hj hs hc hnone => exact h.create hc hnone
  | seat hj hs =>
    have hseated := h.seating hj hs
    refine (h.setRow (Or.inl (join_joined ..))).setJoin
      (fun join c hx hs => ?_) fun join' c' hx hs' => ?_
    · obtain rfl := Option.some.inj hx
      cases hs
    · obtain rfl := Option.some.inj hx
      obtain rfl := (JoinStage.minting.inj hs').1
      exact ⟨hseated, _, if_pos ⟨rfl, rfl⟩, join_joined ..⟩
  | @mint r join c left hj hs =>
    refine Sound.setJoin ?_ nofun nofun
    cases left with
    | true => exact h
    | false => exact h.enter hj hs
  | fail => exact h.setJoin nofun nofun
  | @update r update hu =>
    have h' := @Sound.apply s h update
    exact ⟨h'.one, h'.inside, h'.seating, h'.minting⟩
  | remove =>
    refine h.removed fun channelId user c hin => ?_
    split_ifs at hin
    exact hin
  | markAll hw _ hs =>
    have h' := h.markAll fun user => hok _ _ user hw hs
    exact ⟨h'.one, h'.inside, h'.seating, h'.minting⟩
  | mark hw => exact h.setRow (Or.inr (hok _ hw))
  | endStale => exact h.endStale hok
  | endEmpty hempty =>
    refine h.calls (f := fun call => call.emptied s.now) (fun _ => rfl) hok fun c channelId user he hin => ?_
    obtain ⟨_, _, _, hnobody⟩ := (hempty c).mp he
    obtain ⟨-, row, hrow, hjoined⟩ := h.inside hin
    exact hnobody user row hrow hjoined

def Owned (s : State) : Prop := ∀ c user row, s.rows c user = some row → row.deviceId ≠ none

lemma Owned.setRow (h : Owned s) (hrow : row.deviceId ≠ none) : Owned (s.setRow c user row) := by
  intro c' user' row' hrow'
  rw [setRow_rows] at hrow'
  split_ifs at hrow'
  · obtain rfl := Option.some.inj hrow'
    exact hrow
  · exact h c' user' row' hrow'

lemma Owned.step (h : Owned s) (hs : Step s event s') : Owned s' := by
  cases hs with
  | seat => exact h.setRow (by simp [Sitter.join])
  | @mint r join c left hj hs =>
    cases left with
    | true => exact h
    | false => exact h
  | @update r update hu =>
    change Owned (s.apply update)
    unfold State.apply
    split
    · exact h
    · rename_i row hrow
      have hdevice := h _ _ row (Option.filter_eq_some_iff.mp hrow).1
      split
      · exact h.setRow hdevice
      · exact h.setRow hdevice
  | markAll =>
    intro c user row hrow
    obtain ⟨row₀, hrow₀, he⟩ := Option.map_eq_some_iff.mp hrow
    have hdevice := h c user row₀ hrow₀
    split_ifs at he
    · subst he
      exact hdevice
    · exact he ▸ hdevice
  | mark _ _ _ _ hrow =>
    have hdevice := h _ _ _ hrow
    exact h.setRow hdevice
  | tick | join | find | create | fail | leave | state | remove | reconcileVoice | reconcileCall | list | read |
    finish | endStale | endEmpty => exact h

end Channels

/-! ## Joins by themselves -/

section Alone
variable {s : State} {ok : State → Event → Prop} {r : ℕ} {join : Join} {c channelId userId deviceId : Uuid}

structure Entered (s s' : State) (r : ℕ) (channelId userId c : Uuid) : Prop where
  now : s'.now = s.now
  calls : s'.calls = s.calls
  inside : s'.inside = fun channelId' userId' =>
    if channelId' = channelId ∧ userId' = userId then some c else s.inside channelId' userId'
  joins : ∀ r', r' ≠ r → s'.joins r' = s.joins r'

end Alone

end Yappy.VoiceRooms
