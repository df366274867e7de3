import Yappy.PermissionDatabase

/-!
# The tables of calls

The rows of `packages/db/src/schema/calls.ts`, and what the handlers of `apps/api/src/routes/calls.ts`
and the jobs of `apps/worker/src/jobs/calls.ts` write into them. Columns that only serialisers read
are left out.
-/
namespace Yappy.Calls

open Permissions (Time Uuid)

inductive CallState
  | ringing | active | ended
  deriving DecidableEq

inductive ParticipantState
  | invited | ringing | joined | left | declined | missed | busy
  deriving DecidableEq

structure Call where
  conversationId : Option Uuid
  initiatorId : Option Uuid
  state : CallState
  nonce : String
  maxParticipants : ℕ
  peakParticipants : ℕ
  ringExpiresAt : Option Time
  startedAt : Option Time
  endedAt : Option Time
  endReason : Option String
  durationSeconds : Option ℤ
  createdAt : Time

structure Participant where
  state : ParticipantState
  isHost : Bool
  joinedAt : Option Time
  leftAt : Option Time
  totalSeconds : ℤ

/-! ## Seconds

Times are in milliseconds. -/

/-- `Math.round(ms / 1000)` -/
def roundSeconds (ms : ℤ) : ℤ := (ms + 500) / 1000

/-- `extract(epoch from …)::int`, which rounds halves away from zero. -/
def castSeconds (ms : ℤ) : ℤ := if 0 ≤ ms then roundSeconds ms else -roundSeconds (-ms)

lemma roundSeconds_near (ms : ℤ) : 1000 * roundSeconds ms ≤ ms + 500 ∧ ms < 1000 * roundSeconds ms + 501 := by
  unfold roundSeconds
  omega

lemma castSeconds_of_nonneg {ms : ℤ} (h : 0 ≤ ms) :
    max 0 (castSeconds ms) = roundSeconds ms := by
  unfold castSeconds
  rw [if_pos h, max_eq_right]
  unfold roundSeconds
  omega

/-! ## What is written -/

namespace Participant

def initiator (now : Time) : Participant := ⟨.joined, true, some now, none, 0⟩

def invitee : Participant := ⟨.ringing, false, none, none, 0⟩

/-- `join`, which inserts the row or writes over it. -/
def join (row : Option Participant) (now : Time) : Participant :=
  match row with
  | none => ⟨.joined, false, some now, none, 0⟩
  | some row => { row with state := .joined, joinedAt := some now, leftAt := none }

def decline (row : Participant) (busy : Bool) (now : Time) : Participant :=
  { row with state := if busy then .busy else .declined, leftAt := some now }

/-- `leave`, with `read` as it was read before. -/
def leave (row read : Participant) (now : Time) : Participant :=
  { row with
    state := .left
    leftAt := some now
    totalSeconds := read.totalSeconds + read.joinedAt.elim 0 fun joinedAt => roundSeconds (now - joinedAt) }

def callEnded (row : Participant) (now : Time) : Participant :=
  match row.state with
  | .ringing | .invited => { row with state := .missed, leftAt := some now }
  | .joined => { row with state := .left, leftAt := some now }
  | _ => row

/-- `reconcileStaleCalls` takes a participant for gone who is not in the room. -/
def ghost (row : Participant) (now : Time) : Participant :=
  { row with
    state := .left
    leftAt := some now
    totalSeconds := row.totalSeconds +
      max 0 (row.joinedAt.elim 0 fun joinedAt => castSeconds (now - joinedAt)) }

end Participant

namespace Call

/-- `join`: the first one who answers makes the call active. -/
def joined (call : Call) (now : Time) (count : ℕ) : Call :=
  let call := if call.state = .ringing then
    { call with state := .active, startedAt := some now, ringExpiresAt := none } else call
  { call with peakParticipants := max call.peakParticipants (count + 1) }

def duration (call : Call) (now : Time) : ℤ :=
  call.startedAt.elim 0 fun startedAt => roundSeconds (now - startedAt)

/-- `endCall`, with `read` as it was read before. -/
def ended (call read : Call) (now : Time) (reason : String) : Call :=
  { call with
    state := .ended
    endedAt := some now
    endReason := some reason
    durationSeconds := some (read.duration now) }

/-- `handleRingTimeout` -/
def timedOut (call : Call) (now : Time) : Call :=
  { call with state := .ended, endedAt := some now, endReason := some "timeout", durationSeconds := some 0 }

/-- `reconcileStaleCalls`, of a call that is over the hours. -/
def failed (call : Call) (now : Time) : Call :=
  { call with state := .ended, endedAt := some now, endReason := some "failed" }

/-- `reconcileStaleCalls`, of a call that nobody is in. -/
def emptied (call : Call) (now : Time) : Call :=
  { call with
    state := .ended
    endedAt := some now
    endReason := some "hangup"
    durationSeconds := some (call.startedAt.elim 0 fun startedAt => castSeconds (now - startedAt)) }

def stale (call : Call) (now : Time) : Bool := call.state ≠ .ended && call.createdAt + 6 * 3600 * 1000 < now

def settled (call : Call) (now : Time) : Bool :=
  call.state = .active && call.startedAt.any fun startedAt => startedAt + 2 * 60 * 1000 < now

end Call

end Yappy.Calls
