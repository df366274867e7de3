import Yappy.CallTables
import Yappy.Runs

/-!
# Talk time

One participant of one call, and what is done about them one request or job after another: the
handlers of `apps/api/src/routes/calls.ts` and the jobs of `apps/worker/src/jobs/calls.ts`. Next to
the rows stands what an observer of the participant's state would have written down.
-/
namespace Yappy.Calls.TalkTime

open Permissions (Time)

structure State where
  call : Call
  participant : Option Participant
  clock : Time
  spans : List (Time × Time)
  since : Option Time

inductive Event
  /-- With `JOIN_CALL` or without it, and with how many others joined. -/
  | join (permitted : Bool) (others : ℕ)
  | leave (others : ℕ)
  /-- Someone ends the call, or leaves it or declines it as the last one. -/
  | endCall (reason : String)
  | ringTimeout
  | answered (others : ℕ)
  /-- `participantsIn` has the participant or not, or cannot tell; of the others some are left. -/
  | reconcile (present : Option Bool) (others : ℕ)

def isJoined (participant : Option Participant) : Bool := participant.any fun p => p.state = .joined

namespace State

def observe (s : State) (now : Time) (call : Call) (participant : Option Participant) : State where
  call := call
  participant := participant
  clock := now
  spans := match s.since, isJoined participant with
    | some a, false => (a, now) :: s.spans
    | _, _ => s.spans
  since := match s.since, isJoined participant with
    | none, true => some now
    | some a, true => some a
    | _, false => none

def count (s : State) (others : ℕ) : ℕ := others + if isJoined s.participant then 1 else 0

def admits (s : State) (permitted : Bool) (others : ℕ) : Bool :=
  s.call.state ≠ .ended && (if s.call.conversationId.isSome then permitted else s.participant.isSome) &&
    s.count others < s.call.maxParticipants

def join (s : State) (now : Time) (permitted : Bool) (others : ℕ) : State :=
  if s.admits permitted others then
    s.observe now (s.call.joined now (s.count others)) (some (Participant.join s.participant now))
  else s.observe now s.call s.participant

def endCall (s : State) (now : Time) (reason : String) : State :=
  if s.call.state = .ended then s.observe now s.call s.participant
  else s.observe now (s.call.ended s.call now reason) (s.participant.map fun p => p.callEnded now)

def leave (s : State) (now : Time) (others : ℕ) : State :=
  match s.participant with
  | none => s.observe now s.call none
  | some p =>
    let left := s.observe now s.call (some (p.leave p now))
    if others = 0 then left.endCall now "hangup" else left

def ringTimeout (s : State) (now : Time) : State :=
  if s.call.state = .ringing && s.call.ringExpiresAt.all fun expires => expires ≤ now then
    s.observe now (s.call.timedOut now) (s.participant.map fun p => p.callEnded now)
  else s.observe now s.call s.participant

def answered (s : State) (now : Time) (others : ℕ) : State :=
  if s.call.state = .ended then s.observe now s.call s.participant
  else s.observe now (s.call.joined now (s.count others)) s.participant

def isGhost (s : State) (now : Time) (present : Option Bool) : Bool :=
  s.call.settled now && present = some false && s.participant.any fun p =>
    p.state = .joined && p.joinedAt.any fun joinedAt => joinedAt + 90 * 1000 < now

/-- `reconcileStaleCalls`: first the calls over the hours, then the ghosts, then the empty calls. -/
def reconcile (s : State) (now : Time) (present : Option Bool) (others : ℕ) : State :=
  let failed := if s.call.stale now then s.observe now (s.call.failed now) s.participant
    else s.observe now s.call s.participant
  let cleared := if failed.isGhost now present then
    failed.observe now failed.call (failed.participant.map fun p => p.ghost now) else failed
  if cleared.call.settled now && cleared.count others = 0 then
    cleared.observe now (cleared.call.emptied now) cleared.participant
  else cleared

def handle (s : State) (now : Time) : Event → State
  | .join permitted others => s.join now permitted others
  | .leave others => s.leave now others
  | .endCall reason => s.endCall now reason
  | .ringTimeout => s.ringTimeout now
  | .answered others => s.answered now others
  | .reconcile present others => s.reconcile now present others

def started (call : Call) (participant : Option Participant) : State where
  call := call
  participant := participant
  clock := call.createdAt
  spans := []
  since := if isJoined participant then some call.createdAt else none

def totalSeconds (s : State) : ℤ := s.participant.elim 0 Participant.totalSeconds

def intervals (s : State) : List (Time × Time) :=
  (s.since.map fun a => (a, s.clock)).toList ++ s.spans

def length (l : List (Time × Time)) : ℤ := (l.map fun x => (x.2 : ℤ) - x.1).sum

/-- What was counted is the time the participant was joined, but for half a second an interval. -/
def Counts (s : State) : Prop := |1000 * s.totalSeconds - length s.intervals| ≤ 500 * s.intervals.length

end State

/-- Whatever happens, it does not happen before what happened before. -/
def Step (s : State) (event : Time × Event) (s' : State) : Prop :=
  s.clock ≤ event.1 ∧ s' = s.handle event.1 event.2

/-- A participant joins who is not joined, leaves who is, or never was, and is not joined when the
call ends. -/
def Careful (s : State) (event : Time × Event) : Prop :=
  match event.2 with
  | .join permitted others => s.admits permitted others = true → isJoined s.participant = false
  | .leave _ => ∀ p, s.participant = some p → p.joinedAt ≠ none → p.state = .joined
  | .endCall _ => s.call.state ≠ .ended → isJoined s.participant = false
  | .ringTimeout => s.call.state = .ringing → isJoined s.participant = false
  | .answered _ => True
  | .reconcile _ _ => s.call.stale event.1 = true → isJoined s.participant = false

/-- How a call starts: with the row of its initiator, of someone called, or without one. -/
inductive Opened : State → Prop
  | initiator {call : Call} (h : call.state = .ringing) :
      Opened (.started call (some (.initiator call.createdAt)))
  | invitee {call : Call} (h : call.state = .ringing) : Opened (.started call (some .invitee))
  | stranger {call : Call} (h : call.state = .ringing) : Opened (.started call none)

/-! ## Every step counts -/

structure Counted (s : State) : Prop where
  since : s.since = s.participant.bind fun p => if p.state = .joined then p.joinedAt else none
  joinedAt : ∀ p, s.participant = some p → p.state = .joined → p.joinedAt ≠ none
  ordered : ∀ a, s.since = some a → a ≤ s.clock
  finished : s.call.state = .ended → isJoined s.participant = false
  counted : |1000 * s.totalSeconds - State.length s.spans| ≤ 500 * s.spans.length

section Observe
variable {s : State} {now : Time} {call : Call} {participant : Option Participant}

lemma isJoined_eq_false : isJoined participant = false ↔ ∀ p, participant = some p → p.state ≠ .joined := by
  cases participant with
  | none => simp [isJoined]
  | some p => simp [isJoined]

lemma Counted.since_eq_none (h : Counted s) (hjoined : isJoined s.participant = false) : s.since = none := by
  rw [h.since]
  cases hp : s.participant with
  | none => rfl
  | some p => exact if_neg (isJoined_eq_false.mp hjoined p hp)

lemma Counted.since_eq_some (h : Counted s) {p : Participant} (hp : s.participant = some p)
    (hjoined : p.state = .joined) : ∃ a, p.joinedAt = some a ∧ s.since = some a ∧ a ≤ s.clock := by
  obtain ⟨a, ha⟩ := Option.ne_none_iff_exists'.mp (h.joinedAt p hp hjoined)
  have hsince : s.since = some a := by
    rw [h.since, hp, Option.bind_some, if_pos hjoined, ha]
  exact ⟨a, ha, hsince, h.ordered a hsince⟩

lemma Counted.observe_same (h : Counted s) (hnow : s.clock ≤ now)
    (hfinished : call.state = .ended → isJoined s.participant = false) :
    Counted (s.observe now call s.participant) := by
  cases hjoined : isJoined s.participant with
  | false =>
    have hnone := h.since_eq_none hjoined
    have hobserved : s.observe now call s.participant = ⟨call, s.participant, now, s.spans, none⟩ := by
      unfold State.observe
      rw [hjoined, hnone]
    rw [hobserved]
    exact ⟨hnone.symm.trans h.since, h.joinedAt, nofun, fun _ => hjoined, h.counted⟩
  | true =>
    cases hsince : s.since with
    | none =>
      exfalso
      obtain ⟨p, hp, hstate⟩ := (Option.any_eq_true ..).mp hjoined
      obtain ⟨a, -, ha, -⟩ := h.since_eq_some hp (of_decide_eq_true hstate)
      cases hsince.symm.trans ha
    | some a =>
      have hobserved : s.observe now call s.participant = ⟨call, s.participant, now, s.spans, some a⟩ := by
        unfold State.observe
        rw [hjoined, hsince]
      rw [hobserved]
      refine ⟨hsince.symm.trans h.since, h.joinedAt, fun b hb => ?_, fun hended => ?_, h.counted⟩
      · obtain rfl := Option.some.inj hb
        exact (h.ordered a hsince).trans hnow
      · exact hfinished hended

lemma Counted.observe_out (h : Counted s) (hbefore : isJoined s.participant = false)
    (hafter : isJoined participant = false)
    (htotal : participant.elim 0 Participant.totalSeconds = s.totalSeconds) :
    Counted (s.observe now call participant) := by
  have hobserved : s.observe now call participant = ⟨call, participant, now, s.spans, none⟩ := by
    unfold State.observe
    rw [hafter, h.since_eq_none hbefore]
  have hout := isJoined_eq_false.mp hafter
  rw [hobserved]
  refine ⟨?_, fun p hp hjoined => absurd hjoined (hout p hp), nofun, fun _ => hafter, ?_⟩
  · cases participant with
    | none => rfl
    | some p => exact (if_neg (hout p rfl)).symm
  · have hcounted := h.counted
    rw [← htotal] at hcounted
    exact hcounted

lemma Counted.observe_join (h : Counted s) (hbefore : isJoined s.participant = false)
    (hcall : call.state ≠ .ended) :
    Counted (s.observe now call (some (Participant.join s.participant now))) := by
  have hstate : (Participant.join s.participant now).state = .joined := by
    cases s.participant <;> rfl
  have hat : (Participant.join s.participant now).joinedAt = some now := by
    cases s.participant <;> rfl
  have htotal : (Participant.join s.participant now).totalSeconds = s.totalSeconds := by
    unfold State.totalSeconds
    cases s.participant <;> rfl
  have hjoined : isJoined (some (Participant.join s.participant now)) = true := by
    simp [isJoined, hstate]
  have hobserved : s.observe now call (some (Participant.join s.participant now)) =
      ⟨call, some (Participant.join s.participant now), now, s.spans, some now⟩ := by
    unfold State.observe
    rw [hjoined, h.since_eq_none hbefore]
  rw [hobserved]
  refine ⟨?_, fun p hp _ => ?_, fun a ha => ?_, fun hended => absurd hended hcall, ?_⟩
  · change some now = if (Participant.join s.participant now).state = .joined then _ else _
    rw [if_pos hstate, hat]
  · obtain rfl := Option.some.inj hp
    rw [hat]
    simp
  · exact (Option.some.inj ha).ge
  · change |1000 * (Participant.join s.participant now).totalSeconds - _| ≤ _
    rw [htotal]
    exact h.counted

lemma Counted.observe_leave (h : Counted s) {p p' : Participant} {a : Time}
    (hp : s.participant = some p) (hjoined : p.state = .joined) (hat : p.joinedAt = some a)
    (hout : p'.state ≠ .joined) (htotal : p'.totalSeconds = p.totalSeconds + roundSeconds (now - a)) :
    Counted (s.observe now call (some p')) := by
  obtain ⟨a', hat', hsince, hle⟩ := h.since_eq_some hp hjoined
  obtain rfl := Option.some.inj (hat.symm.trans hat')
  have hafter : isJoined (some p') = false := by simp [isJoined, hout]
  have hobserved : s.observe now call (some p') = ⟨call, some p', now, (a, now) :: s.spans, none⟩ := by
    unfold State.observe
    rw [hafter, hsince]
  rw [hobserved]
  refine ⟨(if_neg hout).symm, fun q hq hj => ?_, nofun, fun _ => hafter, ?_⟩
  · obtain rfl := Option.some.inj hq
    exact absurd hj hout
  · have hcounted := h.counted
    have hbefore : s.totalSeconds = p.totalSeconds := by
      unfold State.totalSeconds
      rw [hp]
      rfl
    have hlength : State.length ((a, now) :: s.spans) = ((now : ℤ) - a) + State.length s.spans :=
      List.sum_cons
    obtain ⟨hlow, hhigh⟩ := roundSeconds_near (now - a)
    rw [hbefore, abs_le] at hcounted
    change |1000 * p'.totalSeconds - _| ≤ _
    rw [htotal, hlength, abs_le, List.length_cons]
    push_cast
    constructor <;> linarith [hcounted.1, hcounted.2]

end Observe

section Handlers
variable {s s' s₀ : State} {now : Time} {event : Time × Event}

lemma callEnded_out {p : Participant} (h : p.state ≠ .joined) :
    (p.callEnded now).state ≠ .joined ∧ (p.callEnded now).totalSeconds = p.totalSeconds := by
  unfold Participant.callEnded
  cases hp : p.state with
  | joined => exact absurd hp h
  | ringing => exact ⟨nofun, rfl⟩
  | invited => exact ⟨nofun, rfl⟩
  | left => exact ⟨by simp [hp], rfl⟩
  | declined => exact ⟨by simp [hp], rfl⟩
  | missed => exact ⟨by simp [hp], rfl⟩
  | busy => exact ⟨by simp [hp], rfl⟩

lemma Counted.observe_ended (h : Counted s) (hbefore : isJoined s.participant = false) (call : Call) :
    Counted (s.observe now call (s.participant.map fun p => p.callEnded now)) := by
  have hout := isJoined_eq_false.mp hbefore
  refine h.observe_out hbefore ?_ ?_
  · refine isJoined_eq_false.mpr fun p hp => ?_
    obtain ⟨q, hq, rfl⟩ := Option.map_eq_some_iff.mp hp
    exact (callEnded_out (hout q hq)).1
  · unfold State.totalSeconds
    cases hp : s.participant with
    | none => rfl
    | some p => exact (callEnded_out (hout p hp)).2

lemma join_counted (h : Counted s) (hnow : s.clock ≤ now) (permitted : Bool) (others : ℕ)
    (hok : s.admits permitted others = true → isJoined s.participant = false) :
    Counted (s.join now permitted others) := by
  unfold State.join
  split_ifs with hadmits
  · refine h.observe_join (hok hadmits) ?_
    have hlive : s.call.state ≠ .ended := by
      unfold State.admits at hadmits
      simp only [Bool.and_eq_true] at hadmits
      exact of_decide_eq_true hadmits.1.1
    unfold Call.joined
    split_ifs <;> simp [hlive]
  · exact h.observe_same hnow h.finished

lemma endCall_counted (h : Counted s) (hnow : s.clock ≤ now) (reason : String)
    (hok : s.call.state ≠ .ended → isJoined s.participant = false) : Counted (s.endCall now reason) := by
  unfold State.endCall
  split_ifs with hended
  · exact h.observe_same hnow h.finished
  · exact h.observe_ended (hok hended) _

lemma leave_counted (h : Counted s) (hnow : s.clock ≤ now) (others : ℕ)
    (hok : ∀ p, s.participant = some p → p.joinedAt ≠ none → p.state = .joined) :
    Counted (s.leave now others) := by
  unfold State.leave
  cases hp : s.participant with
  | none =>
    have hsame := h.observe_same hnow h.finished
    rw [hp] at hsame
    exact hsame
  | some p =>
    have hleft : Counted (s.observe now s.call (some (p.leave p now))) := by
      cases hat : p.joinedAt with
      | none =>
        have hstate : p.state ≠ .joined := fun hj => h.joinedAt p hp hj hat
        refine h.observe_out (isJoined_eq_false.mpr fun q hq => ?_) (by simp [isJoined, Participant.leave]) ?_
        · obtain rfl := Option.some.inj (hp.symm.trans hq)
          exact hstate
        · simp [Participant.leave, State.totalSeconds, hp, hat]
      | some a =>
        exact h.observe_leave hp (hok p hp (by simp [hat])) hat (by simp [Participant.leave])
          (by simp [Participant.leave, hat])
    dsimp only
    split_ifs
    · exact endCall_counted hleft le_rfl "hangup" fun _ => by simp [State.observe, isJoined, Participant.leave]
    · exact hleft

lemma ringTimeout_counted (h : Counted s) (hnow : s.clock ≤ now)
    (hok : s.call.state = .ringing → isJoined s.participant = false) : Counted (s.ringTimeout now) := by
  unfold State.ringTimeout
  split_ifs with hfires
  · exact h.observe_ended (hok (of_decide_eq_true (Bool.and_eq_true _ _ ▸ hfires).1)) _
  · exact h.observe_same hnow h.finished

lemma answered_counted (h : Counted s) (hnow : s.clock ≤ now) (others : ℕ) :
    Counted (s.answered now others) := by
  unfold State.answered
  split_ifs with hended
  · exact h.observe_same hnow h.finished
  · refine h.observe_same hnow fun hover => ?_
    exfalso
    unfold Call.joined at hover
    split_ifs at hover
    exact hended hover

lemma ghost_counted (h : Counted s) (hnow : s.clock ≤ now) {present : Option Bool}
    (hghost : s.isGhost now present = true) :
    Counted (s.observe now s.call (s.participant.map fun p => p.ghost now)) := by
  unfold State.isGhost at hghost
  simp only [Bool.and_eq_true] at hghost
  obtain ⟨p, hp, hjoined⟩ := (Option.any_eq_true ..).mp hghost.2
  have hstate : p.state = .joined := of_decide_eq_true (Bool.and_eq_true _ _ ▸ hjoined).1
  obtain ⟨a, hat, hsince, hle⟩ := h.since_eq_some hp hstate
  have hnonneg : (0 : ℤ) ≤ now - a := sub_nonneg.mpr (Nat.cast_le.mpr (hle.trans hnow))
  rw [hp]
  exact h.observe_leave hp hstate hat (by simp [Participant.ghost])
    (by simp [Participant.ghost, hat, castSeconds_of_nonneg hnonneg])

lemma reconcile_counted (h : Counted s) (hnow : s.clock ≤ now) (present : Option Bool) (others : ℕ)
    (hok : s.call.stale now = true → isJoined s.participant = false) :
    Counted (s.reconcile now present others) := by
  unfold State.reconcile
  generalize hfailed : (if s.call.stale now then s.observe now (s.call.failed now) s.participant
    else s.observe now s.call s.participant) = failed
  have hf : Counted failed ∧ failed.clock = now := by
    rw [← hfailed]
    split_ifs with hstale
    · exact ⟨h.observe_same hnow fun _ => hok hstale, rfl⟩
    · exact ⟨h.observe_same hnow h.finished, rfl⟩
  dsimp only
  generalize hcleared : (if failed.isGhost now present then
    failed.observe now failed.call (failed.participant.map fun p => p.ghost now) else failed) = cleared
  have hc : Counted cleared ∧ cleared.clock = now := by
    rw [← hcleared]
    split_ifs with hghost
    · exact ⟨ghost_counted hf.1 hf.2.le hghost, rfl⟩
    · exact hf
  split_ifs with hempty
  · refine hc.1.observe_same hc.2.le fun _ => ?_
    have hzero : cleared.count others = 0 := of_decide_eq_true (Bool.and_eq_true _ _ ▸ hempty).2
    unfold State.count at hzero
    cases hjoined : isJoined cleared.participant with
    | false => rfl
    | true =>
      rw [hjoined, if_pos rfl] at hzero
      omega
  · exact hc.1

lemma started_counted (h : Opened s) : Counted s := by
  cases h with
  | @initiator call hringing =>
    refine ⟨rfl, fun p hp _ => ?_, fun a ha => ?_, fun hended => ?_, by simp [State.totalSeconds, State.started,
      Participant.initiator, State.length]⟩
    · obtain rfl := Option.some.inj hp
      simp [Participant.initiator]
    · exact (Option.some.inj ha).ge
    · cases hringing.symm.trans hended
  | invitee =>
    refine ⟨rfl, fun p hp hj => ?_, nofun, fun _ => rfl, by simp [State.totalSeconds, State.started,
      Participant.invitee, State.length]⟩
    obtain rfl := Option.some.inj hp
    cases hj
  | stranger =>
    exact ⟨rfl, nofun, nofun, fun _ => rfl, by simp [State.totalSeconds, State.started, State.length]⟩

lemma step_counted (h : Counted s) (hok : Careful s event) (hs : Step s event s') : Counted s' := by
  obtain ⟨now, event⟩ := event
  obtain ⟨hnow, rfl⟩ := hs
  cases event with
  | join permitted others => exact join_counted h hnow permitted others hok
  | leave others => exact leave_counted h hnow others hok
  | endCall reason => exact endCall_counted h hnow reason hok
  | ringTimeout => exact ringTimeout_counted h hnow hok
  | answered others => exact answered_counted h hnow others
  | reconcile present others => exact reconcile_counted h hnow present others hok

/-- A whole run. -/
theorem run_counts (hstart : Opened s₀) (h : RunWhere Step Careful s₀ s) (hended : s.call.state = .ended) :
    s.Counts := by
  have hcounted : Counted s := h.invariant (started_counted hstart) fun _ _ _ hinv hok hs => step_counted hinv hok hs
  have hnone := hcounted.since_eq_none (hcounted.finished hended)
  unfold State.Counts State.intervals
  rw [hnone]
  exact hcounted.counted

end Handlers

namespace Sample

def call : Call := ⟨none, some 10, .ringing, "n", 32, 0, some 45000, none, none, none, none, 0⟩

def started : State := .started call (some (.initiator 0))

def talked : State := (started.handle 0 (.answered 0)).handle 10000 (.leave 1)

def hungUp : State := talked.handle 20000 (.endCall "hangup")

def leftTwice : State := (talked.handle 15000 (.leave 1)).handle 20000 (.endCall "hangup")

end Sample

open Sample

theorem run_counts_hungUp : hungUp.Counts := by
  have hrun : RunWhere Step Careful Sample.started hungUp := by
    refine (((RunWhere.refl _).tail (i := (0, .answered 0)) trivial ⟨le_rfl, rfl⟩).tail
      (i := (10000, .leave 1)) ?_ ⟨by decide, rfl⟩).tail (i := (20000, .endCall "hangup")) ?_ ⟨by decide, rfl⟩
    · intro p hp _
      obtain rfl := Option.some.inj hp
      rfl
    · exact fun _ => rfl
  exact run_counts (.initiator rfl) hrun rfl

/-- Whoever leaves twice is counted twice. -/
theorem left_twice_counts_twice :
    ¬ ∀ s₀ s : State, Opened s₀ → RunWhere Step (fun _ _ => True) s₀ s → s.call.state = .ended → s.Counts := by
  intro h
  have hrun : RunWhere Step (fun _ _ => True) Sample.started leftTwice :=
    ((((RunWhere.refl _).tail (i := (0, .answered 0)) trivial ⟨le_rfl, rfl⟩).tail
      (i := (10000, .leave 1)) trivial ⟨by decide, rfl⟩).tail
      (i := (15000, .leave 1)) trivial ⟨by decide, rfl⟩).tail
      (i := (20000, .endCall "hangup")) trivial ⟨by decide, rfl⟩
  have hcounts := h Sample.started leftTwice (.initiator rfl) hrun rfl
  unfold State.Counts at hcounts
  revert hcounts
  decide

end Yappy.Calls.TalkTime
