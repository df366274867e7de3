import Yappy.MessageRoutes
import Yappy.Runs

/-!
# The history of a message

`edit` of `apps/api/src/services/messages.ts`, as any number of calls carry it out on one message at a time:
each reads the row, checks, and then writes what it has read to `message_revisions` and its own text to the
row in one transaction. What others see of the transaction they see when it commits.
-/
namespace Yappy.EditHistory

open Markdown (Text)
open MessageRoutes (Revision)
open MessageService (Context Message Patch checkEdit)
open Permissions (Time Uuid)

structure Edit where
  actorId : Uuid
  patch : Patch
  row : Message
  /-- `now()` of its transaction, once that has begun. -/
  startedAt : Option Time

structure State where
  clock : Time
  message : Message
  past : List (Option Text)
  /-- The rows of `message_revisions`, as they were committed. -/
  revisions : List Revision
  edits : ℕ → Option Edit

namespace State
variable (s : State)

def setEdit (n : ℕ) (e : Option Edit) : State := { s with edits := Function.update s.edits n e }

/-- What a moderator is shown, in the order of `edited_at`. -/
def history : List (Option Text) :=
  (s.revisions.mergeSort fun a b => a.editedAt ≤ b.editedAt).map Revision.content

def Complete : Prop := s.history = s.past

def commit (e : Edit) (startedAt date : Time) : State := { s with
  message := e.patch.apply e.row date s.message
  past := s.past ++ [s.message.content]
  -- a card never said anything, so nothing of it is kept
  revisions := if e.row.cardKey.isSome then s.revisions
    else s.revisions ++ [⟨e.row.id, e.row.content, startedAt⟩] }

end State

inductive Event
  | read (n : ℕ)
  | begin (n : ℕ)
  | commit (n : ℕ)
  | abort (n : ℕ)
  | tick

inductive Step : State → Event → State → Prop
  | read {s : State} {n : ℕ} {actorId : Uuid} {patch : Patch} (hn : s.edits n = none) :
      Step s (.read n) (s.setEdit n (some ⟨actorId, patch, s.message, none⟩))
  | begin {s : State} {n : ℕ} {e : Edit} {ctx : Context} (he : s.edits n = some e) (hstage : e.startedAt = none)
      (hok : checkEdit ctx e.actorId e.patch e.row = .ok ()) :
      Step s (.begin n) (s.setEdit n (some { e with startedAt := some s.clock }))
  | commit {s : State} {n : ℕ} {e : Edit} {startedAt date : Time} (he : s.edits n = some e)
      (hstage : e.startedAt = some startedAt) : Step s (.commit n) ((s.commit e startedAt date).setEdit n none)
  | abort {s : State} {n : ℕ} : Step s (.abort n) (s.setEdit n none)
  | tick {s : State} {now : Time} (hle : s.clock ≤ now) : Step s .tick { s with clock := now }

/-- Nothing has come between: the message still says what the edit has read, and no edit has committed whose
transaction began when this one's did, or later. -/
def Unmoved (s : State) : Event → Prop
  | .commit n => ∀ e startedAt, s.edits n = some e → e.startedAt = some startedAt →
      e.row.content = s.message.content ∧ ∀ r ∈ s.revisions, r.editedAt < startedAt
  | .read _ | .begin _ | .abort _ | .tick => True

def sent (m : Message) (clock : Time) : State := ⟨clock, m, [], [], fun _ => none⟩

variable {m : Message} {s s' : State} {event : Event} {clock : Time}

structure Kept (s : State) : Prop where
  message : s.message.cardKey = none
  read : ∀ n e, s.edits n = some e → e.row.cardKey = none
  ordered : s.revisions.Pairwise fun a b => a.editedAt < b.editedAt
  contents : s.revisions.map Revision.content = s.past

lemma Kept.complete (h : Kept s) : s.Complete := by
  have hsorted : (s.revisions.mergeSort fun a b => decide (a.editedAt ≤ b.editedAt)) = s.revisions :=
    List.mergeSort_of_pairwise (h.ordered.imp fun hlt => decide_eq_true hlt.le)
  unfold State.Complete State.history
  rw [hsorted, h.contents]

lemma sent_kept (hcard : m.cardKey = none) : Kept (sent m clock) where
  message := hcard
  read _ _ he := absurd he.symm (Option.some_ne_none _)
  ordered := .nil
  contents := rfl

lemma Kept.setEdit (h : Kept s) {n : ℕ} {e : Option Edit} (hrow : ∀ e', e = some e' → e'.row.cardKey = none) :
    Kept (s.setEdit n e) where
  message := h.message
  read n' e' he' := by
    have hedits : (s.setEdit n e).edits n' = if n' = n then e else s.edits n' := Function.update_apply ..
    rw [hedits] at he'
    split_ifs at he'
    · exact hrow e' he'
    · exact h.read n' e' he'
  ordered := h.ordered
  contents := h.contents

lemma Kept.commit (h : Kept s) {e : Edit} {startedAt date : Time} (hcard : e.row.cardKey = none)
    (hcontent : e.row.content = s.message.content) (hlater : ∀ r ∈ s.revisions, r.editedAt < startedAt) :
    Kept (s.commit e startedAt date) := by
  have hrevisions : (s.commit e startedAt date).revisions = s.revisions ++ [⟨e.row.id, e.row.content, startedAt⟩] := by
    unfold State.commit
    rw [hcard]
    rfl
  refine ⟨h.message, h.read, ?_, ?_⟩
  · rw [hrevisions, List.pairwise_append]
    refine ⟨h.ordered, List.pairwise_singleton _ _, fun r hr r' hr' => ?_⟩
    obtain rfl := List.mem_singleton.mp hr'
    exact hlater r hr
  · rw [hrevisions, List.map_append, h.contents, List.map_singleton, hcontent]
    rfl

lemma step_kept (h : Kept s) (hok : Unmoved s event) (hs : Step s event s') : Kept s' := by
  cases hs with
  | read hn =>
    refine h.setEdit fun e he => ?_
    obtain rfl := Option.some.inj he
    exact h.message
  | «begin» he hstage hcheck =>
    have hcard := h.read _ _ he
    refine h.setEdit fun e' he' => ?_
    rw [← Option.some.inj he']
    exact hcard
  | commit he hstage =>
    obtain ⟨hcontent, hlater⟩ := hok _ _ he hstage
    exact (h.commit (h.read _ _ he) hcontent hlater).setEdit fun _ he => absurd he.symm (Option.some_ne_none _)
  | abort => exact h.setEdit fun _ he => absurd he.symm (Option.some_ne_none _)
  | tick => exact { h with }

/-- Of a message that is not a card, the revisions are the contents it has held before, as long as every edit that
commits does so with nothing in between. -/
theorem run_complete (hcard : m.cardKey = none) (h : RunWhere Step Unmoved (sent m clock) s) : s.Complete :=
  (h.invariant (sent_kept hcard) fun _ _ _ hinv hok hs => step_kept hinv hok hs).complete

namespace Sample

def author : Uuid := 10

def context : Context where
  isBoard := false
  isForum := false
  disappearingSeconds := 0
  permissions := some Permissions.Permission.editOwnMessages
  isBot := false
  badge := none
  refusal := none
  clock := 0

def text (unit : UInt16) : Text := [unit]

def message : Message where
  id := 1
  conversationId := 2
  senderId := author
  type := .text
  content := some (text 97)
  title := none
  entities := none
  nonce := none
  cardKey := none
  embeds := []
  components := []
  expiresAt := none
  createdAt := 0
  editedAt := none
  deletedAt := none
  deletedById := none

def rewording (unit : UInt16) : Patch := ⟨some (some (text unit)), none, none, none⟩

def edit (unit : UInt16) (row : Message) (startedAt : Option Time) : Edit := ⟨author, rewording unit, row, startedAt⟩

lemma allowed (unit : UInt16) : checkEdit context author (rewording unit) message = .ok () := rfl

end Sample

open Sample in
/-- One edit alone. -/
theorem run_complete_alone : ∃ s, RunWhere Step Unmoved (sent message 0) s ∧ s.past = [some (text 97)] ∧ s.Complete := by
  have hread := @Step.read (sent message 0) 0 author (rewording 98) rfl
  have hbegin := @Step.begin ((sent message 0).setEdit 0 (some (edit 98 message none))) 0 (edit 98 message none) context
    rfl rfl (allowed 98)
  have hcommit := @Step.commit (((sent message 0).setEdit 0 (some (edit 98 message none))).setEdit 0
    (some (edit 98 message (some 0)))) 0 (edit 98 message (some 0)) 0 0 rfl rfl
  have hrun : RunWhere Step Unmoved (sent message 0) _ := ((RunWhere.refl _).on hread trivial).on hbegin trivial
  have hend := hrun.on hcommit fun e startedAt he _ => by
    obtain rfl := Option.some.inj he
    exact ⟨rfl, nofun⟩
  exact ⟨_, hend, rfl, run_complete rfl hend⟩

open Sample in
/-- Two edits that both read the first text: what the one that commits first has written is in no revision. -/
theorem overlapping_lost : ∃ s, RunWhere Step (fun _ _ => True) (sent message 0) s ∧
    s.past = [some (text 97), some (text 98)] ∧ s.history = [some (text 97), some (text 97)] ∧ ¬ s.Complete := by
  let s₂ := ((sent message 0).setEdit 0 (some (edit 98 message none))).setEdit 1 (some (edit 99 message none))
  let s₄ : State := { s₂.setEdit 0 (some (edit 98 message (some 0))) with clock := 1 }
  let s₅ := s₄.setEdit 1 (some (edit 99 message (some 1)))
  let s₆ := (s₅.commit (edit 98 message (some 0)) 0 1).setEdit 0 none
  have hread := @Step.read (sent message 0) 0 author (rewording 98) rfl
  have hread' := @Step.read ((sent message 0).setEdit 0 (some (edit 98 message none))) 1 author (rewording 99) rfl
  have hbegin := @Step.begin s₂ 0 (edit 98 message none) context rfl rfl (allowed 98)
  have htick := @Step.tick (s₂.setEdit 0 (some (edit 98 message (some 0)))) 1 (Nat.zero_le 1)
  have hbegin' := @Step.begin s₄ 1 (edit 99 message none) context rfl rfl (allowed 99)
  have hcommit := @Step.commit s₅ 0 (edit 98 message (some 0)) 0 1 rfl rfl
  have hcommit' := @Step.commit s₆ 1 (edit 99 message (some 1)) 1 1 rfl rfl
  have hrun : RunWhere Step (fun _ _ => True) (sent message 0) s₄ :=
    ((((RunWhere.refl _).on hread trivial).on hread' trivial).on hbegin trivial).on htick trivial
  have hsorted : ∀ a b : Revision, a.editedAt ≤ b.editedAt →
      ([a, b].mergeSort fun a b => decide (a.editedAt ≤ b.editedAt)) = [a, b] := fun a b h =>
    List.mergeSort_of_pairwise (by simp [h])
  have hhistory := congrArg (List.map Revision.content)
    (hsorted ⟨1, some (text 97), 0⟩ ⟨1, some (text 97), 1⟩ (Nat.zero_le 1))
  refine ⟨_, ((hrun.on hbegin' trivial).on hcommit trivial).on hcommit' trivial, rfl, hhistory, fun hcomplete => ?_⟩
  have hsame : [some (text 97), some (text 97)] = [some (text 97), some (text 98)] := hhistory.symm.trans hcomplete
  exact absurd hsame (by decide)

end Yappy.EditHistory
