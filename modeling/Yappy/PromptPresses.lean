import Yappy.MessageMarkdown
import Yappy.UsernameHistory

/-!
# Pressing a confirmation

The buttons of `apps/api/src/lib/yapper.ts` that a stored prompt is behind: sending an announcement, submitting
a report and claiming a username, as `pressButton` of `apps/api/src/lib/interactions.ts` gets to them. A press
reads the prompt, acts on it and deletes it in separate statements, and any number of presses are under way.
-/
namespace Yappy.Prompts

open Markdown (Text)
open Permissions (Time Uuid)

/-! ## Prompts -/

/-- `data` of a prompt, as far as a confirmation reads it. -/
structure Data where
  audience : Option String
  title : Option Text
  body : Option Text
  footer : Option Text
  targetId : Option Uuid
  targetUsername : Option String
  reason : Option String
  detail : Option Text
  proof : Option Text
  username : Option (List Char)

/-- A row of `bot_prompts`. Every question that is stored gets a number. -/
structure Prompt where
  id : ℕ
  conversationId : Uuid
  state : String
  data : Data
  expiresAt : Time

inductive Button
  | announceSend | reportSubmit | usernameClaim
  deriving DecidableEq

/-- Whether the button goes on with the prompt it finds. A report only asks whom it is about. -/
def Button.takes : Button → Prompt → Bool
  | announceSend, p => p.state = "announce:review"
  | reportSubmit, p => p.data.targetId.isSome
  | usernameClaim, p => p.state = "username:claim"

/-! ## What a confirmation does -/

def reportReasons : List String :=
  ["spam", "harassment", "csam", "violence", "self_harm", "illegal", "impersonation", "other"]

def reportPriority (reason : String) : ℕ :=
  if reason = "csam" then 100 else if reason = "self_harm" then 80 else 0

structure Report where
  reporterId : Uuid
  targetId : Option Uuid
  reason : String
  detail : Option Text
  targetUsername : Option String
  proof : Option Text
  priority : ℕ

structure Broadcast where
  actorId : Uuid
  audience : String
  title : Text
  body : Text
  footer : Option Text

inductive Outcome
  | broadcast (job : Broadcast)
  | report (row : Report)
  | username (userId : Uuid) (name : List Char)

def excerpt (t : Option Text) : Option Text := (t.filter fun t => t ≠ []).map (List.take 1000)

def Data.broadcast (data : Data) (actorId : Uuid) : Broadcast where
  actorId := actorId
  audience := if data.audience = some "everyone" then "everyone" else "staff"
  title := data.title.getD []
  body := data.body.getD []
  footer := data.footer

def Data.report (data : Data) (reporterId : Uuid) : Report :=
  let reason := (data.reason.filter fun r => reportReasons.contains r).getD "other"
  { reporterId := reporterId
    targetId := data.targetId
    reason := reason
    detail := excerpt data.detail
    targetUsername := data.targetUsername
    proof := excerpt data.proof
    priority := reportPriority reason }

/-! ## Presses -/

structure Card where
  conversationId : Uuid
  onlyUserId : Option Uuid
  buttons : List Button

structure Press where
  userId : Uuid
  conversationId : Uuid
  messageId : Uuid
  button : Button

inductive Stage
  /-- `pressButton` has let it through. -/
  | pressed
  /-- The prompt it found is expired or of another conversation, and goes. -/
  | sweeping
  | holding (prompt : Prompt)
  | audited (prompt : Prompt)
  | acted (prompt : Prompt)
  | changing (prompt : Prompt)
  /-- There is an answer; an `update` takes the buttons off the card. -/
  | answering (update : Bool)

namespace Stage

def Holds : Stage → Prop
  | holding _ | audited _ | acted _ => True
  | _ => False

def prompt : Stage → Option Prompt
  | holding p | audited p | acted p | changing p => some p
  | _ => none

def Before : Stage → Prop
  | acted _ => False
  | _ => True

end Stage

structure Effect where
  prompt : ℕ
  outcome : Outcome

structure State where
  prompts : Uuid → Option Prompt
  asked : ℕ
  cards : Uuid → Option Card
  staff : Uuid → Bool
  names : Usernames.State
  presses : ℕ → Option (Press × Stage)
  effects : List Effect

namespace State
variable (s : State)

def setStage (k : ℕ) (press : Press) (stage : Stage) : State :=
  { s with presses := Function.update s.presses k (some (press, stage)) }

def clear (userId : Uuid) : State := { s with prompts := Function.update s.prompts userId none }

def record (prompt : ℕ) (outcome : Outcome) : State :=
  { s with effects := s.effects ++ [⟨prompt, outcome⟩] }

def lose (k : ℕ) : State := { s with presses := Function.update s.presses k none }

def finish (k : ℕ) (press : Press) (update : Bool) : State :=
  { s with
    presses := Function.update s.presses k none
    cards := if update then Function.update s.cards press.messageId
      ((s.cards press.messageId).map fun card => { card with buttons := [] }) else s.cards }

/-- What `getPrompt` makes of the row, and where the press goes from there. -/
def afterRead (press : Press) (now : Time) : Stage :=
  match s.prompts press.userId with
  | none => .answering true
  | some p =>
    if p.expiresAt < now ∨ p.conversationId ≠ press.conversationId then .sweeping
    else if press.button.takes p then .holding p
    else .answering (press.button ≠ .reportSubmit)

end State

def callOf : Usernames.Event → ℕ
  | .check k _ _ | .read k | .stop k | .refuse k | .change k | .clash k => k

inductive Event
  /-- `setPrompt`, in answer to a message, a command or another button. -/
  | ask (userId conversationId : Uuid) (state : String) (data : Data) (expiresAt : Time)
  /-- `clearPrompt`, in the same way. -/
  | drop (userId : Uuid)
  | show (messageId : Uuid) (card : Card)
  | press (k : ℕ) (press : Press)
  | ack (k : ℕ)
  /-- The query of `getPrompt`. -/
  | read (k : ℕ) (now : Time)
  | audit (k : ℕ)
  | send (k : ℕ)
  | file (k : ℕ)
  | clear (k : ℕ)
  /-- `changeUsername`. -/
  | check (k : ℕ)
  | account (k : ℕ)
  | change (k : ℕ)
  | fail (k : ℕ)
  | answer (k : ℕ)
  | lose (k : ℕ)
  | staff (userId : Uuid) (isStaff : Bool)
  | elsewhere (event : Usernames.Event)

def Event.of : Event → Option ℕ
  | press k _ | ack k | read k _ | audit k | send k | file k | clear k | check k | account k | change k
  | fail k | answer k | lose k => some k
  | _ => none

/-- One statement. That the presser is a member and the message is not deleted is taken as seen to. -/
inductive Step : State → Event → State → Prop
  | ask {s : State} (userId conversationId : Uuid) (state : String) (data : Data) (expiresAt : Time) :
      Step s (.ask userId conversationId state data expiresAt)
        { s with
          prompts := Function.update s.prompts userId
            (some ⟨s.asked, conversationId, state, data, expiresAt⟩)
          asked := s.asked + 1 }
  | drop {s : State} (userId : Uuid) : Step s (.drop userId) (s.clear userId)
  | show {s : State} {messageId : Uuid} (card : Card) (hnew : s.cards messageId = none) :
      Step s (.show messageId card) { s with cards := Function.update s.cards messageId (some card) }
  | press {s : State} {k : ℕ} {press : Press} {card : Card} (hfree : s.presses k = none)
      (hcall : s.names.calls k = none) (hcard : s.cards press.messageId = some card)
      (hthere : card.conversationId = press.conversationId) (hbutton : press.button ∈ card.buttons)
      (honly : ∀ userId ∈ card.onlyUserId, userId = press.userId)
      (hstaff : press.button = .announceSend → s.staff press.userId = true) :
      Step s (.press k press) (s.setStage k press .pressed)
  | ack {s : State} {k : ℕ} {press : Press} (hpress : s.presses k = some (press, .pressed))
      (hbutton : press.button = .announceSend) (hstaff : s.staff press.userId = false) :
      Step s (.ack k) (s.setStage k press (.answering false))
  | read {s : State} {k : ℕ} {press : Press} (now : Time) (hpress : s.presses k = some (press, .pressed))
      (hstaff : press.button = .announceSend → s.staff press.userId = true) :
      Step s (.read k now) (s.setStage k press (s.afterRead press now))
  | sweep {s : State} {k : ℕ} {press : Press} (hpress : s.presses k = some (press, .sweeping)) :
      Step s (.clear k) ((s.clear press.userId).setStage k press (.answering true))
  | audit {s : State} {k : ℕ} {press : Press} {p : Prompt} (hpress : s.presses k = some (press, .holding p))
      (hbutton : press.button = .announceSend) :
      Step s (.audit k) (s.setStage k press (.audited p))
  | send {s : State} {k : ℕ} {press : Press} {p : Prompt} (hpress : s.presses k = some (press, .audited p)) :
      Step s (.send k)
        ((s.record p.id (.broadcast (p.data.broadcast press.userId))).setStage k press (.acted p))
  | file {s : State} {k : ℕ} {press : Press} {p : Prompt} (hpress : s.presses k = some (press, .holding p))
      (hbutton : press.button = .reportSubmit) :
      Step s (.file k) ((s.record p.id (.report (p.data.report press.userId))).setStage k press (.acted p))
  | clear {s : State} {k : ℕ} {press : Press} {p : Prompt} (hpress : s.presses k = some (press, .acted p)) :
      Step s (.clear k) ((s.clear press.userId).setStage k press (.answering true))
  | clearFirst {s : State} {k : ℕ} {press : Press} {p : Prompt}
      (hpress : s.presses k = some (press, .holding p)) (hbutton : press.button = .usernameClaim) :
      Step s (.clear k) ((s.clear press.userId).setStage k press (.changing p))
  | check {s : State} {k : ℕ} {press : Press} {p : Prompt} {names : Usernames.State}
      (hpress : s.presses k = some (press, .changing p))
      (hnames : Usernames.Step s.names (.check k press.userId (p.data.username.getD [])) names) :
      Step s (.check k) { s with names := names }
  | account {s : State} {k : ℕ} {press : Press} {p : Prompt} {names : Usernames.State}
      (hpress : s.presses k = some (press, .changing p)) (hnames : Usernames.Step s.names (.read k) names) :
      Step s (.account k) { s with names := names }
  | change {s : State} {k : ℕ} {press : Press} {p : Prompt} {names : Usernames.State}
      (hpress : s.presses k = some (press, .changing p)) (hnames : Usernames.Step s.names (.change k) names) :
      Step s (.change k) ((({ s with names := names } : State).record p.id
        (.username press.userId (p.data.username.getD []))).setStage k press (.answering true))
  | fail {s : State} {k : ℕ} {press : Press} {p : Prompt} {event : Usernames.Event} {names : Usernames.State}
      (hpress : s.presses k = some (press, .changing p)) (hevent : event ∈ [.stop k, .refuse k, .clash k])
      (hnames : Usernames.Step s.names event names) :
      Step s (.fail k) (({ s with names := names } : State).setStage k press (.answering true))
  | answer {s : State} {k : ℕ} {press : Press} {update : Bool}
      (hpress : s.presses k = some (press, .answering update)) :
      Step s (.answer k) (s.finish k press update)
  | lose {s : State} {k : ℕ} {press : Press} {stage : Stage} (hpress : s.presses k = some (press, stage))
      (hstage : ∀ p, stage ≠ .changing p) : Step s (.lose k) (s.lose k)
  | staff {s : State} (userId : Uuid) (isStaff : Bool) :
      Step s (.staff userId isStaff) { s with staff := Function.update s.staff userId isStaff }
  | elsewhere {s : State} {event : Usernames.Event} {names : Usernames.State}
      (hfree : s.presses (callOf event) = none) (hnames : Usernames.Step s.names event names) :
      Step s (.elsewhere event) { s with names := names }

/-! ## One confirmation, one effect -/

namespace State
variable (s : State)

def Stored (userId : Uuid) (id : ℕ) : Prop := ∃ p, s.prompts userId = some p ∧ p.id = id

/-- A press of the user has come to the stage and goes by the prompt with that number. -/
def Goes (k : ℕ) (userId : Uuid) (stage : Stage) (id : ℕ) : Prop :=
  ∃ press p, s.presses k = some (press, stage) ∧ press.userId = userId ∧ stage.prompt = some p ∧ p.id = id

/-- Something was done by the prompt with that number. -/
def Used (id : ℕ) : Prop := id ∈ s.effects.map Effect.prompt

/-- Some press has read the prompt and not deleted it. -/
def Held (id : ℕ) : Prop := ∃ k userId stage, s.Goes k userId stage id ∧ stage.Holds

def opened (cards : Uuid → Option Card) (staff : Uuid → Bool) (names : Usernames.State) : State :=
  ⟨fun _ => none, 0, cards, staff, names, fun _ => none, []⟩

end State

def Once (s : State) : Prop := (s.effects.map Effect.prompt).Nodup

/-- A press that goes on with a prompt is alone with it until it is deleted. -/
def Alone (s : State) : Event → Prop
  | .read k now => ∀ press p, s.presses k = some (press, .pressed) → s.afterRead press now = .holding p →
      ¬s.Held p.id
  | .lose k => ∀ press p, s.presses k ≠ some (press, .acted p)
  | _ => True

/-- What was done, the questions and the names are as they were. -/
def Same (s s' : State) : Prop := s'.effects = s.effects ∧ s'.prompts = s.prompts ∧ s'.names = s.names

/-- What is left of the press changes nothing, whatever the others do in between. -/
def Harmless (s : State) (k : ℕ) : Prop :=
  ∀ s', RunWhere Step (fun _ event => event.of ≠ some k) s s' →
    ∀ event s'', event.of = some k → Step s' event s'' → Same s' s'' ∧ s''.presses k = none

structure Kept (s : State) : Prop where
  stored_lt : ∀ {userId id}, s.Stored userId id → id < s.asked
  goes_lt : ∀ {k userId stage id}, s.Goes k userId stage id → id < s.asked
  used_lt : ∀ {id}, s.Used id → id < s.asked
  distinct : ∀ {u v id}, s.Stored u id → s.Stored v id → u = v
  single : ∀ {k l u v stage stage' id}, s.Goes k u stage id → s.Goes l v stage' id → k = l
  before : ∀ {k userId stage id}, s.Goes k userId stage id → stage.Before → ¬s.Used id
  /-- A prompt that is there is deleted by the press that goes by it. -/
  owned : ∀ {k u v stage id}, s.Goes k u stage id → s.Stored v id → u = v ∧ stage.Holds
  backed : ∀ {userId id}, s.Stored userId id → s.Used id → ∃ k u stage, s.Goes k u stage id ∧ ¬stage.Before
  once : Once s

section
variable {s s' : State} {event : Event} {k : ℕ} {press : Press} {stage stage' : Stage} {userId : Uuid}
  {id : ℕ} {p : Prompt}

lemma goes_of_eq (hpress : s.presses k = some (press, stage)) (hp : stage.prompt = some p) :
    s.Goes k press.userId stage p.id := ⟨press, p, hpress, rfl, hp, rfl⟩

lemma goes_setStage (l : ℕ) : (s.setStage k press stage).Goes l userId stage' id ↔
    if l = k then press.userId = userId ∧ stage' = stage ∧ ∃ p, stage.prompt = some p ∧ p.id = id
    else s.Goes l userId stage' id := by
  unfold State.Goes State.setStage
  split
  next hl =>
    subst hl
    constructor
    · rintro ⟨a, p, ha, rfl, hp, rfl⟩
      obtain ⟨rfl, rfl⟩ : press = a ∧ stage = stage' := by simpa using ha
      exact ⟨rfl, rfl, p, hp, rfl⟩
    · rintro ⟨rfl, rfl, p, hp, rfl⟩
      exact ⟨press, p, by simp, rfl, hp, rfl⟩
  next hl => simp [hl]

lemma goes_lose (l : ℕ) : (s.lose k).Goes l userId stage id ↔ l ≠ k ∧ s.Goes l userId stage id := by
  unfold State.Goes State.lose
  by_cases hl : l = k
  · subst hl
    simp
  · simp [hl]

lemma stored_clear (u : Uuid) : (s.clear userId).Stored u id ↔ u ≠ userId ∧ s.Stored u id := by
  unfold State.Stored State.clear
  by_cases hu : u = userId
  · subst hu
    simp
  · simp [hu]

lemma State.Goes.unique {u v : Uuid} {i j : ℕ} (h : s.Goes k u stage i) (h' : s.Goes k v stage' j) :
    u = v ∧ stage = stage' ∧ i = j := by
  obtain ⟨a, p, ha, rfl, hp, rfl⟩ := h
  obtain ⟨b, q, hb, rfl, hq, rfl⟩ := h'
  obtain ⟨rfl, rfl⟩ : a = b ∧ stage = stage' := by simpa using ha.symm.trans hb
  obtain rfl : p = q := by simpa using hp.symm.trans hq
  exact ⟨rfl, rfl, rfl⟩

lemma Kept.of_fewer (h : Kept s) (hasked : s'.asked = s.asked) (heffects : s'.effects = s.effects)
    (hstored : ∀ u i, s'.Stored u i → s.Stored u i)
    (hgoes : ∀ l u st i, s'.Goes l u st i → s.Goes l u st i)
    (hback : ∀ l u v st i, s.Goes l u st i → ¬st.Before → s'.Stored v i → s'.Goes l u st i) : Kept s' := by
  have hused : ∀ {i}, s'.Used i → s.Used i := by
    intro i hi
    rwa [State.Used, heffects] at hi
  refine ⟨fun hs => ?_, fun hg => ?_, fun hu => ?_, fun hs hs' => h.distinct (hstored _ _ hs) (hstored _ _ hs'),
    fun hg hg' => h.single (hgoes _ _ _ _ hg) (hgoes _ _ _ _ hg'),
    fun hg hb hu => h.before (hgoes _ _ _ _ hg) hb (hused hu),
    fun hg hs => h.owned (hgoes _ _ _ _ hg) (hstored _ _ hs), fun hs hu => ?_, ?_⟩
  · exact hasked ▸ h.stored_lt (hstored _ _ hs)
  · exact hasked ▸ h.goes_lt (hgoes _ _ _ _ hg)
  · exact hasked ▸ h.used_lt (hused hu)
  · obtain ⟨l, u, st, hg, hb⟩ := h.backed (hstored _ _ hs) (hused hu)
    exact ⟨l, u, st, hback l u _ st _ hg hb hs, hb⟩
  · rw [Once, heffects]
    exact h.once

lemma used_record {i : ℕ} {outcome : Outcome} : (s.record i outcome).Used id ↔ s.Used id ∨ id = i := by
  simp [State.Used, State.record]

lemma goes_of_setStage {l : ℕ} (h : (s.setStage k press stage).Goes l userId stage' id)
    (hp : ∀ p, stage.prompt ≠ some p) : l ≠ k ∧ s.Goes l userId stage' id := by
  rw [goes_setStage] at h
  split at h
  next =>
    obtain ⟨_, _, q, hq, _⟩ := h
    exact absurd hq (hp q)
  next hl => exact ⟨hl, h⟩

lemma goes_cases {l : ℕ} {u : Uuid} {st : Stage} {i : ℕ} (hp : stage.prompt = some p)
    (h : (s.setStage k press stage).Goes l u st i) :
    (l = k ∧ u = press.userId ∧ st = stage ∧ i = p.id) ∨ (l ≠ k ∧ s.Goes l u st i) := by
  rw [goes_setStage] at h
  split at h
  next hl =>
    obtain ⟨rfl, rfl, q, hq, rfl⟩ := h
    obtain rfl : p = q := by simpa using hp.symm.trans hq
    exact .inl ⟨hl, rfl, rfl, rfl⟩
  next hl => exact .inr ⟨hl, h⟩

lemma Kept.backed_setStage (h : Kept s) (hbefore : ∀ u st i, s.Goes k u st i → st.Before)
    (hs : s.Stored userId id) (hu : s.Used id) :
    ∃ l u st, (s.setStage k press stage).Goes l u st id ∧ ¬st.Before := by
  obtain ⟨l, u, st, hg, hb⟩ := h.backed hs hu
  have hl : l ≠ k := by
    rintro rfl
    exact hb (hbefore u st id hg)
  exact ⟨l, u, st, (goes_setStage l).mpr (by rwa [if_neg hl]), hb⟩

lemma Kept.rest (h : Kept s) (hp : ∀ p, stage.prompt ≠ some p)
    (hdone : ∀ u st i v, s.Goes k u st i → ¬st.Before → ¬s.Stored v i) : Kept (s.setStage k press stage) := by
  refine h.of_fewer rfl rfl (fun _ _ hs => hs) (fun _ _ _ _ hg => (goes_of_setStage hg hp).2)
    fun l u v st i hg hb hs => ?_
  have hl : l ≠ k := fun hl => hdone u st i v (hl ▸ hg) hb hs
  rw [goes_setStage, if_neg hl]
  exact hg

lemma Kept.of_eq (h : Kept s) (hprompts : s'.prompts = s.prompts) (hasked : s'.asked = s.asked)
    (hpresses : s'.presses = s.presses) (heffects : s'.effects = s.effects) : Kept s' := by
  have hgoes : ∀ l u st i, s'.Goes l u st i ↔ s.Goes l u st i := by
    intro l u st i
    rw [State.Goes, hpresses]
    rfl
  refine h.of_fewer hasked heffects (fun u i hs => ?_) (fun l u st i => (hgoes l u st i).mp)
    fun l u _ st i hg _ _ => (hgoes l u st i).mpr hg
  rwa [State.Stored, hprompts] at hs

lemma Kept.lose (h : Kept s) (hdone : ∀ u st i v, s.Goes k u st i → ¬st.Before → ¬s.Stored v i) :
    Kept (s.lose k) := by
  refine h.of_fewer rfl rfl (fun _ _ hs => hs) (fun l _ _ _ hg => ((goes_lose l).mp hg).2)
    fun l u v st i hg hb hs => (goes_lose l).mpr ⟨?_, hg⟩
  rintro rfl
  exact hdone u st i v hg hb hs

lemma Kept.clear (h : Kept s) (userId : Uuid) : Kept (s.clear userId) :=
  h.of_fewer rfl rfl (fun u _ hs => ((stored_clear u).mp hs).2) (fun _ _ _ _ hg => hg)
    fun _ _ _ _ _ hg _ _ => hg

lemma Kept.not_stored_clear (h : Kept s) (hg : s.Goes k userId stage id) (v : Uuid) :
    ¬(s.clear userId).Stored v id := by
  intro hs
  obtain ⟨hv, hs⟩ := (stored_clear v).mp hs
  exact hv (h.owned hg hs).1.symm

lemma Kept.advance (h : Kept s) (hpress : s.presses k = some (press, stage)) (hp : stage.prompt = some p)
    (hp' : stage'.prompt = some p) (hbefore : stage.Before) (hbefore' : stage'.Before)
    (hholds : ∀ v, s.Stored v p.id → stage'.Holds) : Kept (s.setStage k press stage') := by
  have hgo : s.Goes k press.userId stage p.id := goes_of_eq hpress hp
  have hstage : ∀ u st i, s.Goes k u st i → st.Before := by
    intro u st i hg
    obtain ⟨_, rfl, _⟩ := hgo.unique hg
    exact hbefore
  -- whoever goes by a prompt now went by it before
  have hwent : ∀ {l u st i}, (s.setStage k press stage').Goes l u st i → ∃ st', s.Goes l u st' i := by
    intro l u st i hg
    rcases goes_cases hp' hg with ⟨rfl, rfl, rfl, rfl⟩ | ⟨_, hg⟩
    · exact ⟨stage, hgo⟩
    · exact ⟨st, hg⟩
  refine ⟨h.stored_lt, fun hg => ?_, h.used_lt, h.distinct, fun hg hg' => ?_, fun hg hb => ?_, fun hg hs => ?_,
    h.backed_setStage hstage, h.once⟩
  · obtain ⟨_, hg⟩ := hwent hg
    exact h.goes_lt hg
  · obtain ⟨_, hg⟩ := hwent hg
    obtain ⟨_, hg'⟩ := hwent hg'
    exact h.single hg hg'
  · rcases goes_cases hp' hg with ⟨rfl, rfl, rfl, rfl⟩ | ⟨_, hg⟩
    · exact h.before hgo hbefore
    · exact h.before hg hb
  · rcases goes_cases hp' hg with ⟨rfl, rfl, rfl, rfl⟩ | ⟨_, hg⟩
    · exact ⟨(h.owned hgo hs).1, hholds _ hs⟩
    · exact h.owned hg hs

lemma Kept.act (h : Kept s) (outcome : Outcome) (hpress : s.presses k = some (press, stage))
    (hp : stage.prompt = some p) (hbefore : stage.Before)
    (hthen : stage' = .acted p ∨ ((∀ q, stage'.prompt ≠ some q) ∧ ∀ v, ¬s.Stored v p.id)) :
    Kept ((s.record p.id outcome).setStage k press stage') := by
  have hgo : s.Goes k press.userId stage p.id := goes_of_eq hpress hp
  have hnew : ¬s.Used p.id := h.before hgo hbefore
  have hstage : ∀ u st i, s.Goes k u st i → st.Before := by
    intro u st i hg
    obtain ⟨_, rfl, _⟩ := hgo.unique hg
    exact hbefore
  have hback : ∀ {l u st i}, ((s.record p.id outcome).setStage k press stage').Goes l u st i →
      (l = k ∧ u = press.userId ∧ st = .acted p ∧ i = p.id) ∨ (l ≠ k ∧ s.Goes l u st i) := by
    intro l u st i hg
    rcases hthen with rfl | ⟨hnone, _⟩
    · exact goes_cases rfl hg
    · exact .inr (goes_of_setStage hg hnone)
  have hwent : ∀ {l u st i}, ((s.record p.id outcome).setStage k press stage').Goes l u st i →
      ∃ st', s.Goes l u st' i := by
    intro l u st i hg
    rcases hback hg with ⟨rfl, rfl, rfl, rfl⟩ | ⟨_, hg⟩
    · exact ⟨stage, hgo⟩
    · exact ⟨st, hg⟩
  refine ⟨h.stored_lt, fun hg => ?_, fun hu => ?_, h.distinct, fun hg hg' => ?_, fun hg hb hu => ?_,
    fun hg hs => ?_, fun hs hu => ?_, ?_⟩
  · obtain ⟨_, hg⟩ := hwent hg
    exact h.goes_lt hg
  · rcases used_record.mp hu with hu | rfl
    · exact h.used_lt hu
    · exact h.goes_lt hgo
  · obtain ⟨_, hg⟩ := hwent hg
    obtain ⟨_, hg'⟩ := hwent hg'
    exact h.single hg hg'
  · rcases hback hg with ⟨rfl, rfl, rfl, rfl⟩ | ⟨hl, hg⟩
    · exact hb
    · rcases used_record.mp hu with hu | rfl
      · exact h.before hg hb hu
      · exact hl (h.single hg hgo)
  · rcases hback hg with ⟨rfl, rfl, rfl, rfl⟩ | ⟨_, hg⟩
    · exact ⟨(h.owned hgo hs).1, trivial⟩
    · exact h.owned hg hs
  · rcases used_record.mp hu with hu | rfl
    · exact h.backed_setStage hstage hs hu
    · -- a prompt that is there is acted by before it goes
      obtain rfl : stage' = .acted p := hthen.resolve_right fun hgone => hgone.2 _ hs
      exact ⟨k, press.userId, .acted p, (goes_setStage k).mpr (by simp [Stage.prompt]), fun hb => hb⟩
  · change ((s.effects ++ [(⟨p.id, outcome⟩ : Effect)]).map Effect.prompt).Nodup
    rw [List.map_append]
    refine List.nodup_append.mpr ⟨h.once, by simp, fun a ha b hb hab => hnew ?_⟩
    obtain rfl : b = p.id := by simpa using hb
    exact hab ▸ ha

lemma Kept.take (h : Kept s) (hread : s.prompts press.userId = some p) (halone : ¬s.Held p.id)
    (hpress : s.presses k = some (press, .pressed)) : Kept (s.setStage k press (.holding p)) := by
  have hstored : s.Stored press.userId p.id := ⟨p, hread, rfl⟩
  have hnone : ∀ {l u st}, ¬s.Goes l u st p.id := by
    intro l u st hg
    exact halone ⟨l, u, st, hg, (h.owned hg hstored).2⟩
  have hstage : ∀ u st i, s.Goes k u st i → st.Before := by
    rintro u st i ⟨a, q, ha, _, _, _⟩
    obtain ⟨rfl, rfl⟩ : press = a ∧ Stage.pressed = st := by simpa using hpress.symm.trans ha
    trivial
  refine ⟨h.stored_lt, fun hg => ?_, h.used_lt, h.distinct, fun hg hg' => ?_, fun hg hb hu => ?_,
    fun hg hs => ?_, h.backed_setStage hstage, h.once⟩
  · rcases goes_cases rfl hg with ⟨rfl, rfl, rfl, rfl⟩ | ⟨_, hg⟩
    · exact h.stored_lt hstored
    · exact h.goes_lt hg
  · rcases goes_cases rfl hg with ⟨rfl, rfl, rfl, rfl⟩ | ⟨_, hold⟩
    · rcases goes_cases rfl hg' with ⟨rfl, _⟩ | ⟨_, hother⟩
      · rfl
      · exact (hnone hother).elim
    · rcases goes_cases rfl hg' with ⟨rfl, rfl, rfl, rfl⟩ | ⟨_, hother⟩
      · exact (hnone hold).elim
      · exact h.single hold hother
  · rcases goes_cases rfl hg with ⟨rfl, rfl, rfl, rfl⟩ | ⟨_, hg⟩
    · obtain ⟨l, u, st, hg, _⟩ := h.backed hstored hu
      exact hnone hg
    · exact h.before hg hb hu
  · rcases goes_cases rfl hg with ⟨rfl, rfl, rfl, rfl⟩ | ⟨_, hg⟩
    · exact ⟨h.distinct hstored hs, trivial⟩
    · exact h.owned hg hs

lemma Kept.ask (h : Kept s) (userId conversationId : Uuid) (state : String) (data : Data) (expiresAt : Time) :
    Kept { s with
      prompts := Function.update s.prompts userId (some ⟨s.asked, conversationId, state, data, expiresAt⟩)
      asked := s.asked + 1 } := by
  have hstored : ∀ {s' : State} {u i}, s'.prompts = Function.update s.prompts userId
      (some ⟨s.asked, conversationId, state, data, expiresAt⟩) → s'.Stored u i →
      (u = userId ∧ i = s.asked) ∨ s.Stored u i := by
    rintro s' u i hs ⟨q, hq, rfl⟩
    rw [hs] at hq
    by_cases hu : u = userId
    · subst hu
      obtain rfl : (⟨s.asked, conversationId, state, data, expiresAt⟩ : Prompt) = q := by simpa using hq
      exact .inl ⟨rfl, rfl⟩
    · rw [Function.update_of_ne hu] at hq
      exact .inr ⟨q, hq, rfl⟩
  refine ⟨fun hs => ?_, fun hg => Nat.lt_succ_of_lt (h.goes_lt hg), fun hu => Nat.lt_succ_of_lt (h.used_lt hu),
    fun hs hs' => ?_, h.single, h.before, fun hg hs => ?_, fun hs hu => ?_, h.once⟩
  · rcases hstored rfl hs with ⟨_, rfl⟩ | hs
    · exact Nat.lt_succ_self _
    · exact Nat.lt_succ_of_lt (h.stored_lt hs)
  · rcases hstored rfl hs with ⟨rfl, rfl⟩ | hold
    · rcases hstored rfl hs' with ⟨rfl, _⟩ | hother
      · rfl
      · exact absurd (h.stored_lt hother) (Nat.lt_irrefl _)
    · rcases hstored rfl hs' with ⟨rfl, rfl⟩ | hother
      · exact absurd (h.stored_lt hold) (Nat.lt_irrefl _)
      · exact h.distinct hold hother
  · rcases hstored rfl hs with ⟨rfl, rfl⟩ | hs
    · exact absurd (h.goes_lt hg) (Nat.lt_irrefl _)
    · exact h.owned hg hs
  · rcases hstored rfl hs with ⟨rfl, rfl⟩ | hs
    · exact absurd (h.used_lt hu) (Nat.lt_irrefl _)
    · exact h.backed hs hu

lemma afterRead_of_holding {now : Time} (h : s.afterRead press now = .holding p) :
    s.prompts press.userId = some p := by
  unfold State.afterRead at h
  cases hp : s.prompts press.userId with
  | none => simp [hp] at h
  | some q =>
    rw [hp] at h
    dsimp only at h
    split_ifs at h
    exact congrArg some (Stage.holding.inj h)

lemma prompt_afterRead {now : Time} (h : ∀ p, s.afterRead press now ≠ .holding p) :
    ∀ p, (s.afterRead press now).prompt ≠ some p := by
  intro p hp
  unfold State.afterRead at h hp
  cases hq : s.prompts press.userId with
  | none => simp [hq, Stage.prompt] at hp
  | some q =>
    simp only [hq] at h hp
    split_ifs at h hp
    · simp [Stage.prompt] at hp
    · exact h q rfl
    · simp [Stage.prompt] at hp

lemma before_of_eq (hpress : s.presses k = some (press, stage)) (hbefore : stage.Before) :
    ∀ u st i v, s.Goes k u st i → ¬st.Before → ¬s.Stored v i := by
  rintro u st i v ⟨a, q, ha, _⟩ hb _
  obtain ⟨rfl, rfl⟩ : press = a ∧ stage = st := by simpa using hpress.symm.trans ha
  exact hb hbefore

lemma opened_kept (cards : Uuid → Option Card) (staff : Uuid → Bool) (names : Usernames.State) :
    Kept (State.opened cards staff names) := by
  constructor <;>
    simp [State.opened, State.Stored, State.Goes, State.Used, Once]

lemma step_kept (h : Kept s) (hok : Alone s event) (hs : Step s event s') : Kept s' := by
  cases hs with
  | ask userId conversationId state data expiresAt => exact h.ask userId conversationId state data expiresAt
  | drop userId => exact h.clear userId
  | «show» card hnew => exact h.of_eq rfl rfl rfl rfl
  | press hfree =>
    refine h.rest (by simp [Stage.prompt]) ?_
    rintro u st i v ⟨a, q, ha, _⟩
    exact absurd (hfree.symm.trans ha) (by simp)
  | ack hpress => exact h.rest (by simp [Stage.prompt]) (before_of_eq hpress trivial)
  | @read k press now hpress hstaff =>
    by_cases hread : ∃ p, s.afterRead press now = .holding p
    · obtain ⟨p, hread⟩ := hread
      rw [hread]
      exact h.take (afterRead_of_holding hread) (hok press p hpress hread) hpress
    · exact h.rest (prompt_afterRead (not_exists.mp hread)) (before_of_eq hpress trivial)
  | @sweep k press hpress =>
    exact (h.clear press.userId).rest (by simp [Stage.prompt]) (before_of_eq hpress trivial)
  | audit hpress => exact h.advance hpress rfl rfl trivial trivial fun _ _ => trivial
  | send hpress => exact h.act _ hpress rfl trivial (.inl rfl)
  | file hpress => exact h.act _ hpress rfl trivial (.inl rfl)
  | @clear k press p hpress =>
    refine (h.clear press.userId).rest (by simp [Stage.prompt]) fun u st i v hg _ => ?_
    -- the prompt it goes by was its user's
    obtain ⟨rfl, _, _⟩ := hg.unique (goes_of_eq hpress rfl)
    exact h.not_stored_clear hg v
  | @clearFirst k press p hpress =>
    have hgo : s.Goes k press.userId (.holding p) p.id := goes_of_eq hpress rfl
    exact (h.clear press.userId).advance hpress rfl rfl trivial trivial
      fun v hv => absurd hv (h.not_stored_clear hgo v)
  | check => exact h.of_eq rfl rfl rfl rfl
  | account => exact h.of_eq rfl rfl rfl rfl
  | @change k press p names hpress hnames =>
    have hnames : Kept { s with names := names } := h.of_eq rfl rfl rfl rfl
    -- a prompt that the name comes from has been deleted
    have hgone : ∀ v, ¬s.Stored v p.id := fun v hv => (h.owned (goes_of_eq hpress rfl) hv).2
    exact hnames.act _ hpress rfl trivial (.inr ⟨by simp [Stage.prompt], hgone⟩)
  | @fail k press p event names hpress =>
    have hnames : Kept { s with names := names } := h.of_eq rfl rfl rfl rfl
    exact hnames.rest (by simp [Stage.prompt]) (before_of_eq hpress trivial)
  | answer hpress => exact (h.lose (before_of_eq hpress trivial)).of_eq rfl rfl rfl rfl
  | @lose k press stage hpress =>
    refine h.lose (before_of_eq hpress ?_)
    cases stage <;> first | trivial | exact (hok press _ hpress).elim
  | staff => exact h.of_eq rfl rfl rfl rfl
  | elsewhere => exact h.of_eq rfl rfl rfl rfl

lemma other_of_step (hs : Step s event s') (hof : event.of ≠ some k) : s'.presses k = s.presses k := by
  have hne : ∀ l, some l ≠ some k → k ≠ l := fun l hl hk => hl (congrArg some hk.symm)
  cases hs with
  | ask => rfl
  | drop => rfl
  | «show» => rfl
  | press => exact Function.update_of_ne (hne _ hof) _ _
  | ack => exact Function.update_of_ne (hne _ hof) _ _
  | read => exact Function.update_of_ne (hne _ hof) _ _
  | sweep => exact Function.update_of_ne (hne _ hof) _ _
  | audit => exact Function.update_of_ne (hne _ hof) _ _
  | send => exact Function.update_of_ne (hne _ hof) _ _
  | file => exact Function.update_of_ne (hne _ hof) _ _
  | clear => exact Function.update_of_ne (hne _ hof) _ _
  | clearFirst => exact Function.update_of_ne (hne _ hof) _ _
  | check => rfl
  | account => rfl
  | change => exact Function.update_of_ne (hne _ hof) _ _
  | fail => exact Function.update_of_ne (hne _ hof) _ _
  | answer => exact Function.update_of_ne (hne _ hof) _ _
  | lose => exact Function.update_of_ne (hne _ hof) _ _
  | staff => rfl
  | elsewhere => rfl

lemma step_of_answering {update : Bool} (hpress : s.presses k = some (press, .answering update))
    (hof : event.of = some k) (hs : Step s event s') : Same s s' ∧ s'.presses k = none := by
  have hstuck : ∀ {a : Press} {st : Stage}, s.presses k = some (a, st) → st = .answering update := by
    intro a st ha
    exact (congrArg Prod.snd (Option.some.inj (hpress.symm.trans ha))).symm
  cases hs with
  | ask => exact absurd hof (by simp [Event.of])
  | drop => exact absurd hof (by simp [Event.of])
  | «show» => exact absurd hof (by simp [Event.of])
  | staff => exact absurd hof (by simp [Event.of])
  | elsewhere => exact absurd hof (by simp [Event.of])
  | press hfree =>
    obtain rfl := Option.some.inj hof
    exact absurd (hfree.symm.trans hpress) (by simp)
  | answer ha =>
    obtain rfl := Option.some.inj hof
    exact ⟨⟨rfl, rfl, rfl⟩, Function.update_self _ _ _⟩
  | lose ha =>
    obtain rfl := Option.some.inj hof
    exact ⟨⟨rfl, rfl, rfl⟩, Function.update_self _ _ _⟩
  | ack ha | read _ ha | sweep ha | audit ha | send ha | file ha | clear ha | clearFirst ha | check ha
  | account ha | change ha | fail ha =>
    obtain rfl := Option.some.inj hof
    exact absurd (hstuck ha) (by simp)

lemma harmless_of_answering {update : Bool} (hpress : s.presses k = some (press, .answering update)) :
    Harmless s k := by
  intro s' hrun event s'' hof hs
  have hstill : s'.presses k = some (press, .answering update) :=
    @RunWhere.invariant _ _ _ _ (fun s => s.presses k = some (press, .answering update)) _ _ hrun hpress
      fun s i s' h hok hs => (other_of_step hs hok).trans h
  exact step_of_answering hstill hof hs

lemma read_of_none {now : Time} (hpress : s.presses k = some (press, .pressed))
    (hnone : s.prompts press.userId = none) (hs : Step s (.read k now) s') : Same s s' ∧ Harmless s' k := by
  cases hs with
  | @read _ a _ ha hstaff =>
    obtain rfl : press = a := congrArg Prod.fst (Option.some.inj (hpress.symm.trans ha))
    have hstage : s.afterRead press now = .answering true := by simp [State.afterRead, hnone]
    refine ⟨⟨rfl, rfl, rfl⟩, @harmless_of_answering _ k press true ?_⟩
    rw [State.setStage, hstage]
    exact Function.update_self _ _ _

end

/-- Where every press that goes on with a prompt is alone with it until it is deleted, at most one thing is
done by each prompt. A press then goes on only with a prompt by which nothing was done, and one that finds none
changes nothing. -/
theorem once_when_alone (cards : Uuid → Option Card) (staff : Uuid → Bool) (names : Usernames.State) {s : State}
    (h : RunWhere Step Alone (State.opened cards staff names) s) :
    Once s ∧
    (∀ k now s' press p, Alone s (.read k now) → Step s (.read k now) s' →
      s'.presses k = some (press, .holding p) → ¬s.Used p.id) ∧
    ∀ k now s' press, s.presses k = some (press, .pressed) → s.prompts press.userId = none →
      Step s (.read k now) s' → Same s s' ∧ Harmless s' k := by
  have hkept : Kept s := h.invariant (opened_kept cards staff names) fun _ _ _ h hok hs => step_kept h hok hs
  refine ⟨hkept.once, fun k now s' press p hok hs hpress => ?_, fun k now s' press hpress hnone hs => ?_⟩
  · have hkept' : Kept s' := step_kept hkept hok hs
    have hunused : ¬s'.Used p.id := hkept'.before (goes_of_eq hpress rfl) trivial
    cases hs
    exact hunused
  · exact read_of_none hpress hnone hs

/-! ## Two devices -/

namespace Devices

def cards : Uuid → Option Card := fun m => if m = 7 then some ⟨3, some 1, [.announceSend]⟩ else none

def draft : Data where
  audience := some "everyone"
  title := some [72]
  body := some [73]
  footer := none
  targetId := none
  targetUsername := none
  reason := none
  detail := none
  proof := none
  username := none

def press : Press := ⟨1, 3, 7, .announceSend⟩

def prompt : Prompt := ⟨0, 3, "announce:review", draft, 60⟩

def start : State := State.opened cards (fun _ => true) (.opened fun _ => none)

def pressed : State :=
  ((({ start with prompts := Function.update start.prompts 1 (some prompt), asked := 1 } : State).setStage
    0 press .pressed).setStage 1 press .pressed)

lemma run_pressed {ok : State → Event → Prop} (hask : ∀ s, ok s (.ask 1 3 "announce:review" draft 60))
    (hpress : ∀ s k, ok s (.press k press)) : RunWhere Step ok start pressed :=
  (((RunWhere.refl start).tail (hask _) (.ask 1 3 "announce:review" draft 60)).tail (hpress _ 0)
    (.press rfl rfl rfl rfl (by simp [press]) (by simp [press]) fun _ => rfl)).tail (hpress _ 1)
    (.press rfl rfl rfl rfl (by simp [press]) (by simp [press]) fun _ => rfl)

lemma step_read {s : State} (k : ℕ) (hpress : s.presses k = some (press, .pressed))
    (hstored : s.prompts 1 = some prompt) (hstaff : s.staff 1 = true) :
    Step s (.read k 5) (s.setStage k press (.holding prompt)) := by
  have hread : s.afterRead press 5 = .holding prompt := by
    have hstored : s.prompts press.userId = some prompt := hstored
    rw [State.afterRead, hstored]
    rfl
  exact hread ▸ .read 5 hpress fun _ => hstaff

lemma run_send {ok : State → Event → Prop} {s₀ s : State} (k : ℕ) (h : RunWhere Step ok s₀ s)
    (hpress : s.presses k = some (press, .holding prompt)) (haudit : ∀ s, ok s (.audit k))
    (hsend : ∀ s, ok s (.send k)) :
    RunWhere Step ok s₀ (((s.setStage k press (.audited prompt)).record 0
      (.broadcast (draft.broadcast 1))).setStage k press (.acted prompt)) :=
  (h.tail (haudit s) (.audit hpress rfl)).tail (hsend _)
    (@Step.send (s.setStage k press (.audited prompt)) k press prompt (Function.update_self _ _ _))

end Devices

/-- One device is done before the other reads: it finds that the draft is gone. -/
theorem once_when_alone_second : ∃ s s', RunWhere Step Alone Devices.start s ∧ Step s (.read 1 6) s' ∧
    s.effects = [⟨0, .broadcast (Devices.draft.broadcast 1)⟩] ∧ Once s ∧ Same s s' ∧ Harmless s' 1 := by
  have hpressed : RunWhere Step Alone Devices.start Devices.pressed :=
    Devices.run_pressed (fun _ => trivial) fun _ _ => trivial
  have halone : Alone Devices.pressed (.read 0 5) := by
    rintro _ _ _ _ ⟨k, u, st, ⟨a, q, ha, _, hq, _⟩, _⟩
    -- nobody has read anything
    have hstage : st = Stage.pressed := by
      simp only [Devices.pressed, State.setStage, Function.update_apply] at ha
      split_ifs at ha
      · exact (congrArg Prod.snd (Option.some.inj ha)).symm
      · exact (congrArg Prod.snd (Option.some.inj ha)).symm
      · cases ha
    subst hstage
    exact absurd hq (by simp [Stage.prompt])
  have hread := hpressed.on (Devices.step_read 0 rfl rfl rfl) halone
  have hsent := Devices.run_send 0 hread rfl (fun _ => trivial) fun _ => trivial
  have hclear := hsent.on (@Step.clear _ 0 Devices.press Devices.prompt rfl) trivial
  have hmain := once_when_alone Devices.cards (fun _ => true) (.opened fun _ => none) hclear
  have hlate : ∀ {s : State}, s.presses 1 = some (Devices.press, .pressed) → s.staff 1 = true →
      Step s (.read 1 6) (s.setStage 1 Devices.press (s.afterRead Devices.press 6)) :=
    fun hpress hstaff => .read 6 hpress fun _ => hstaff
  exact ⟨_, _, hclear, hlate rfl rfl, rfl, hmain.1, hmain.2.2 1 6 _ Devices.press rfl rfl (hlate rfl rfl)⟩

/-- Both devices read the draft before either has deleted it, and it goes out twice. -/
theorem draft_goes_out_twice : ¬∀ (cards : Uuid → Option Card) (staff : Uuid → Bool) (names : Usernames.State)
    (s : State), RunWhere Step (fun _ _ => True) (State.opened cards staff names) s → Once s := by
  intro h
  have hpressed : RunWhere Step (fun _ _ => True) Devices.start Devices.pressed :=
    Devices.run_pressed (fun _ => trivial) fun _ _ => trivial
  have hread := (hpressed.on (Devices.step_read 0 rfl rfl rfl) trivial).on
    (Devices.step_read 1 rfl rfl rfl) trivial
  have hfirst := Devices.run_send 0 hread rfl (fun _ => trivial) fun _ => trivial
  have hsecond := Devices.run_send 1 hfirst rfl (fun _ => trivial) fun _ => trivial
  have honce : ([0, 0] : List ℕ).Nodup := h _ _ _ _ hsecond
  exact absurd honce (by decide)

end Yappy.Prompts
