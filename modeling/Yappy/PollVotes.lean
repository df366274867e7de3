import Yappy.KeyedTable
import Yappy.PermissionDatabase
import Yappy.Runs

/-!
# Poll votes

The vote and close routes of `apps/api/src/routes/messages.ts`, and `closeExpiredPolls` of
`apps/worker/src/jobs/maintenance.ts`. Every statement is atomic at READ COMMITTED: a delete finds
its rows when it begins, waits for those that are locked, and then looks at these rows again. A
transaction that has changed votes of a poll keeps the poll's row locked, since the trigger counts
its voters there. Requests that are not permitted are left out, and times are in milliseconds.
-/
namespace Yappy.Polls

open Permissions (Time Uuid)

structure Poll where
  id : Uuid
  messageId : Uuid
  multiSelect : Bool
  closesAt : Option Time
  closedAt : Option Time

structure PollOption where
  id : Uuid
  pollId : Uuid

structure Vote where
  pollId : Uuid
  optionId : Uuid
  userId : Uuid
  deriving DecidableEq

def Vote.key (v : Vote) : Uuid × Uuid := (v.optionId, v.userId)

structure AppError where
  status : ℕ
  message : String

def pollNotFound : AppError := ⟨404, "Poll not found"⟩

def pollClosed : AppError := ⟨409, "This poll is closed"⟩

def oneAnswer : AppError := ⟨422, "This poll allows one answer"⟩

def unknownOption : AppError := ⟨422, "Unknown option"⟩

namespace Poll
variable (poll : Poll)

def check (optionIds : List Uuid) (now : Time) : Except AppError Unit :=
  if poll.closedAt.isSome ∨ poll.closesAt.any (fun closesAt => closesAt < now) then .error pollClosed
  else if ¬ poll.multiSelect ∧ optionIds.length > 1 then .error oneAnswer
  else .ok ()

def closed (now : Time) : Poll := { poll with closedAt := some now }

lemma closed_id (now : Time) : (poll.closed now).id = poll.id := rfl

def Expired (now : Time) : Prop := poll.closedAt = none ∧ ∃ closesAt, poll.closesAt = some closesAt ∧ closesAt < now

instance (now : Time) : Decidable (poll.Expired now) :=
  decidable_of_iff (poll.closedAt = none ∧ poll.closesAt.any (fun closesAt => closesAt < now)) <| by
    simp [Expired, Option.any_eq_true]

end Poll

structure Ballot where
  poll : Poll
  userId : Uuid
  optionIds : List Uuid

inductive Request
  | asked (messageId userId : Uuid) (optionIds : List Uuid)
  | checked (b : Ballot)
  /-- The options are the poll's, and the transaction has yet to begin. -/
  | valid (b : Ballot)
  | deleting (b : Ballot) (found : List (Uuid × Uuid))
  | deleted (b : Ballot) (removed : List (Uuid × Uuid))
  | refused (e : AppError)

def Request.ballot? : Request → Option Ballot
  | .asked .. | .refused _ => none
  | .checked b | .valid b | .deleting b _ | .deleted b _ => some b

def Request.open? : Request → Option Ballot
  | .deleting b _ | .deleted b _ => some b
  | _ => none

def Request.valid? : Request → Option Ballot
  | .valid b | .deleting b _ | .deleted b _ => some b
  | _ => none

abbrev Votes := KeyedTable Vote.key

namespace Votes
variable (votes : Votes)

def remove (keys : List (Uuid × Uuid)) : Votes := KeyedTable.delete votes fun v => v.key ∈ keys

/-- `insert into poll_votes`, one row an option. -/
def add (pollId userId : Uuid) (optionIds : List Uuid) : Votes :=
  optionIds.foldl (fun votes optionId => votes.insertIgnore ⟨pollId, optionId, userId⟩) votes

end Votes

structure State where
  clock : Time
  polls : KeyedTable Poll.id
  options : KeyedTable PollOption.id
  votes : Votes
  requests : ℕ → Option Request

inductive Event
  | tick (now : Time)
  | create (poll : Poll) (optionIds : List Uuid)
  | ask (request : ℕ) (messageId userId : Uuid) (optionIds : List Uuid)
  | check (request : ℕ)
  | validate (request : ℕ)
  | begin (request : ℕ)
  | delete (request : ℕ)
  | insert (request : ℕ)
  | abort (request : ℕ)
  | close (pollId : Uuid)
  | closeExpired

namespace State

def start (clock : Time) : State := ⟨clock, .empty, .empty, .empty, fun _ => none⟩

/-- Another transaction has changed votes of the poll. -/
def Locked (s : State) (request : ℕ) (pollId : Uuid) : Prop :=
  ∃ other b removed, other ≠ request ∧ s.requests other = some (.deleted b removed) ∧ removed ≠ [] ∧
    b.poll.id = pollId

def set (s : State) (request : ℕ) (r : Option Request) : State :=
  { s with requests := Function.update s.requests request r }

def votesOf (s : State) (pollId userId : Uuid) : List (Uuid × Uuid) :=
  (s.votes.rows.filter fun v => v.pollId = pollId ∧ v.userId = userId).map Vote.key

def checked (s : State) (messageId userId : Uuid) (optionIds : List Uuid) : Request :=
  match s.polls.rows.find? fun poll => poll.messageId = messageId with
  | none => .refused pollNotFound
  | some poll => match poll.check optionIds s.clock with
    | .error e => .refused e
    | .ok () => .checked ⟨poll, userId, optionIds⟩

def validated (s : State) (b : Ballot) : Request :=
  if ∀ optionId ∈ b.optionIds, ∃ o ∈ s.options.rows, o.pollId = b.poll.id ∧ o.id = optionId then .valid b
  else .refused unknownOption

def voted (s : State) (b : Ballot) (removed : List (Uuid × Uuid)) : State :=
  { s with votes := (s.votes.remove removed).add b.poll.id b.userId b.optionIds }

def created (s : State) (poll : Poll) (optionIds : List Uuid) : State :=
  { s with
    polls := s.polls.insertIgnore poll
    options := optionIds.foldl (fun options id => options.insertIgnore ⟨id, poll.id⟩) s.options }

def closed (s : State) (p : Poll → Bool) : State :=
  { s with polls := s.polls.update p (fun poll => poll.closed s.clock) fun poll => poll.closed_id s.clock }

end State

inductive Step : State → Event → State → Prop
  | tick {s : State} {now : Time} (h : s.clock ≤ now) : Step s (.tick now) { s with clock := now }
  | create {s : State} {poll : Poll} {optionIds : List Uuid} (hopen : poll.closedAt = none)
      (hmessage : ∀ p ∈ s.polls.rows, p.messageId ≠ poll.messageId) (hid : s.polls.find poll.id = none)
      (hoptions : ∀ id ∈ optionIds, s.options.find id = none) :
      Step s (.create poll optionIds) (s.created poll optionIds)
  | ask {s : State} {request : ℕ} {messageId userId : Uuid} {optionIds : List Uuid}
      (h : s.requests request = none) :
      Step s (.ask request messageId userId optionIds)
        (s.set request (some (.asked messageId userId optionIds)))
  | check {s : State} {request : ℕ} {messageId userId : Uuid} {optionIds : List Uuid}
      (h : s.requests request = some (.asked messageId userId optionIds)) :
      Step s (.check request) (s.set request (some (s.checked messageId userId optionIds)))
  | validate {s : State} {request : ℕ} {b : Ballot} (h : s.requests request = some (.checked b)) :
      Step s (.validate request) (s.set request (some (s.validated b)))
  | begin {s : State} {request : ℕ} {b : Ballot} (h : s.requests request = some (.valid b)) :
      Step s (.begin request)
        (s.set request (some (.deleting b (s.votesOf b.poll.id b.userId))))
  | delete {s : State} {request : ℕ} {b : Ballot} {found : List (Uuid × Uuid)}
      (h : s.requests request = some (.deleting b found))
      (hfree : found ≠ [] → ¬ s.Locked request b.poll.id) :
      Step s (.delete request)
        (s.set request (some (.deleted b (found.filter fun key => (s.votes.find key).isSome))))
  | insert {s : State} {request : ℕ} {b : Ballot} {removed : List (Uuid × Uuid)}
      (h : s.requests request = some (.deleted b removed)) (hdistinct : b.optionIds.Nodup)
      (hnew : ∀ id ∈ b.optionIds, (s.votes.remove removed).find (id, b.userId) = none)
      (hfree : b.optionIds ≠ [] → ¬ s.Locked request b.poll.id) :
      Step s (.insert request) ((s.voted b removed).set request none)
  /-- The request has been answered, or it threw, or the process died. -/
  | abort {s : State} {request : ℕ} : Step s (.abort request) (s.set request none)
  | close {s : State} {pollId : Uuid}
      (hfree : ∀ request b removed, s.requests request = some (.deleted b removed) → removed ≠ [] →
        b.poll.id ≠ pollId) :
      Step s (.close pollId) (s.closed fun poll => poll.id = pollId)
  | closeExpired {s : State}
      (hfree : ∀ request b removed, s.requests request = some (.deleted b removed) → removed ≠ [] →
        ∀ poll, s.polls.find b.poll.id = some poll → ¬ poll.Expired s.clock) :
      Step s .closeExpired (s.closed fun poll => poll.Expired s.clock)

/-- A vote begins its transaction once no other one of the same user in the same poll is open, and a
poll is closed once no vote that has found it open is still to commit. -/
def InTurn (s : State) : Event → Prop
  | .begin request => ∀ b, s.requests request = some (.valid b) → ∀ other r b', other ≠ request →
      s.requests other = some r → r.open? = some b' → ¬ (b'.poll.id = b.poll.id ∧ b'.userId = b.userId)
  | .close pollId => ∀ request r b, s.requests request = some r → r.ballot? = some b → b.poll.id ≠ pollId
  | .closeExpired => ∀ request r b poll, s.requests request = some r → r.ballot? = some b →
      s.polls.find b.poll.id = some poll → ¬ poll.Expired s.clock
  | _ => True

section
variable {s s' : State} {event : Event} {request : ℕ}

/-! ## Votes that come and go -/

lemma mem_remove {votes : Votes} {keys : List (Uuid × Uuid)} {v : Vote} :
    v ∈ (votes.remove keys).rows ↔ v ∈ votes.rows ∧ v.key ∉ keys := by
  unfold Votes.remove KeyedTable.delete
  simp [List.mem_filter]

lemma mem_add {votes : Votes} {pollId userId : Uuid} {optionIds : List Uuid} {v : Vote}
    (h : v ∈ (votes.add pollId userId optionIds).rows) :
    v ∈ votes.rows ∨ ∃ optionId ∈ optionIds, v = ⟨pollId, optionId, userId⟩ := by
  unfold Votes.add at h
  induction optionIds generalizing votes with
  | nil => exact Or.inl h
  | cons optionId rest ih =>
    rw [List.foldl_cons] at h
    rcases ih h with hv | ⟨o, ho, rfl⟩
    · rcases KeyedTable.mem_insertIgnore hv with rfl | hv
      · exact Or.inr ⟨optionId, by simp, rfl⟩
      · exact Or.inl hv
    · exact Or.inr ⟨o, by simp [ho], rfl⟩

lemma mem_add_of_mem {votes : Votes} {pollId userId : Uuid} {optionIds : List Uuid} {v : Vote}
    (h : v ∈ votes.rows) : v ∈ (votes.add pollId userId optionIds).rows := by
  unfold Votes.add
  induction optionIds generalizing votes with
  | nil => exact h
  | cons optionId rest ih =>
    rw [List.foldl_cons]
    refine ih ?_
    unfold KeyedTable.insertIgnore
    split_ifs
    · exact h
    · exact List.mem_cons_of_mem _ h

lemma mem_votesOf {pollId userId : Uuid} {v : Vote} (h : v ∈ s.votes.rows) (hpoll : v.pollId = pollId)
    (huser : v.userId = userId) : v.key ∈ s.votesOf pollId userId :=
  List.mem_map.mpr ⟨v, List.mem_filter.mpr ⟨h, by simp [hpoll, huser]⟩, rfl⟩

lemma set_requests (s : State) (request other : ℕ) (r : Option Request) :
    (s.set request r).requests other = if other = request then r else s.requests other := by
  simp only [State.set, Function.update_apply]

lemma find_created {poll : Poll} {optionIds : List Uuid} {options : KeyedTable PollOption.id} {id : Uuid}
    {o : PollOption} (h : (optionIds.foldl (fun options id => options.insertIgnore ⟨id, poll.id⟩) options).find id
      = some o) : options.find id = some o ∨ o = ⟨id, poll.id⟩ := by
  induction optionIds generalizing options with
  | nil => exact Or.inl h
  | cons first rest ih =>
    rw [List.foldl_cons] at h
    rcases ih h with hold | hnew
    · rw [KeyedTable.find_insertIgnore] at hold
      dsimp only at hold
      split_ifs at hold with he
      · subst he
        cases hf : options.find first with
        | none =>
          rw [hf] at hold
          exact Or.inr (Option.some.inj hold).symm
        | some o' =>
          rw [hf] at hold
          exact Or.inl hold
      · exact Or.inl hold
    · exact Or.inr hnew

lemma find_created_of_find {poll : Poll} {optionIds : List Uuid} {options : KeyedTable PollOption.id}
    {id : Uuid} {o : PollOption} (h : options.find id = some o) :
    (optionIds.foldl (fun options id => options.insertIgnore ⟨id, poll.id⟩) options).find id = some o := by
  induction optionIds generalizing options with
  | nil => exact h
  | cons first rest ih =>
    rw [List.foldl_cons]
    refine ih ?_
    rw [KeyedTable.find_insertIgnore, h]
    split_ifs <;> rfl

/-! ## The invariant -/

structure Request.Sound (s : State) (r : Request) : Prop where
  read : ∀ b, r.ballot? = some b → ∃ p, s.polls.find b.poll.id = some p ∧
    p.multiSelect = b.poll.multiSelect ∧ p.closedAt = none ∧
      (b.poll.multiSelect = false → b.optionIds.length ≤ 1)
  known : ∀ b, r.valid? = some b → ∀ id ∈ b.optionIds,
    ∃ o, s.options.find id = some o ∧ o.pollId = b.poll.id
  seen : ∀ b found, r = .deleting b found → ∀ v ∈ s.votes.rows, v.pollId = b.poll.id →
    v.userId = b.userId → v.key ∈ found
  gone : ∀ b removed, r = .deleted b removed → ∀ v ∈ s.votes.rows, v.pollId = b.poll.id →
    v.userId = b.userId → v.key ∈ removed
  own : ∀ b keys, r = .deleting b keys ∨ r = .deleted b keys → ∀ key ∈ keys,
    ∃ o, s.options.find key.1 = some o ∧ o.pollId = b.poll.id

structure Fair (s : State) : Prop where
  home : ∀ id o, s.options.find id = some o → s.polls.find o.pollId ≠ none
  placed : ∀ v ∈ s.votes.rows, ∃ o, s.options.find v.optionId = some o ∧ o.pollId = v.pollId
  single : ∀ poll, s.polls.find poll.id = some poll → poll.multiSelect = false →
    ∀ v ∈ s.votes.rows, ∀ v' ∈ s.votes.rows, v.pollId = poll.id → v'.pollId = poll.id →
      v.userId = v'.userId → v = v'
  sound : ∀ request r, s.requests request = some r → r.Sound s
  alone : ∀ request request' r r' b b', s.requests request = some r → s.requests request' = some r' →
    r.open? = some b → r'.open? = some b' → b.poll.id = b'.poll.id → b.userId = b'.userId →
    request = request'

lemma start_fair (clock : Time) : Fair (.start clock) where
  home _ _ h := by cases h
  placed _ h := by cases h
  single _ h := by cases h
  sound _ _ h := by cases h
  alone _ _ _ _ _ _ h := by cases h

lemma Fair.set {next : Option Request} (h : Fair s) (hsound : ∀ r, next = some r → r.Sound s)
    (halone : ∀ r b other r' b', next = some r → r.open? = some b → other ≠ request →
      s.requests other = some r' → r'.open? = some b' → ¬ (b'.poll.id = b.poll.id ∧ b'.userId = b.userId)) :
    Fair (s.set request next) := by
  refine ⟨h.home, h.placed, h.single, fun other r hr => ?_, fun i j r r' b b' hi hj hb hb' hid huser => ?_⟩
  · rw [set_requests] at hr
    have hold : r.Sound s := by
      split_ifs at hr with he
      · exact hsound r hr
      · exact h.sound other r hr
    exact ⟨hold.read, hold.known, hold.seen, hold.gone, hold.own⟩
  · rw [set_requests] at hi hj
    split_ifs at hi hj with hei hej hej
    · exact hei.trans hej.symm
    · exact absurd ⟨hid.symm, huser.symm⟩ (halone r b j r' b' hi hb hej hj hb')
    · exact absurd ⟨hid, huser⟩ (halone r' b' i r b hj hb' hei hi hb)
    · exact h.alone i j r r' b b' hi hj hb hb' hid huser

lemma Fair.set_closed {next : Option Request} (h : Fair s) (hsound : ∀ r, next = some r → r.Sound s)
    (hclosed : ∀ r, next = some r → r.open? = none) : Fair (s.set request next) := by
  refine h.set hsound fun r b _ _ _ hr hb => ?_
  rw [hclosed r hr] at hb
  cases hb

lemma Request.Sound.mono {r : Request} (h : r.Sound s) (hvotes : s'.votes = s.votes)
    (hpolls : ∀ b p, r.ballot? = some b → s.polls.find b.poll.id = some p →
      s'.polls.find b.poll.id = some p)
    (hoptions : ∀ id o, s.options.find id = some o → s'.options.find id = some o) : r.Sound s' where
  read b hb := by
    obtain ⟨p, hp, hrest⟩ := h.read b hb
    exact ⟨p, hpolls b p hb hp, hrest⟩
  known b hb id hid := by
    obtain ⟨o, ho, hrest⟩ := h.known b hb id hid
    exact ⟨o, hoptions id o ho, hrest⟩
  seen := by
    rw [hvotes]
    exact h.seen
  gone := by
    rw [hvotes]
    exact h.gone
  own b keys hr key hkey := by
    obtain ⟨o, ho, hrest⟩ := h.own b keys hr key hkey
    exact ⟨o, hoptions key.1 o ho, hrest⟩

lemma Fair.created {poll : Poll} {optionIds : List Uuid} (h : Fair s)
    (hid : s.polls.find poll.id = none) : Fair (s.created poll optionIds) := by
  have hpolls : ∀ id p, s.polls.find id = some p → (s.created poll optionIds).polls.find id = some p := by
    intro id p hp
    unfold State.created
    dsimp only
    rw [KeyedTable.find_insertIgnore, hp]
    split_ifs <;> rfl
  have hnew : (s.created poll optionIds).polls.find poll.id = some poll := by
    unfold State.created
    dsimp only
    rw [KeyedTable.find_insertIgnore, if_pos rfl, hid]
    rfl
  have hoptions : ∀ id o, s.options.find id = some o → (s.created poll optionIds).options.find id = some o :=
    fun id o ho => find_created_of_find ho
  refine ⟨fun id o ho => ?_, fun v hv => ?_, fun p hp hmulti v hv v' hv' hpoll hpoll' huser => ?_,
    fun request r hr => (h.sound request r hr).mono rfl (fun b p _ hp => hpolls _ p hp) hoptions, h.alone⟩
  · rcases find_created ho with hold | rfl
    · obtain ⟨p, hp⟩ := Option.ne_none_iff_exists'.mp (h.home id o hold)
      rw [hpolls _ p hp]
      exact nofun
    · dsimp only
      rw [hnew]
      exact nofun
  · obtain ⟨o, ho, hrest⟩ := h.placed v hv
    exact ⟨o, hoptions _ o ho, hrest⟩
  · have hhome : s.polls.find v.pollId ≠ none := by
      obtain ⟨o, ho, he⟩ := h.placed v hv
      rw [← he]
      exact h.home _ o ho
    rw [hpoll] at hhome
    obtain ⟨q, hq⟩ := Option.ne_none_iff_exists'.mp hhome
    obtain rfl := Option.some.inj (hp.symm.trans (hpolls _ q hq))
    exact h.single p hq hmulti v hv v' hv' hpoll hpoll' huser

lemma Fair.closed {p : Poll → Bool} (h : Fair s) (hok : ∀ request r b poll, s.requests request = some r →
    r.ballot? = some b → s.polls.find b.poll.id = some poll → p poll = false) : Fair (s.closed p) := by
  have hfind : ∀ id, (s.closed p).polls.find id = (s.polls.find id).map fun poll =>
      if p poll then poll.closed s.clock else poll :=
    fun id => KeyedTable.find_update _ _ _ (fun poll => poll.closed_id s.clock) id
  refine ⟨fun id o ho => ?_, h.placed, fun poll hp hmulti => ?_, fun request r hr => ?_, h.alone⟩
  · intro hnone
    rw [hfind, Option.map_eq_none_iff] at hnone
    exact h.home id o ho hnone
  · rw [hfind] at hp
    obtain ⟨q, hq, he⟩ := Option.map_eq_some_iff.mp hp
    have hkey := KeyedTable.find_key hq
    have hsame : q.multiSelect = poll.multiSelect := by
      rw [← he]
      split_ifs <;> rfl
    rw [← hkey] at hq ⊢
    exact h.single q hq (hsame.trans hmulti)
  · refine (h.sound request r hr).mono rfl (fun b q hb hq => ?_) fun _ _ ho => ho
    rw [hfind, hq, Option.map_some, hok request r b q hr hb hq]
    rfl

lemma Fair.voted {b : Ballot} {removed : List (Uuid × Uuid)} (h : Fair s)
    (hr : s.requests request = some (.deleted b removed)) :
    Fair ((s.voted b removed).set request none) := by
  have hsound := h.sound request _ hr
  have hcases : ∀ v ∈ (s.voted b removed).votes.rows, (v ∈ s.votes.rows ∧ v.key ∉ removed) ∨
      ∃ optionId ∈ b.optionIds, v = ⟨b.poll.id, optionId, b.userId⟩ := by
    intro v hv
    rcases mem_add hv with hv | hv
    · exact Or.inl (mem_remove.mp hv)
    · exact Or.inr hv
  -- of the user's votes in the poll only the new ones are left
  have hnone : ∀ v ∈ s.votes.rows, v.key ∉ removed → ¬ (v.pollId = b.poll.id ∧ v.userId = b.userId) :=
    fun v hv hkey hboth => hkey (hsound.gone b removed rfl v hv hboth.1 hboth.2)
  have hother : ∀ other r b', other ≠ request → s.requests other = some r → r.open? = some b' →
      ∀ v ∈ (s.voted b removed).votes.rows, v.pollId = b'.poll.id → v.userId = b'.userId →
        v ∈ s.votes.rows := by
    intro other r b' hne hor hopen v hv hpoll huser
    rcases hcases v hv with ⟨hold, -⟩ | ⟨optionId, -, rfl⟩
    · exact hold
    · exact absurd (h.alone other request r _ b' b hor hr hopen rfl hpoll.symm huser.symm) hne
  refine ⟨h.home, fun v hv => ?_, fun poll hp hmulti v hv v' hv' hpoll hpoll' huser => ?_,
    fun other r hor => ?_, fun i j r r' b₁ b₂ hi hj => ?_⟩
  · rcases hcases v hv with ⟨hold, -⟩ | ⟨optionId, ho, rfl⟩
    · exact h.placed v hold
    · exact hsound.known b rfl optionId ho
  · rcases hcases v hv with ⟨hold, hkey⟩ | ⟨o, ho, rfl⟩
    · rcases hcases v' hv' with ⟨hold', -⟩ | ⟨o', -, rfl⟩
      · exact h.single poll hp hmulti v hold v' hold' hpoll hpoll' huser
      · exact absurd ⟨hpoll.trans hpoll'.symm, huser⟩ (hnone v hold hkey)
    · rcases hcases v' hv' with ⟨hold', hkey'⟩ | ⟨o', ho', rfl⟩
      · exact absurd ⟨hpoll'.trans hpoll.symm, huser.symm⟩ (hnone v' hold' hkey')
      · obtain ⟨p, hfind, hsame, -, hlength⟩ := hsound.read b rfl
        change b.poll.id = poll.id at hpoll
        rw [hpoll] at hfind
        obtain rfl := Option.some.inj (hp.symm.trans hfind)
        have hle := hlength (hsame.symm.trans hmulti)
        have heq : o = o' := by
          match hb : b.optionIds, hle with
          | [], _ => simp [hb] at ho
          | [x], _ =>
            rw [hb, List.mem_singleton] at ho ho'
            rw [ho, ho']
        rw [heq]
  · rw [set_requests] at hor
    split_ifs at hor with hne
    have hold := h.sound other r hor
    refine ⟨hold.read, hold.known, fun b' found he v hv hpoll huser => ?_,
      fun b' removed' he v hv hpoll huser => ?_, hold.own⟩
    · subst he
      exact hold.seen b' found rfl v (hother other _ b' hne hor rfl v hv hpoll huser) hpoll huser
    · subst he
      exact hold.gone b' removed' rfl v (hother other _ b' hne hor rfl v hv hpoll huser) hpoll huser
  · rw [set_requests] at hi hj
    split_ifs at hi hj
    exact h.alone i j r r' b₁ b₂ hi hj

lemma checked_sound (messageId userId : Uuid) (optionIds : List Uuid) :
    (s.checked messageId userId optionIds).Sound s := by
  unfold State.checked
  split
  · exact ⟨nofun, nofun, nofun, nofun, nofun⟩
  · next poll hfind =>
    split
    · exact ⟨nofun, nofun, nofun, nofun, nofun⟩
    · next hcheck =>
      refine ⟨fun b hb => ?_, nofun, nofun, nofun, nofun⟩
      obtain rfl := Option.some.inj hb
      have hmem := List.mem_of_find?_eq_some hfind
      unfold Poll.check at hcheck
      split_ifs at hcheck with hclosed hone
      refine ⟨poll, KeyedTable.find_eq_some.mpr ⟨hmem, rfl⟩, rfl, ?_, fun hmulti => ?_⟩
      · by_contra hne
        exact hclosed (Or.inl (Option.isSome_iff_ne_none.mpr hne))
      · by_contra hlong
        change ¬ optionIds.length ≤ 1 at hlong
        change poll.multiSelect = false at hmulti
        exact hone ⟨by simp [hmulti], by omega⟩

lemma validated_sound {b : Ballot} (hb : (Request.checked b).Sound s) :
    (s.validated b).Sound s := by
  unfold State.validated
  split_ifs with hvalid
  · refine ⟨fun b' hb' => hb.read b' hb', fun b' hb' id hid => ?_, nofun, nofun, nofun⟩
    obtain rfl := Option.some.inj hb'
    obtain ⟨o, ho, hpoll, rfl⟩ := hvalid id hid
    exact ⟨o, KeyedTable.find_eq_some.mpr ⟨ho, rfl⟩, hpoll⟩
  · exact ⟨nofun, nofun, nofun, nofun, nofun⟩

lemma step_fair (h : Fair s) (hok : InTurn s event) (hs : Step s event s') : Fair s' := by
  cases hs with
  | tick =>
    exact ⟨h.home, h.placed, h.single, fun request r hr =>
      (h.sound request r hr).mono rfl (fun _ _ _ hp => hp) fun _ _ ho => ho, h.alone⟩
  | create _ _ hid _ => exact h.created hid
  | ask =>
    refine h.set_closed (fun r hr => ?_) fun r hr => ?_
    · obtain rfl := Option.some.inj hr
      exact ⟨nofun, nofun, nofun, nofun, nofun⟩
    · obtain rfl := Option.some.inj hr
      rfl
  | @check request messageId userId optionIds hr =>
    refine h.set_closed (fun r hr => ?_) fun r hr => ?_
    · obtain rfl := Option.some.inj hr
      exact checked_sound messageId userId optionIds
    · obtain rfl := Option.some.inj hr
      unfold State.checked
      split
      · rfl
      · split <;> rfl
  | @validate request b hr =>
    refine h.set_closed (fun r hnext => ?_) fun r hnext => ?_
    · obtain rfl := Option.some.inj hnext
      exact validated_sound (h.sound request _ hr)
    · obtain rfl := Option.some.inj hnext
      unfold State.validated
      split_ifs <;> rfl
  | @begin request b hr =>
    have hold := h.sound request _ hr
    refine h.set (fun r hnext => ?_) fun r b' other r' b'' hnext hopen hne hor hopen' => ?_
    · obtain rfl := Option.some.inj hnext
      refine ⟨hold.read, hold.known, fun b' found he v hv hpoll huser => ?_, nofun, fun b' keys he key hkey => ?_⟩
      · cases he
        exact mem_votesOf hv hpoll huser
      · obtain he | he := he
        · cases he
          obtain ⟨v, hv, rfl⟩ := List.mem_map.mp hkey
          obtain ⟨hv, hboth⟩ := List.mem_filter.mp hv
          obtain ⟨o, ho, hpoll⟩ := h.placed v hv
          exact ⟨o, ho, hpoll.trans (of_decide_eq_true hboth).1⟩
        · cases he
    · obtain rfl := Option.some.inj hnext
      obtain rfl := Option.some.inj hopen
      exact hok b hr other r' b'' hne hor hopen'
  | @delete request b found hr hfree =>
    have hold := h.sound request _ hr
    refine h.set (fun r hnext => ?_) fun r b' other r' b'' hnext hopen hne hor hopen' hboth => ?_
    · obtain rfl := Option.some.inj hnext
      refine ⟨hold.read, hold.known, nofun, fun b' removed he v hv hpoll huser => ?_, fun b' keys he key hkey => ?_⟩
      · cases he
        refine List.mem_filter.mpr ⟨hold.seen b found rfl v hv hpoll huser, ?_⟩
        rw [KeyedTable.find_eq_some.mpr ⟨hv, rfl⟩]
        rfl
      · obtain he | he := he
        · cases he
        · cases he
          exact hold.own b found (Or.inl rfl) key (List.mem_filter.mp hkey).1
    · obtain rfl := Option.some.inj hnext
      obtain rfl := Option.some.inj hopen
      exact hne (h.alone other request r' _ b'' b hor hr hopen' rfl hboth.1 hboth.2)
  | insert hr => exact h.voted hr
  | abort => exact h.set_closed (fun _ hnext => by cases hnext) fun _ hnext => by cases hnext
  | @close pollId hfree =>
    refine h.closed fun request r b poll hr hb hfind => ?_
    rw [decide_eq_false_iff_not, KeyedTable.find_key hfind]
    exact hok request r b hr hb
  | closeExpired hfree =>
    refine h.closed fun request r b poll hr hb hfind => ?_
    exact decide_eq_false (hok request r b poll hr hb hfind)

/-- A step changes no vote of a closed poll. -/
def KeepsClosed (s s' : State) : Prop :=
  ∀ poll ∈ s.polls.rows, poll.closedAt ≠ none → ∀ v : Vote, v.pollId = poll.id →
    (v ∈ s'.votes.rows ↔ v ∈ s.votes.rows)

lemma step_closed (h : Fair s) (hs : Step s event s') : KeepsClosed s s' := by
  intro poll hmem hclosed v hv
  have hfind := KeyedTable.find_eq_some.mpr ⟨hmem, rfl⟩
  cases hs with
  | @insert request b removed hr hdistinct hnew hfree =>
    obtain ⟨p, hp, -, hopen, -⟩ := (h.sound request _ hr).read b rfl
    have hne : b.poll.id ≠ poll.id := by
      intro he
      rw [he] at hp
      obtain rfl := Option.some.inj (hfind.symm.trans hp)
      exact hclosed hopen
    constructor
    · intro hin
      rcases mem_add hin with hin | ⟨o, -, rfl⟩
      · exact (mem_remove.mp hin).1
      · exact absurd hv hne
    · intro hin
      refine mem_add_of_mem (mem_remove.mpr ⟨hin, fun hkey => ?_⟩)
      obtain ⟨o, ho, hpoll⟩ := (h.sound request _ hr).own b removed (Or.inr rfl) v.key hkey
      obtain ⟨o', ho', hpoll'⟩ := h.placed v hin
      obtain rfl := Option.some.inj (ho.symm.trans ho')
      exact hne (hpoll.symm.trans (hpoll'.trans hv))
  | tick | create | ask | check | validate | begin | delete | abort | close | closeExpired => exact Iff.rfl

/-- A user has one vote in a poll that is not multi-select, every vote is for an option of its own
poll, and the votes of a closed poll stay as they are. -/
theorem one_vote {clock : Time} {entries : List (State × Event × State)} 
    (hrun : History Step (.start clock) entries s) (hok : ∀ e ∈ entries, InTurn e.1 e.2.1) :
    (∀ poll ∈ s.polls.rows, poll.multiSelect = false → ∀ v ∈ s.votes.rows, ∀ v' ∈ s.votes.rows,
      v.pollId = poll.id → v'.pollId = poll.id → v.userId = v'.userId → v = v') ∧
    (∀ v ∈ s.votes.rows, ∃ o ∈ s.options.rows, o.id = v.optionId ∧ o.pollId = v.pollId) ∧
    ∀ e ∈ entries, KeepsClosed e.1 e.2.2 := by
  have hboth : Fair s ∧ ∀ e ∈ entries, KeepsClosed e.1 e.2.2 :=
    @History.forall_entries State Event Step _ _ _ Fair InTurn (fun s _ s' => KeepsClosed s s') hrun
      (start_fair clock) (fun _ _ _ h hok hs => ⟨step_fair h hok hs, step_closed h hs⟩) hok
  obtain ⟨h, hlast⟩ := hboth
  refine ⟨fun poll hpoll => h.single poll (KeyedTable.find_eq_some.mpr ⟨hpoll, rfl⟩), fun v hv => ?_, hlast⟩
  obtain ⟨o, ho, hpoll⟩ := h.placed v hv
  obtain ⟨hmem, hid⟩ := KeyedTable.find_eq_some.mp ho
  exact ⟨o, hmem, hid, hpoll⟩

lemma set_set (s : State) (request : ℕ) (r r' : Option Request) :
    (s.set request r).set request r' = s.set request r' := by
  simp only [State.set, Function.update_idem]

lemma set_comm (s : State) {request other : ℕ} (r r' : Option Request) (h : other ≠ request) :
    (s.set request r).set other r' = (s.set other r').set request r := by
  simp only [State.set, Function.update_comm h]

end

namespace Sample

def lunch : Poll := ⟨1, 9, false, none, none⟩

def posted : State := (State.start 0).created lunch [11, 12]

def both (s : State) (r r' : Option Request) : State := (s.set 0 r).set 1 r'

lemma both_left (s : State) (r r' d : Option Request) : (both s r r').set 0 d = both s d r' := by
  unfold both
  rw [set_comm _ _ _ (by decide), set_set]

lemma both_right (s : State) (r r' d : Option Request) : (both s r r').set 1 d = both s r d := set_set ..

def ballot (option : Uuid) : Ballot := ⟨lunch, 5, [option]⟩

def closed : State := (posted.voted (ballot 11) []).closed fun poll => poll.id = 1

lemma begun_run : ∃ entries, History Step (.start 0) entries
    (both posted (some (.deleted (ballot 11) [])) (some (.deleted (ballot 12) []))) := by
  have h₁ : Step (.start 0) (.create lunch [11, 12]) posted := .create rfl nofun rfl fun _ _ => rfl
  have h₂ : Step posted (.ask 0 9 5 [11]) (posted.set 0 (some (.asked 9 5 [11]))) := .ask rfl
  have h₃ : Step (posted.set 0 (some (.asked 9 5 [11]))) (.ask 1 9 5 [12])
      (both posted (some (.asked 9 5 [11])) (some (.asked 9 5 [12]))) := .ask rfl
  have h₄ : Step _ (.check 0) ((both posted (some (.asked 9 5 [11])) (some (.asked 9 5 [12]))).set 0
      (some (.checked (ballot 11)))) := @Step.check _ 0 9 5 [11] rfl
  have h₅ : Step _ (.check 1) ((both posted (some (.checked (ballot 11))) (some (.asked 9 5 [12]))).set 1
      (some (.checked (ballot 12)))) := @Step.check _ 1 9 5 [12] rfl
  have h₆ : Step _ (.validate 0) ((both posted (some (.checked (ballot 11))) (some (.checked (ballot 12)))).set 0
      (some (.valid (ballot 11)))) := @Step.validate _ 0 (ballot 11) rfl
  have h₇ : Step _ (.validate 1) ((both posted (some (.valid (ballot 11))) (some (.checked (ballot 12)))).set 1
      (some (.valid (ballot 12)))) := @Step.validate _ 1 (ballot 12) rfl
  have h₈ : Step _ (.begin 0) ((both posted (some (.valid (ballot 11))) (some (.valid (ballot 12)))).set 0
      (some (.deleting (ballot 11) []))) := @Step.begin _ 0 (ballot 11) rfl
  have h₉ : Step _ (.begin 1) ((both posted (some (.deleting (ballot 11) [])) (some (.valid (ballot 12)))).set 1
      (some (.deleting (ballot 12) []))) := @Step.begin _ 1 (ballot 12) rfl
  have h₁₀ : Step _ (.delete 0) ((both posted (some (.deleting (ballot 11) []))
      (some (.deleting (ballot 12) []))).set 0 (some (.deleted (ballot 11) []))) :=
    @Step.delete _ 0 (ballot 11) [] rfl nofun
  have h₁₁ : Step _ (.delete 1) ((both posted (some (.deleted (ballot 11) []))
      (some (.deleting (ballot 12) []))).set 1 (some (.deleted (ballot 12) []))) :=
    @Step.delete _ 1 (ballot 12) [] rfl nofun
  rw [both_left] at h₄ h₆ h₈ h₁₀
  rw [both_right] at h₅ h₇ h₉ h₁₁
  exact ⟨_, (((((((((((History.start _).snoc h₁).snoc h₂).snoc h₃).snoc h₄).snoc h₅).snoc h₆).snoc h₇).snoc
    h₈).snoc h₉).snoc h₁₀).snoc h₁₁⟩

lemma both_free {s : State} {r r' : Option Request} (hs : s.requests = fun _ => none)
    (hr : ∀ b removed, r = some (.deleted b removed) → removed = [])
    (hr' : ∀ b removed, r' = some (.deleted b removed) → removed = []) {request : ℕ} {b : Ballot}
    {removed : List (Uuid × Uuid)} (h : (both s r r').requests request = some (.deleted b removed)) :
    removed = [] := by
  unfold both at h
  rw [set_requests, set_requests, hs] at h
  split_ifs at h
  · exact hr' b removed h
  · exact hr b removed h

end Sample

open Sample in
theorem one_vote_cast : ∃ entries s, History Step (.start 0) entries s ∧ (∀ e ∈ entries, InTurn e.1 e.2.1) ∧
    ⟨1, 11, 5⟩ ∈ s.votes.rows ∧
    (∀ poll ∈ s.polls.rows, poll.multiSelect = false → ∀ v ∈ s.votes.rows, ∀ v' ∈ s.votes.rows,
      v.pollId = poll.id → v'.pollId = poll.id → v.userId = v'.userId → v = v') ∧
    (∀ v ∈ s.votes.rows, ∃ o ∈ s.options.rows, o.id = v.optionId ∧ o.pollId = v.pollId) ∧
    ∀ e ∈ entries, KeepsClosed e.1 e.2.2 := by
  have h₁ : Step (.start 0) (.create lunch [11, 12]) posted := .create rfl nofun rfl fun _ _ => rfl
  have h₂ : Step posted (.ask 0 9 5 [11]) (posted.set 0 (some (.asked 9 5 [11]))) := .ask rfl
  have h₃ : Step (posted.set 0 (some (.asked 9 5 [11]))) (.check 0)
      ((posted.set 0 (some (.asked 9 5 [11]))).set 0 (some (.checked (ballot 11)))) :=
    @Step.check _ 0 9 5 [11] rfl
  have h₄ : Step (posted.set 0 (some (.checked (ballot 11)))) (.validate 0)
      ((posted.set 0 (some (.checked (ballot 11)))).set 0 (some (.valid (ballot 11)))) :=
    @Step.validate _ 0 (ballot 11) rfl
  have h₅ : Step (posted.set 0 (some (.valid (ballot 11)))) (.begin 0)
      ((posted.set 0 (some (.valid (ballot 11)))).set 0 (some (.deleting (ballot 11) []))) :=
    @Step.begin _ 0 (ballot 11) rfl
  have h₆ : Step (posted.set 0 (some (.deleting (ballot 11) []))) (.delete 0)
      ((posted.set 0 (some (.deleting (ballot 11) []))).set 0 (some (.deleted (ballot 11) []))) :=
    @Step.delete _ 0 (ballot 11) [] rfl nofun
  rw [set_set] at h₃ h₄ h₅ h₆
  have h₇ : Step (posted.set 0 (some (.deleted (ballot 11) []))) (.insert 0)
      ((State.voted (posted.set 0 (some (.deleted (ballot 11) []))) (ballot 11) []).set 0 none) := by
    refine @Step.insert _ 0 (ballot 11) [] rfl (by decide) (fun _ _ => rfl) fun _ => ?_
    rintro ⟨other, b, removed, hother, hr, -⟩
    rw [set_requests, if_neg hother] at hr
    cases hr
  have hbegin : InTurn (posted.set 0 (some (.valid (ballot 11)))) (.begin 0) := by
    intro b hb other r b' hother hr
    rw [set_requests, if_neg hother] at hr
    cases hr
  obtain ⟨entries, hrun, hok⟩ := History.of_run ((((((((RunWhere.refl (.start 0)).tail
    (show InTurn _ (.create lunch [11, 12]) from trivial) h₁).tail (show InTurn _ (.ask 0 9 5 [11]) from trivial) h₂).tail
    (show InTurn _ (.check 0) from trivial) h₃).tail (show InTurn _ (.validate 0) from trivial) h₄).tail hbegin h₅).tail
    (show InTurn _ (.delete 0) from trivial) h₆).tail (show InTurn _ (.insert 0) from trivial) h₇)
  exact ⟨entries, _, hrun, hok, List.mem_cons_self, one_vote hrun hok⟩

open Sample in
/-- Two devices of one user vote at once, and the second commits after the poll is closed. -/
theorem two_devices_vote : ∃ entries s, History Step (.start 0) entries s ∧
    (∃ poll ∈ s.polls.rows, poll.multiSelect = false ∧ ⟨poll.id, 11, 5⟩ ∈ s.votes.rows ∧
      ⟨poll.id, 12, 5⟩ ∈ s.votes.rows) ∧ ∃ e ∈ entries, ¬ KeepsClosed e.1 e.2.2 := by
  obtain ⟨entries, hbegun⟩ := begun_run
  have h₁ : Step (both posted (some (.deleted (ballot 11) [])) (some (.deleted (ballot 12) []))) (.insert 0)
      ((both (posted.voted (ballot 11) []) (some (.deleted (ballot 11) []))
        (some (.deleted (ballot 12) []))).set 0 none) := by
    refine @Step.insert _ 0 (ballot 11) [] rfl (by decide) (fun _ _ => rfl) fun _ => ?_
    rintro ⟨other, b, removed, -, hother, hne, -⟩
    exact hne (both_free rfl (by simp) (by simp) hother)
  rw [both_left] at h₁
  have h₂ : Step (both (posted.voted (ballot 11) []) none (some (.deleted (ballot 12) []))) (.close 1)
      (both closed none (some (.deleted (ballot 12) []))) :=
    .close fun request b removed hr hne => absurd (both_free rfl (by simp) (by simp) hr) hne
  have h₃ : Step (both closed none (some (.deleted (ballot 12) []))) (.insert 1)
      ((both (closed.voted (ballot 12) []) none (some (.deleted (ballot 12) []))).set 1 none) := by
    refine @Step.insert _ 1 (ballot 12) [] rfl (by decide) (fun id hid => ?_) fun _ => ?_
    · obtain rfl := List.mem_singleton.mp hid
      rfl
    · rintro ⟨other, b, removed, -, hother, hne, -⟩
      exact hne (both_free rfl (by simp) (by simp) hother)
  rw [both_right] at h₃
  refine ⟨_, _, ((hbegun.snoc h₁).snoc h₂).snoc h₃, ⟨lunch.closed 0, List.mem_cons_self, rfl, ?_, ?_⟩,
    _, List.mem_append_right _ (List.mem_singleton_self _), fun hkept => ?_⟩
  · exact List.mem_cons_of_mem _ List.mem_cons_self
  · exact List.mem_cons_self
  · have hiff := hkept (lunch.closed 0) List.mem_cons_self nofun ⟨1, 12, 5⟩ rfl
    have hold := hiff.mp List.mem_cons_self
    exact absurd hold (by decide)

end Yappy.Polls
