import Yappy.Runs

/-!
# Mention badges

The row of one member in one conversation, with `bump_mention_count` and `recount_mentions_on_read` of
`packages/db/sql/0002_triggers.sql`: `send` of `apps/api/src/services/messages.ts`, `POST /:id/read`,
`ReadAck` of `apps/gateway/src/server.ts`, `materialiseChannelMember` of both processes, and the
statements that set and clear `left_at`. A send keeps the conversation locked, so sends come one after
another; the trigger of an insert of mentions finds the row in a snapshot and waits while it is locked,
and the trigger of a cursor counts after it has waited. What a leave or a rejoin posts in the
conversation is a send of its own here.
-/
namespace Yappy.Badges

def beyond (mentions : List ℕ) (cursor : ℕ) : ℕ := mentions.countP fun seq => cursor < seq

/-- What a row of `conversation_members` holds of the badge. -/
structure Row where
  lastReadSeq : ℕ
  mentionCount : ℕ
  /-- `left_at` is null. -/
  active : Bool

namespace Row

def fresh : Row := ⟨0, 0, true⟩

variable (row : Row)

/-- `recount_mentions_on_read` -/
def moveTo (mentions : List ℕ) (cursor : ℕ) : Row :=
  if cursor = row.lastReadSeq then row else { row with lastReadSeq := cursor, mentionCount := beyond mentions cursor }

def acked (mentions : List ℕ) (seq messageSeq : ℕ) : Row :=
  if row.active then row.moveTo mentions (min (max row.lastReadSeq seq) messageSeq) else row

/-- The badge is the number of mentions beyond the cursor. -/
def Exact (mentions : List ℕ) : Prop := row.mentionCount = beyond mentions row.lastReadSeq

/-- `bump_mention_count` has the row in its where clause. -/
def Bumps (seq : ℕ) : Prop := row.active = true ∧ row.lastReadSeq < seq

instance (seq : ℕ) : Decidable (row.Bumps seq) := inferInstanceAs (Decidable (_ ∧ _))

end Row

inductive Request
  | read (capped : ℕ)
  /-- The gateway, whose update has found the row, and the head of the conversation. -/
  | ack (seq messageSeq : ℕ)

inductive Stage
  | unmentioned
  /-- The mention is inserted, and the trigger has no snapshot yet. -/
  | mentioned
  | found
  | passed
  | bumped
  deriving DecidableEq

structure Send where
  seq : ℕ
  own : Bool
  virtual : Bool
  stage : Stage
  written : Bool

/-- Who has the row locked: the send, or a statement that sets or clears `left_at` or inserts the row. -/
inductive Holder
  | send
  | change

structure State where
  messageSeq : ℕ
  row : Option Row
  /-- The `seq` of every mention of the member. -/
  mentions : List ℕ
  requests : ℕ → Option Request
  send : Option Send
  locked : Option (Holder × Row)

inductive Event
  | load (id seq : ℕ)
  | update (id : ℕ)
  | find (id seq : ℕ)
  | apply (id : ℕ)
  | materialise
  | change (active : Bool)
  | finish
  | undo
  | allocate (own virtual : Bool)
  | mention
  | look
  | bump
  | write (inserts : Bool)
  | commit
  | rollback

def Send.Done (send : Send) : Prop :=
  send.stage ≠ .mentioned ∧ send.stage ≠ .found ∧ (send.own = true → send.written = true)

namespace State

def start (messageSeq : ℕ) (joined : Bool) : State :=
  ⟨messageSeq, if joined then some .fresh else none, [], fun _ => none, none, none⟩

variable (s : State)

def set (id : ℕ) (r : Option Request) : State := { s with requests := Function.update s.requests id r }

def cursor : ℕ := (s.row.map Row.lastReadSeq).getD 0

def seen (send : Send) : List ℕ := if send.stage = .unmentioned then s.mentions else send.seq :: s.mentions

def found (seq : ℕ) : Option Request :=
  if (s.row.map Row.active).getD false then some (.ack seq s.messageSeq) else none

def looked (send : Send) : Stage :=
  match s.row with
  | some row => if row.Bumps send.seq then .found else .passed
  | none => .passed

def own : Option Row :=
  match s.locked with
  | some (.send, row) => some row
  | _ => s.row

def written (send : Send) (inserts : Bool) : Option Row :=
  (s.own.or (if send.virtual && inserts then some .fresh else none)).map (Row.moveTo · (s.seen send) send.seq)

def release : Option (Holder × Row) :=
  match s.locked with
  | some (.change, row) => some (.change, row)
  | _ => none

end State

inductive Step : State → Event → State → Prop
  | load {s : State} {id seq : ℕ} (h : s.requests id = none) :
      Step s (.load id seq) (s.set id (if seq ≤ s.cursor then none else some (.read (min seq s.messageSeq))))
  /-- The route's update does not ask whether the member has left. -/
  | update {s : State} {id capped : ℕ} (h : s.requests id = some (.read capped))
      (hfree : s.row ≠ none → s.locked = none) :
      Step s (.update id) ({ s with row := s.row.map (Row.moveTo · s.mentions capped) }.set id none)
  | find {s : State} {id seq : ℕ} (h : s.requests id = none) : Step s (.find id seq) (s.set id (s.found seq))
  | apply {s : State} {id seq messageSeq : ℕ} (h : s.requests id = some (.ack seq messageSeq)) (hfree : s.locked = none) :
      Step s (.apply id) ({ s with row := s.row.map (Row.acked · s.mentions seq messageSeq) }.set id none)
  /-- An insert of the row for a member of the space, before whatever it is needed for. -/
  | materialise {s : State} (hnone : s.row = none) (hfree : s.locked = none) :
      Step s .materialise { s with row := some .fresh }
  /-- The row is inserted, or its `left_at` is set or cleared. -/
  | change {s : State} {active : Bool} (hfree : s.locked = none) (hrow : s.row = none → active = true) :
      Step s (.change active) { s with locked := some (.change, { s.row.getD .fresh with active := active }) }
  | finish {s : State} {row : Row} (h : s.locked = some (.change, row)) :
      Step s .finish { s with row := some row, locked := none }
  | undo {s : State} {row : Row} (h : s.locked = some (.change, row)) : Step s .undo { s with locked := none }
  /-- `allocate_message_seq` -/
  | allocate {s : State} {own virtual : Bool} (h : s.send = none) :
      Step s (.allocate own virtual) { s with send := some ⟨s.messageSeq + 1, own, virtual, .unmentioned, false⟩ }
  /-- A direct mention, one of everyone or one of a role, whichever comes first. -/
  | mention {s : State} {send : Send} (h : s.send = some send) (hstage : send.stage = .unmentioned)
      (hfirst : send.written = false) : Step s .mention { s with send := some { send with stage := .mentioned } }
  | look {s : State} {send : Send} (h : s.send = some send) (hstage : send.stage = .mentioned) :
      Step s .look { s with send := some { send with stage := s.looked send } }
  /-- The update looks at the row again, which may have changed while it waited. -/
  | bump {s : State} {send : Send} {row : Row} (h : s.send = some send) (hstage : send.stage = .found)
      (hfree : s.locked = none) (hrow : s.row = some row) (hbumps : row.Bumps send.seq) :
      Step s .bump { s with
        send := some { send with stage := .bumped }
        locked := some (.send, { row with mentionCount := row.mentionCount + 1 }) }
  | skip {s : State} {send : Send} (h : s.send = some send) (hstage : send.stage = .found) (hfree : s.locked = none)
      (hrow : ∀ row, s.row = some row → ¬ row.Bumps send.seq) :
      Step s .bump { s with send := some { send with stage := .passed } }
  /-- The member's own send, which inserts the row first where the member has none in the channel. -/
  | write {s : State} {send : Send} {inserts : Bool} (h : s.send = some send) (hown : send.own = true)
      (hfirst : send.written = false) (hstage : send.stage ≠ .mentioned ∧ send.stage ≠ .found)
      (hfree : ∀ row, s.locked = some (.change, row) → s.written send inserts = none) :
      Step s (.write inserts) { s with
        send := some { send with written := true }
        locked := ((s.written send inserts).map fun row => (Holder.send, row)).or s.locked }
  | commit {s : State} {send : Send} (h : s.send = some send) (hdone : send.Done) :
      Step s .commit { s with
        messageSeq := send.seq, mentions := s.seen send, row := s.own, send := none, locked := s.release }
  | rollback {s : State} {send : Send} (h : s.send = some send) :
      Step s .rollback { s with send := none, locked := s.release }

/-- The badge of a row that is about to count fits what has been committed, and no open send that mentions
the member has passed it over. -/
def State.Fits (s : State) (row : Row) : Prop :=
  row.Exact s.mentions ∧ ∀ send, s.send = some send → send.stage ≠ .passed

/-- A row is inserted, or comes back, with a badge that fits. -/
def InTurn (s : State) : Event → Prop
  | .materialise => s.Fits .fresh
  | .finish => ∀ row, s.locked = some (.change, row) → row.active = true →
      (∀ old, s.row = some old → old.active = false) → s.Fits row
  | _ => True

section
variable {s s' : State} {event : Event} {id : ℕ} {row old : Row} {mentions : List ℕ} {cursor seq : ℕ}

lemma set_requests (s : State) (id other : ℕ) (r : Option Request) :
    (s.set id r).requests other = if other = id then r else s.requests other := by
  simp only [State.set, Function.update_apply]

lemma beyond_cons (h : cursor < seq) : beyond (seq :: mentions) cursor = beyond mentions cursor + 1 :=
  List.countP_cons_of_pos (by simpa using h)

lemma moveTo_lastReadSeq : (row.moveTo mentions cursor).lastReadSeq = cursor := by
  unfold Row.moveTo
  split_ifs with h
  · exact h.symm
  · rfl

lemma moveTo_active : (row.moveTo mentions cursor).active = row.active := by
  unfold Row.moveTo
  split_ifs <;> rfl

lemma moveTo_exact (h : cursor = row.lastReadSeq → row.Exact mentions) : (row.moveTo mentions cursor).Exact mentions := by
  unfold Row.moveTo
  split_ifs with hsame
  · exact h hsame
  · rfl

lemma acked_active {messageSeq : ℕ} : (row.acked mentions seq messageSeq).active = row.active := by
  unfold Row.acked
  split_ifs
  · exact moveTo_active
  · rfl

lemma acked_exact {messageSeq : ℕ} (h : row.active = true → row.Exact mentions) (hactive : row.active = true) :
    (row.acked mentions seq messageSeq).Exact mentions := by
  unfold Row.acked
  rw [if_pos hactive]
  exact moveTo_exact fun _ => h hactive

def Request.Within (messageSeq : ℕ) : Request → Prop
  | .read capped => capped ≤ messageSeq
  | .ack _ head => head ≤ messageSeq

structure Send.Holds (s : State) (row : Row) (send : Send) : Prop where
  isOpen : s.send = some send
  within : row.lastReadSeq ≤ send.seq
  exact : row.active = true → row.Exact (s.seen send)
  stage : send.stage ≠ .mentioned ∧ send.stage ≠ .found
  written : send.stage = .unmentioned → send.written = true

/-- The badge of an active row is right, and stays so when an open send commits. -/
structure Sound (s : State) : Prop where
  exact : ∀ row, s.row = some row → row.active = true → row.Exact s.mentions
  within : ∀ row, s.row = some row → row.lastReadSeq ≤ s.messageSeq
  requests : ∀ id r, s.requests id = some r → r.Within s.messageSeq
  send : ∀ send, s.send = some send → send.seq = s.messageSeq + 1
  change : ∀ row, s.locked = some (.change, row) →
    row.lastReadSeq = s.cursor ∧ ∀ old, s.row = some old → row.mentionCount = old.mentionCount
  held : ∀ row, s.locked = some (.send, row) → ∃ send, Send.Holds s row send
  free : ∀ send, s.send = some send → (∀ row, s.locked ≠ some (.send, row)) →
    send.stage ≠ .bumped ∧ (send.stage = .passed → ∀ row, s.row = some row → row.active = false)

lemma start_sound (messageSeq : ℕ) (joined : Bool) : Sound (.start messageSeq joined) where
  exact row h _ := by
    cases joined with
    | true =>
      obtain rfl := Option.some.inj h
      rfl
    | false => cases h
  within row h := by
    cases joined with
    | true =>
      obtain rfl := Option.some.inj h
      exact Nat.zero_le _
    | false => cases h
  requests _ _ h := by cases h
  send _ h := by cases h
  change _ h := by cases h
  held _ h := by cases h
  free _ h := by cases h

lemma Sound.cursor_le (h : Sound s) : s.cursor ≤ s.messageSeq := by
  unfold State.cursor
  cases hrow : s.row with
  | none => exact Nat.zero_le _
  | some row => exact h.within row hrow

lemma Sound.goes {next : Option Request} {f : Row → Row} (h : Sound s) (hfree : s.row ≠ none → s.locked = none)
    (hactive : ∀ row, (f row).active = row.active)
    (hwithin : ∀ row, row.lastReadSeq ≤ s.messageSeq → (f row).lastReadSeq ≤ s.messageSeq)
    (hexact : ∀ row, row.Exact s.mentions → row.active = true → (f row).Exact s.mentions)
    (hnext : ∀ r, next = some r → r.Within s.messageSeq) : Sound ({ s with row := s.row.map f }.set id next) where
  exact row hrow hrow' := by
    obtain ⟨old, hold, rfl⟩ := Option.map_eq_some_iff.mp hrow
    rw [hactive] at hrow'
    exact hexact old (h.exact old hold hrow') hrow'
  within row hrow := by
    obtain ⟨old, hold, rfl⟩ := Option.map_eq_some_iff.mp hrow
    exact hwithin old (h.within old hold)
  requests other r hr := by
    rw [set_requests] at hr
    split_ifs at hr
    · exact hnext r hr
    · exact h.requests other r hr
  send := h.send
  change row hlocked := by
    cases hrow : s.row with
    | none =>
      obtain ⟨hcursor, -⟩ := h.change row hlocked
      refine ⟨?_, fun old hold => ?_⟩
      · rw [hcursor]
        unfold State.cursor State.set
        dsimp only
        rw [hrow]
        rfl
      · cases hold
    | some old =>
      have hnone : s.locked = none := hfree (by simp [hrow])
      cases hnone.symm.trans hlocked
  held row hlocked := by
    obtain ⟨send, hsend⟩ := h.held row hlocked
    exact ⟨send, hsend.isOpen, hsend.within, hsend.exact, hsend.stage, hsend.written⟩
  free send hsend hlocked := by
    obtain ⟨hbumped, hpassed⟩ := h.free send hsend hlocked
    refine ⟨hbumped, fun hstage row hrow => ?_⟩
    obtain ⟨old, hold, rfl⟩ := Option.map_eq_some_iff.mp hrow
    rw [hactive]
    exact hpassed hstage old hold

lemma Sound.asks {next : Option Request} (h : Sound s) (hnext : ∀ r, next = some r → r.Within s.messageSeq) :
    Sound (s.set id next) where
  exact := h.exact
  within := h.within
  requests other r hr := by
    rw [set_requests] at hr
    split_ifs at hr
    · exact hnext r hr
    · exact h.requests other r hr
  send := h.send
  change := h.change
  held row hlocked := by
    obtain ⟨send, hsend⟩ := h.held row hlocked
    exact ⟨send, hsend.isOpen, hsend.within, hsend.exact, hsend.stage, hsend.written⟩
  free := h.free

lemma Sound.materialises (h : Sound s) (hfree : s.locked = none) (hfits : s.Fits .fresh) :
    Sound { s with row := some .fresh } where
  exact row hrow _ := by
    obtain rfl := Option.some.inj hrow
    exact hfits.1
  within row hrow := by
    obtain rfl := Option.some.inj hrow
    exact Nat.zero_le _
  requests := h.requests
  send := h.send
  change _ hlocked := by cases hfree.symm.trans hlocked
  held _ hlocked := by cases hfree.symm.trans hlocked
  free send hsend hlocked := by
    obtain ⟨hbumped, -⟩ := h.free send hsend hlocked
    exact ⟨hbumped, fun hstage => absurd hstage (hfits.2 send hsend)⟩

lemma Sound.changes (h : Sound s) (hfree : s.locked = none) (active : Bool) :
    Sound { s with locked := some (.change, { s.row.getD .fresh with active := active }) } where
  exact := h.exact
  within := h.within
  requests := h.requests
  send := h.send
  change row hlocked := by
    obtain ⟨-, rfl⟩ := Prod.mk.inj (Option.some.inj hlocked)
    unfold State.cursor
    dsimp only
    cases hrow : s.row with
    | none => exact ⟨rfl, nofun⟩
    | some old =>
      refine ⟨rfl, fun old' hold' => ?_⟩
      obtain rfl := Option.some.inj hold'
      rfl
  held _ hlocked := by cases hlocked
  free send hsend _ := h.free send hsend (by simp [hfree])

lemma Sound.finishes (h : Sound s) (hlocked : s.locked = some (.change, row))
    (hfits : row.active = true → (∀ old, s.row = some old → old.active = false) → s.Fits row) :
    Sound { s with row := some row, locked := none } := by
  obtain ⟨hcursor, hcount⟩ := h.change row hlocked
  have hkept : ∀ old, s.row = some old → old.active = true → row.Exact s.mentions := by
    intro old hold hactive
    have hexact : old.mentionCount = beyond s.mentions old.lastReadSeq := h.exact old hold hactive
    have hsame : row.lastReadSeq = old.lastReadSeq := by
      rw [hcursor]
      unfold State.cursor
      rw [hold]
      rfl
    unfold Row.Exact
    rw [hcount old hold, hsame, hexact]
  -- A row that counted before goes on as it was.
  have hcases : row.active = true → s.Fits row ∨ ∃ old, s.row = some old ∧ old.active = true := by
    intro hactive
    by_cases hold : ∃ old, s.row = some old ∧ old.active = true
    · exact .inr hold
    · exact .inl (hfits hactive fun old hrow => Bool.eq_false_iff.mpr fun hactive' => hold ⟨old, hrow, hactive'⟩)
  refine ⟨fun row' hrow hactive => ?_, fun row' hrow => ?_, h.requests, h.send, nofun, nofun, fun send hsend _ => ?_⟩
  · obtain rfl := Option.some.inj hrow
    rcases hcases hactive with hfits | ⟨old, hold, hactive'⟩
    · exact hfits.1
    · exact hkept old hold hactive'
  · obtain rfl := Option.some.inj hrow
    exact hcursor.trans_le h.cursor_le
  · obtain ⟨hbumped, hpassed⟩ := h.free send hsend (by simp [hlocked])
    refine ⟨hbumped, fun hstage row' hrow => ?_⟩
    obtain rfl := Option.some.inj hrow
    by_contra hne
    rcases hcases (Bool.eq_true_of_not_eq_false hne) with hfits | ⟨old, hold, hactive⟩
    · exact hfits.2 send hsend hstage
    · cases hactive.symm.trans (hpassed hstage old hold)

lemma release_not_send : s.release ≠ some (.send, row) := by
  unfold State.release
  split <;> simp

lemma release_change (h : s.release = some (.change, row)) : s.locked = some (.change, row) := by
  unfold State.release at h
  split at h
  · next hlocked => exact hlocked.trans h
  · cases h

lemma own_cases (s : State) : (∃ row, s.locked = some (.send, row) ∧ s.own = some row) ∨
    ((∀ row, s.locked ≠ some (.send, row)) ∧ s.own = s.row) := by
  unfold State.own
  split
  · next row hlocked => exact .inl ⟨row, hlocked, rfl⟩
  · next hne => exact .inr ⟨hne, rfl⟩

lemma Sound.commits {send : Send} (h : Sound s) (hsend : s.send = some send) (hdone : send.Done) :
    Sound { s with messageSeq := send.seq, mentions := s.seen send, row := s.own, send := none, locked := s.release } := by
  have hseq := h.send send hsend
  have hle : s.messageSeq ≤ send.seq := by omega
  have hrequests : ∀ id r, s.requests id = some r → r.Within send.seq := by
    intro id r hr
    have hwithin := h.requests id r hr
    cases r <;> exact Nat.le_trans hwithin hle
  rcases own_cases s with ⟨row, hlocked, hown⟩ | ⟨hlocked, hown⟩
  · obtain ⟨send', hholds⟩ := h.held row hlocked
    obtain rfl := Option.some.inj (hsend.symm.trans hholds.isOpen)
    refine ⟨fun row' hrow hactive => ?_, fun row' hrow => ?_, hrequests, nofun, fun row' hrelease => ?_,
      fun row' hrelease => absurd hrelease release_not_send, nofun⟩
    · obtain rfl := Option.some.inj (hown.symm.trans hrow)
      exact hholds.exact hactive
    · obtain rfl := Option.some.inj (hown.symm.trans hrow)
      exact hholds.within
    · cases hlocked.symm.trans (release_change hrelease)
  · obtain ⟨hbumped, hpassed⟩ := h.free send hsend hlocked
    refine ⟨fun row hrow hactive => ?_, fun row hrow => ?_, hrequests, nofun, fun row hrelease => ?_,
      fun row hrelease => absurd hrelease release_not_send, nofun⟩
    · dsimp only at hrow
      rw [hown] at hrow
      unfold State.seen
      cases hstage : send.stage with
      | unmentioned => exact h.exact row hrow hactive
      | passed => cases hactive.symm.trans (hpassed hstage row hrow)
      | bumped => exact absurd hstage hbumped
      | mentioned => exact absurd hstage hdone.1
      | found => exact absurd hstage hdone.2.1
    · dsimp only at hrow
      rw [hown] at hrow
      exact (h.within row hrow).trans hle
    · have hchange := h.change row (release_change hrelease)
      unfold State.cursor at hchange ⊢
      dsimp only
      rwa [hown]

lemma Sound.sends {next : Send} (h : Sound s) (hseq : next.seq = s.messageSeq + 1)
    (hlocked : ∀ row, s.locked ≠ some (.send, row)) (hbumped : next.stage ≠ .bumped)
    (hpassed : next.stage = .passed → ∀ row, s.row = some row → row.active = false) :
    Sound { s with send := some next } where
  exact := h.exact
  within := h.within
  requests := h.requests
  send send hsend := by
    obtain rfl := Option.some.inj hsend
    exact hseq
  change := h.change
  held row hheld := absurd hheld (hlocked row)
  free send hsend _ := by
    obtain rfl := Option.some.inj hsend
    exact ⟨hbumped, hpassed⟩

lemma Sound.inactive {send : Send} (h : Sound s) (hsend : s.send = some send) (hrow : s.row = some row)
    (hbumps : ¬ row.Bumps send.seq) : row.active = false := by
  have hseq := h.send send hsend
  have hwithin := h.within row hrow
  by_contra hne
  exact hbumps ⟨Bool.eq_true_of_not_eq_false hne, by omega⟩

lemma Sound.bumps {send : Send} (h : Sound s) (hsend : s.send = some send) (hrow : s.row = some row)
    (hbumps : row.Bumps send.seq) :
    Sound { s with
      send := some { send with stage := .bumped }
      locked := some (.send, { row with mentionCount := row.mentionCount + 1 }) } where
  exact := h.exact
  within := h.within
  requests := h.requests
  send next hnext := by
    obtain rfl := Option.some.inj hnext
    exact h.send send hsend
  change _ hlocked := by cases hlocked
  held row' hlocked := by
    obtain ⟨-, rfl⟩ := Prod.mk.inj (Option.some.inj hlocked)
    refine ⟨_, rfl, hbumps.2.le, fun hactive => ?_, ⟨nofun, nofun⟩, nofun⟩
    have hexact : row.mentionCount = beyond s.mentions row.lastReadSeq := h.exact row hrow hactive
    have hcons : beyond (send.seq :: s.mentions) row.lastReadSeq = beyond s.mentions row.lastReadSeq + 1 :=
      beyond_cons hbumps.2
    exact (congrArg (· + 1) hexact).trans hcons.symm
  free next _ hlocked := absurd rfl (hlocked _)

lemma Sound.writes {send : Send} {inserts : Bool} (h : Sound s) (hsend : s.send = some send)
    (hstage : send.stage ≠ .mentioned ∧ send.stage ≠ .found) :
    Sound { s with
      send := some { send with written := true }
      locked := ((s.written send inserts).map fun row => (Holder.send, row)).or s.locked } := by
  have hseq := h.send send hsend
  have hseen : s.seen { send with written := true } = s.seen send := rfl
  cases hwritten : s.written send inserts with
  | some row =>
    -- A row that it has written is exact, since the cursor has moved or the trigger has bumped the row.
    have hexact : row.active = true → row.Exact (s.seen send) := by
      intro hactive
      unfold State.written at hwritten
      obtain ⟨old, hold, rfl⟩ := Option.map_eq_some_iff.mp hwritten
      refine moveTo_exact fun hsame => ?_
      rw [moveTo_active] at hactive
      rcases own_cases s with ⟨row', hlocked, hown⟩ | ⟨-, hown⟩
      · rw [hown] at hold
        obtain rfl := Option.some.inj hold
        obtain ⟨send', hholds⟩ := h.held row' hlocked
        obtain rfl := Option.some.inj (hsend.symm.trans hholds.isOpen)
        exact hholds.exact hactive
      · rw [hown] at hold
        have hle : old.lastReadSeq ≤ s.messageSeq := by
          cases hrow : s.row with
          | some row' =>
            rw [hrow] at hold
            obtain rfl := Option.some.inj hold
            exact h.within row' hrow
          | none =>
            rw [hrow] at hold
            split_ifs at hold
            · obtain rfl := Option.some.inj hold
              exact Nat.zero_le _
            · cases hold
        omega
    refine ⟨h.exact, h.within, h.requests, fun next hnext => ?_, nofun, fun row' hlocked => ?_, fun next _ hlocked => ?_⟩
    · obtain rfl := Option.some.inj hnext
      exact hseq
    · obtain ⟨-, rfl⟩ := Prod.mk.inj (Option.some.inj hlocked)
      refine ⟨_, rfl, ?_, hexact, hstage, fun _ => rfl⟩
      unfold State.written at hwritten
      obtain ⟨old, -, rfl⟩ := Option.map_eq_some_iff.mp hwritten
      exact moveTo_lastReadSeq.le
    · exact absurd rfl (hlocked row)
  | none =>
    refine ⟨h.exact, h.within, h.requests, fun next hnext => ?_, h.change, fun row hlocked => ?_,
      fun next hnext hlocked => ?_⟩
    · obtain rfl := Option.some.inj hnext
      exact hseq
    · obtain ⟨send', hholds⟩ := h.held row hlocked
      obtain rfl := Option.some.inj (hsend.symm.trans hholds.isOpen)
      exact ⟨_, rfl, hholds.within, hholds.exact, hholds.stage, fun _ => rfl⟩
    · obtain rfl := Option.some.inj hnext
      exact h.free send hsend hlocked

lemma Sound.rollsBack (h : Sound s) : Sound { s with send := none, locked := s.release } where
  exact := h.exact
  within := h.within
  requests := h.requests
  send _ hsend := by cases hsend
  change row hlocked := h.change row (release_change hlocked)
  held row hlocked := absurd hlocked release_not_send
  free _ hsend := by cases hsend

lemma step_sound (h : Sound s) (hturn : InTurn s event) (hs : Step s event s') : Sound s' := by
  cases hs with
  | @load id seq hnone =>
    refine h.asks fun r hr => ?_
    split_ifs at hr
    obtain rfl := Option.some.inj hr
    exact Nat.min_le_right _ _
  | @update id capped hr hfree =>
    have hcapped : capped ≤ s.messageSeq := h.requests id _ hr
    refine h.goes hfree (fun row => moveTo_active) (fun row _ => moveTo_lastReadSeq.trans_le hcapped)
      (fun row hexact _ => moveTo_exact fun _ => hexact) nofun
  | @find id seq hnone =>
    refine h.asks fun r hr => ?_
    unfold State.found at hr
    split_ifs at hr
    obtain rfl := Option.some.inj hr
    exact le_rfl
  | @apply id seq messageSeq hr hfree =>
    have hhead : messageSeq ≤ s.messageSeq := h.requests id _ hr
    refine h.goes (fun _ => hfree) (fun row => acked_active) (fun row hle => ?_)
      (fun row hexact hactive => acked_exact (fun _ => hexact) hactive) nofun
    unfold Row.acked
    split_ifs
    · rw [moveTo_lastReadSeq]
      exact (Nat.min_le_right _ _).trans hhead
    · exact hle
  | materialise hnone hfree => exact h.materialises hfree hturn
  | change hfree hrow => exact h.changes hfree _
  | @finish row hlocked => exact h.finishes hlocked (hturn row hlocked)
  | @undo row hlocked =>
    refine ⟨h.exact, h.within, h.requests, h.send, nofun, nofun, fun send hsend _ => ?_⟩
    exact h.free send hsend (by simp [hlocked])
  | @allocate own virtual hnone =>
    have hlocked : ∀ row, s.locked ≠ some (.send, row) := by
      intro row hheld
      obtain ⟨send, hholds⟩ := h.held row hheld
      cases hnone.symm.trans hholds.isOpen
    exact h.sends rfl hlocked nofun nofun
  | @mention send hsend hstage hfirst =>
    have hlocked : ∀ row, s.locked ≠ some (.send, row) := by
      intro row hheld
      obtain ⟨send', hholds⟩ := h.held row hheld
      obtain rfl := Option.some.inj (hsend.symm.trans hholds.isOpen)
      cases hfirst.symm.trans (hholds.written hstage)
    exact h.sends (h.send send hsend) hlocked nofun nofun
  | @look send hsend hstage =>
    have hlocked : ∀ row, s.locked ≠ some (.send, row) := by
      intro row hheld
      obtain ⟨send', hholds⟩ := h.held row hheld
      obtain rfl := Option.some.inj (hsend.symm.trans hholds.isOpen)
      exact hholds.stage.1 hstage
    refine h.sends (h.send send hsend) hlocked ?_ fun hpassed row hrow => ?_
    · unfold State.looked
      split
      · split_ifs <;> nofun
      · nofun
    · refine h.inactive hsend hrow fun hbumps => ?_
      unfold State.looked at hpassed
      rw [hrow] at hpassed
      dsimp only at hpassed
      rw [if_pos hbumps] at hpassed
      cases hpassed
  | bump hsend hstage hfree hrow hbumps => exact h.bumps hsend hrow hbumps
  | @skip send hsend hstage hfree hrow =>
    refine h.sends (h.send send hsend) (by simp [hfree]) nofun fun _ row hrow' => ?_
    exact h.inactive hsend hrow' (hrow row hrow')
  | write hsend hown hfirst hstage hfree => exact h.writes hsend hstage
  | commit hsend hdone => exact h.commits hsend hdone
  | rollback hsend => exact h.rollsBack

/-- Where a row comes to count with a badge that fits, the badge of a row that counts is the number of
mentions beyond its cursor. -/
theorem badge_exact {messageSeq : ℕ} {joined : Bool} (hrun : RunWhere Step InTurn (.start messageSeq joined) s)
    (hrow : s.row = some row) (hactive : row.active = true) :
    row.mentionCount = s.mentions.countP fun seq => row.lastReadSeq < seq := by
  have h : Sound s := RunWhere.invariant hrun (start_sound messageSeq joined) fun _ _ _ h hturn hs => step_sound h hturn hs
  exact h.exact row hrow hactive

end

namespace Sample

variable {s s' : State} {event : Event} {ok : State → Event → Prop}

def sending (stage : Stage) : Send := ⟨1, false, false, stage, false⟩

def mentions (row : Option Row) (stage : Stage) (locked : Option (Holder × Row)) : State :=
  ⟨0, row, [], fun _ => none, some (sending stage), locked⟩

def mentioned (row : Option Row) : State := ⟨1, row, [1], fun _ => none, none, none⟩

lemma mentions_run (joined : Bool)
    (hok : ∀ s active, ok s (.allocate false active) ∧ ok s .mention) :
    RunWhere Step ok (.start 0 joined) (mentions (if joined then some .fresh else none) .mentioned none) := by
  have h₁ : Step (.start 0 joined) (.allocate false false)
      (mentions (if joined then some .fresh else none) .unmentioned none) := .allocate rfl
  have h₂ : Step (mentions (if joined then some .fresh else none) .unmentioned none) .mention
      (mentions (if joined then some .fresh else none) .mentioned none) :=
    @Step.mention _ (sending .unmentioned) rfl rfl rfl
  exact ((RunWhere.refl _).on h₁ (hok _ false).1).on h₂ (hok _ false).2

end Sample

open Sample in
theorem badge_exact_mentioned : ∃ s row, RunWhere Step InTurn (.start 0 true) s ∧ s.row = some row ∧
    row.mentionCount = 1 ∧ row.mentionCount = s.mentions.countP fun seq => row.lastReadSeq < seq := by
  have h₁ : Step (mentions (some .fresh) .mentioned none) .look (mentions (some .fresh) .found none) :=
    @Step.look _ (sending .mentioned) rfl rfl
  have h₂ : Step (mentions (some .fresh) .found none) .bump
      (mentions (some .fresh) .bumped (some (.send, ⟨0, 1, true⟩))) :=
    @Step.bump _ (sending .found) .fresh rfl rfl rfl rfl ⟨rfl, Nat.zero_lt_one⟩
  have h₃ : Step (mentions (some .fresh) .bumped (some (.send, ⟨0, 1, true⟩))) .commit (mentioned (some ⟨0, 1, true⟩)) :=
    @Step.commit _ (sending .bumped) rfl ⟨nofun, nofun, nofun⟩
  have hfirst := @mentions_run InTurn true fun _ _ => ⟨trivial, trivial⟩
  have hrun := ((hfirst.on h₁ trivial).on h₂ trivial).on h₃ trivial
  exact ⟨_, ⟨0, 1, true⟩, hrun, rfl, rfl, badge_exact hrun rfl rfl⟩

open Sample in
/-- A member of the space is mentioned in a channel before there is a row, and a row is inserted later. -/
theorem badge_missed : ∃ s row, RunWhere Step (fun _ _ => True) (.start 0 false) s ∧ s.send = none ∧ s.locked = none ∧
    s.row = some row ∧ row.active = true ∧ row.mentionCount = 0 ∧
    (s.mentions.countP fun seq => row.lastReadSeq < seq) = 1 := by
  have h₁ : Step (mentions none .mentioned none) .look (mentions none .passed none) :=
    @Step.look _ (sending .mentioned) rfl rfl
  have h₂ : Step (mentions none .passed none) .commit (mentioned none) :=
    @Step.commit _ (sending .passed) rfl ⟨nofun, nofun, nofun⟩
  have h₃ : Step (mentioned none) .materialise (mentioned (some .fresh)) := .materialise rfl rfl
  have hfirst := @mentions_run (fun _ _ => True) false fun _ _ => ⟨trivial, trivial⟩
  have hrun := ((hfirst.on h₁ trivial).on h₂ trivial).on h₃ trivial
  exact ⟨_, .fresh, hrun, rfl, rfl, rfl, rfl, rfl, by decide⟩

end Yappy.Badges
