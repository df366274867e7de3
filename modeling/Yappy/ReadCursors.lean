import Yappy.Runs

/-!
# Read cursors

The cursors of one member of one conversation: `POST /:id/read` of `apps/api/src/routes/messages.ts`,
`ReadAck` of `apps/gateway/src/server.ts`, what `send` of `apps/api/src/services/messages.ts` writes for
its sender, and the rows that both processes materialise. At READ COMMITTED an update finds its row in
a snapshot, waits while the row is locked, and then takes the row as it is by then, with the rows of
other tables still as they were in the snapshot.
-/
namespace Yappy.ReadCursors

/-- What a row of `conversation_members` holds of the cursors. -/
structure Member where
  lastReadSeq : ℕ
  lastDeliveredSeq : ℕ

namespace Member

def fresh : Member := ⟨0, 0⟩

variable (m : Member)

def read (capped : ℕ) : Member := ⟨capped, max m.lastDeliveredSeq capped⟩

def acked (seq messageSeq : ℕ) : Member :=
  ⟨min (max m.lastReadSeq seq) messageSeq, min (max m.lastDeliveredSeq seq) messageSeq⟩

def sent (seq : ℕ) : Member := ⟨seq, seq⟩

def Within (messageSeq : ℕ) : Prop := m.lastReadSeq ≤ messageSeq ∧ m.lastDeliveredSeq ≤ messageSeq

end Member

inductive Request
  | read (seq : ℕ)
  | virtual (capped : ℕ)
  | capped (capped : ℕ)
  /-- The gateway, the first time or after it has materialised the row. -/
  | ack (seq : ℕ) (again : Bool)
  | missing (seq : ℕ)
  /-- Its update has found the row, and the head of the conversation. -/
  | acking (seq messageSeq : ℕ)

structure Send where
  seq : ℕ
  virtual : Bool
  /-- It has come to its update of the member, which keeps the row locked too, if there is one. -/
  written : Option (Option Member)

structure State where
  messageSeq : ℕ
  /-- None for a member of the space who has no row in the channel yet. -/
  member : Option Member
  requests : ℕ → Option Request
  send : Option Send

inductive Event
  | read (id seq : ℕ)
  | load (id : ℕ)
  /-- `inserts` where the space has the member. -/
  | materialise (id : ℕ) (inserts : Bool)
  | update (id : ℕ)
  | ack (id seq : ℕ)
  | find (id : ℕ)
  | materialiseAck (id : ℕ) (inserts : Bool)
  | apply (id : ℕ)
  | allocate (virtual : Bool)
  | write (inserts : Bool)
  | commit
  | rollback
  | other

namespace State

def start (messageSeq : ℕ) (joined : Bool) : State :=
  ⟨messageSeq, if joined then some .fresh else none, fun _ => none, none⟩

def set (s : State) (id : ℕ) (r : Option Request) : State :=
  { s with requests := Function.update s.requests id r }

def cursors (s : State) : Member := s.member.getD .fresh

def Locked (s : State) : Prop := ∃ send m, s.send = some send ∧ send.written = some (some m)

/-- `materialiseChannelMember` -/
def materialised (s : State) (inserts : Bool) : State :=
  { s with member := s.member.or (if inserts then some .fresh else none) }

def loaded (s : State) (seq : ℕ) : Option Request :=
  if seq ≤ s.cursors.lastReadSeq then none
  else some (if s.member.isSome then .capped (min seq s.messageSeq) else .virtual (min seq s.messageSeq))

def found (s : State) (seq : ℕ) (again : Bool) : Option Request :=
  match s.member with
  | some _ => some (.acking seq s.messageSeq)
  | none => if again then none else some (.missing seq)

def written (s : State) (send : Send) (inserts : Bool) : Option Member :=
  (s.member.or (if send.virtual && inserts then some .fresh else none)).map fun _ => .sent send.seq

end State

inductive Step : State → Event → State → Prop
  | read {s : State} {id seq : ℕ} (h : s.requests id = none) : Step s (.read id seq) (s.set id (some (.read seq)))
  | load {s : State} {id seq : ℕ} (h : s.requests id = some (.read seq)) :
      Step s (.load id) (s.set id (s.loaded seq))
  | materialise {s : State} {id capped : ℕ} {inserts : Bool} (h : s.requests id = some (.virtual capped))
      (hfree : s.member = none → ¬ s.Locked) :
      Step s (.materialise id inserts) ((s.materialised inserts).set id (some (.capped capped)))
  | update {s : State} {id capped : ℕ} (h : s.requests id = some (.capped capped))
      (hfree : s.member ≠ none → ¬ s.Locked) :
      Step s (.update id) ({ s with member := s.member.map (Member.read · capped) }.set id none)
  | ack {s : State} {id seq : ℕ} (h : s.requests id = none) : Step s (.ack id seq) (s.set id (some (.ack seq false)))
  | find {s : State} {id seq : ℕ} {again : Bool} (h : s.requests id = some (.ack seq again)) :
      Step s (.find id) (s.set id (s.found seq again))
  | materialiseAck {s : State} {id seq : ℕ} {inserts : Bool} (h : s.requests id = some (.missing seq))
      (hfree : s.member = none → ¬ s.Locked) :
      Step s (.materialiseAck id inserts) ((s.materialised inserts).set id
        (if s.member = none ∧ inserts then some (.ack seq true) else none))
  | apply {s : State} {id seq messageSeq : ℕ} (h : s.requests id = some (.acking seq messageSeq))
      (hfree : ¬ s.Locked) :
      Step s (.apply id) ({ s with member := s.member.map (Member.acked · seq messageSeq) }.set id none)
  /-- `allocate_message_seq` -/
  | allocate {s : State} {virtual : Bool} (h : s.send = none) :
      Step s (.allocate virtual) { s with send := some ⟨s.messageSeq + 1, virtual, none⟩ }
  | write {s : State} {send : Send} {inserts : Bool} (h : s.send = some send) (hfirst : send.written = none) :
      Step s (.write inserts) { s with send := some { send with written := some (s.written send inserts) } }
  | commit {s : State} {send : Send} {written : Option Member} (h : s.send = some send)
      (hwritten : send.written = some written) :
      Step s .commit { s with messageSeq := send.seq, member := written.or s.member, send := none }
  | rollback {s : State} {send : Send} (h : s.send = some send) : Step s .rollback { s with send := none }
  | other {s : State} (h : s.send = none) : Step s .other { s with messageSeq := s.messageSeq + 1 }

/-- The route's update finds that the member has not read further than it is about to write, and the
gateway's that neither cursor is past the head in its snapshot. -/
def InOrder (s : State) : Event → Prop
  | .update id => ∀ capped m, s.requests id = some (.capped capped) → s.member = some m → m.lastReadSeq ≤ capped
  | .apply id => ∀ seq messageSeq m, s.requests id = some (.acking seq messageSeq) → s.member = some m →
      m.Within messageSeq
  | _ => True

section
variable {s s' : State} {event : Event} {id : ℕ}

lemma set_requests (s : State) (id other : ℕ) (r : Option Request) :
    (s.set id r).requests other = if other = id then r else s.requests other := by
  simp only [State.set, Function.update_apply]

def Request.Within (messageSeq : ℕ) : Request → Prop
  | .virtual seq | .capped seq => seq ≤ messageSeq
  | .acking _ seen => seen ≤ messageSeq
  | .read _ | .ack .. | .missing _ => True

structure Clamped (s : State) : Prop where
  cursors : s.cursors.Within s.messageSeq
  requests : ∀ id r, s.requests id = some r → r.Within s.messageSeq
  send : ∀ send, s.send = some send → send.seq = s.messageSeq + 1
  written : ∀ send m, s.send = some send → send.written = some (some m) → m = .sent send.seq

lemma Clamped.goes {next : Option Request} (h : Clamped s) (hhead : s'.messageSeq = s.messageSeq)
    (hsend : s'.send = s.send) (hcursors : s'.cursors.Within s.messageSeq)
    (hrequests : s'.requests = (s.set id next).requests)
    (hnext : ∀ r, next = some r → r.Within s.messageSeq) : Clamped s' where
  cursors := hhead ▸ hcursors
  requests other r hr := by
    rw [hrequests, set_requests] at hr
    rw [hhead]
    split_ifs at hr
    · exact hnext r hr
    · exact h.requests other r hr
  send send hs := by
    rw [hsend] at hs
    rw [hhead]
    exact h.send send hs
  written send m hs hm := by
    rw [hsend] at hs
    exact h.written send m hs hm

lemma Request.Within.mono {r : Request} {head head' : ℕ} (h : r.Within head) (hle : head ≤ head') :
    r.Within head' := by
  cases r with
  | virtual | capped | acking => exact Nat.le_trans h hle
  | read | ack | missing => trivial

end

namespace Sample

def held (m : Member) (r r' : Option Request) : State :=
  ⟨10, some m, Function.update (Function.update (fun _ => none) 0 r) 1 r', none⟩

lemma held_left (m : Member) (r r' next : Option Request) : (held m r r').set 0 next = held m next r' := by
  unfold held State.set
  dsimp only
  rw [Function.update_comm (by decide), Function.update_idem]

lemma held_right (m : Member) (r r' next : Option Request) : (held m r r').set 1 next = held m r next := by
  unfold held State.set
  dsimp only
  rw [Function.update_idem]

lemma start_held : State.start 10 true = held .fresh none none := by
  unfold State.start held
  simp

lemma read_run : ∃ entries, History Step (.start 10 true) entries (held .fresh (some (.capped 3)) none) := by
  have h₁ : Step (held .fresh none none) (.read 0 3) ((held .fresh none none).set 0 (some (.read 3))) := .read rfl
  have h₂ : Step (held .fresh (some (.read 3)) none) (.load 0)
      ((held .fresh (some (.read 3)) none).set 0 (some (.capped 3))) := @Step.load _ 0 3 rfl
  rw [held_left] at h₁ h₂
  rw [start_held]
  exact ⟨_, ((History.start _).snoc h₁).snoc h₂⟩

end Sample

end Yappy.ReadCursors
