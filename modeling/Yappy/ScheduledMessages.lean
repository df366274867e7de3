import Yappy.KeyedTable
import Yappy.PermissionDatabase
import Yappy.Runs

/-!
# Scheduled messages

`deliverScheduled` of `apps/api/src/plugins/communityJobs.ts`, the routes of
`apps/api/src/routes/community.ts` that schedule and cancel, and what `send` of
`apps/api/src/services/messages.ts` does with a nonce. A delivery keeps its row locked while the send
commits in a transaction of its own. Whatever throws rolls the delivery back, and a connection can
be lost under it, which frees the row and leaves the send going. Times are in milliseconds.
-/
namespace Yappy.Scheduled

open Permissions (Time Uuid)

structure ScheduledMessage where
  id : Uuid
  senderId : Uuid
  conversationId : Uuid
  /-- The `content` of the payload. -/
  content : String
  sendAt : Time
  sentMessageId : Option Uuid
  sentAt : Option Time
  cancelledAt : Option Time
  failedAt : Option Time
  failure : Option String

structure Message where
  id : Uuid
  senderId : Uuid
  conversationId : Uuid
  content : String
  nonce : String

def nonce (id : Uuid) : String := "scheduled:" ++ id.repr

lemma nonce_injective : Function.Injective nonce := by
  intro id id' h
  have htext := congrArg String.toList h
  simp only [nonce, String.toList_append, List.append_cancel_left_eq] at htext
  exact Nat.repr_inj.mp (String.toList_inj.mp htext)

namespace ScheduledMessage
variable (row : ScheduledMessage)

def Unsent : Prop := row.sentMessageId = none ∧ row.sentAt = none

instance : Decidable row.Unsent := inferInstanceAs (Decidable (_ ∧ _))

/-- What the `where` clause of a delivery asks for. -/
def Due (now : Time) : Prop :=
  row.Unsent ∧ row.cancelledAt = none ∧ row.failedAt = none ∧ row.sendAt ≤ now

instance (now : Time) : Decidable (row.Due now) := inferInstanceAs (Decidable (_ ∧ _))

def sent (messageId : Uuid) (now : Time) : ScheduledMessage :=
  { row with sentMessageId := some messageId, sentAt := some now }

lemma sent_id (messageId : Uuid) (now : Time) : (row.sent messageId now).id = row.id := rfl

def failed (failure : String) (now : Time) : ScheduledMessage :=
  { row with failedAt := some now, failure := some failure }

lemma failed_id (failure : String) (now : Time) : (row.failed failure now).id = row.id := rfl

def cancelled (now : Time) : ScheduledMessage := { row with cancelledAt := some now }

lemma cancelled_id (now : Time) : (row.cancelled now).id = row.id := rfl

def message (id : Uuid) : Message := ⟨id, row.senderId, row.conversationId, row.content, nonce row.id⟩

end ScheduledMessage

def Message.From (row : ScheduledMessage) (m : Message) : Prop :=
  m.senderId = row.senderId ∧ m.nonce = Scheduled.nonce row.id

instance (row : ScheduledMessage) (m : Message) : Decidable (m.From row) :=
  inferInstanceAs (Decidable (_ ∧ _))

inductive Phase
  | queued (id : Uuid)
  /-- It has found the row, and `send` has yet to look for the nonce. -/
  | locked (row : ScheduledMessage)
  | sending (row : ScheduledMessage)
  /-- `send` has returned a message. -/
  | sent (row : ScheduledMessage) (messageId : Uuid)
  /-- `send` has refused it. -/
  | refused (row : ScheduledMessage) (failure : String)

def Phase.row? : Phase → Option ScheduledMessage
  | .queued _ => none
  | .locked row | .sending row | .sent row _ | .refused row _ => some row

structure Delivery where
  phase : Phase
  holds : Bool

structure State where
  clock : Time
  rows : KeyedTable ScheduledMessage.id
  messages : List Message
  deliveries : ℕ → Option Delivery
  cancelled : List Uuid
  /-- The rows whose message was sent by a delivery that failed before it had marked them, and that
  no other one has marked since. -/
  stranded : List Uuid

inductive Event
  | tick (now : Time)
  | schedule (id senderId conversationId : Uuid) (content : String) (sendAt : Time)
  | deliver (delivery : ℕ) (id : Uuid)
  | lock (delivery : ℕ)
  | look (delivery : ℕ)
  | refuse (delivery : ℕ) (failure : String)
  | commit (delivery : ℕ) (messageId : Uuid)
  | mark (delivery : ℕ)
  | fail (delivery : ℕ)
  | cancel (id senderId : Uuid)
  | throw (delivery : ℕ)
  | lose (delivery : ℕ)

namespace State

def start (clock : Time) : State := ⟨clock, .empty, [], fun _ => none, [], []⟩

def Locked (s : State) (id : Uuid) : Prop :=
  ∃ d delivery row, s.deliveries d = some delivery ∧ delivery.holds = true ∧
    delivery.phase.row? = some row ∧ row.id = id

def set (s : State) (d : ℕ) (delivery : Option Delivery) : State :=
  { s with deliveries := Function.update s.deliveries d delivery }

/-- What `insert … on conflict` makes of the rows. -/
def scheduled (s : State) (id senderId conversationId : Uuid) (content : String) (sendAt : Time) :
    State :=
  { s with
    rows := s.rows.insertIgnore
      ⟨id, senderId, conversationId, content, sendAt, none, none, none, none, none⟩ }

/-- `select … for update` -/
def found (s : State) (id : Uuid) : Option ScheduledMessage :=
  (s.rows.find id).filter fun row => row.Due s.clock

/-- `send` looks for the nonce first. -/
def existing (s : State) (row : ScheduledMessage) : Option Message :=
  s.messages.find? fun m => m.From row

def marked (s : State) (row : ScheduledMessage) (messageId : Uuid) : State :=
  { s with
    rows := s.rows.update (fun r => r.id = row.id) (fun r => r.sent messageId s.clock)
      fun r => r.sent_id messageId s.clock
    stranded := s.stranded.filter (· ≠ row.id) }

def failed (s : State) (row : ScheduledMessage) (failure : String) : State :=
  { s with
    rows := s.rows.update (fun r => r.id = row.id) (fun r => r.failed failure s.clock)
      fun r => r.failed_id failure s.clock }

/-- The cancel route's `update … returning`. -/
def cancel (s : State) (id senderId : Uuid) : State :=
  if (s.rows.find id).any fun row => row.senderId = senderId ∧ row.Unsent then
    { s with
      rows := s.rows.update (fun r => r.id = id) (fun r => r.cancelled s.clock)
        fun r => r.cancelled_id s.clock
      cancelled := id :: s.cancelled }
  else s

def thrown (s : State) (d : ℕ) (delivery : Delivery) : State :=
  match delivery.phase with
  | .sent row _ =>
    if (s.rows.find row.id).any fun r => r.Unsent then
      { s.set d none with stranded := row.id :: s.stranded }
    else s.set d none
  | _ => s.set d none

end State

inductive Step : State → Event → State → Prop
  | tick {s : State} {now : Time} (h : s.clock ≤ now) : Step s (.tick now) { s with clock := now }
  | schedule {s : State} {id senderId conversationId : Uuid} {content : String} {sendAt : Time} :
      Step s (.schedule id senderId conversationId content sendAt)
        (s.scheduled id senderId conversationId content sendAt)
  | deliver {s : State} {d : ℕ} {id : Uuid} (h : s.deliveries d = none) :
      Step s (.deliver d id) (s.set d (some ⟨.queued id, true⟩))
  | lock {s : State} {d : ℕ} {id : Uuid} (h : s.deliveries d = some ⟨.queued id, true⟩)
      (hfree : ¬ s.Locked id) :
      Step s (.lock d) (s.set d ((s.found id).map fun row => ⟨.locked row, true⟩))
  | look {s : State} {d : ℕ} {row : ScheduledMessage} {holds : Bool}
      (h : s.deliveries d = some ⟨.locked row, holds⟩) :
      Step s (.look d) (s.set d (some ⟨match s.existing row with
        | some m => .sent row m.id
        | none => .sending row, holds⟩))
  /-- An `AppError` below 500 other than 429. -/
  | refuse {s : State} {d : ℕ} {row : ScheduledMessage} {holds : Bool} {failure : String}
      (h : s.deliveries d = some ⟨.sending row, holds⟩) :
      Step s (.refuse d failure) (s.set d (some ⟨.refused row failure, holds⟩))
  /-- `messages_sender_nonce_uq` lets no second one in. -/
  | commit {s : State} {d : ℕ} {row : ScheduledMessage} {holds : Bool} {messageId : Uuid}
      (h : s.deliveries d = some ⟨.sending row, holds⟩) (hid : ∀ m ∈ s.messages, m.id ≠ messageId)
      (hunique : ∀ m ∈ s.messages, ¬ m.From row) :
      Step s (.commit d messageId) ({ s with messages := row.message messageId :: s.messages }.set d
        (some ⟨.sent row messageId, holds⟩))
  | mark {s : State} {d : ℕ} {row : ScheduledMessage} {messageId : Uuid}
      (h : s.deliveries d = some ⟨.sent row messageId, true⟩) :
      Step s (.mark d) ((s.marked row messageId).set d none)
  | fail {s : State} {d : ℕ} {row : ScheduledMessage} {failure : String}
      (h : s.deliveries d = some ⟨.refused row failure, true⟩) :
      Step s (.fail d) ((s.failed row failure).set d none)
  | cancel {s : State} {id senderId : Uuid} (hfree : ¬ s.Locked id) :
      Step s (.cancel id senderId) (s.cancel id senderId)
  | throw {s : State} {d : ℕ} {delivery : Delivery} (h : s.deliveries d = some delivery) :
      Step s (.throw d) (s.thrown d delivery)
  | lose {s : State} {d : ℕ} {phase : Phase} (h : s.deliveries d = some ⟨phase, true⟩) :
      Step s (.lose d) (s.set d (some ⟨phase, false⟩))

/-- A cancel comes when no delivery of its row has failed with its message sent, unless the row has
been marked since, and none goes on without its transaction. -/
def Settled (s : State) : Event → Prop
  | .cancel id _ => id ∉ s.stranded ∧ ∀ d delivery row, s.deliveries d = some delivery →
      delivery.phase.row? = some row → row.id = id → delivery.holds = true
  | _ => True

section
variable {s s' : State} {event : Event} {d : ℕ}

lemma set_deliveries (s : State) (d other : ℕ) (delivery : Option Delivery) :
    (s.set d delivery).deliveries other = if other = d then delivery else s.deliveries other := by
  simp only [State.set, Function.update_apply]

lemma set_set (s : State) (d : ℕ) (delivery delivery' : Option Delivery) :
    (s.set d delivery).set d delivery' = s.set d delivery' := by
  simp only [State.set, Function.update_idem]

def State.HasSent (s : State) (id : Uuid) : Prop :=
  ∃ d row messageId holds, s.deliveries d = some ⟨.sent row messageId, holds⟩ ∧ row.id = id

structure Kept (s : State) : Prop where
  unique : s.messages.Pairwise fun m m' => ¬ (m.senderId = m'.senderId ∧ m.nonce = m'.nonce)
  created : ∀ m ∈ s.messages, ∃ id r, s.rows.find id = some r ∧ m.From r
  read : ∀ d delivery row, s.deliveries d = some delivery → delivery.phase.row? = some row →
    ∃ r, s.rows.find row.id = some r ∧ r.senderId = row.senderId ∧
      (delivery.holds = true → r = row ∧ row.Unsent ∧ row.cancelledAt = none)
  alone : ∀ d d' delivery delivery' row row', s.deliveries d = some delivery →
    s.deliveries d' = some delivery' → delivery.holds = true → delivery'.holds = true →
    delivery.phase.row? = some row → delivery'.phase.row? = some row' → row.id = row'.id → d = d'
  told : ∀ d row messageId holds, s.deliveries d = some ⟨.sent row messageId, holds⟩ →
    ∃ m ∈ s.messages, m.id = messageId ∧ m.From row
  /-- An unsent row with a message has a delivery to mark it, or is stranded. -/
  accounted : ∀ id r, s.rows.find id = some r → r.Unsent → ∀ m ∈ s.messages, m.From r →
    id ∈ s.stranded ∨ s.HasSent id
  named : ∀ id r, s.rows.find id = some r → ¬ r.Unsent →
    ∃ m ∈ s.messages, m.From r ∧ r.sentMessageId = some m.id
  /-- Once cancelled, a row has no message and no delivery that has found it. -/
  settled : ∀ id ∈ s.cancelled, ∃ r, s.rows.find id = some r ∧ r.cancelledAt ≠ none ∧ r.Unsent ∧
    (∀ m ∈ s.messages, ¬ m.From r) ∧
    ∀ d delivery row, s.deliveries d = some delivery → delivery.phase.row? = some row → row.id ≠ id

lemma start_kept (clock : Time) : Kept (.start clock) where
  unique := List.Pairwise.nil
  created _ h := by cases h
  read _ _ _ h := by cases h
  alone _ _ _ _ _ _ h := by cases h
  told _ _ _ _ h := by cases h
  accounted _ _ h := by cases h
  named _ _ h := by cases h
  settled _ h := by cases h

lemma Kept.goes {next : Option Delivery} (h : Kept s) (hrows : s'.rows = s.rows)
    (hmessages : s'.messages = s.messages) (hcancelled : s'.cancelled = s.cancelled)
    (hstranded : ∀ id ∈ s.stranded, id ∈ s'.stranded) 
    (hdeliveries : ∀ other, s'.deliveries other = if other = d then next else s.deliveries other)
    (hread : ∀ delivery row, next = some delivery → delivery.phase.row? = some row →
      (∃ r, s.rows.find row.id = some r ∧ r.senderId = row.senderId ∧
        (delivery.holds = true → r = row ∧ row.Unsent ∧ row.cancelledAt = none)) ∧
      row.id ∉ s.cancelled ∧
      ∀ other delivery' row', other ≠ d → s.deliveries other = some delivery' →
        delivery.holds = true → delivery'.holds = true → delivery'.phase.row? = some row' →
        row.id ≠ row'.id)
    (htold : ∀ row messageId holds, next = some ⟨.sent row messageId, holds⟩ →
      ∃ m ∈ s.messages, m.id = messageId ∧ m.From row)
    (hsent : ∀ row messageId holds, s.deliveries d = some ⟨.sent row messageId, holds⟩ →
      (∃ holds', next = some ⟨.sent row messageId, holds'⟩) ∨
      ∀ r, s.rows.find row.id = some r → r.Unsent → row.id ∈ s'.stranded) : Kept s' := by
  constructor
  · rw [hmessages]
    exact h.unique
  · rw [hmessages, hrows]
    exact h.created
  · intro i delivery row hi hrow
    rw [hdeliveries] at hi
    rw [hrows]
    split_ifs at hi with he
    · exact (hread delivery row hi hrow).1
    · exact h.read i delivery row hi hrow
  · intro i j delivery delivery' row row' hi hj hholds hholds' hrow hrow' hid
    rw [hdeliveries] at hi hj
    split_ifs at hi hj with hei hej hej
    · exact hei.trans hej.symm
    · exact absurd hid ((hread delivery row hi hrow).2.2 j delivery' row' hej hj hholds hholds' hrow')
    · exact absurd hid.symm ((hread delivery' row' hj hrow').2.2 i delivery row hei hi hholds' hholds hrow)
    · exact h.alone i j delivery delivery' row row' hi hj hholds hholds' hrow hrow' hid
  · intro i row messageId holds hi
    rw [hdeliveries] at hi
    rw [hmessages]
    split_ifs at hi with he
    · exact htold row messageId holds hi
    · exact h.told i row messageId holds hi
  · intro id r hr hunsent m hm hfrom
    rw [hrows] at hr
    rw [hmessages] at hm
    rcases h.accounted id r hr hunsent m hm hfrom with hs | ⟨i, row, messageId, holds, hi, rfl⟩
    · exact Or.inl (hstranded id hs)
    · by_cases he : i = d
      · subst he
        rcases hsent row messageId holds hi with ⟨holds', hn⟩ | hs
        · exact Or.inr ⟨i, row, messageId, holds', by rw [hdeliveries, if_pos rfl, hn], rfl⟩
        · exact Or.inl (hs r hr hunsent)
      · exact Or.inr ⟨i, row, messageId, holds, by rw [hdeliveries, if_neg he, hi], rfl⟩
  · rw [hrows, hmessages]
    exact h.named
  · intro id hid
    rw [hcancelled] at hid
    obtain ⟨r, hr, hwhen, hunsent, hnone, hout⟩ := h.settled id hid
    refine ⟨r, hrows ▸ hr, hwhen, hunsent, hmessages ▸ hnone, fun i delivery row hi hrow => ?_⟩
    rw [hdeliveries] at hi
    split_ifs at hi with he
    · rintro rfl
      exact (hread delivery row hi hrow).2.1 hid
    · exact hout i delivery row hi hrow

lemma Kept.ends (h : Kept s) (hsent : ∀ row messageId holds,
    s.deliveries d ≠ some ⟨.sent row messageId, holds⟩) : Kept (s.set d none) := by
  refine h.goes rfl rfl rfl (fun _ hid => hid) (fun other => set_deliveries s d other none)
    (fun _ _ hnext => ?_) (fun _ _ _ hnext => ?_)
    fun row messageId holds hd => absurd hd (hsent row messageId holds)
  · cases hnext
  · cases hnext

lemma Kept.proceeds {delivery next : Delivery} (row : ScheduledMessage) (h : Kept s)
    (hd : s.deliveries d = some delivery) (hrow : delivery.phase.row? = some row)
    (hsame : next.phase.row? = some row) (hholds : next.holds = true → delivery.holds = true)
    (htold : ∀ messageId, next.phase = .sent row messageId →
      ∃ m ∈ s.messages, m.id = messageId ∧ m.From row)
    (hsent : ∀ messageId, delivery.phase = .sent row messageId → next.phase = .sent row messageId) :
    Kept (s.set d (some next)) := by
  have hcancelled : row.id ∉ s.cancelled := by
    intro hid
    obtain ⟨-, -, -, -, -, hout⟩ := h.settled row.id hid
    exact hout d delivery row hd hrow rfl
  refine h.goes rfl rfl rfl (fun _ hid => hid) (fun other => set_deliveries s d other (some next))
    (fun delivery' row' hnext hrow' => ?_) (fun row' messageId holds hnext => ?_)
    fun row' messageId holds hwas => ?_
  · obtain rfl := Option.some.inj hnext
    obtain rfl := Option.some.inj (hsame.symm.trans hrow')
    obtain ⟨r, hr, hsender, hsure⟩ := h.read d delivery row hd hrow
    refine ⟨⟨r, hr, hsender, fun hn => hsure (hholds hn)⟩, hcancelled, ?_⟩
    intro other delivery' row' hne hother hn hn' hrow'' hid
    exact hne (h.alone other d delivery' delivery row' row hother hd hn' (hholds hn) hrow'' hrow hid.symm)
  · obtain rfl := Option.some.inj hnext
    obtain rfl : row' = row := Option.some.inj hsame
    exact htold messageId rfl
  · obtain rfl := Option.some.inj (hd.symm.trans hwas)
    obtain rfl : row' = row := Option.some.inj hrow
    have hphase := hsent messageId rfl
    obtain ⟨phase, holds'⟩ := next
    dsimp only at hphase
    subst hphase
    exact Or.inl ⟨holds', rfl⟩

lemma Kept.rewritten (rows : KeyedTable ScheduledMessage.id) (h : Kept s)
    (hforth : ∀ id r, s.rows.find id = some r → ∃ r', rows.find id = some r' ∧ r'.senderId = r.senderId ∧
      r'.sentMessageId = r.sentMessageId ∧ r'.sentAt = r.sentAt ∧
      (r'.cancelledAt = none → r.cancelledAt = none) ∧ (s.Locked id → r' = r))
    (hback : ∀ id, rows.find id ≠ none → s.rows.find id ≠ none) : Kept { s with rows := rows } := by
  have hfrom : ∀ id r r', s.rows.find id = some r → rows.find id = some r' → r'.senderId = r.senderId →
      ∀ m : Message, m.From r' ↔ m.From r := by
    intro id r r' hr hr' hsender m
    unfold Message.From
    rw [hsender, KeyedTable.find_key hr, KeyedTable.find_key hr']
  have hold : ∀ id r', rows.find id = some r' → ∃ r, s.rows.find id = some r ∧
      r'.senderId = r.senderId ∧ r'.sentMessageId = r.sentMessageId ∧ r'.sentAt = r.sentAt ∧
      (r'.cancelledAt = none → r.cancelledAt = none) ∧ (s.Locked id → r' = r) := by
    intro id r' hr'
    obtain ⟨r, hr⟩ := Option.ne_none_iff_exists'.mp (hback id (by simp [hr']))
    obtain ⟨r'', hr'', hrest⟩ := hforth id r hr
    obtain rfl := Option.some.inj (hr'.symm.trans hr'')
    exact ⟨r, hr, hrest⟩
  constructor
  · exact h.unique
  · intro m hm
    obtain ⟨id, r, hr, hmr⟩ := h.created m hm
    obtain ⟨r', hr', hsender, -⟩ := hforth id r hr
    exact ⟨id, r', hr', (hfrom id r r' hr hr' hsender m).mpr hmr⟩
  · intro d delivery row hd hrow
    obtain ⟨r, hr, hsender, hsure⟩ := h.read d delivery row hd hrow
    obtain ⟨r', hr', hsender', -, -, -, hsame⟩ := hforth row.id r hr
    refine ⟨r', hr', hsender'.trans hsender, fun hholds => ?_⟩
    rw [hsame ⟨d, delivery, row, hd, hholds, hrow, rfl⟩]
    exact hsure hholds
  · exact h.alone
  · exact h.told
  · intro id r' hr' hunsent m hm hmr
    obtain ⟨r, hr, hsender, hmessage, hat, -⟩ := hold id r' hr'
    refine h.accounted id r hr ?_ m hm ((hfrom id r r' hr hr' hsender m).mp hmr)
    exact ⟨hmessage.symm.trans hunsent.1, hat.symm.trans hunsent.2⟩
  · intro id r' hr' hsent
    obtain ⟨r, hr, hsender, hmessage, hat, -⟩ := hold id r' hr'
    have hsent' : ¬ r.Unsent := fun hu => hsent ⟨hmessage.trans hu.1, hat.trans hu.2⟩
    obtain ⟨m, hm, hmr, hname⟩ := h.named id r hr hsent'
    exact ⟨m, hm, (hfrom id r r' hr hr' hsender m).mpr hmr, hmessage.trans hname⟩
  · intro id hid
    obtain ⟨r, hr, hwhen, hunsent, hnone, hout⟩ := h.settled id hid
    obtain ⟨r', hr', hsender, hmessage, hat, hcancelled, -⟩ := hforth id r hr
    exact ⟨r', hr', fun hn => hwhen (hcancelled hn), ⟨hmessage.trans hunsent.1, hat.trans hunsent.2⟩,
      fun m hm hmr => hnone m hm ((hfrom id r r' hr hr' hsender m).mp hmr), hout⟩

lemma Kept.queues {id : Uuid} {holds : Bool} (h : Kept s) (hsent : ∀ row messageId holds,
    s.deliveries d ≠ some ⟨.sent row messageId, holds⟩) : Kept (s.set d (some ⟨.queued id, holds⟩)) := by
  refine h.goes rfl rfl rfl (fun _ hid => hid) (fun other => set_deliveries s d other _)
    (fun delivery row hnext hrow => ?_) (fun row messageId holds' hnext => ?_)
    fun row messageId holds hd => absurd hd (hsent row messageId holds)
  · obtain rfl := Option.some.inj hnext
    cases hrow
  · cases hnext

lemma Kept.locks {id : Uuid} {row : ScheduledMessage} (h : Kept s)
    (hd : s.deliveries d = some ⟨.queued id, true⟩) (hfree : ¬ s.Locked id) (hfound : s.found id = some row) :
    Kept (s.set d (some ⟨.locked row, true⟩)) := by
  obtain ⟨hfind, hdue⟩ := Option.filter_eq_some_iff.mp hfound
  obtain ⟨hunsent, hcancelled, -, -⟩ := of_decide_eq_true hdue
  have hid := KeyedTable.find_key hfind
  subst hid
  refine h.goes rfl rfl rfl (fun _ hid => hid) (fun other => set_deliveries s d other _)
    (fun delivery row' hnext hrow => ?_) (fun _ _ _ hnext => ?_) fun _ _ _ hwas => ?_
  · obtain rfl := Option.some.inj hnext
    obtain rfl := Option.some.inj hrow
    refine ⟨⟨row, hfind, rfl, fun _ => ⟨rfl, hunsent, hcancelled⟩⟩, fun hmem => ?_, ?_⟩
    · obtain ⟨r, hr, hwhen, -⟩ := h.settled row.id hmem
      obtain rfl := Option.some.inj (hfind.symm.trans hr)
      exact hwhen hcancelled
    · intro other delivery' row' _ hother _ hholds hrow' hids
      exact hfree ⟨other, delivery', row', hother, hholds, hrow', hids.symm⟩
  · cases hnext
  · cases hd.symm.trans hwas

lemma Kept.schedules (h : Kept s) (id senderId conversationId : Uuid) (content : String)
    (sendAt : Time) : Kept (s.scheduled id senderId conversationId content sendAt) := by
  let new : ScheduledMessage := ⟨id, senderId, conversationId, content, sendAt, none, none, none, none, none⟩
  have hfind : ∀ k, (s.rows.insertIgnore new).find k =
      if id = k then some ((s.rows.find k).getD new) else s.rows.find k :=
    fun k => KeyedTable.find_insertIgnore s.rows new k
  have hkept : ∀ k r, s.rows.find k = some r → (s.rows.insertIgnore new).find k = some r := by
    intro k r hr
    rw [hfind, hr]
    split_ifs <;> rfl
  have hold : ∀ k r, (s.rows.insertIgnore new).find k = some r → s.rows.find k = some r ∨
      (s.rows.find k = none ∧ k = id ∧ r = new) := by
    intro k r hr
    rw [hfind] at hr
    split_ifs at hr with he
    · cases hk : s.rows.find k with
      | some r' =>
        rw [hk] at hr
        exact Or.inl hr
      | none =>
        rw [hk] at hr
        exact Or.inr ⟨rfl, he.symm, (Option.some.inj hr).symm⟩
    · exact Or.inl hr
  have hnew : ∀ m ∈ s.messages, s.rows.find id = none → ¬ m.From new := by
    intro m hm hnone hfrom
    obtain ⟨k, r, hr, -, hnonce⟩ := h.created m hm
    have hk := KeyedTable.find_key hr
    have hsame : r.id = id := nonce_injective (hnonce.symm.trans hfrom.2)
    rw [← hk, hsame, hnone] at hr
    cases hr
  constructor
  · exact h.unique
  · intro m hm
    obtain ⟨k, r, hr, hfrom⟩ := h.created m hm
    exact ⟨k, r, hkept k r hr, hfrom⟩
  · intro d delivery row hd hrow
    obtain ⟨r, hr, hrest⟩ := h.read d delivery row hd hrow
    exact ⟨r, hkept _ r hr, hrest⟩
  · exact h.alone
  · exact h.told
  · intro k r hr hunsent m hm hfrom
    rcases hold k r hr with hr' | ⟨hnone, rfl, rfl⟩
    · exact h.accounted k r hr' hunsent m hm hfrom
    · exact absurd hfrom (hnew m hm hnone)
  · intro k r hr hsent
    rcases hold k r hr with hr' | ⟨-, -, rfl⟩
    · exact h.named k r hr' hsent
    · exact absurd ⟨rfl, rfl⟩ hsent
  · intro k hk
    obtain ⟨r, hr, hrest⟩ := h.settled k hk
    exact ⟨r, hkept k r hr, hrest⟩

lemma Kept.commits {row : ScheduledMessage} {holds : Bool} {messageId : Uuid} (h : Kept s)
    (hd : s.deliveries d = some ⟨.sending row, holds⟩) (hunique : ∀ m ∈ s.messages, ¬ m.From row) :
    Kept ({ s with messages := row.message messageId :: s.messages }.set d
      (some ⟨.sent row messageId, holds⟩)) := by
  obtain ⟨r, hr, hsender, hsure⟩ := h.read d _ row hd rfl
  have hid := KeyedTable.find_key hr
  have hgone : row.id ∉ s.cancelled := by
    intro hmem
    obtain ⟨-, -, -, -, -, hout⟩ := h.settled row.id hmem
    exact hout d _ row hd rfl rfl
  have hcases : ∀ i delivery, ({ s with messages := row.message messageId :: s.messages }.set d
      (some ⟨.sent row messageId, holds⟩)).deliveries i = some delivery →
      (i = d ∧ delivery = ⟨.sent row messageId, holds⟩) ∨ (i ≠ d ∧ s.deliveries i = some delivery) := by
    intro i delivery hi
    rw [set_deliveries] at hi
    split_ifs at hi with he
    · exact Or.inl ⟨he, (Option.some.inj hi).symm⟩
    · exact Or.inr ⟨he, hi⟩
  have hfrom : ∀ k r', s.rows.find k = some r' → (row.message messageId).From r' → k = row.id := by
    intro k r' hr' hm
    have hk := KeyedTable.find_key hr'
    rw [← hk]
    exact nonce_injective hm.2.symm
  constructor
  · refine List.pairwise_cons.mpr ⟨fun m hm hboth => hunique m hm ?_, h.unique⟩
    exact ⟨hboth.1.symm, hboth.2.symm⟩
  · intro m hm
    rcases List.mem_cons.mp hm with rfl | hm
    · exact ⟨row.id, r, hr, hsender.symm, by rw [hid]; rfl⟩
    · exact h.created m hm
  · intro i delivery row' hi hrow
    rcases hcases i delivery hi with ⟨rfl, rfl⟩ | ⟨-, hold⟩
    · obtain rfl := Option.some.inj hrow
      exact ⟨r, hr, hsender, hsure⟩
    · exact h.read i delivery row' hold hrow
  · intro i j delivery delivery' row' row'' hi hj hholds hholds' hrow hrow' hids
    rcases hcases i delivery hi with ⟨rfl, rfl⟩ | ⟨-, hold⟩
    · rcases hcases j delivery' hj with ⟨rfl, -⟩ | ⟨-, hold'⟩
      · rfl
      · obtain rfl := Option.some.inj hrow
        exact h.alone i j _ delivery' row row'' hd hold' hholds hholds' rfl hrow' hids
    · rcases hcases j delivery' hj with ⟨rfl, rfl⟩ | ⟨-, hold'⟩
      · obtain rfl := Option.some.inj hrow'
        exact h.alone i j delivery _ row' row hold hd hholds hholds' hrow rfl hids
      · exact h.alone i j delivery delivery' row' row'' hold hold' hholds hholds' hrow hrow' hids
  · intro i row' messageId' holds' hi
    rcases hcases i _ hi with ⟨-, he⟩ | ⟨-, hold⟩
    · cases he
      exact ⟨_, List.mem_cons_self, rfl, rfl, rfl⟩
    · obtain ⟨m, hm, hrest⟩ := h.told i row' messageId' holds' hold
      exact ⟨m, List.mem_cons_of_mem _ hm, hrest⟩
  · intro k r' hr' hunsent m hm hmr
    rcases List.mem_cons.mp hm with rfl | hm
    · obtain rfl := hfrom k r' hr' hmr
      exact Or.inr ⟨d, row, messageId, holds, by rw [set_deliveries, if_pos rfl], rfl⟩
    · rcases h.accounted k r' hr' hunsent m hm hmr with hs | ⟨i, row', mid, holds', hi, he⟩
      · exact Or.inl hs
      · refine Or.inr ⟨i, row', mid, holds', ?_, he⟩
        rw [set_deliveries, if_neg]
        · exact hi
        · rintro rfl
          cases hd.symm.trans hi
  · intro k r' hr' hsent
    obtain ⟨m, hm, hrest⟩ := h.named k r' hr' hsent
    exact ⟨m, List.mem_cons_of_mem _ hm, hrest⟩
  · intro k hk
    obtain ⟨r', hr', hwhen, hunsent, hnone, hout⟩ := h.settled k hk
    refine ⟨r', hr', hwhen, hunsent, fun m hm hmr => ?_, fun i delivery row' hi hrow => ?_⟩
    · rcases List.mem_cons.mp hm with rfl | hm
      · exact hgone (hfrom k r' hr' hmr ▸ hk)
      · exact hnone m hm hmr
    · rcases hcases i delivery hi with ⟨rfl, rfl⟩ | ⟨-, hold⟩
      · exact hout i _ row' hd hrow
      · exact hout i delivery row' hold hrow

lemma Kept.marks {row : ScheduledMessage} {messageId : Uuid} (h : Kept s)
    (hd : s.deliveries d = some ⟨.sent row messageId, true⟩) : Kept ((s.marked row messageId).set d none) := by
  have hfind : ∀ k, (s.marked row messageId).rows.find k = (s.rows.find k).map fun r =>
      if r.id = row.id then r.sent messageId s.clock else r := by
    intro k
    unfold State.marked
    dsimp only
    rw [KeyedTable.find_update]
    simp
  have hrows : ∀ k r', (s.marked row messageId).rows.find k = some r' → ∃ r, s.rows.find k = some r ∧
      (∀ m : Message, m.From r' ↔ m.From r) ∧
      ((k = row.id ∧ r' = r.sent messageId s.clock) ∨ (k ≠ row.id ∧ r' = r)) := by
    intro k r' hr'
    rw [hfind] at hr'
    obtain ⟨r, hr, rfl⟩ := Option.map_eq_some_iff.mp hr'
    have hk := KeyedTable.find_key hr
    refine ⟨r, hr, fun m => ?_, ?_⟩
    · split_ifs <;> rfl
    · split_ifs with he
      · exact Or.inl ⟨hk.symm.trans he, rfl⟩
      · exact Or.inr ⟨fun hc => he (hk.trans hc), rfl⟩
  have hforth : ∀ k r, s.rows.find k = some r → k ≠ row.id →
      (s.marked row messageId).rows.find k = some r := by
    intro k r hr hne
    rw [hfind, hr, Option.map_some, if_neg]
    rw [KeyedTable.find_key hr]
    exact hne
  have hdeliveries : ∀ i delivery, ((s.marked row messageId).set d none).deliveries i = some delivery →
      i ≠ d ∧ s.deliveries i = some delivery := by
    intro i delivery hi
    rw [set_deliveries] at hi
    split_ifs at hi with he
    exact ⟨he, hi⟩
  obtain ⟨m₀, hm₀, hid₀, hfrom₀⟩ := h.told d row messageId true hd
  constructor
  · exact h.unique
  · intro m hm
    obtain ⟨k, r, hr, hfrom⟩ := h.created m hm
    refine ⟨k, if r.id = row.id then r.sent messageId s.clock else r, ?_, ?_⟩
    · change (s.marked row messageId).rows.find k = _
      rw [hfind, hr, Option.map_some]
    · split_ifs
      · exact hfrom
      · exact hfrom
  · intro i delivery row' hi hrow
    obtain ⟨hne, hold⟩ := hdeliveries i delivery hi
    obtain ⟨r, hr, hsender, hsure⟩ := h.read i delivery row' hold hrow
    by_cases he : row'.id = row.id
    · refine ⟨r.sent messageId s.clock, ?_, hsender, fun hholds => ?_⟩
      · change (s.marked row messageId).rows.find _ = _
        rw [hfind, hr, Option.map_some, if_pos]
        exact (KeyedTable.find_key hr).trans he
      · exact absurd (h.alone i d delivery _ row' row hold hd hholds rfl hrow rfl he) hne
    · exact ⟨r, hforth _ r hr he, hsender, hsure⟩
  · intro i j delivery delivery' row' row'' hi hj
    exact h.alone i j delivery delivery' row' row'' (hdeliveries i delivery hi).2 (hdeliveries j delivery' hj).2
  · intro i row' mid holds hi
    exact h.told i row' mid holds (hdeliveries i _ hi).2
  · intro k r' hr' hunsent m hm hmr
    obtain ⟨r, hr, hfrom, ⟨rfl, rfl⟩ | ⟨hne, rfl⟩⟩ := hrows k r' hr'
    · cases hunsent.1
    · rcases h.accounted k r' hr hunsent m hm hmr with hs | ⟨i, row', mid, holds, hi, he⟩
      · exact Or.inl (List.mem_filter.mpr ⟨hs, by simpa using hne⟩)
      · refine Or.inr ⟨i, row', mid, holds, ?_, he⟩
        rw [set_deliveries, if_neg]
        · exact hi
        · rintro rfl
          cases hd.symm.trans hi
          exact hne he.symm
  · intro k r' hr' hsent
    obtain ⟨r, hr, hfrom, ⟨rfl, rfl⟩ | ⟨hne, rfl⟩⟩ := hrows k r' hr'
    · obtain ⟨r₀, hr₀, hsender, -⟩ := h.read d _ row hd rfl
      obtain rfl := Option.some.inj (hr.symm.trans hr₀)
      refine ⟨m₀, hm₀, (hfrom m₀).mpr ⟨hfrom₀.1.trans hsender.symm, ?_⟩, congrArg some hid₀.symm⟩
      rw [KeyedTable.find_key hr]
      exact hfrom₀.2
    · exact h.named k r' hr hsent
  · intro k hk
    obtain ⟨r, hr, hwhen, hunsent, hnone, hout⟩ := h.settled k hk
    have hne : k ≠ row.id := fun he => hout d _ row hd rfl he.symm
    exact ⟨r, hforth k r hr hne, hwhen, hunsent, hnone,
      fun i delivery row' hi => hout i delivery row' (hdeliveries i delivery hi).2⟩

lemma Kept.fails {row : ScheduledMessage} {failure : String} (h : Kept s)
    (hd : s.deliveries d = some ⟨.refused row failure, true⟩) : Kept ((s.failed row failure).set d none) := by
  have hfree : ¬ (s.set d none).Locked row.id := by
    rintro ⟨i, delivery, row', hi, hholds, hrow, he⟩
    rw [set_deliveries] at hi
    split_ifs at hi with hne
    exact hne (h.alone i d delivery _ row' row hi hd hholds rfl hrow rfl he)
  have hfind : ∀ k, (s.failed row failure).rows.find k = (s.rows.find k).map fun r =>
      if r.id = row.id then r.failed failure s.clock else r := by
    intro k
    unfold State.failed
    dsimp only
    rw [KeyedTable.find_update]
    simp
  refine (h.ends (d := d) fun row' mid holds hwas => ?_).rewritten _ (fun k r hr => ?_) fun k hk => ?_
  · cases hd.symm.trans hwas
  · refine ⟨_, (hfind k).trans (congrArg _ hr), ?_⟩
    have hkey := KeyedTable.find_key hr
    dsimp only
    split_ifs with he
    · exact ⟨rfl, rfl, rfl, id, fun hlocked => absurd hlocked (hkey.symm.trans he ▸ hfree)⟩
    · exact ⟨rfl, rfl, rfl, id, fun _ => rfl⟩
  · intro hnone
    exact hk ((hfind k).trans (congrArg _ hnone))

lemma Kept.cancels {id senderId : Uuid} (h : Kept s) (hfree : ¬ s.Locked id)
    (hok : Settled s (.cancel id senderId)) : Kept (s.cancel id senderId) := by
  obtain ⟨hstranded, hholds⟩ := hok
  unfold State.cancel
  split_ifs with hmatch
  · obtain ⟨r, hr, hp⟩ := (Option.any_eq_true ..).mp hmatch
    have hkey := KeyedTable.find_key hr
    have hunsent : r.Unsent := (of_decide_eq_true hp).2
    have hnobody : ∀ d delivery row, s.deliveries d = some delivery → delivery.phase.row? = some row →
        row.id ≠ id := by
      intro d delivery row hd hrow he
      exact hfree ⟨d, delivery, row, hd, hholds d delivery row hd hrow he, hrow, he⟩
    have hnone : ∀ m ∈ s.messages, ¬ m.From r := by
      intro m hm hfrom
      rcases h.accounted id r hr hunsent m hm hfrom with hs | ⟨d, row, mid, holds, hd, he⟩
      · exact hstranded hs
      · exact hnobody d _ row hd rfl he
    have hfind : ∀ k, (s.rows.update (fun r => decide (r.id = id)) (fun r => r.cancelled s.clock)
        fun r => r.cancelled_id s.clock).find k = (s.rows.find k).map fun r =>
          if r.id = id then r.cancelled s.clock else r := by
      intro k
      rw [KeyedTable.find_update]
      simp
    have hnew := h.rewritten (s.rows.update (fun r => decide (r.id = id))
      (fun r => r.cancelled s.clock) fun r => r.cancelled_id s.clock) (fun k r' hr' => by
        refine ⟨_, (hfind k).trans (congrArg _ hr'), ?_⟩
        have hk := KeyedTable.find_key hr'
        dsimp only
        split_ifs with he
        · exact ⟨rfl, rfl, rfl, nofun, fun hlocked => absurd hlocked (hk.symm.trans he ▸ hfree)⟩
        · exact ⟨rfl, rfl, rfl, fun hn => hn, fun _ => rfl⟩) fun k hk hn =>
          hk ((hfind k).trans (congrArg _ hn))
    refine ⟨hnew.unique, hnew.created, hnew.read, hnew.alone, hnew.told, hnew.accounted, hnew.named, ?_⟩
    intro k hk
    rcases List.mem_cons.mp hk with rfl | hk
    · refine ⟨r.cancelled s.clock, ?_, nofun, hunsent, hnone, hnobody⟩
      refine (hfind k).trans ?_
      rw [hr, Option.map_some, if_pos hkey]
    · exact hnew.settled k hk
  · exact h

lemma step_kept (h : Kept s) (hok : Settled s event) (hs : Step s event s') : Kept s' := by
  cases hs with
  | tick => exact ⟨h.unique, h.created, h.read, h.alone, h.told, h.accounted, h.named, h.settled⟩
  | schedule => exact h.schedules _ _ _ _ _
  | deliver hnone => exact h.queues fun _ _ _ hd => by cases hnone.symm.trans hd
  | @lock d id hd hfree =>
    cases hfound : s.found id with
    | none => exact h.ends fun _ _ _ hwas => by cases hd.symm.trans hwas
    | some row => exact h.locks hd hfree hfound
  | @look d row holds hd =>
    refine h.proceeds row hd rfl ?_ (fun hh => hh) ?_ nofun
    · cases s.existing row <;> rfl
    · intro mid hphase
      cases hex : s.existing row with
      | none =>
        rw [hex] at hphase
        cases hphase
      | some m =>
        rw [hex] at hphase
        cases hphase
        exact ⟨m, List.mem_of_find?_eq_some hex, rfl, by simpa using List.find?_some hex⟩
  | refuse hd => exact h.proceeds _ hd rfl rfl (fun hh => hh) nofun nofun
  | commit hd _ hunique => exact h.commits hd hunique
  | mark hd => exact h.marks hd
  | fail hd => exact h.fails hd
  | cancel hfree => exact h.cancels hfree hok
  | @throw d delivery hd =>
    obtain ⟨phase, holds⟩ := delivery
    cases phase with
    | sent row mid =>
      unfold State.thrown
      dsimp only
      split_ifs with hunsent
      · refine h.goes rfl rfl rfl (fun _ hid => List.mem_cons_of_mem _ hid)
          (fun other => set_deliveries s d other none) (fun _ _ hnext => ?_) (fun _ _ _ hnext => ?_)
          fun row' _ _ hwas => Or.inr fun _ _ _ => ?_
        · cases hnext
        · cases hnext
        · cases hd.symm.trans hwas
          exact List.mem_cons_self
      · refine h.goes rfl rfl rfl (fun _ hid => hid)
          (fun other => set_deliveries s d other none) (fun _ _ hnext => ?_) (fun _ _ _ hnext => ?_)
          fun row' _ _ hwas => Or.inr fun r hr hu => ?_
        · cases hnext
        · cases hnext
        · cases hd.symm.trans hwas
          rw [hr] at hunsent
          exact absurd (decide_eq_true hu) hunsent
    | queued | locked | sending | refused => exact h.ends fun _ _ _ hwas => by cases hd.symm.trans hwas
  | @lose d phase hd =>
    cases phase with
    | queued id => exact h.queues fun _ _ _ hwas => by cases hd.symm.trans hwas
    | sent row mid =>
      refine h.proceeds row hd rfl rfl nofun (fun mid' hphase => ?_) fun _ hphase => hphase
      cases hphase
      exact h.told d row mid true hd
    | locked row | sending row | refused row => exact h.proceeds row hd rfl rfl nofun nofun nofun

/-- At most one message is created from a row, none if a cancel answered ok, and a row marked sent
names it. -/
theorem sent_once {clock : Time} {id : Uuid} {row : ScheduledMessage}
    (hrun : RunWhere Step Settled (.start clock) s) (hrow : s.rows.find id = some row) :
    (s.messages.filter fun m => m.From row).length ≤ 1 ∧
      (id ∈ s.cancelled → ∀ m ∈ s.messages, ¬ m.From row) ∧
      (¬ row.Unsent → ∃ m ∈ s.messages, m.From row ∧ row.sentMessageId = some m.id) := by
  have h : Kept s := hrun.invariant (start_kept clock) fun _ _ _ h hok hs => step_kept h hok hs
  refine ⟨?_, fun hid => ?_, h.named id row hrow⟩
  · have hpair : (s.messages.filter fun m => m.From row).Pairwise fun m m' =>
        ¬ (m.senderId = m'.senderId ∧ m.nonce = m'.nonce) := h.unique.sublist List.filter_sublist
    have hall : ∀ m ∈ s.messages.filter fun m => m.From row, m.From row := fun m hm => by
      simpa using (List.mem_filter.mp hm).2
    generalize (s.messages.filter fun m => m.From row) = created at hpair hall
    rcases created with _ | ⟨m, _ | ⟨m', rest⟩⟩
    · exact Nat.zero_le 1
    · exact le_rfl
    · have hm : m.From row := hall m (by simp)
      have hm' : m'.From row := hall m' (by simp)
      have happart := (List.pairwise_cons.mp hpair).1 m' (by simp)
      exact absurd ⟨hm.1.trans hm'.1.symm, hm.2.trans hm'.2.symm⟩ happart
  · obtain ⟨r, hr, -, -, hnone, -⟩ := h.settled id hid
    obtain rfl := Option.some.inj (hrow.symm.trans hr)
    exact hnone

end

namespace Sample

def greeting : ScheduledMessage := ⟨1, 7, 3, "good morning", 5, none, none, none, none, none⟩

def waiting : State := (State.start 10).scheduled 1 7 3 "good morning" 5

def sent : State := { waiting with messages := [greeting.message 100] }

lemma sent_run {ok : State → Event → Prop} (hok : ∀ s event, Settled s event → ok s event) :
    RunWhere Step ok (.start 10) (sent.set 0 (some ⟨.sent greeting 100, true⟩)) := by
  have h₁ : Step (.start 10) (.schedule 1 7 3 "good morning" 5) waiting := .schedule
  have h₂ : Step waiting (.deliver 0 1) (waiting.set 0 (some ⟨.queued 1, true⟩)) := .deliver rfl
  have h₃ : Step (waiting.set 0 (some ⟨.queued 1, true⟩)) (.lock 0)
      ((waiting.set 0 (some ⟨.queued 1, true⟩)).set 0 (some ⟨.locked greeting, true⟩)) := by
    refine @Step.lock (waiting.set 0 (some ⟨.queued 1, true⟩)) 0 1 rfl ?_
    rintro ⟨d, delivery, row, hd, -, hrow, -⟩
    rw [set_deliveries] at hd
    split_ifs at hd
    · obtain rfl := Option.some.inj hd
      cases hrow
    · cases hd
  have h₄ : Step (waiting.set 0 (some ⟨.locked greeting, true⟩)) (.look 0)
      ((waiting.set 0 (some ⟨.locked greeting, true⟩)).set 0 (some ⟨.sending greeting, true⟩)) := .look rfl
  have h₅ : Step (waiting.set 0 (some ⟨.sending greeting, true⟩)) (.commit 0 100)
      ((sent.set 0 (some ⟨.sending greeting, true⟩)).set 0 (some ⟨.sent greeting 100, true⟩)) :=
    .commit rfl (fun _ hm => by cases hm) fun _ hm => by cases hm
  rw [set_set] at h₃ h₄ h₅
  exact (((((RunWhere.refl _).tail (hok _ (.schedule 1 7 3 "good morning" 5) trivial) h₁).tail
    (hok _ (.deliver 0 1) trivial) h₂).tail (hok _ (.lock 0) trivial) h₃).tail
    (hok _ (.look 0) trivial) h₄).tail (hok _ (.commit 0 100) trivial) h₅

end Sample

open Sample in
theorem sent_once_marked : ∃ s row, RunWhere Step Settled (.start 10) s ∧ s.rows.find 1 = some row ∧
    ¬ row.Unsent ∧ (s.messages.filter fun m => m.From row).length ≤ 1 ∧
      (1 ∈ s.cancelled → ∀ m ∈ s.messages, ¬ m.From row) ∧
      (¬ row.Unsent → ∃ m ∈ s.messages, m.From row ∧ row.sentMessageId = some m.id) := by
  have hsent := sent_run fun _ _ (hok : Settled _ _) => hok
  have hmark : Step (sent.set 0 (some ⟨.sent greeting 100, true⟩)) (.mark 0)
      ((State.marked (sent.set 0 (some ⟨.sent greeting 100, true⟩)) greeting 100).set 0 none) := .mark rfl
  have hrun := hsent.tail (show Settled _ (.mark 0) from trivial) hmark
  exact ⟨_, greeting.sent 100 10, hrun, rfl, by decide, sent_once hrun rfl⟩

open Sample in
/-- The delivery fails before it has marked the row, and the cancel answers ok. -/
theorem cancelled_after_all : ∃ s row, RunWhere Step (fun _ _ => True) (.start 10) s ∧
    s.rows.find 1 = some row ∧ 1 ∈ s.cancelled ∧ ∃ m ∈ s.messages, m.From row := by
  have hsent := @sent_run (fun _ _ => True) fun _ _ _ => trivial
  have hthrow : Step (sent.set 0 (some ⟨.sent greeting 100, true⟩)) (.throw 0)
      { (sent.set 0 (some ⟨.sent greeting 100, true⟩)).set 0 none with stranded := [1] } :=
    @Step.throw _ 0 ⟨.sent greeting 100, true⟩ rfl
  rw [set_set] at hthrow
  have hcancel : Step { sent.set 0 none with stranded := [1] } (.cancel 1 7)
      (State.cancel { sent.set 0 none with stranded := [1] } 1 7) := by
    refine .cancel ?_
    rintro ⟨d, delivery, row, hd, -⟩
    change (sent.set 0 none).deliveries d = _ at hd
    rw [set_deliveries] at hd
    split_ifs at hd
    cases hd
  refine ⟨_, greeting.cancelled 10, (hsent.tail (i := .throw 0) trivial hthrow).tail (i := .cancel 1 7) trivial hcancel,
    rfl, List.mem_cons_self, greeting.message 100, List.mem_cons_self, rfl, rfl⟩

end Yappy.Scheduled
