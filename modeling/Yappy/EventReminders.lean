import Yappy.KeyedTable
import Yappy.PermissionDatabase
import Yappy.Runs

/-!
# Event reminders

The event routes of `apps/api/src/routes/community.ts`, its `DELETE /reminders/:id`, and
`deliverReminder` of `apps/api/src/plugins/communityJobs.ts`, for the reminders of events. All but
the deletion lock the event's row first and touch that event only, so that each transaction is one
step. Its `now()` is the time it began, whatever has been committed since. Requests that are not
permitted are left out, and times are in milliseconds.
-/
namespace Yappy.Reminders

open Permissions (Time Uuid)

structure CommunityEvent where
  id : Uuid
  conversationId : Uuid
  creatorId : Uuid
  title : String
  description : String
  location : String
  startsAt : Time
  endsAt : Option Time
  cancelledAt : Option Time

inductive Answer
  | going
  | maybe
  | declined
  deriving DecidableEq

structure Response where
  eventId : Uuid
  userId : Uuid
  response : Answer
  remind : Bool

def Response.key (a : Response) : Uuid × Uuid := (a.eventId, a.userId)

structure Reminder where
  id : Uuid
  userId : Uuid
  conversationId : Uuid
  eventId : Uuid
  dueAt : Time
  deliveredAt : Option Time
  cancelledAt : Option Time
  createdAt : Time
  /-- The start of the event it has been made for, which the row does not hold. -/
  startsAt : Time
  deriving DecidableEq

structure AppError where
  status : ℕ
  message : String

def notFound (what : String) : AppError := ⟨404, what ++ " not found"⟩

def endFirst : AppError := ⟨400, "End must be after start."⟩

structure Edit where
  title : String
  description : String
  location : String
  startsAt : Time
  endsAt : Option Time
  deriving DecidableEq

def lead : ℕ := 15 * 60000

namespace CommunityEvent
variable (event : CommunityEvent)

def Upcoming (now : Time) : Prop := event.cancelledAt = none ∧ now < event.startsAt

instance (now : Time) : Decidable (event.Upcoming now) := inferInstanceAs (Decidable (_ ∧ _))

def edit : Edit := ⟨event.title, event.description, event.location, event.startsAt, event.endsAt⟩

def edited (body : Edit) : CommunityEvent :=
  { event with
    title := body.title
    description := body.description
    location := body.location
    startsAt := body.startsAt
    endsAt := body.endsAt }

lemma edited_id (body : Edit) : (event.edited body).id = event.id := rfl

def cancelled (now : Time) : CommunityEvent := { event with cancelledAt := some now }

lemma cancelled_id (now : Time) : (event.cancelled now).id = event.id := rfl

/-- `greatest(now(), starts_at - interval '15 minutes')` -/
def dueAt (now : Time) : Time := max now (event.startsAt - lead)

def reminder (id userId : Uuid) (now : Time) : Reminder :=
  ⟨id, userId, event.conversationId, event.id, event.dueAt now, none, none, now, event.startsAt⟩

end CommunityEvent

namespace Response
variable (a : Response)

def Wants : Prop := a.remind = true ∧ a.response ≠ .declined

instance : Decidable a.Wants := inferInstanceAs (Decidable (_ ∧ _))

def answered (response : Answer) (remind : Bool) : Response := { a with response, remind }

lemma answered_key (response : Answer) (remind : Bool) : (a.answered response remind).key = a.key := rfl

end Response

namespace Reminder
variable (r : Reminder)

def pair : Uuid × Uuid := (r.eventId, r.userId)

def Pending : Prop := r.deliveredAt = none ∧ r.cancelledAt = none

instance : Decidable r.Pending := inferInstanceAs (Decidable (_ ∧ _))

def cancelled (now : Time) : Reminder := { r with cancelledAt := some now }

lemma cancelled_id (now : Time) : (r.cancelled now).id = r.id := rfl

lemma cancelled_pair (now : Time) : (r.cancelled now).pair = r.pair := rfl

def delivered (now : Time) : Reminder := { r with deliveredAt := some now }

lemma delivered_id (now : Time) : (r.delivered now).id = r.id := rfl

lemma delivered_pair (now : Time) : (r.delivered now).pair = r.pair := rfl

end Reminder

structure State where
  events : KeyedTable CommunityEvent.id
  responses : KeyedTable Response.key
  reminders : KeyedTable Reminder.id
  /-- Who has lost the reminder of an event since asking for it: the user has cancelled it, or it
  has been refused when it was due. -/
  dropped : List (Uuid × Uuid)

inductive Event
  | create (event : CommunityEvent)
  | patch (id : Uuid) (body : Edit) (now : Time) (newId : Uuid → Uuid)
  | cancel (id : Uuid) (now : Time)
  | rsvp (id userId : Uuid) (response : Answer) (remind : Bool) (now : Time) (newId : Uuid)
  | cancelReminder (id userId : Uuid) (now : Time)
  | deliver (id : Uuid) (now : Time) (permitted : Bool)

namespace State

def start : State := ⟨.empty, .empty, .empty, []⟩

def delivered (s : State) (pair : Uuid × Uuid) : Bool :=
  (s.events.find pair.1).any fun event => s.reminders.rows.any fun r =>
    r.pair = pair ∧ r.startsAt = event.startsAt ∧ r.deliveredAt.isSome

/-- `update community_reminders set cancelled_at=now()` of the pending ones. -/
def cancelPending (s : State) (p : Reminder → Bool) (now : Time) : State :=
  { s with
    reminders := s.reminders.update (fun r => p r ∧ r.Pending) (fun r => r.cancelled now)
      fun r => r.cancelled_id now }

def insert (s : State) (r : Reminder) : State :=
  { s with
    reminders := s.reminders.insertIgnore r
    dropped := s.dropped.filter (· ≠ r.pair) }

def forget (s : State) (pair : Uuid × Uuid) : State := { s with dropped := s.dropped.filter (· ≠ pair) }

def answered (s : State) (id userId : Uuid) (response : Answer) (remind : Bool) : State :=
  { s with
    responses := s.responses.upsert ⟨id, userId, response, remind⟩ (fun a => a.answered response remind)
      fun a => a.answered_key response remind }

def asking (s : State) (id : Uuid) : List Uuid :=
  (s.responses.rows.filter fun a => a.eventId = id ∧ a.Wants).map Response.userId

def edited (s : State) (id : Uuid) (body : Edit) : State :=
  { s with
    events := s.events.update (fun event => event.id = id) (fun event => event.edited body)
      fun event => event.edited_id body }

/-- `PATCH /events/:id` -/
def patch (s : State) (id : Uuid) (body : Edit) (now : Time) (newId : Uuid → Uuid) : Except AppError State :=
  if body.endsAt.any fun endsAt => endsAt ≤ body.startsAt then .error endFirst
  else match s.events.find id with
  | none => .error (notFound "Event")
  | some previous =>
    if previous.cancelledAt.isSome then .error (notFound "Active event")
    else if previous.edit = body then .ok s
    else if previous.startsAt ≠ body.startsAt then
      .ok ((s.asking id).foldl
        (fun s userId => s.insert ((previous.edited body).reminder (newId userId) userId now))
        ((s.edited id body).cancelPending (fun r => r.eventId = id) now))
    else .ok (s.edited id body)

/-- `DELETE /events/:id` -/
def cancel (s : State) (id : Uuid) (now : Time) : Except AppError State :=
  match s.events.find id with
  | none => .error (notFound "Event")
  | some _ => .ok ({ s with
      events := s.events.update (fun event => event.id = id ∧ event.cancelledAt = none)
        (fun event => event.cancelled now) fun event => event.cancelled_id now
    }.cancelPending (fun r => r.eventId = id) now)

/-- `PUT /events/:id/rsvp` -/
def rsvp (s : State) (id userId : Uuid) (response : Answer) (remind : Bool) (now : Time) (newId : Uuid) :
    Except AppError State :=
  match s.events.find id with
  | none => .error (notFound "Event")
  | some event =>
    if ¬ event.Upcoming now then .error (notFound "Upcoming event")
    else
      let remind := remind && response ≠ .declined
      let previous := s.responses.find (id, userId)
      if previous.any fun a => a.response = response ∧ a.remind = remind then .ok s
      else if previous.any fun a => a.remind = remind then .ok (s.answered id userId response remind)
      else
        let s := (s.answered id userId response remind).cancelPending (fun r => r.pair = (id, userId)) now
        .ok (if remind then s.insert (event.reminder newId userId now) else s.forget (id, userId))

def drop (s : State) (r : Reminder) (now : Time) : State :=
  { s with
    reminders := s.reminders.update (fun r' => r'.id = r.id) (fun r' => r'.cancelled now)
      fun r' => r'.cancelled_id now
    dropped := if r.Pending ∧ ¬ s.delivered r.pair then r.pair :: s.dropped else s.dropped }

/-- `DELETE /reminders/:id` -/
def cancelReminder (s : State) (id userId : Uuid) (now : Time) : Except AppError State :=
  match (s.reminders.find id).filter fun r => r.userId = userId ∧ r.deliveredAt = none with
  | none => .error (notFound "Pending reminder")
  | some r => .ok (s.drop r now)

/-- `deliverReminder`, where the recipient, the conversation and what they may see of it allow it or
not. -/
def deliver (s : State) (id : Uuid) (now : Time) (permitted : Bool) : State :=
  match (s.reminders.find id).filter fun r => r.dueAt ≤ now ∧ r.Pending with
  | none => s
  | some r =>
    if permitted ∧ (s.events.find r.eventId).any fun event => event.Upcoming now then
      { s with
        reminders := s.reminders.update (fun r' => r'.id = r.id) (fun r' => r'.delivered now)
          fun r' => r'.delivered_id now }
    else s.drop r now

end State

inductive Step : State → Event → State → Prop
  | create {s : State} {event : CommunityEvent} (h : event.cancelledAt = none) :
      Step s (.create event) { s with events := s.events.insertIgnore event }
  | patch {s s' : State} {id : Uuid} {body : Edit} {now : Time} {newId : Uuid → Uuid}
      (hnew : ∀ userId, s.reminders.find (newId userId) = none) (hapart : Function.Injective newId)
      (h : s.patch id body now newId = .ok s') : Step s (.patch id body now newId) s'
  | cancel {s s' : State} {id : Uuid} {now : Time} (h : s.cancel id now = .ok s') :
      Step s (.cancel id now) s'
  | rsvp {s s' : State} {id userId : Uuid} {response : Answer} {remind : Bool} {now : Time} {newId : Uuid}
      (hnew : s.reminders.find newId = none) (h : s.rsvp id userId response remind now newId = .ok s') :
      Step s (.rsvp id userId response remind now newId) s'
  | cancelReminder {s s' : State} {id userId : Uuid} {now : Time} (h : s.cancelReminder id userId now = .ok s') :
      Step s (.cancelReminder id userId now) s'
  | deliver {s : State} {id : Uuid} {now : Time} {permitted : Bool} :
      Step s (.deliver id now permitted) (s.deliver id now permitted)

/-! ## One user and one event -/

@[ext]
structure View where
  schedule : Option (Time × Option Time)
  response : Option Response
  reminders : Set Reminder
  dropped : Prop

namespace View
variable {v : View} {now : Time}

def Wants (v : View) : Prop := ∃ a, v.response = some a ∧ a.Wants

def Covered (v : View) : Prop :=
  ∃ start cancelledAt, v.schedule = some (start, cancelledAt) ∧
    ∃ r ∈ v.reminders, r.startsAt = start ∧ (r.Pending ∨ r.deliveredAt ≠ none)

structure Tracked (v : View) : Prop where
  known : v.response ≠ none → v.schedule ≠ none
  asked : ∀ a, v.response = some a → a.remind = true → a.response ≠ .declined
  single : ∀ r ∈ v.reminders, ∀ r' ∈ v.reminders, r.Pending → r'.Pending → r = r'
  wanted : ∀ r ∈ v.reminders, r.Pending → v.schedule = some (r.startsAt, none) ∧ v.Wants
  kept : v.Wants → ∀ start, v.schedule = some (start, none) → v.dropped ∨ v.Covered
  lost : v.dropped → v.Wants ∧ ¬ v.Covered

def cancelPending (v : View) (now : Time) : View :=
  { v with reminders := (fun r => if r.Pending then r.cancelled now else r) '' v.reminders }

lemma not_pending {r : Reminder} (h : r ∈ (v.cancelPending now).reminders) : ¬ r.Pending := by
  obtain ⟨r, -, rfl⟩ := h
  dsimp only
  split_ifs with hr
  · rintro ⟨-, hc⟩
    cases hc
  · exact hr

lemma Covered.of_cancelPending (now : Time) (h : (v.cancelPending now).Covered) : v.Covered := by
  obtain ⟨start, cancelledAt, hschedule, r, hr, hstart, hcovered⟩ := h
  rcases hcovered with hpending | hdelivered
  · exact absurd hpending (not_pending hr)
  · obtain ⟨r, hr, rfl⟩ := hr
    refine ⟨start, cancelledAt, hschedule, r, hr, ?_⟩
    dsimp only at hstart hdelivered
    split_ifs at hstart hdelivered with hp
    · exact ⟨hstart, Or.inl hp⟩
    · exact ⟨hstart, Or.inr hdelivered⟩

lemma empty_tracked : Tracked ⟨none, none, ∅, False⟩ where
  known h := absurd rfl h
  asked _ h := by cases h
  single _ h := h.elim
  wanted _ h := h.elim
  kept := by
    rintro ⟨_, h, -⟩
    cases h
  lost h := h.elim

lemma Tracked.schedules {schedule : Option (Time × Option Time)} (h : v.Tracked) (hnone : v.schedule = none) :
    Tracked { v with schedule := schedule } := by
  have hwants : ¬ v.Wants := by
    rintro ⟨a, ha, -⟩
    exact h.known (by simp [ha]) hnone
  have hpending : ∀ r ∈ v.reminders, ¬ r.Pending := fun r hr hp => hwants (h.wanted r hr hp).2
  constructor
  · intro ha
    exact absurd hnone (h.known ha)
  · exact h.asked
  · exact h.single
  · exact fun r hr hp => absurd hp (hpending r hr)
  · exact fun hw => absurd hw hwants
  · exact fun hd => absurd (h.lost hd).1 hwants

lemma Tracked.answers {a b : Response} (h : v.Tracked) (ha : v.response = some a)
    (hremind : b.remind = a.remind) (hb : b.remind = true → b.response ≠ .declined) :
    Tracked { v with response := some b } := by
  have hwants : Wants { v with response := some b } ↔ v.Wants := by
    constructor
    · rintro ⟨_, hb', hw⟩
      obtain rfl := Option.some.inj hb'
      exact ⟨a, ha, hremind.symm.trans hw.1, h.asked a ha (hremind.symm.trans hw.1)⟩
    · rintro ⟨a', ha', hw⟩
      obtain rfl := Option.some.inj (ha.symm.trans ha')
      exact ⟨b, rfl, hremind.trans hw.1, hb (hremind.trans hw.1)⟩
  constructor
  · exact fun _ => h.known (by simp [ha])
  · intro b' hb'
    obtain rfl := Option.some.inj hb'
    exact hb
  · exact h.single
  · intro r hr hp
    exact ⟨(h.wanted r hr hp).1, hwants.mpr (h.wanted r hr hp).2⟩
  · intro hw start hschedule
    exact h.kept (hwants.mp hw) start hschedule
  · intro hd
    exact ⟨hwants.mpr (h.lost hd).1, (h.lost hd).2⟩

lemma Tracked.withdraws {b : Response} (hschedule : v.schedule ≠ none) (hb : b.remind = false) :
    Tracked { v.cancelPending now with response := some b, dropped := False } := by
  have hwants : ¬ Wants { v.cancelPending now with response := some b, dropped := False } := by
    rintro ⟨_, hb', hw⟩
    obtain rfl := Option.some.inj hb'
    cases hb.symm.trans hw.1
  constructor
  · exact fun _ => hschedule
  · intro b' hb' hr
    obtain rfl := Option.some.inj hb'
    cases hb.symm.trans hr
  · intro r hr _ _ hp
    exact absurd hp (not_pending hr)
  · intro r hr hp
    exact absurd hp (not_pending hr)
  · exact fun hw => absurd hw hwants
  · exact fun hd => hd.elim

lemma Tracked.ignores {start : Time} {cancelledAt : Option Time} (h : v.Tracked) (hwants : ¬ v.Wants) :
    Tracked { v.cancelPending now with schedule := some (start, cancelledAt) } where
  known _ := nofun
  asked := h.asked
  single _ hr _ _ hp := absurd hp (not_pending hr)
  wanted _ hr hp := absurd hp (not_pending hr)
  kept hw := absurd hw hwants
  lost hd := absurd (h.lost hd).1 hwants

lemma Tracked.renews (v : View) (now : Time) {r₀ : Reminder} {a : Response} (hasked : a.Wants) (hpending : r₀.Pending) :
    Tracked ⟨some (r₀.startsAt, none), some a, insert r₀ (v.cancelPending now).reminders, False⟩ where
  known _ := nofun
  asked a' ha' _ := by
    obtain rfl := Option.some.inj ha'
    exact hasked.2
  single := by
    rintro r (rfl | hr) r' (rfl | hr') hp hp'
    · rfl
    · exact absurd hp' (not_pending hr')
    · exact absurd hp (not_pending hr)
    · exact absurd hp (not_pending hr)
  wanted := by
    rintro r (rfl | hr) hp
    · exact ⟨rfl, a, rfl, hasked⟩
    · exact absurd hp (not_pending hr)
  kept _ start hschedule :=
    Or.inr ⟨r₀.startsAt, none, rfl, r₀, Set.mem_insert _ _, rfl, Or.inl hpending⟩
  lost hd := hd.elim

lemma Tracked.cancels {start now' : Time} {cancelledAt : Option Time} (h : v.Tracked)
    (hschedule : v.schedule = some (start, cancelledAt)) :
    Tracked { v.cancelPending now with schedule := some (start, some now') } where
  known _ := nofun
  asked := h.asked
  single _ hr _ _ hp := absurd hp (not_pending hr)
  wanted _ hr hp := absurd hp (not_pending hr)
  kept _ _ h := by cases h
  lost hd := by
    refine ⟨(h.lost hd).1, fun hc => (h.lost hd).2 (Covered.of_cancelPending now ?_)⟩
    obtain ⟨start', _, hs, hr⟩ := hc
    cases hs
    exact ⟨start, cancelledAt, hschedule, hr⟩

lemma Tracked.covered_iff {start : Time} (h : v.Tracked) (hwants : v.Wants) (hschedule : v.schedule = some (start, none)) :
    v.Covered ↔ ¬ v.dropped := by
  constructor
  · exact fun hc hd => (h.lost hd).2 hc
  · exact fun hd => (h.kept hwants start hschedule).resolve_left hd

def Delivered (v : View) : Prop :=
  ∃ start cancelledAt, v.schedule = some (start, cancelledAt) ∧
    ∃ r ∈ v.reminders, r.startsAt = start ∧ r.deliveredAt ≠ none

def drop (v : View) (r : Reminder) (now : Time) : View :=
  { v with
    reminders := (fun r' => if r'.id = r.id then r'.cancelled now else r') '' v.reminders
    dropped := v.dropped ∨ (r.Pending ∧ ¬ v.Delivered) }

def deliver (v : View) (r : Reminder) (now : Time) : View :=
  { v with reminders := (fun r' => if r'.id = r.id then r'.delivered now else r') '' v.reminders }

section
variable {r : Reminder}

lemma mem_drop {r' : Reminder} (hid : ∀ r' ∈ v.reminders, r'.id = r.id → r' = r)
    (hnot : r.deliveredAt = none) (h : r' ∈ (v.drop r now).reminders)
    (hlive : r'.Pending ∨ r'.deliveredAt ≠ none) : r' ∈ v.reminders ∧ r' ≠ r := by
  obtain ⟨r', hr', rfl⟩ := h
  dsimp only at hlive ⊢
  split_ifs at hlive ⊢ with he
  · obtain rfl := hid r' hr' he
    rcases hlive with ⟨-, hc⟩ | hd
    · cases hc
    · exact absurd hnot hd
  · exact ⟨hr', fun heq => he (congrArg Reminder.id heq)⟩

lemma mem_drop_of_ne {r' : Reminder} (hid : ∀ r' ∈ v.reminders, r'.id = r.id → r' = r)
    (h : r' ∈ v.reminders) (hne : r' ≠ r) : r' ∈ (v.drop r now).reminders := by
  refine ⟨r', h, if_neg fun he => hne ?_⟩
  exact hid r' h he

lemma Tracked.drops (h : v.Tracked) (hr : r ∈ v.reminders) (hnot : r.deliveredAt = none)
    (hid : ∀ r' ∈ v.reminders, r'.id = r.id → r' = r) : (v.drop r now).Tracked := by
  have hcovered : (v.drop r now).Covered → v.Covered := by
    rintro ⟨start, cancelledAt, hschedule, r', hr', hstart, hlive⟩
    exact ⟨start, cancelledAt, hschedule, r', (mem_drop hid hnot hr' hlive).1, hstart, hlive⟩
  constructor
  · exact h.known
  · exact h.asked
  · intro r₁ hr₁ r₂ hr₂ hp₁ hp₂
    exact h.single r₁ (mem_drop hid hnot hr₁ (Or.inl hp₁)).1 r₂ (mem_drop hid hnot hr₂ (Or.inl hp₂)).1 hp₁ hp₂
  · intro r' hr' hp
    exact h.wanted r' (mem_drop hid hnot hr' (Or.inl hp)).1 hp
  · intro hw start hschedule
    rcases h.kept hw start hschedule with hd | ⟨start', cancelledAt, hs, r', hr', hstart, hlive⟩
    · exact Or.inl (Or.inl hd)
    · by_cases he : r' = r
      · -- the reminder that covered the start is the one that goes
        subst he
        have hpending : r'.Pending := hlive.resolve_right fun hd => hd hnot
        by_cases hdelivered : v.Delivered
        · obtain ⟨start₂, cancelledAt₂, hs₂, r₂, hr₂, hstart₂, hd₂⟩ := hdelivered
          have hne : r₂ ≠ r' := by
            rintro rfl
            exact hd₂ hnot
          exact Or.inr ⟨start₂, cancelledAt₂, hs₂, r₂, mem_drop_of_ne hid hr₂ hne, hstart₂, Or.inr hd₂⟩
        · exact Or.inl (Or.inr ⟨hpending, hdelivered⟩)
      · exact Or.inr ⟨start', cancelledAt, hs, r', mem_drop_of_ne hid hr' he, hstart, hlive⟩
  · rintro (hd | ⟨hpending, hdelivered⟩)
    · exact ⟨(h.lost hd).1, fun hc => (h.lost hd).2 (hcovered hc)⟩
    · refine ⟨(h.wanted r hr hpending).2, ?_⟩
      rintro ⟨start, cancelledAt, hschedule, r', hr', hstart, hlive⟩
      obtain ⟨hold, hne⟩ := mem_drop hid hnot hr' hlive
      rcases hlive with hp | hd
      · exact hne (h.single r' hold r hr hp hpending)
      · exact hdelivered ⟨start, cancelledAt, hschedule, r', hold, hstart, hd⟩

lemma Tracked.delivers (now : Time) (h : v.Tracked) (hr : r ∈ v.reminders) (hpending : r.Pending) :
    (v.deliver r now).Tracked := by
  have hold : ∀ r' ∈ (v.deliver r now).reminders, r'.Pending → r' ∈ v.reminders := by
    rintro _ ⟨r', hr', rfl⟩ hp
    dsimp only at hp ⊢
    split_ifs at hp ⊢
    · cases hp.1
    · exact hr'
  have hcovered : v.Covered := ⟨r.startsAt, none, (h.wanted r hr hpending).1, r, hr, rfl, Or.inl hpending⟩
  constructor
  · exact h.known
  · exact h.asked
  · intro r₁ hr₁ r₂ hr₂ hp₁ hp₂
    exact h.single r₁ (hold r₁ hr₁ hp₁) r₂ (hold r₂ hr₂ hp₂) hp₁ hp₂
  · intro r' hr' hp
    exact h.wanted r' (hold r' hr' hp) hp
  · intro _ start hschedule
    obtain ⟨start', cancelledAt, hs, r', hr', hstart, hlive⟩ := hcovered
    refine Or.inr ⟨start', cancelledAt, hs, ?_⟩
    by_cases he : r'.id = r.id
    · exact ⟨r'.delivered now, ⟨r', hr', if_pos he⟩, hstart, Or.inr nofun⟩
    · exact ⟨r', ⟨r', hr', if_neg he⟩, hstart, hlive⟩
  · exact fun hd => absurd hcovered (h.lost hd).2

end

end View

/-! ## The rows of one user and one event -/

section
variable {s s' : State} {event : Event} {pair : Uuid × Uuid} {now : Time}

def State.view (s : State) (pair : Uuid × Uuid) : View where
  schedule := (s.events.find pair.1).map fun event => (event.startsAt, event.cancelledAt)
  response := s.responses.find pair
  reminders := { r | r ∈ s.reminders.rows ∧ r.pair = pair }
  dropped := pair ∈ s.dropped

lemma view_id {r r' : Reminder} (hr : r ∈ s.reminders.rows) (h : r' ∈ (s.view pair).reminders)
    (hid : r'.id = r.id) : r' = r :=
  List.inj_on_of_nodup_map s.reminders.nodup h.1 hr hid

lemma view_update {p : Reminder → Bool} {f : Reminder → Reminder} {hf : ∀ r, (f r).id = r.id}
    (hpair : ∀ r, (f r).pair = r.pair) :
    { r | r ∈ (s.reminders.update p f hf).rows ∧ r.pair = pair } =
      (fun r => if p r then f r else r) '' { r | r ∈ s.reminders.rows ∧ r.pair = pair } := by
  have hpair' : ∀ r, (if p r then f r else r).pair = r.pair := by
    intro r
    split_ifs
    · exact hpair r
    · rfl
  ext r
  constructor
  · rintro ⟨hr, hrp⟩
    obtain ⟨r', hr', rfl⟩ := List.mem_map.mp hr
    exact ⟨r', ⟨hr', (hpair' r').symm.trans hrp⟩, rfl⟩
  · rintro ⟨r', ⟨hr', hrp⟩, rfl⟩
    exact ⟨List.mem_map.mpr ⟨r', hr', rfl⟩, (hpair' r').trans hrp⟩

lemma view_cancelPending {p : Reminder → Bool} (h : ∀ r : Reminder, r.pair = pair → p r = true) :
    (s.cancelPending p now).view pair = (s.view pair).cancelPending now := by
  unfold State.view State.cancelPending View.cancelPending
  rw [view_update fun r => r.cancelled_pair now]
  congr 1
  refine Set.image_congr fun r hr => ?_
  simp [h r hr.2]

lemma view_cancelPending_other {p : Reminder → Bool} (h : ∀ r : Reminder, r.pair = pair → p r = false) :
    (s.cancelPending p now).view pair = s.view pair := by
  unfold State.view State.cancelPending
  rw [view_update fun r => r.cancelled_pair now]
  congr 1
  refine (Set.image_congr fun r hr => ?_).trans (Set.image_id _)
  simp [h r hr.2]

lemma view_insert {r : Reminder} (hnew : s.reminders.find r.id = none) (h : r.pair = pair) :
    (s.insert r).view pair =
      { s.view pair with reminders := insert r (s.view pair).reminders, dropped := False } := by
  subst h
  unfold State.view State.insert
  dsimp only
  rw [KeyedTable.insertIgnore_rows hnew]
  congr 1
  · ext r'
    constructor
    · rintro ⟨hr', hp⟩
      exact (List.mem_cons.mp hr').imp id fun hr' => ⟨hr', hp⟩
    · rintro (rfl | ⟨hr', hp⟩)
      · exact ⟨List.mem_cons_self, rfl⟩
      · exact ⟨List.mem_cons_of_mem _ hr', hp⟩
  · simp

lemma view_insert_other {r : Reminder} (hnew : s.reminders.find r.id = none) (h : r.pair ≠ pair) :
    (s.insert r).view pair = s.view pair := by
  unfold State.view State.insert
  dsimp only
  rw [KeyedTable.insertIgnore_rows hnew]
  congr 1
  · ext r'
    constructor
    · rintro ⟨hr', hp⟩
      rcases List.mem_cons.mp hr' with rfl | hr'
      · exact absurd hp h
      · exact ⟨hr', hp⟩
    · exact fun hr' => ⟨List.mem_cons_of_mem _ hr'.1, hr'.2⟩
  · simp [Ne.symm h]

lemma view_forget : (s.forget pair).view pair = { s.view pair with dropped := False } := by
  unfold State.view State.forget
  simp

lemma view_forget_other {pair' : Uuid × Uuid} (h : pair' ≠ pair) :
    (s.forget pair').view pair = s.view pair := by
  unfold State.view State.forget
  simp [Ne.symm h]

lemma view_answered {id userId : Uuid} {response : Answer} {remind : Bool} :
    (s.answered id userId response remind).view (id, userId) =
      { s.view (id, userId) with response := some ⟨id, userId, response, remind⟩ } := by
  unfold State.view State.answered
  dsimp only
  have hkey : (Response.mk id userId response remind).key = (id, userId) := rfl
  rw [KeyedTable.find_upsert, if_pos hkey]
  congr 1
  cases hfind : s.responses.find (id, userId) with
  | none => rfl
  | some a =>
    have ha := KeyedTable.find_key hfind
    have hid : a.eventId = id := congrArg Prod.fst ha
    have huser : a.userId = userId := congrArg Prod.snd ha
    subst hid huser
    rfl

lemma view_answered_other {id userId : Uuid} {response : Answer} {remind : Bool} (h : (id, userId) ≠ pair) :
    (s.answered id userId response remind).view pair = s.view pair := by
  unfold State.view State.answered
  have hkey : (Response.mk id userId response remind).key ≠ pair := h
  rw [KeyedTable.find_upsert, if_neg hkey]

lemma view_events {p : CommunityEvent → Bool} {f : CommunityEvent → CommunityEvent}
    {hf : ∀ event, (f event).id = event.id} :
    State.view { s with events := s.events.update p f hf } pair =
      { s.view pair with
        schedule := (s.events.find pair.1).map fun event =>
          ((if p event then f event else event).startsAt, (if p event then f event else event).cancelledAt) } := by
  unfold State.view
  dsimp only
  rw [KeyedTable.find_update, Option.map_map]
  rfl

def State.remind (s : State) (event : CommunityEvent) (newId : Uuid → Uuid) (now : Time) (users : List Uuid) :
    State :=
  users.foldl (fun s userId => s.insert (event.reminder (newId userId) userId now)) s

variable {reminded : CommunityEvent} {newId : Uuid → Uuid} {users : List Uuid}

lemma insert_free {userId userId' : Uuid} (hapart : Function.Injective newId) (hne : userId ≠ userId')
    (hnew' : s.reminders.find (newId userId') = none) :
    (s.insert (reminded.reminder (newId userId) userId now)).reminders.find (newId userId') = none := by
  unfold State.insert
  dsimp only
  rw [KeyedTable.find_insertIgnore, if_neg]
  · exact hnew'
  · exact fun he => hne (hapart he)

lemma view_remind_other (hapart : Function.Injective newId)
    (hnew : ∀ userId ∈ users, s.reminders.find (newId userId) = none) (hnodup : users.Nodup)
    (h : reminded.id ≠ pair.1 ∨ pair.2 ∉ users) : (s.remind reminded newId now users).view pair = s.view pair := by
  unfold State.remind
  induction users generalizing s with
  | nil => rfl
  | cons userId rest ih =>
    obtain ⟨hhead, hrest⟩ := List.nodup_cons.mp hnodup
    rw [List.foldl_cons, ih _ hrest (h.imp_right fun hn hm => hn (List.mem_cons_of_mem _ hm))]
    · refine view_insert_other (hnew userId List.mem_cons_self) fun he => ?_
      rcases h with h | h
      · exact h (congrArg Prod.fst he)
      · refine h (List.mem_cons.mpr (Or.inl ?_))
        exact (congrArg Prod.snd he).symm
    · intro other hother
      refine insert_free hapart ?_ (hnew other (List.mem_cons_of_mem _ hother))
      rintro rfl
      exact hhead hother

lemma view_remind {userId : Uuid} (hapart : Function.Injective newId)
    (hnew : ∀ userId ∈ users, s.reminders.find (newId userId) = none) (hnodup : users.Nodup)
    (h : userId ∈ users) : (s.remind reminded newId now users).view (reminded.id, userId) =
      { s.view (reminded.id, userId) with
        reminders := insert (reminded.reminder (newId userId) userId now) (s.view (reminded.id, userId)).reminders
        dropped := False } := by
  unfold State.remind
  induction users generalizing s with
  | nil => cases h
  | cons first rest ih =>
    obtain ⟨hhead, hrest⟩ := List.nodup_cons.mp hnodup
    have hfree : ∀ other ∈ rest, (s.insert (reminded.reminder (newId first) first now)).reminders.find
        (newId other) = none := by
      intro other hother
      refine insert_free hapart ?_ (hnew other (List.mem_cons_of_mem _ hother))
      rintro rfl
      exact hhead hother
    rw [List.foldl_cons]
    by_cases he : first = userId
    · subst he
      have hsame := @view_remind_other (s.insert (reminded.reminder (newId first) first now))
        (reminded.id, first) now reminded newId rest hapart hfree hrest (Or.inr hhead)
      unfold State.remind at hsame
      rw [hsame]
      exact view_insert (r := reminded.reminder (newId first) first now) (hnew first List.mem_cons_self) rfl
    · rw [ih hfree hrest ((List.mem_cons.mp h).resolve_left (Ne.symm he)), view_insert_other]
      · exact hnew first List.mem_cons_self
      · exact fun hp => he (congrArg Prod.snd hp)

lemma mem_remind {r : Reminder} (h : r ∈ (s.remind reminded newId now users).reminders.rows) :
    r ∈ s.reminders.rows ∨ ∃ userId, r = reminded.reminder (newId userId) userId now := by
  unfold State.remind at h
  induction users generalizing s with
  | nil => exact Or.inl h
  | cons userId rest ih =>
    rw [List.foldl_cons] at h
    rcases ih h with hr | hr
    · rcases KeyedTable.mem_insertIgnore hr with rfl | hr
      · exact Or.inr ⟨userId, rfl⟩
      · exact Or.inl hr
    · exact Or.inr hr

lemma asking_nodup (s : State) (id : Uuid) : (s.asking id).Nodup := by
  have hkeys : ((s.responses.rows.filter fun a => a.eventId = id ∧ a.Wants).map Response.key).Nodup :=
    s.responses.nodup.sublist (List.filter_sublist.map _)
  have hpairs : (s.responses.rows.filter fun a => a.eventId = id ∧ a.Wants).map Response.key =
      (s.asking id).map fun userId => (id, userId) := by
    unfold State.asking
    rw [List.map_map]
    refine List.map_congr_left fun a ha => ?_
    have hid : a.eventId = id := by simpa using (decide_eq_true_eq.mp (List.mem_filter.mp ha).2).1
    exact Prod.ext hid rfl
  rw [hpairs] at hkeys
  exact hkeys.of_map _

lemma mem_asking {id userId : Uuid} : userId ∈ s.asking id ↔ (s.view (id, userId)).Wants := by
  unfold State.asking
  rw [List.mem_map]
  constructor
  · rintro ⟨a, ha, rfl⟩
    obtain ⟨hrow, hasked⟩ := List.mem_filter.mp ha
    obtain ⟨rfl, hwants⟩ := of_decide_eq_true hasked
    exact ⟨a, KeyedTable.find_eq_some.mpr ⟨hrow, rfl⟩, hwants⟩
  · rintro ⟨a, ha, hwants⟩
    obtain ⟨hrow, hkey⟩ := KeyedTable.find_eq_some.mp ha
    have hid : a.eventId = id := congrArg Prod.fst hkey
    exact ⟨a, List.mem_filter.mpr ⟨hrow, decide_eq_true ⟨hid, hwants⟩⟩, congrArg Prod.snd hkey⟩

/-! ## The invariant -/

def Due (s : State) : Prop := ∀ r ∈ s.reminders.rows, r.dueAt = max r.createdAt (r.startsAt - lead)

lemma Due.update {p : Reminder → Bool} {f : Reminder → Reminder} (hf : ∀ r, (f r).id = r.id) (h : Due s)
    (hsame : ∀ r, (f r).dueAt = r.dueAt ∧ (f r).createdAt = r.createdAt ∧ (f r).startsAt = r.startsAt) :
    Due { s with reminders := s.reminders.update p f hf } := by
  intro r hr
  obtain ⟨r', hr', rfl | rfl⟩ := KeyedTable.mem_update (show r ∈ (s.reminders.update p f hf).rows from hr)
  · exact h r hr'
  · obtain ⟨hdue, hcreated, hstart⟩ := hsame r'
    rw [hdue, hcreated, hstart]
    exact h r' hr'

lemma Due.cancelPending {p : Reminder → Bool} (h : Due s) : Due (s.cancelPending p now) :=
  h.update (fun r => r.cancelled_id now) fun _ => ⟨rfl, rfl, rfl⟩

lemma Due.insert {r₀ : Reminder} (h : Due s) (hnew : r₀.dueAt = max r₀.createdAt (r₀.startsAt - lead)) :
    Due (s.insert r₀) := by
  intro r hr
  rcases KeyedTable.mem_insertIgnore hr with rfl | hr
  · exact hnew
  · exact h r hr

structure Kept (s : State) : Prop where
  tracked : ∀ pair, (s.view pair).Tracked
  due : Due s

lemma start_kept : Kept .start where
  tracked pair := by
    have hview : State.start.view pair = ⟨none, none, ∅, False⟩ := by
      unfold State.view State.start KeyedTable.empty
      simp [KeyedTable.find]
    rw [hview]
    exact View.empty_tracked
  due _ h := by cases h

lemma Kept.creates {event : CommunityEvent} (h : Kept s) :
    Kept { s with events := s.events.insertIgnore event } := by
  refine ⟨fun pair => ?_, h.due⟩
  have hview : State.view { s with events := s.events.insertIgnore event } pair =
      { s.view pair with
        schedule := ((s.events.insertIgnore event).find pair.1).map fun e => (e.startsAt, e.cancelledAt) } := rfl
  rw [hview, KeyedTable.find_insertIgnore]
  cases hfind : s.events.find pair.1 with
  | none => exact (h.tracked pair).schedules (by simp [State.view, hfind])
  | some e =>
    have hsame : (if event.id = pair.1 then some ((some e).getD event) else some e) = s.events.find pair.1 := by
      rw [hfind]
      split_ifs <;> rfl
    rw [hsame]
    exact h.tracked pair

lemma rsvp_cases {id userId newId : Uuid} {response : Answer} {remind : Bool}
    (hs : s.rsvp id userId response remind now newId = .ok s') :
    ∃ event, s.events.find id = some event ∧ event.Upcoming now ∧
      ((∃ a, s.responses.find (id, userId) = some a ∧ a.response = response ∧
          a.remind = (remind && response ≠ .declined) ∧ s' = s) ∨
        (∃ a, s.responses.find (id, userId) = some a ∧ a.remind = (remind && response ≠ .declined) ∧
          s' = s.answered id userId response (remind && response ≠ .declined)) ∨
        ((remind && response ≠ .declined) = true ∧
          (∀ a, s.responses.find (id, userId) = some a → a.remind = false) ∧
          s' = ((s.answered id userId response true).cancelPending (fun r => r.pair = (id, userId)) now).insert
            (event.reminder newId userId now)) ∨
        ((remind && response ≠ .declined) = false ∧
          s' = ((s.answered id userId response false).cancelPending (fun r => r.pair = (id, userId)) now).forget
            (id, userId))) := by
  unfold State.rsvp at hs
  cases hevent : s.events.find id with
  | none =>
    rw [hevent] at hs
    cases hs
  | some event =>
    rw [hevent] at hs
    dsimp only at hs
    split_ifs at hs with hupcoming hsame hremind hwanted
    · refine ⟨event, rfl, hupcoming, Or.inl ?_⟩
      obtain ⟨a, ha, hboth⟩ := (Option.any_eq_true _ _).mp hsame
      obtain ⟨hresponse, hremind⟩ := of_decide_eq_true hboth
      exact ⟨a, ha, hresponse, hremind, (Except.ok.inj hs).symm⟩
    · refine ⟨event, rfl, hupcoming, Or.inr (Or.inl ?_)⟩
      obtain ⟨a, ha, hremind⟩ := (Option.any_eq_true _ _).mp hremind
      exact ⟨a, ha, of_decide_eq_true hremind, (Except.ok.inj hs).symm⟩
    · refine ⟨event, rfl, hupcoming, Or.inr (Or.inr (Or.inl ⟨hwanted, fun a ha => ?_, ?_⟩))⟩
      · rw [ha, hwanted] at hremind
        simpa using hremind
      · rw [← hwanted]
        exact (Except.ok.inj hs).symm
    · have hnot := Bool.eq_false_iff.mpr hwanted
      refine ⟨event, rfl, hupcoming, Or.inr (Or.inr (Or.inr ⟨hnot, ?_⟩))⟩
      rw [← hnot]
      exact (Except.ok.inj hs).symm

lemma Kept.answers {id userId newId : Uuid} {response : Answer} {remind : Bool} (h : Kept s)
    (hnew : s.reminders.find newId = none) (hs : s.rsvp id userId response remind now newId = .ok s') :
    Kept s' := by
  have hother : ∀ pair : Uuid × Uuid, (id, userId) ≠ pair → ∀ r : Reminder, r.pair = pair →
      decide (r.pair = (id, userId)) = false :=
    fun pair hne r hr => decide_eq_false fun he => hne (he.symm.trans hr)
  obtain ⟨event, hevent, hupcoming, hs⟩ := rsvp_cases hs
  have hschedule : (s.view (id, userId)).schedule = some (event.startsAt, none) := by
    simp [State.view, hevent, hupcoming.1]
  rcases hs with ⟨a, -, -, -, rfl⟩ | ⟨a, ha, hremind, rfl⟩ | ⟨hwanted, -, rfl⟩ | ⟨hnot, rfl⟩
  · exact h
  · refine ⟨fun pair => ?_, h.due⟩
    by_cases he : (id, userId) = pair
    · subst he
      rw [view_answered]
      refine (h.tracked (id, userId)).answers ha hremind.symm ?_
      intro hb
      have hboth : remind = true ∧ ¬ response = .declined := by simpa using hb
      exact hboth.2
    · rw [view_answered_other he]
      exact h.tracked pair
  · have hfree : ((s.answered id userId response true).cancelPending
        (fun r => r.pair = (id, userId)) now).reminders.find (event.reminder newId userId now).id = none := by
      unfold State.cancelPending
      rw [KeyedTable.find_update]
      exact (congrArg _ hnew).trans rfl
    have hpair : (event.reminder newId userId now).pair = (id, userId) :=
      Prod.ext (show event.id = id from KeyedTable.find_key hevent) rfl
    constructor
    · intro pair
      by_cases he : (id, userId) = pair
      · subst he
        rw [view_insert hfree hpair, view_cancelPending fun r hr => decide_eq_true hr, view_answered]
        have hwants : (Response.mk id userId response true).Wants := by
          have hboth : remind = true ∧ ¬ response = .declined := by simpa using hwanted
          exact ⟨rfl, hboth.2⟩
        have hpending : (event.reminder newId userId now).Pending := ⟨rfl, rfl⟩
        have hrenewed := View.Tracked.renews (s.view (id, userId)) now hwants hpending
        unfold View.cancelPending at hrenewed ⊢
        dsimp only at hrenewed ⊢
        rw [hschedule]
        exact hrenewed
      · rw [view_insert_other hfree fun hp => he (hpair.symm.trans hp), view_cancelPending_other (hother pair he),
          view_answered_other he]
        exact h.tracked pair
    · exact Due.insert (Due.cancelPending h.due) rfl
  · refine ⟨fun pair => ?_, Due.cancelPending h.due⟩
    by_cases he : (id, userId) = pair
    · subst he
      rw [view_forget, view_cancelPending fun r hr => decide_eq_true hr, view_answered]
      exact View.Tracked.withdraws (v := s.view (id, userId)) (b := ⟨id, userId, response, false⟩)
        (by simp [hschedule]) rfl
    · rw [view_forget_other he, view_cancelPending_other (hother pair he), view_answered_other he]
      exact h.tracked pair

lemma Kept.covers {id userId newId : Uuid} {response : Answer} (h : Kept s) (hresponse : response ≠ .declined)
    (hnew : s.reminders.find newId = none) (hs : s.rsvp id userId response true now newId = .ok s') :
    (s'.view (id, userId)).Covered ↔ (id, userId) ∉ s.dropped := by
  have hkept := h.answers hnew hs
  obtain ⟨event, hevent, hupcoming, hs⟩ := rsvp_cases hs
  have hremind : (true && decide (response ≠ .declined)) = true := by simp [hresponse]
  have hschedule : (s.events.find id).map (fun event => (event.startsAt, event.cancelledAt)) =
      some (event.startsAt, none) := by simp [hevent, hupcoming.1]
  have hwants : (Response.mk id userId response true).Wants := ⟨rfl, hresponse⟩
  rw [hremind] at hs
  have hanswered : ((s.answered id userId response true).view (id, userId)).Wants := by
    rw [view_answered]
    exact ⟨_, rfl, hwants⟩
  rcases hs with ⟨a, ha, hsame, hremind, rfl⟩ | ⟨a, -, -, rfl⟩ | ⟨-, hnot, rfl⟩ | ⟨hnot, -⟩
  · exact (hkept.tracked (id, userId)).covered_iff ⟨a, ha, hremind, hsame ▸ hresponse⟩ hschedule
  · exact (hkept.tracked (id, userId)).covered_iff hanswered hschedule
  · have hnone : (id, userId) ∉ s.dropped := by
      intro hd
      obtain ⟨a, ha, hw, -⟩ := ((h.tracked (id, userId)).lost hd).1
      rw [hnot a ha] at hw
      cases hw
    refine ((hkept.tracked (id, userId)).covered_iff hanswered hschedule).trans
      (iff_of_true (fun hd => ?_) hnone)
    exact hnone (List.mem_filter.mp hd).1
  · cases hnot

lemma schedule_same {p : CommunityEvent → Bool} {f : CommunityEvent → CommunityEvent}
    (h : ∀ event, s.events.find pair.1 = some event →
      (if p event then f event else event).startsAt = event.startsAt ∧
        (if p event then f event else event).cancelledAt = event.cancelledAt) :
    (s.events.find pair.1).map (fun event =>
      ((if p event then f event else event).startsAt, (if p event then f event else event).cancelledAt)) =
      (s.view pair).schedule := by
  refine Option.map_congr fun event hevent => ?_
  obtain ⟨hstart, hcancelled⟩ := h event hevent
  rw [hstart, hcancelled]

lemma Kept.cancels {id : Uuid} (h : Kept s) (hs : s.cancel id now = .ok s') : Kept s' := by
  unfold State.cancel at hs
  cases hevent : s.events.find id with
  | none =>
    rw [hevent] at hs
    cases hs
  | some event =>
    rw [hevent] at hs
    obtain rfl := Except.ok.inj hs
    refine ⟨fun pair => ?_, Due.cancelPending h.due⟩
    by_cases he : pair.1 = id
    · have hpair : ∀ r : Reminder, r.pair = pair → decide (r.eventId = id) = true := fun r hr =>
        decide_eq_true ((congrArg Prod.fst hr).trans he)
      have hschedule : (s.view pair).schedule = some (event.startsAt, event.cancelledAt) := by
        simp [State.view, he, hevent]
      rw [view_cancelPending hpair, view_events, he, hevent]
      unfold View.cancelPending
      dsimp only [Option.map_some]
      split_ifs with hfirst
      · exact (h.tracked pair).cancels hschedule
      · obtain ⟨cancelledAt, hc⟩ : ∃ cancelledAt, event.cancelledAt = some cancelledAt := by
          have hid : event.id = id := KeyedTable.find_key hevent
          refine Option.ne_none_iff_exists'.mp fun hn => hfirst ?_
          exact decide_eq_true ⟨hid, hn⟩
        rw [hc]
        exact (h.tracked pair).cancels hschedule
    · have hpair : ∀ r : Reminder, r.pair = pair → decide (r.eventId = id) = false := fun r hr =>
        decide_eq_false fun hid => he ((congrArg Prod.fst hr).symm.trans hid)
      rw [view_cancelPending_other hpair, view_events]
      convert h.tracked pair using 1
      refine View.ext ?_ rfl rfl rfl
      exact schedule_same fun event' hfind => by
        have hid : event'.id ≠ id := fun hid => he ((KeyedTable.find_key hfind).symm.trans hid)
        simp [hid]

lemma Kept.drops {r : Reminder} (h : Kept s) (hr : r ∈ s.reminders.rows) (hnot : r.deliveredAt = none) :
    Kept (s.drop r now) := by
  have hdelivered : s.delivered r.pair = true ↔ (s.view r.pair).Delivered := by
    unfold State.delivered View.Delivered
    rw [Option.any_eq_true]
    constructor
    · rintro ⟨event, hevent, hany⟩
      obtain ⟨r', hr', hboth⟩ := List.any_eq_true.mp hany
      obtain ⟨hpair, hstart, hsome⟩ := of_decide_eq_true hboth
      refine ⟨event.startsAt, event.cancelledAt, by simp [State.view, hevent], r', ⟨hr', hpair⟩, hstart, ?_⟩
      exact Option.isSome_iff_ne_none.mp hsome
    · rintro ⟨start, cancelledAt, hschedule, r', ⟨hr', hpair⟩, hstart, hsome⟩
      obtain ⟨event, hevent, hboth⟩ := Option.map_eq_some_iff.mp hschedule
      obtain ⟨rfl, rfl⟩ := Prod.mk.inj hboth
      refine ⟨event, hevent, List.any_eq_true.mpr ⟨r', hr', decide_eq_true ⟨hpair, hstart, ?_⟩⟩⟩
      exact Option.isSome_iff_ne_none.mpr hsome
  refine ⟨fun pair => ?_, h.due.update (fun r' => r'.cancelled_id now) fun _ => ⟨rfl, rfl, rfl⟩⟩
  have hreminders : ((s.drop r now).view pair).reminders =
      (fun r' => if r'.id = r.id then r'.cancelled now else r') '' (s.view pair).reminders := by
    unfold State.view State.drop
    rw [view_update fun r' => r'.cancelled_pair now]
    simp
  by_cases he : r.pair = pair
  · subst he
    have hdrop : (s.drop r now).view r.pair = (s.view r.pair).drop r now := by
      refine View.ext rfl rfl hreminders ?_
      unfold View.drop
      rw [← hdelivered]
      unfold State.view State.drop
      dsimp only
      split_ifs with hlost
      · simp [hlost]
      · simp only [hlost, or_false]
    rw [hdrop]
    exact (h.tracked r.pair).drops ⟨hr, rfl⟩ hnot fun r' hr' hid => view_id hr hr' hid
  · have hsame : (s.drop r now).view pair = s.view pair := by
      refine View.ext rfl rfl (hreminders.trans ?_) ?_
      · refine (Set.image_congr fun r' hr' => if_neg fun hid => he ?_).trans (Set.image_id _)
        rw [← view_id hr hr' hid]
        exact hr'.2
      · unfold State.view State.drop
        dsimp only
        split_ifs
        · simp [Ne.symm he]
        · rfl
    rw [hsame]
    exact h.tracked pair

lemma Kept.delivers {id : Uuid} {permitted : Bool} (h : Kept s) : Kept (s.deliver id now permitted) := by
  unfold State.deliver
  cases hfind : (s.reminders.find id).filter fun r => r.dueAt ≤ now ∧ r.Pending with
  | none => exact h
  | some r =>
    obtain ⟨hr, hdue⟩ := Option.filter_eq_some_iff.mp hfind
    obtain ⟨-, hpending⟩ := of_decide_eq_true hdue
    have hrow := (KeyedTable.find_eq_some.mp hr).1
    dsimp only
    split_ifs
    · refine ⟨fun pair => ?_, h.due.update (fun r' => r'.delivered_id now) fun _ => ⟨rfl, rfl, rfl⟩⟩
      unfold State.view
      rw [view_update fun r' => r'.delivered_pair now]
      by_cases he : r.pair = pair
      · subst he
        convert View.Tracked.delivers now (h.tracked r.pair) ⟨hrow, rfl⟩ hpending using 1
        unfold View.deliver State.view
        simp
      · convert h.tracked pair using 1
        unfold State.view
        congr 1
        refine (Set.image_congr fun r' hr' => ?_).trans (Set.image_id _)
        rw [if_neg]
        · rfl
        · intro hid
          refine he ?_
          rw [← view_id hrow hr' (of_decide_eq_true hid)]
          exact hr'.2
    · exact h.drops hrow hpending.1

lemma Kept.reschedules {id : Uuid} {body : Edit} {event : CommunityEvent} {newId : Uuid → Uuid} (h : Kept s)
    (hevent : s.events.find id = some event) (hactive : event.cancelledAt = none)
    (hnew : ∀ userId, s.reminders.find (newId userId) = none) (hapart : Function.Injective newId) :
    Kept (((s.edited id body).cancelPending (fun r => r.eventId = id) now).remind (event.edited body) newId now
      (s.asking id)) := by
  have hid : event.id = id := KeyedTable.find_key hevent
  have hfree : ∀ userId ∈ s.asking id, ((s.edited id body).cancelPending (fun r => r.eventId = id)
      now).reminders.find (newId userId) = none := by
    intro userId _
    unfold State.cancelPending
    rw [KeyedTable.find_update]
    exact (congrArg _ (hnew userId)).trans rfl
  constructor
  · intro pair
    by_cases he : pair.1 = id
    · have hpair : ∀ r : Reminder, r.pair = pair → decide (r.eventId = id) = true := fun r hr =>
        decide_eq_true ((congrArg Prod.fst hr).trans he)
      have hview : ((s.edited id body).cancelPending (fun r => r.eventId = id) now).view pair =
          { (s.view pair).cancelPending now with schedule := some (body.startsAt, none) } := by
        rw [view_cancelPending hpair]
        unfold State.edited
        rw [view_events, he, hevent]
        unfold View.cancelPending
        refine View.ext ?_ rfl rfl rfl
        simp [hid, CommunityEvent.edited, hactive]
      by_cases hasks : pair.2 ∈ s.asking id
      · obtain ⟨a, ha, hwants⟩ := mem_asking.mp hasks
        have hthis : pair = ((event.edited body).id, pair.2) := Prod.ext (he.trans hid.symm) rfl
        have hremind := @view_remind _ now (event.edited body) _ _ _ hapart hfree (asking_nodup s id) hasks
        rw [← hthis, hview] at hremind
        rw [hremind]
        have hresponse : (s.view pair).response = some a := by
          rw [hthis, show (event.edited body).id = id from hid]
          exact ha
        have hpending : ((event.edited body).reminder (newId pair.2) pair.2 now).Pending := ⟨rfl, rfl⟩
        have hrenewed := View.Tracked.renews (s.view pair) now hwants hpending
        convert hrenewed using 1
        exact View.ext rfl hresponse rfl rfl
      · rw [view_remind_other hapart hfree (asking_nodup s id) (Or.inr hasks), hview]
        refine (h.tracked pair).ignores fun hw => hasks (mem_asking.mpr ?_)
        rwa [← he]
    · have hpair : ∀ r : Reminder, r.pair = pair → decide (r.eventId = id) = false := fun r hr =>
        decide_eq_false fun hid => he ((congrArg Prod.fst hr).symm.trans hid)
      have helse : (event.edited body).id ≠ pair.1 := fun hp => he (hp.symm.trans hid)
      rw [view_remind_other hapart hfree (asking_nodup s id) (Or.inl helse),
        view_cancelPending_other hpair]
      unfold State.edited
      rw [view_events]
      convert h.tracked pair using 1
      refine View.ext (schedule_same fun event' hfind => ?_) rfl rfl rfl
      have hid' : event'.id ≠ id := fun hid' => he ((KeyedTable.find_key hfind).symm.trans hid')
      simp [hid']
  · intro r hr
    rcases mem_remind hr with hr | ⟨userId, rfl⟩
    · exact Due.cancelPending (s := s.edited id body) h.due r hr
    · rfl

lemma Kept.patches {id : Uuid} {body : Edit} {newId : Uuid → Uuid} (h : Kept s)
    (hnew : ∀ userId, s.reminders.find (newId userId) = none) (hapart : Function.Injective newId)
    (hs : s.patch id body now newId = .ok s') : Kept s' := by
  unfold State.patch at hs
  split_ifs at hs
  cases hevent : s.events.find id with
  | none =>
    rw [hevent] at hs
    cases hs
  | some event =>
    rw [hevent] at hs
    dsimp only at hs
    split_ifs at hs with hcancelled hsame hstart
    · obtain rfl := Except.ok.inj hs
      exact h
    · obtain rfl := Except.ok.inj hs
      exact h.reschedules hevent (by simpa using hcancelled) hnew hapart
    · obtain rfl := Except.ok.inj hs
      refine ⟨fun pair => ?_, h.due⟩
      convert h.tracked pair using 1
      unfold State.edited
      rw [view_events]
      refine View.ext (schedule_same fun event' hfind => ?_) rfl rfl rfl
      split_ifs with hid
      · have hpair : pair.1 = id := (KeyedTable.find_key hfind).symm.trans (of_decide_eq_true hid)
        rw [hpair, hevent] at hfind
        obtain rfl := Option.some.inj hfind
        exact ⟨(not_not.mp hstart).symm, rfl⟩
      · exact ⟨rfl, rfl⟩

lemma step_kept (h : Kept s) (hs : Step s event s') : Kept s' := by
  cases hs with
  | create => exact h.creates
  | patch hnew hapart hs => exact h.patches hnew hapart hs
  | cancel hs => exact h.cancels hs
  | rsvp hnew hs => exact h.answers hnew hs
  | @cancelReminder _ id userId now hs =>
    unfold State.cancelReminder at hs
    cases hfind : (s.reminders.find id).filter fun r => r.userId = userId ∧ r.deliveredAt = none with
    | none =>
      rw [hfind] at hs
      cases hs
    | some r =>
      rw [hfind] at hs
      obtain rfl := Except.ok.inj hs
      obtain ⟨hr, hmine⟩ := Option.filter_eq_some_iff.mp hfind
      exact h.drops (KeyedTable.find_eq_some.mp hr).1 (of_decide_eq_true hmine).2
  | deliver => exact h.delivers

/-- After an answer that asks to be reminded, a reminder for the event's start is pending or has been
delivered, if and only if the user had not lost theirs. -/
def Reminded (s : State) : Event → State → Prop
  | .rsvp id userId response true _ _, s' => response ≠ .declined →
    ((∃ event, s'.events.find id = some event ∧ ∃ r ∈ s'.reminders.rows, r.eventId = id ∧ r.userId = userId ∧
      r.startsAt = event.startsAt ∧ (r.Pending ∨ r.deliveredAt ≠ none)) ↔ (id, userId) ∉ s.dropped)
  | _, _ => True

lemma covered_iff {id userId : Uuid} : (s.view (id, userId)).Covered ↔
    ∃ event, s.events.find id = some event ∧ ∃ r ∈ s.reminders.rows, r.eventId = id ∧ r.userId = userId ∧
      r.startsAt = event.startsAt ∧ (r.Pending ∨ r.deliveredAt ≠ none) := by
  constructor
  · rintro ⟨start, cancelledAt, hschedule, r, ⟨hr, hpair⟩, hstart, hlive⟩
    obtain ⟨event, hevent, hboth⟩ := Option.map_eq_some_iff.mp hschedule
    obtain ⟨rfl, rfl⟩ := Prod.mk.inj hboth
    exact ⟨event, hevent, r, hr, congrArg Prod.fst hpair, congrArg Prod.snd hpair, hstart, hlive⟩
  · rintro ⟨event, hevent, r, hr, rfl, rfl, hstart, hlive⟩
    exact ⟨event.startsAt, event.cancelledAt, by simp [State.view, hevent], r, ⟨hr, rfl⟩, hstart, hlive⟩

lemma step_reminded (h : Kept s) (hs : Step s event s') : Reminded s event s' := by
  cases hs with
  | @rsvp _ id userId response remind now newId hnew hs =>
    cases remind with
    | false => trivial
    | true => exact fun hresponse => covered_iff.symm.trans (h.covers hresponse hnew hs)
  | create | patch | cancel | cancelReminder | deliver => trivial

/-- A user has at most one pending reminder of an event, and only if the event goes ahead and they want
to be reminded of its current start. -/
theorem reminders_track {entries : List (State × Event × State)} (hrun : History Step .start entries s) :
    (∀ r ∈ s.reminders.rows, ∀ r' ∈ s.reminders.rows, r.Pending → r'.Pending → r.eventId = r'.eventId →
      r.userId = r'.userId → r = r') ∧
    (∀ r ∈ s.reminders.rows, r.Pending → ∃ event a, s.events.find r.eventId = some event ∧
      event.cancelledAt = none ∧ r.dueAt = max r.createdAt (event.startsAt - lead) ∧
      s.responses.find (r.eventId, r.userId) = some a ∧ a.remind = true ∧ a.response ≠ .declined) ∧
    ∀ e ∈ entries, Reminded e.1 e.2.1 e.2.2 := by
  have hboth : Kept s ∧ ∀ e ∈ entries, Reminded e.1 e.2.1 e.2.2 :=
    @History.forall_entries State Event Step _ _ _ Kept (fun _ _ => True) Reminded hrun start_kept
      (fun _ _ _ h _ hs => ⟨step_kept h hs, step_reminded h hs⟩) fun _ _ => trivial
  obtain ⟨h, hreminded⟩ := hboth
  refine ⟨fun r hr r' hr' hp hp' hevent huser => ?_, fun r hr hp => ?_, hreminded⟩
  · have hpair : r'.pair = r.pair := Prod.ext hevent.symm huser.symm
    exact (h.tracked r.pair).single r ⟨hr, rfl⟩ r' ⟨hr', hpair⟩ hp hp'
  · obtain ⟨hschedule, a, ha, hremind, hresponse⟩ := (h.tracked r.pair).wanted r ⟨hr, rfl⟩ hp
    obtain ⟨event, hevent, hpair⟩ := Option.map_eq_some_iff.mp hschedule
    obtain ⟨hstart, hactive⟩ := Prod.mk.inj hpair
    refine ⟨event, a, hevent, hactive, ?_, ha, hremind, hresponse⟩
    rw [hstart]
    exact h.due r hr

end

namespace Sample

def picnic : CommunityEvent := ⟨1, 3, 7, "Picnic", "", "", 10000000, none, none⟩

def planned : State := { State.start with events := State.start.events.insertIgnore picnic }

lemma going_run : Step .start (.create picnic) planned ∧
    Step planned (.rsvp 1 5 .going true 100 20)
      (((planned.answered 1 5 .going true).cancelPending (fun r => r.pair = (1, 5)) 100).insert
        (picnic.reminder 20 5 100)) :=
  ⟨.create rfl, .rsvp rfl rfl⟩

end Sample

open Sample in
theorem reminders_track_going : ∃ entries s, History Step .start entries s ∧
    (∃ r ∈ s.reminders.rows, r.Pending) ∧
    (∀ r ∈ s.reminders.rows, ∀ r' ∈ s.reminders.rows, r.Pending → r'.Pending → r.eventId = r'.eventId →
      r.userId = r'.userId → r = r') ∧
    (∀ r ∈ s.reminders.rows, r.Pending → ∃ event a, s.events.find r.eventId = some event ∧
      event.cancelledAt = none ∧ r.dueAt = max r.createdAt (event.startsAt - lead) ∧
      s.responses.find (r.eventId, r.userId) = some a ∧ a.remind = true ∧ a.response ≠ .declined) ∧
    ∀ e ∈ entries, Reminded e.1 e.2.1 e.2.2 := by
  have hrun := ((History.start State.start).snoc going_run.1).snoc going_run.2
  exact ⟨_, _, hrun, ⟨picnic.reminder 20 5 100, List.mem_cons_self, rfl, rfl⟩, reminders_track hrun⟩

open Sample in
/-- The user cancels the reminder and then changes the answer, still asking to be reminded. -/
theorem cancelled_and_answered : ∃ entries s, History Step .start entries s ∧
    (∃ e ∈ entries, e.2.2 = s ∧ e.2.1 = .rsvp 1 5 .maybe true 300 21) ∧
    ¬ ∃ r ∈ s.reminders.rows, r.eventId = 1 ∧ r.userId = 5 ∧ (r.Pending ∨ r.deliveredAt ≠ none) := by
  have hcancel : Step _ (.cancelReminder 20 5 200) _ := .cancelReminder (s :=
    ((planned.answered 1 5 .going true).cancelPending (fun r => r.pair = (1, 5)) 100).insert
      (picnic.reminder 20 5 100)) rfl
  have hagain : Step _ (.rsvp 1 5 .maybe true 300 21) _ := .rsvp (s := State.drop
    (((planned.answered 1 5 .going true).cancelPending (fun r => r.pair = (1, 5)) 100).insert
      (picnic.reminder 20 5 100)) (picnic.reminder 20 5 100) 200) rfl rfl
  refine ⟨_, _, ((((History.start State.start).snoc going_run.1).snoc going_run.2).snoc hcancel).snoc hagain,
    ⟨_, List.mem_append_right _ (List.mem_singleton_self _), rfl, rfl⟩, ?_⟩
  rintro ⟨r, hr, -, -, hlive⟩
  obtain rfl : r = (picnic.reminder 20 5 100).cancelled 200 := List.mem_singleton.mp hr
  rcases hlive with ⟨-, hc⟩ | hd
  · cases hc
  · exact hd rfl

end Yappy.Reminders
