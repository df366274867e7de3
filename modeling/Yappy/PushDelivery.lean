import Yappy.KeyedTable
import Yappy.Pages
import Yappy.PermissionDatabase
import Yappy.Runs

/-!
# Delivering pushes

`deliverPending` of `apps/worker/src/jobs/push.ts`, run by any number of workers on one outbox. A claim, a
read of the devices, an answer from a provider and each update that settles a drain are one step, and
anything else goes on in between. Times are in milliseconds.
-/
namespace Yappy.Push

open Permissions (Time Uuid)

inductive Kind
  | message | mention | reaction | call | system
  deriving DecidableEq

inductive Platform
  | ios | android | web | desktop
  deriving DecidableEq

structure OutboxRow where
  id : Uuid
  userId : Uuid
  deviceId : Option Uuid
  kind : Kind
  attempts : ℕ
  lastError : Option String
  createdAt : Time
  expiresAt : Option Time
  claimedAt : Option Time
  sentAt : Option Time

structure Device where
  id : Uuid
  userId : Uuid
  platform : Platform
  pushToken : Option String
  voipToken : Option String
  revokedAt : Option Time
  deriving DecidableEq

def claimLasts : ℕ := 60_000

def OutboxRow.claimable (now : Time) (row : OutboxRow) : Bool :=
  row.sentAt.isNone && row.expiresAt.all (now < ·) && row.claimedAt.all fun t => t + claimLasts < now

def OutboxRow.claim (now : Time) (row : OutboxRow) : OutboxRow :=
  { row with attempts := row.attempts + 1, claimedAt := some now }

def OutboxRow.settle (date : Time) (lastError : Option String) (row : OutboxRow) : OutboxRow :=
  { row with sentAt := some date, lastError }

def present (token : Option String) : Option String := token.filter (· ≠ "")

def Device.token (d : Device) (row : OutboxRow) : Option String :=
  present (if d.platform = .ios ∧ row.kind = .call then d.voipToken.or d.pushToken else d.pushToken)

def Device.byVoip (d : Device) (row : OutboxRow) : Bool :=
  d.platform = .ios && row.kind = .call && (present d.voipToken).isSome

inductive Answer
  | accepted | rejected | unregistered
  /-- The call of `send` rejects. -/
  | threw
  deriving DecidableEq

inductive Outcome
  | ok | failed
  | left
  deriving DecidableEq

inductive Phase
  | claimed | sending
  | settling
  | settled
  deriving DecidableEq

structure Drain where
  /-- `now()` of its claim. -/
  startedAt : Time
  pending : List OutboxRow
  phase : Phase
  targets : List Device
  answers : Uuid → Uuid → Option Answer

namespace Drain
variable (d : Drain)

def userDevices (row : OutboxRow) : List Device :=
  d.targets.filter fun t => t.userId = row.userId && row.deviceId.all (t.id = ·)

def result (row : OutboxRow) (t : Device) : Option Answer :=
  if (t.token row).isSome then d.answers row.id t.id else some .rejected

def outcome (row : OutboxRow) : Option Outcome :=
  let results := (d.userDevices row).map (d.result row)
  if some .threw ∈ results then some .left
  else if none ∈ results then none
  else if some .accepted ∈ results then some .ok
  else if 5 ≤ row.attempts || (d.userDevices row).isEmpty then some .failed
  else some .left

def having (o : Outcome) : List Uuid := (d.pending.filter fun row => d.outcome row = some o).map OutboxRow.id

def dead (voip : Bool) : List String :=
  d.pending.flatMap fun row => ((d.userDevices row).filter fun t =>
    t.byVoip row = voip && d.result row t = some .unregistered).filterMap fun t => t.token row

def live : Bool := d.phase = .claimed || d.phase = .sending

end Drain

structure Send where
  drain : ℕ
  row : Uuid
  device : Uuid
  token : String
  deriving DecidableEq

structure State where
  clock : Time
  outbox : KeyedTable OutboxRow.id
  devices : KeyedTable Device.id
  /-- Every call of `deliverPending` so far, by number. -/
  drains : ℕ → Option Drain
  sent : List Send

namespace State
variable (s : State)

def query (locked : Finset Uuid) (limit : ℕ) : Pages.Query OutboxRow Time where
  admitted := s.outbox.rows.filter fun row => row.claimable s.clock && row.id ∉ locked
  order := OutboxRow.createdAt
  limit := limit

def pending (locked : Finset Uuid) (limit : ℕ) : List OutboxRow :=
  (s.query locked limit).run.map (OutboxRow.claim s.clock)

def claimRows (ids : List Uuid) : KeyedTable OutboxRow.id :=
  s.outbox.update (fun row => row.id ∈ ids) (OutboxRow.claim s.clock) fun _ => rfl

def setDrain (n : ℕ) (d : Drain) : State := { s with drains := Function.update s.drains n (some d) }

def targets (pending : List OutboxRow) : List Device := s.devices.rows.filter fun t =>
  t.userId ∈ pending.map OutboxRow.userId && t.revokedAt.isNone &&
    ((present t.pushToken).isSome || (present t.voipToken).isSome)

def sends (n : ℕ) (d : Drain) : List Send := d.pending.flatMap fun row =>
  (d.userDevices row).filterMap fun t => (t.token row).map fun token => ⟨n, row.id, t.id, token⟩

def settle (ids : List Uuid) (date : Time) (lastError : Option String) : KeyedTable OutboxRow.id :=
  s.outbox.update (fun row => row.id ∈ ids) (OutboxRow.settle date lastError) fun _ => rfl

def clearTokens (push voip : List String) : KeyedTable Device.id :=
  (s.devices.update (fun t => t.pushToken.any (· ∈ push)) (fun t => { t with pushToken := none }) fun _ => rfl).update
    (fun t => t.voipToken.any (· ∈ voip)) (fun t => { t with voipToken := none }) fun _ => rfl

def Accepted (e : Send) : Prop :=
  ∃ d, s.drains e.drain = some d ∧ d.answers e.row e.device = some .accepted

/-- No device is sent a row again after a send that is accepted. -/
def AtMostOnce : Prop := s.sent.Pairwise fun later earlier =>
  later.row = earlier.row → later.device = earlier.device → ¬ s.Accepted earlier

end State

inductive Event
  | enqueue (row : OutboxRow)
  | prune (p : OutboxRow → Bool)
  | devices (table : KeyedTable Device.id)
  | claim (n : ℕ)
  | send (n : ℕ)
  | answer (n : ℕ) (row device : Uuid) (a : Answer)
  | settleOk (n : ℕ)
  | settleFailed (n : ℕ)
  | clear (n : ℕ)
  | tick (now : Time)

inductive Step : State → Event → State → Prop
  | enqueue {s : State} {row : OutboxRow} (hclaimed : row.claimedAt = none) (hsent : row.sentAt = none)
      (hnew : s.outbox.find row.id = none)
      (hid : ∀ n d, s.drains n = some d → ∀ r ∈ d.pending, r.id ≠ row.id) :
      Step s (.enqueue row) { s with outbox := s.outbox.insertIgnore row }
  | prune {s : State} {p : OutboxRow → Bool} : Step s (.prune p) { s with outbox := s.outbox.delete p }
  | devices {s : State} {table : KeyedTable Device.id} : Step s (.devices table) { s with devices := table }
  | claim {s : State} {n limit : ℕ} {locked : Finset Uuid} (hn : s.drains n = none) :
      Step s (.claim n) { s.setDrain n ⟨s.clock, s.pending locked limit, .claimed, [], fun _ _ => none⟩ with
        outbox := s.claimRows ((s.pending locked limit).map OutboxRow.id) }
  | send {s : State} {n : ℕ} {d d' : Drain} (hd : s.drains n = some d) (hphase : d.phase = .claimed)
      (hd' : d' = { d with phase := .sending, targets := s.targets d.pending }) :
      Step s (.send n) { s.setDrain n d' with sent := State.sends n d' ++ s.sent }
  | answer {s : State} {n : ℕ} {d : Drain} {row : OutboxRow} {t : Device} {a : Answer}
      (hd : s.drains n = some d) (hphase : d.phase ≠ .claimed) (hrow : row ∈ d.pending) (ht : t ∈ d.userDevices row)
      (htoken : (t.token row).isSome) (hnone : d.answers row.id t.id = none) :
      Step s (.answer n row.id t.id a) (s.setDrain n { d with
        answers := Function.update d.answers row.id (Function.update (d.answers row.id) t.id (some a)) })
  -- once every row's promise has resolved
  | settleOk {s : State} {n : ℕ} {d : Drain} {date : Time} (hd : s.drains n = some d) (hphase : d.phase = .sending)
      (hall : ∀ row ∈ d.pending, d.outcome row ≠ none) :
      Step s (.settleOk n) { s.setDrain n { d with phase := .settling } with
        outbox := s.settle (d.having .ok) date none }
  | settleFailed {s : State} {n : ℕ} {d : Drain} {date : Time} (hd : s.drains n = some d)
      (hphase : d.phase = .settling) :
      Step s (.settleFailed n) { s.setDrain n { d with phase := .settled } with
        outbox := s.settle (d.having .failed) date (some "no_device_delivered") }
  | clear {s : State} {n : ℕ} {d : Drain} (hd : s.drains n = some d) (hphase : d.phase = .settled) :
      Step s (.clear n) { s with devices := s.clearTokens (d.dead false) (d.dead true) }
  -- every drain settles its rows within the time that its claim lasts
  | tick {s : State} {now : Time} (hle : s.clock ≤ now)
      (hwithin : ∀ n d, s.drains n = some d → d.phase ≠ .settled → now ≤ d.startedAt + claimLasts) :
      Step s (.tick now) { s with clock := now }

/-- Of the sends of a row in one drain, none is accepted where another throws. -/
def Unmixed (s : State) : Event → Prop
  | .answer n row _ a => ∀ d, s.drains n = some d → ∀ device,
      ¬ (a = .accepted ∧ d.answers row device = some .threw) ∧
      ¬ (a = .threw ∧ d.answers row device = some .accepted)
  | _ => True

def start : State := ⟨0, .empty, .empty, fun _ => none, []⟩

/-! ### One drain -/

namespace Drain

def Holds (d : Drain) (row : Uuid) : Prop := row ∈ d.pending.map OutboxRow.id

def Sends (d : Drain) (row : OutboxRow) (t : Device) : Prop := t ∈ d.userDevices row ∧ (t.token row).isSome

variable {d d' : Drain} {row : OutboxRow} {t : Device}

lemma outcome_ne_none : d.outcome row ≠ none ↔
    (∃ t, d.Sends row t ∧ d.answers row.id t.id = some .threw) ∨
      ∀ t, d.Sends row t → d.answers row.id t.id ≠ none := by
  have hthrew : some .threw ∈ (d.userDevices row).map (d.result row) ↔
      ∃ t, d.Sends row t ∧ d.answers row.id t.id = some .threw := by
    simp only [List.mem_map, result, Sends]
    constructor
    · rintro ⟨t, ht, hres⟩
      split_ifs at hres with htoken
      · exact ⟨t, ⟨ht, htoken⟩, hres⟩
      · cases hres
    · rintro ⟨t, ⟨ht, htoken⟩, ha⟩
      exact ⟨t, ht, by rw [if_pos htoken, ha]⟩
  have hnone : none ∉ (d.userDevices row).map (d.result row) ↔
      ∀ t, d.Sends row t → d.answers row.id t.id ≠ none := by
    simp only [List.mem_map, result, Sends, not_exists, not_and]
    constructor
    · rintro h t ⟨ht, htoken⟩ ha
      exact h t ht (by rw [if_pos htoken, ha])
    · intro h t ht hres
      split_ifs at hres with htoken
      exact h t ⟨ht, htoken⟩ hres
  rw [← hthrew, ← hnone]
  unfold outcome
  generalize (d.userDevices row).map (d.result row) = results
  by_cases h₁ : some .threw ∈ results
  · simp [h₁]
  · by_cases h₂ : none ∈ results
    · simp [h₁, h₂]
    · simp only [h₁, h₂, if_false, not_false_eq_true, or_true, iff_true]
      split_ifs <;> simp

lemma outcome_ok (hres : d.outcome row ≠ none) (ht : d.Sends row t)
    (ha : d.answers row.id t.id = some .accepted) (hthrew : ∀ device, d.answers row.id device ≠ some .threw) :
    d.outcome row = some .ok := by
  have haccepted : some .accepted ∈ (d.userDevices row).map (d.result row) :=
    List.mem_map.mpr ⟨t, ht.1, by rw [result, if_pos ht.2, ha]⟩
  have hno : some .threw ∉ (d.userDevices row).map (d.result row) := by
    intro hmem
    obtain ⟨t', -, hres'⟩ := List.mem_map.mp hmem
    unfold result at hres'
    split_ifs at hres'
    · exact hthrew t'.id hres'
    · cases hres'
  unfold outcome at hres ⊢
  rw [if_neg hno] at hres ⊢
  split_ifs at hres ⊢ with hnone
  · exact absurd rfl hres
  · rfl

structure Sound (d : Drain) : Prop where
  rows : (d.pending.map OutboxRow.id).Nodup
  devices : (d.targets.map Device.id).Nodup
  unanswered : d.phase = .claimed → ∀ row device, d.answers row device = none
  placed : ∀ row device, d.answers row device ≠ none →
    ∃ r ∈ d.pending, r.id = row ∧ ∃ t, d.Sends r t ∧ t.id = device
  unmixed : ∀ row device device', ¬ (d.answers row device = some .accepted ∧ d.answers row device' = some .threw)
  resolved : d.live = false → ∀ row ∈ d.pending, d.outcome row ≠ none

lemma Sound.holds (h : d.Sound) {row device : Uuid} {a : Answer} (ha : d.answers row device = some a) :
    d.Holds row := by
  obtain ⟨r, hr, rfl, -⟩ := h.placed row device (by simp [ha])
  exact List.mem_map_of_mem hr

lemma Sound.late (h : d.Sound) (hlive : d.live = false) (hrow : row ∈ d.pending) (ht : d.Sends row t)
    (hnone : d.answers row.id t.id = none) : ∃ device, d.answers row.id device = some .threw := by
  rcases outcome_ne_none.mp (h.resolved hlive row hrow) with ⟨t', -, hthrew⟩ | hall
  · exact ⟨t'.id, hthrew⟩
  · exact absurd hnone (hall t ht)

lemma Sound.having_ok (h : d.Sound) (hall : ∀ row ∈ d.pending, d.outcome row ≠ none) {row device : Uuid}
    (ha : d.answers row device = some .accepted) : row ∈ d.having .ok := by
  obtain ⟨r, hr, rfl, t, ht, rfl⟩ := h.placed row device (by simp [ha])
  have hok : d.outcome r = some .ok :=
    outcome_ok (hall r hr) ht ha fun device' hthrew => h.unmixed r.id t.id device' ⟨ha, hthrew⟩
  exact List.mem_map_of_mem (List.mem_filter.mpr ⟨hr, by simp [hok]⟩)

lemma Sound.answer (h : d.Sound) {a : Answer} (hphase : d.phase ≠ .claimed) (hrow : row ∈ d.pending)
    (ht : d.Sends row t) (hnone : d.answers row.id t.id = none)
    (hunmixed : ∀ device, ¬ (a = .accepted ∧ d.answers row.id device = some .threw) ∧
      ¬ (a = .threw ∧ d.answers row.id device = some .accepted))
    (hd' : d' = { d with
      answers := Function.update d.answers row.id (Function.update (d.answers row.id) t.id (some a)) }) :
    d'.Sound := by
  have hanswers : ∀ r device, d'.answers r device =
      if r = row.id ∧ device = t.id then some a else d.answers r device := by
    intro r device
    subst hd'
    by_cases hr : r = row.id
    · subst hr
      by_cases hdevice : device = t.id <;> simp [hdevice]
    · simp [hr]
  have hsends : ∀ r t', d'.Sends r t' ↔ d.Sends r t' := by
    intro r t'
    subst hd'
    rfl
  have hpending : d'.pending = d.pending := by rw [hd']
  have hphase' : d'.phase = d.phase := by rw [hd']
  refine ⟨?_, ?_, ?_, ?_, ?_, ?_⟩
  · rw [hpending]
    exact h.rows
  · rw [hd']
    exact h.devices
  · intro hclaimed
    exact absurd (hphase'.symm.trans hclaimed) hphase
  · intro r device hne
    rw [hanswers] at hne
    simp only [hsends, hpending]
    split_ifs at hne with hsame
    · exact ⟨row, hrow, hsame.1.symm, t, ht, hsame.2.symm⟩
    · exact h.placed r device hne
  · rintro r device device' ⟨haccepted, hthrew⟩
    rw [hanswers] at haccepted hthrew
    split_ifs at haccepted hthrew with h₁ h₂ h₃
    · rw [haccepted] at hthrew
      cases hthrew
    · obtain rfl := Option.some.inj haccepted
      exact (hunmixed device').1 ⟨rfl, h₁.1 ▸ hthrew⟩
    · obtain rfl := Option.some.inj hthrew
      exact (hunmixed device).2 ⟨rfl, h₃.1 ▸ haccepted⟩
    · exact h.unmixed r device device' ⟨haccepted, hthrew⟩
  · intro hlive r hr
    have hlive' : d.live = false := by
      rw [← hlive]
      unfold live
      rw [hphase']
    rw [hpending] at hr
    rcases outcome_ne_none.mp (h.resolved hlive' r hr) with ⟨t', ht', hthrew⟩ | hall
    · refine outcome_ne_none.mpr (Or.inl ⟨t', (hsends r t').mpr ht', ?_⟩)
      rw [hanswers]
      split_ifs with hsame
      · rw [hsame.1, hsame.2, hnone] at hthrew
        cases hthrew
      · exact hthrew
    · refine outcome_ne_none.mpr (Or.inr fun t' ht' => ?_)
      rw [hanswers]
      split_ifs
      · simp
      · exact hall t' ((hsends r t').mp ht')

end Drain

/-! ### Any number of drains -/

section Several
variable {s s' : State} {n : ℕ} {d d' : Drain} {event : Event}

structure Delivering (s : State) : Prop where
  sound : ∀ n d, s.drains n = some d → d.Sound
  within : ∀ n d, s.drains n = some d → d.live → s.clock ≤ d.startedAt + claimLasts
  held : ∀ n d, s.drains n = some d → d.live → ∀ id, d.Holds id → ∀ row, s.outbox.find id = some row →
    row.claimedAt = some d.startedAt
  apart : ∀ n d n' d', s.drains n = some d → s.drains n' = some d' → d.live → d'.live →
    ∀ id, d.Holds id → d'.Holds id → n' = n
  settled : ∀ n d, s.drains n = some d → d.live = false → ∀ id device, d.answers id device = some .accepted →
    ∀ row, s.outbox.find id = some row → row.sentAt ≠ none
  sole : ∀ n d n' d', s.drains n = some d → s.drains n' = some d' → d'.live →
    ∀ id device, d.answers id device = some .accepted → d'.Holds id → n' = n
  sends : ∀ e ∈ s.sent, ∃ d, s.drains e.drain = some d ∧ d.phase ≠ .claimed ∧ d.Holds e.row
  /-- An earlier send of the row to the device is another drain's, which has settled. -/
  once : s.sent.Pairwise fun later earlier => later.row = earlier.row → later.device = earlier.device →
    ∃ d, s.drains earlier.drain = some d ∧ d.live = false ∧ d.answers earlier.row earlier.device ≠ some .accepted

lemma start_delivering : Delivering start := ⟨nofun, nofun, nofun, nofun, nofun, nofun, nofun, .nil⟩

lemma Delivering.atMostOnce (h : Delivering s) : s.AtMostOnce := by
  refine h.once.imp fun hpair hrow hdevice => ?_
  rintro ⟨d, hd, haccepted⟩
  obtain ⟨d', hd', -, hnot⟩ := hpair hrow hdevice
  obtain rfl := Option.some.inj (hd.symm.trans hd')
  exact hnot haccepted

lemma setDrain_drains {m : ℕ} : (s.setDrain n d).drains m = if m = n then some d else s.drains m :=
  Function.update_apply ..

lemma Delivering.changed (h : Delivering s) {outbox : KeyedTable OutboxRow.id}
    (hkept : ∀ n d id, s.drains n = some d → d.Holds id → ∀ row', outbox.find id = some row' →
      ∃ row, s.outbox.find id = some row ∧ row'.claimedAt = row.claimedAt ∧ (row.sentAt ≠ none → row'.sentAt ≠ none)) :
    Delivering { s with outbox } where
  sound := h.sound
  within := h.within
  held n d hd hlive id hid row' hrow' := by
    obtain ⟨row, hrow, hclaimed, -⟩ := hkept n d id hd hid row' hrow'
    rw [hclaimed]
    exact h.held n d hd hlive id hid row hrow
  apart := h.apart
  settled n d hd hlive id device ha row' hrow' := by
    obtain ⟨row, hrow, -, hsent⟩ := hkept n d id hd ((h.sound n d hd).holds ha) row' hrow'
    exact hsent (h.settled n d hd hlive id device ha row hrow)
  sole := h.sole
  sends := h.sends
  once := h.once

lemma Delivering.goes (h : Delivering s) (hd : s.drains n = some d) (hsound : d'.Sound)
    (hpending : d'.pending = d.pending) (hstarted : d'.startedAt = d.startedAt) (hlive : d'.live → d.live)
    (hphase : d'.phase = .claimed → d.phase = .claimed)
    (haccepted : ∀ id device, d'.answers id device = some .accepted →
      d.answers id device = some .accepted ∨ d'.live)
    (hsettled : d'.live = false → ∀ id device, d'.answers id device = some .accepted →
      ∀ row, s.outbox.find id = some row → row.sentAt ≠ none) :
    Delivering (s.setDrain n d') := by
  have hholds : ∀ id, d'.Holds id ↔ d.Holds id := by
    intro id
    unfold Drain.Holds
    rw [hpending]
  -- every drain has stood as it stands, but for the answers
  have hwas : ∀ m e, (s.setDrain n d').drains m = some e → ∃ e₀, s.drains m = some e₀ ∧
      (e.live → e₀.live) ∧ e.startedAt = e₀.startedAt ∧ ∀ id, e.Holds id ↔ e₀.Holds id := by
    intro m e he
    rw [setDrain_drains] at he
    split_ifs at he with hm
    · obtain rfl := Option.some.inj he
      exact ⟨d, hm ▸ hd, hlive, hstarted, hholds⟩
    · exact ⟨e, he, id, rfl, fun _ => Iff.rfl⟩
  refine ⟨?_, ?_, ?_, ?_, ?_, ?_, ?_, ?_⟩
  · intro m e he
    rw [setDrain_drains] at he
    split_ifs at he with hm
    · obtain rfl := Option.some.inj he
      exact hsound
    · exact h.sound m e he
  · intro m e he helive
    obtain ⟨e₀, he₀, hl, hst, -⟩ := hwas m e he
    rw [hst]
    exact h.within m e₀ he₀ (hl helive)
  · intro m e he helive id hid row hrow
    obtain ⟨e₀, he₀, hl, hst, hh⟩ := hwas m e he
    rw [hst]
    exact h.held m e₀ he₀ (hl helive) id ((hh id).mp hid) row hrow
  · intro m e m' e' he he' helive helive' id hid hid'
    obtain ⟨e₀, he₀, hl, -, hh⟩ := hwas m e he
    obtain ⟨e₀', he₀', hl', -, hh'⟩ := hwas m' e' he'
    exact h.apart m e₀ m' e₀' he₀ he₀' (hl helive) (hl' helive') id ((hh id).mp hid) ((hh' id).mp hid')
  · intro m e he helive id device ha row hrow
    rw [setDrain_drains] at he
    split_ifs at he with hm
    · obtain rfl := Option.some.inj he
      exact hsettled helive id device ha row hrow
    · exact h.settled m e he helive id device ha row hrow
  · intro m e m' e' he he' helive' id device ha hid'
    obtain ⟨e₀', he₀', hl', -, hh'⟩ := hwas m' e' he'
    rw [setDrain_drains] at he
    split_ifs at he with hm
    · obtain rfl := Option.some.inj he
      subst hm
      rcases haccepted id device ha with hold | hl
      · exact h.sole m d m' e₀' hd he₀' (hl' helive') id device hold ((hh' id).mp hid')
      · exact h.apart m d m' e₀' hd he₀' (hlive hl) (hl' helive') id
          ((hholds id).mp (hsound.holds ha)) ((hh' id).mp hid')
    · exact h.sole m e m' e₀' he he₀' (hl' helive') id device ha ((hh' id).mp hid')
  · intro e he
    obtain ⟨e₀, he₀, hnot, hid⟩ := h.sends e he
    rw [setDrain_drains]
    split_ifs with hm
    · rw [hm] at he₀
      obtain rfl := Option.some.inj (hd.symm.trans he₀)
      exact ⟨d', rfl, fun hc => hnot (hphase hc), (hholds e.row).mpr hid⟩
    · exact ⟨e₀, he₀, hnot, hid⟩
  · refine h.once.imp fun {later earlier} hpair hrow hdevice => ?_
    obtain ⟨e₀, he₀, hdead, hnot⟩ := hpair hrow hdevice
    rw [setDrain_drains]
    split_ifs with hm
    · rw [hm] at he₀
      obtain rfl := Option.some.inj (hd.symm.trans he₀)
      have hdead' : d'.live = false := by
        cases hl : d'.live with
        | false => rfl
        | true => rw [hlive hl] at hdead; cases hdead
      refine ⟨d', rfl, hdead', fun ha => ?_⟩
      rcases haccepted _ _ ha with hold | hl
      · exact hnot hold
      · rw [hdead'] at hl
        cases hl
    · exact ⟨e₀, he₀, hdead, hnot⟩

lemma mem_pending {locked : Finset Uuid} {limit : ℕ} {row : OutboxRow} (h : row ∈ s.pending locked limit) :
    ∃ r, s.outbox.find row.id = some r ∧ r.claimable s.clock ∧ row = r.claim s.clock := by
  obtain ⟨r, hr, rfl⟩ := List.mem_map.mp h
  obtain ⟨hmem, hp⟩ := List.mem_filter.mp (Pages.Query.mem_of_mem_run hr)
  simp only [Bool.and_eq_true] at hp
  exact ⟨r, KeyedTable.find_eq_some.mpr ⟨hmem, rfl⟩, hp.1, rfl⟩

lemma nodup_pending (s : State) (locked : Finset Uuid) (limit : ℕ) :
    ((s.pending locked limit).map OutboxRow.id).Nodup := by
  have hids : (s.pending locked limit).map OutboxRow.id = (s.query locked limit).run.map OutboxRow.id := by
    unfold State.pending
    rw [List.map_map]
    rfl
  rw [hids]
  have hadmitted : ((s.query locked limit).admitted.map OutboxRow.id).Nodup :=
    s.outbox.nodup.sublist (List.filter_sublist.map _)
  have hsorted := ((List.mergeSort_perm (s.query locked limit).admitted
    fun a b => (s.query locked limit).order a ≤ (s.query locked limit).order b).map OutboxRow.id).nodup_iff.mpr hadmitted
  exact hsorted.sublist ((List.take_sublist _ _).map _)

lemma Delivering.free (h : Delivering s) {row : OutboxRow} (hrow : s.outbox.find row.id = some row)
    (hclaimable : row.claimable s.clock) (hd : s.drains n = some d) :
    (d.live → ¬ d.Holds row.id) ∧ ∀ device, d.answers row.id device ≠ some .accepted := by
  simp only [OutboxRow.claimable, Bool.and_eq_true, Option.isNone_iff_eq_none] at hclaimable
  obtain ⟨⟨hsent, -⟩, hlapsed⟩ := hclaimable
  have hnot : d.live → ¬ d.Holds row.id := by
    intro hlive hid
    have hclaimed := h.held n d hd hlive row.id hid row hrow
    have hwithin := h.within n d hd hlive
    rw [hclaimed] at hlapsed
    simp only [Option.all_some, decide_eq_true_eq] at hlapsed
    exact absurd hlapsed (Nat.not_lt.mpr hwithin)
  refine ⟨hnot, fun device ha => ?_⟩
  cases hlive : d.live with
  | true => exact hnot hlive ((h.sound n d hd).holds ha)
  | false => exact h.settled n d hd hlive row.id device ha row hrow hsent

lemma Delivering.claimed (h : Delivering s) (hn : s.drains n = none) (locked : Finset Uuid) (limit : ℕ) :
    Delivering { s.setDrain n ⟨s.clock, s.pending locked limit, .claimed, [], fun _ _ => none⟩ with
      outbox := s.claimRows ((s.pending locked limit).map OutboxRow.id) } := by
  set pending := s.pending locked limit with hpending
  set fresh : Drain := ⟨s.clock, pending, .claimed, [], fun _ _ => none⟩ with hfresh
  have hfree : ∀ id, fresh.Holds id → ∀ m e, s.drains m = some e →
      (e.live → ¬ e.Holds id) ∧ ∀ device, e.answers id device ≠ some .accepted := by
    intro id hid m e he
    obtain ⟨row, hrow, rfl⟩ := List.mem_map.mp hid
    obtain ⟨r, hr, hclaimable, -⟩ := mem_pending hrow
    have hkey : r.id = row.id := KeyedTable.find_key hr
    rw [← hkey] at hr ⊢
    exact h.free hr hclaimable he
  have hfind : ∀ id, (s.claimRows (pending.map OutboxRow.id)).find id = (s.outbox.find id).map fun r =>
      if decide (r.id ∈ pending.map OutboxRow.id) = true then r.claim s.clock else r :=
    fun id => KeyedTable.find_update ..
  have hother : ∀ m e, s.drains m = some e → m ≠ n := by
    rintro m e he rfl
    rw [hn] at he
    cases he
  have hdrains : ∀ m e, (s.setDrain n fresh).drains m = some e → (m = n ∧ e = fresh) ∨ s.drains m = some e := by
    intro m e he
    rw [setDrain_drains] at he
    split_ifs at he with hm
    · exact Or.inl ⟨hm, (Option.some.inj he).symm⟩
    · exact Or.inr he
  have hold : ∀ m e, s.drains m = some e → (s.setDrain n fresh).drains m = some e := by
    intro m e he
    rw [setDrain_drains, if_neg (hother m e he)]
    exact he
  refine ⟨?_, ?_, ?_, ?_, ?_, ?_, ?_, ?_⟩
  · intro m e he
    rcases hdrains m e he with ⟨-, rfl⟩ | he
    · exact ⟨nodup_pending s locked limit, .nil, fun _ _ _ => rfl, fun _ _ hne => absurd rfl hne,
        fun _ _ _ hboth => absurd hboth.1 nofun, nofun⟩
    · exact h.sound m e he
  · intro m e he helive
    rcases hdrains m e he with ⟨-, rfl⟩ | he
    · exact Nat.le_add_right _ _
    · exact h.within m e he helive
  · intro m e he helive id hid row hrow
    have hrow' := (hfind id).symm.trans hrow
    obtain ⟨r, hr, rfl⟩ := Option.map_eq_some_iff.mp hrow'
    have hkey : r.id = id := KeyedTable.find_key hr
    rcases hdrains m e he with ⟨-, rfl⟩ | he
    · have hmem : r.id ∈ pending.map OutboxRow.id := by
        rw [hkey]
        exact hid
      rw [if_pos (decide_eq_true hmem)]
      rfl
    · split_ifs with hmem
      · have hmem' : r.id ∈ pending.map OutboxRow.id := of_decide_eq_true hmem
        rw [hkey] at hmem'
        have hnot := (hfree id hmem' m e he).1 helive
        exact absurd hid hnot
      · exact h.held m e he helive id hid r hr
  · intro m e m' e' he he' helive helive' id hid hid'
    rcases hdrains m e he with ⟨hm, rfl⟩ | he₀ <;> rcases hdrains m' e' he' with ⟨hm', rfl⟩ | he₀'
    · rw [hm, hm']
    · exact absurd hid' ((hfree id hid m' e' he₀').1 helive')
    · exact absurd hid ((hfree id hid' m e he₀).1 helive)
    · exact h.apart m e m' e' he₀ he₀' helive helive' id hid hid'
  · intro m e he helive id device ha row hrow
    have hrow' := (hfind id).symm.trans hrow
    obtain ⟨r, hr, rfl⟩ := Option.map_eq_some_iff.mp hrow'
    rcases hdrains m e he with ⟨-, rfl⟩ | he₀
    · cases ha
    · have hsent := h.settled m e he₀ helive id device ha r hr
      split_ifs
      · exact hsent
      · exact hsent
  · intro m e m' e' he he' helive' id device ha hid'
    rcases hdrains m e he with ⟨-, rfl⟩ | he₀
    · cases ha
    · rcases hdrains m' e' he' with ⟨-, rfl⟩ | he₀'
      · exact absurd ha ((hfree id hid' m e he₀).2 device)
      · exact h.sole m e m' e' he₀ he₀' helive' id device ha hid'
  · intro e he
    obtain ⟨e₀, he₀, hnot, hid⟩ := h.sends e he
    exact ⟨e₀, hold _ _ he₀, hnot, hid⟩
  · refine h.once.imp fun {later earlier} hpair hrow hdevice => ?_
    obtain ⟨e₀, he₀, hdead, hnot⟩ := hpair hrow hdevice
    exact ⟨e₀, hold _ _ he₀, hdead, hnot⟩

lemma sends_pairwise (hrows : (d.pending.map OutboxRow.id).Nodup) (hdevices : (d.targets.map Device.id).Nodup) :
    (State.sends n d).Pairwise fun later earlier => later.row = earlier.row → later.device ≠ earlier.device := by
  unfold State.sends
  rw [List.pairwise_flatMap]
  constructor
  · intro row _
    rw [List.pairwise_filterMap]
    have huser : (d.userDevices row).Pairwise fun t t' => t.id ≠ t'.id :=
      (List.pairwise_map.mp hdevices).sublist List.filter_sublist
    refine huser.imp fun {t t'} hne e he e' he' _ => ?_
    obtain ⟨_, -, rfl⟩ := Option.map_eq_some_iff.mp he
    obtain ⟨_, -, rfl⟩ := Option.map_eq_some_iff.mp he'
    exact hne
  · refine (List.pairwise_map.mp hrows).imp fun {row row'} hne e he e' he' hsame => absurd hsame ?_
    obtain ⟨t, -, ht⟩ := List.mem_filterMap.mp he
    obtain ⟨t', -, ht'⟩ := List.mem_filterMap.mp he'
    obtain ⟨_, -, rfl⟩ := Option.map_eq_some_iff.mp ht
    obtain ⟨_, -, rfl⟩ := Option.map_eq_some_iff.mp ht'
    exact hne

lemma mem_sends {e : Send} (h : e ∈ State.sends n d) : e.drain = n ∧ d.Holds e.row := by
  obtain ⟨row, hrow, he⟩ := List.mem_flatMap.mp h
  obtain ⟨t, -, ht⟩ := List.mem_filterMap.mp he
  obtain ⟨_, -, rfl⟩ := Option.map_eq_some_iff.mp ht
  exact ⟨rfl, List.mem_map_of_mem hrow⟩

lemma Delivering.sending (h : Delivering s) (hd : s.drains n = some d) (hphase : d.phase = .claimed)
    (hd' : d' = { d with phase := .sending, targets := s.targets d.pending }) :
    Delivering { s.setDrain n d' with sent := State.sends n d' ++ s.sent } := by
  have hnothing := (h.sound n d hd).unanswered hphase
  have hlived : d.live = true := by simp [Drain.live, hphase]
  have hlive : d'.live = true := by simp [Drain.live, hd']
  have hsound : d'.Sound := by
    subst hd'
    have htargets : ((s.targets d.pending).map Device.id).Nodup :=
      s.devices.nodup.sublist (List.filter_sublist.map _)
    exact ⟨(h.sound n d hd).rows, htargets, nofun, fun row device hne => absurd (hnothing row device) hne,
      (h.sound n d hd).unmixed, nofun⟩
  have hgone : Delivering (s.setDrain n d') := by
    refine h.goes hd hsound (by rw [hd']) (by rw [hd']) (fun _ => hlived) (fun hc => ?_) (fun _ _ _ => Or.inr hlive)
      fun hdead => ?_
    · rw [hd'] at hc
      cases hc
    · rw [hlive] at hdead
      cases hdead
  have hdrain : (s.setDrain n d').drains n = some d' := by rw [setDrain_drains, if_pos rfl]
  refine { hgone with sends := fun e he => ?_, once := ?_ }
  · rcases List.mem_append.mp he with he | he
    · obtain ⟨hn, hid⟩ := mem_sends he
      refine ⟨d', by rw [hn]; exact hdrain, ?_, hid⟩
      rw [hd']
      nofun
    · exact hgone.sends e he
  · refine List.pairwise_append.mpr ⟨?_, hgone.once, ?_⟩
    · exact (sends_pairwise hsound.rows hsound.devices).imp fun hne hrow hdevice => absurd hdevice (hne hrow)
    · -- whoever sent it before has settled, or it would have the row still
      intro later hlater earlier hearlier hrow hdevice
      obtain ⟨-, hid⟩ := mem_sends hlater
      obtain ⟨e, he, hnot, hid'⟩ := h.sends earlier hearlier
      rw [hrow] at hid
      have hother : earlier.drain ≠ n := by
        intro hn
        rw [hn] at he
        obtain rfl := Option.some.inj (hd.symm.trans he)
        exact hnot hphase
      have he' : (s.setDrain n d').drains earlier.drain = some e := by
        rw [setDrain_drains, if_neg hother]
        exact he
      refine ⟨e, he', ?_, fun ha => ?_⟩
      · cases helive : e.live with
        | false => rfl
        | true => exact absurd (hgone.apart _ _ _ _ hdrain he' hlive helive _ hid hid') hother
      · exact hother (hgone.sole _ _ _ _ he' hdrain hlive _ _ ha hid).symm

lemma Delivering.answered (h : Delivering s) {row : OutboxRow} {t : Device} {a : Answer} (hd : s.drains n = some d)
    (hrow : row ∈ d.pending) (ht : d.Sends row t) (hnone : d.answers row.id t.id = none)
    (hok : Unmixed s (.answer n row.id t.id a))
    (hd' : d' = { d with
      answers := Function.update d.answers row.id (Function.update (d.answers row.id) t.id (some a)) })
    (hphase : d.phase ≠ .claimed) : Delivering (s.setDrain n d') := by
  have hsound := h.sound n d hd
  have hanswers : ∀ r device, d'.answers r device =
      if r = row.id ∧ device = t.id then some a else d.answers r device := by
    intro r device
    subst hd'
    by_cases hr : r = row.id
    · subst hr
      by_cases hdevice : device = t.id <;> simp [hdevice]
    · simp [hr]
  have hlive : d'.live = d.live := by rw [hd']; rfl
  -- a drain that has settled hears of no acceptance any more
  have haccepted : ∀ id device, d'.answers id device = some .accepted →
      d.answers id device = some .accepted ∨ d'.live := by
    intro id device ha
    rw [hanswers] at ha
    split_ifs at ha with hsame
    · obtain rfl := Option.some.inj ha
      rw [hlive]
      cases hl : d.live with
      | true => exact Or.inr rfl
      | false =>
        obtain ⟨device', hthrew⟩ := hsound.late hl hrow ht hnone
        exact absurd ⟨rfl, hthrew⟩ (hok d hd device').1
    · exact Or.inl ha
  refine h.goes hd (hsound.answer hphase hrow ht hnone (hok d hd) hd') (by rw [hd']) (by rw [hd'])
    (fun hl => hlive ▸ hl) (fun hc => ?_) haccepted fun hdead id device ha r hr => ?_
  · rw [hd'] at hc
    exact hc
  · rcases haccepted id device ha with hold | hl
    · exact h.settled n d hd (hlive ▸ hdead) id device hold r hr
    · rw [hdead] at hl
      cases hl

lemma settle_find {ids : List Uuid} {date : Time} {lastError : Option String} {id : Uuid} {row' : OutboxRow}
    (h : (s.settle ids date lastError).find id = some row') :
    ∃ row, s.outbox.find id = some row ∧ row'.claimedAt = row.claimedAt ∧ (row.sentAt ≠ none → row'.sentAt ≠ none) ∧
      (id ∈ ids → row'.sentAt ≠ none) := by
  have hfind : (s.settle ids date lastError).find id = (s.outbox.find id).map fun row =>
      if decide (row.id ∈ ids) = true then row.settle date lastError else row := KeyedTable.find_update ..
  obtain ⟨row, hrow, rfl⟩ := Option.map_eq_some_iff.mp (hfind.symm.trans h)
  have hkey : row.id = id := KeyedTable.find_key hrow
  refine ⟨row, hrow, ?_⟩
  split_ifs with hmem
  · exact ⟨rfl, fun _ => Option.some_ne_none date, fun _ => Option.some_ne_none date⟩
  · exact ⟨rfl, fun hsent => hsent, fun hid => absurd (by rw [hkey]; exact decide_eq_true hid) hmem⟩

lemma Delivering.settledRows (h : Delivering s) (ids : List Uuid) (date : Time) (lastError : Option String) :
    Delivering { s with outbox := s.settle ids date lastError } := by
  refine h.changed fun _ _ id _ _ row' hrow' => ?_
  obtain ⟨row, hrow, hclaimed, hsent, -⟩ := settle_find hrow'
  exact ⟨row, hrow, hclaimed, hsent⟩

lemma Delivering.settles (h : Delivering s) (hd : s.drains n = some d) (hphase : d.phase = .sending)
    (hall : ∀ row ∈ d.pending, d.outcome row ≠ none) (date : Time) :
    Delivering { s.setDrain n { d with phase := .settling } with outbox := s.settle (d.having .ok) date none } := by
  have hsound := h.sound n d hd
  have hafter : ({ d with phase := Phase.settling } : Drain).Sound :=
    ⟨hsound.rows, hsound.devices, nofun, hsound.placed, hsound.unmixed, fun _ => hall⟩
  have hlive : d.live = true := by simp [Drain.live, hphase]
  refine (h.settledRows (d.having .ok) date none).goes hd hafter rfl rfl (fun _ => hlive) nofun
    (fun _ _ ha => Or.inl ha) fun _ id device ha row hrow => ?_
  obtain ⟨-, -, -, -, hsent⟩ := settle_find hrow
  exact hsent (hsound.having_ok hall ha)

lemma step_delivering (h : Delivering s) (hok : Unmixed s event) (hs : Step s event s') : Delivering s' := by
  cases hs with
  | @enqueue row hclaimed hsent hnew hid =>
    refine h.changed fun n d id hd hholds row' hrow' => ?_
    obtain ⟨r, hr, rfl⟩ := List.mem_map.mp hholds
    rw [KeyedTable.find_insertIgnore, if_neg (hid n d hd r hr).symm] at hrow'
    exact ⟨row', hrow', rfl, fun h => h⟩
  | prune =>
    refine h.changed fun _ _ id _ _ row' hrow' => ?_
    rw [KeyedTable.find_delete] at hrow'
    exact ⟨row', (Option.filter_eq_some_iff.mp hrow').1, rfl, fun h => h⟩
  | devices => exact { h with }
  | claim hn => exact h.claimed hn _ _
  | send hd hphase hd' => exact h.sending hd hphase hd'
  | answer hd hphase hrow ht htoken hnone => exact h.answered hd hrow ⟨ht, htoken⟩ hnone hok rfl hphase
  | settleOk hd hphase hall => exact h.settles hd hphase hall _
  | @settleFailed n d date hd hphase =>
    have hsound := h.sound n d hd
    have hdead : d.live = false := by simp [Drain.live, hphase]
    have hafter : ({ d with phase := Phase.settled } : Drain).Sound :=
      ⟨hsound.rows, hsound.devices, nofun, hsound.placed, hsound.unmixed, fun _ => hsound.resolved hdead⟩
    have hrows := h.settledRows (d.having .failed) date (some "no_device_delivered")
    exact hrows.goes hd hafter rfl rfl nofun nofun (fun _ _ ha => Or.inl ha) fun _ => hrows.settled n d hd hdead
  | clear => exact { h with }
  | tick hle hwithin =>
    refine { h with within := fun n d hd hlive => hwithin n d hd fun hphase => ?_ }
    simp [Drain.live, hphase] at hlive

/-- However many workers drain the outbox, and whatever the providers answer, no device is sent a row again after
a send that was accepted, as long as no row has in one drain a send that is accepted and one that throws. -/
theorem run_atMostOnce (h : RunWhere Step Unmixed start s) : s.AtMostOnce :=
  (h.invariant start_delivering fun _ _ _ hinv hok hs => step_delivering hinv hok hs).atMostOnce

end Several

namespace Sample

def row : OutboxRow := ⟨1, 10, none, .message, 0, none, 0, none, none, none⟩

def phone (id : Uuid) : Device := ⟨id, 10, .android, some "token", none, none⟩

def drain (r : OutboxRow) (startedAt : Time) (phase : Phase) (answers : Uuid → Uuid → Option Answer) : Drain :=
  ⟨startedAt, [r], phase, if phase = .claimed then [] else [phone 5, phone 6], answers⟩

def unanswered (_ _ : Uuid) : Option Answer := none

def answered (a : Answer) : Uuid → Uuid → Option Answer :=
  Function.update unanswered 1 (Function.update (unanswered 1) 5 (some a))

def mixed (a a' : Answer) : Uuid → Uuid → Option Answer :=
  Function.update (answered a) 1 (Function.update (answered a 1) 6 (some a'))

def both (n : ℕ) : List Send := [⟨n, 1, 5, "token"⟩, ⟨n, 1, 6, "token"⟩]

def world (clock : Time) (r : OutboxRow) (first second : Option Drain) (sent : List Send) : State where
  clock
  outbox := ⟨[r], by simp⟩
  devices := ⟨[phone 5, phone 6], by decide⟩
  drains n := if n = 0 then first else if n = 1 then second else none
  sent

variable {clock : Time} {r : OutboxRow} {first second : Option Drain} {sent : List Send} {d : Drain} {n : ℕ}

lemma setFirst : (world clock r first second sent).setDrain 0 d = world clock r (some d) second sent := by
  unfold State.setDrain world
  congr 1
  funext n
  by_cases hn : n = 0 <;> simp [hn]

lemma setSecond : (world clock r first second sent).setDrain 1 d = world clock r first (some d) sent := by
  unfold State.setDrain world
  congr 1
  funext n
  by_cases hn : n = 1 <;> simp [hn]

lemma pending_world (hclaimable : r.claimable clock = true) :
    (world clock r first second sent).pending ∅ 200 = [r.claim clock] := by
  have hadmitted : ((world clock r first second sent).query ∅ 200).admitted = [r] := by
    simp [State.query, world, hclaimable]
  unfold State.pending Pages.Query.run
  rw [hadmitted, List.mergeSort_singleton]
  rfl

lemma claims (hclaimable : r.claimable clock = true) (hn : (world clock r first second sent).drains n = none) :
    Step (world clock r first second sent) (.claim n)
      ((world clock (r.claim clock) first second sent).setDrain n (drain (r.claim clock) clock .claimed unanswered)) := by
  have hstep := @Step.claim _ n 200 ∅ hn
  have houtbox : (world clock r first second sent).claimRows [r.id] = ⟨[r.claim clock], by simp⟩ := by
    unfold State.claimRows KeyedTable.update
    congr 1
    simp [world]
  rw [pending_world hclaimable] at hstep
  change Step _ _ { State.setDrain _ _ _ with outbox := State.claimRows _ [r.id] } at hstep
  rw [houtbox] at hstep
  exact hstep

lemma sends (hr : r.userId = 10 ∧ r.deviceId = none ∧ r.kind = .message)
    (hn : (world clock r first second sent).drains n = some (drain r clock .claimed unanswered)) :
    Step (world clock r first second sent) (.send n)
      { (world clock r first second sent).setDrain n (drain r clock .sending unanswered) with
        sent := [⟨n, r.id, 5, "token"⟩, ⟨n, r.id, 6, "token"⟩] ++ sent } := by
  have htargets : (world clock r first second sent).targets [r] = [phone 5, phone 6] := by
    simp [State.targets, world, phone, present, hr]
  have hsends : State.sends n (drain r clock .sending unanswered) =
      [⟨n, r.id, 5, "token"⟩, ⟨n, r.id, 6, "token"⟩] := by
    simp [State.sends, drain, Drain.userDevices, phone, Device.token, present, hr]
  have hstep := @Step.send _ n _ (drain r clock .sending unanswered) hn rfl (by
    rw [show (drain r clock .claimed unanswered).pending = [r] from rfl, htargets]
    rfl)
  rw [hsends] at hstep
  exact hstep

lemma sending : RunWhere Step Unmixed start (world 0 (row.claim 0) (some (drain (row.claim 0) 0 .sending unanswered))
    none (both 0)) := by
  have henqueue := @Step.enqueue start row rfl rfl rfl nofun
  have hdevices := @Step.devices { start with outbox := start.outbox.insertIgnore row }
    ⟨[phone 5, phone 6], by decide⟩
  have hworld : ({ start with
      outbox := start.outbox.insertIgnore row, devices := ⟨[phone 5, phone 6], by decide⟩ } : State) =
        world 0 row none none [] := by
    have hdrains : (fun _ => none : ℕ → Option Drain) = fun n => if n = 0 then none else if n = 1 then none else none := by
      simp
    unfold world
    rw [← hdrains]
    rfl
  have hclaim : Step (world 0 row none none []) (.claim 0) _ := claims rfl rfl
  rw [setFirst] at hclaim
  have hsend := @sends 0 (row.claim 0) (some (drain (row.claim 0) 0 .claimed unanswered)) none [] 0 ⟨rfl, rfl, rfl⟩ rfl
  rw [setFirst] at hsend
  have hrun : RunWhere Step Unmixed start _ := ((RunWhere.refl start).on henqueue trivial).on hdevices trivial
  rw [hworld] at hrun
  exact (hrun.on hclaim trivial).on hsend trivial

lemma answers (a a' : Answer) :
    Step (world 0 (row.claim 0) (some (drain (row.claim 0) 0 .sending unanswered)) second sent) (.answer 0 1 5 a)
      (world 0 (row.claim 0) (some (drain (row.claim 0) 0 .sending (answered a))) second sent) ∧
    Step (world 0 (row.claim 0) (some (drain (row.claim 0) 0 .sending (answered a))) second sent) (.answer 0 1 6 a')
      (world 0 (row.claim 0) (some (drain (row.claim 0) 0 .sending (mixed a a'))) second sent) := by
  have hfirst := @Step.answer (world 0 (row.claim 0) (some (drain (row.claim 0) 0 .sending unanswered)) second sent)
    0 _ (row.claim 0) (phone 5) a rfl nofun (List.mem_singleton_self _) (by decide) (by decide) rfl
  have hphone : phone 6 ∈ (drain (row.claim 0) 0 .sending (answered a)).userDevices (row.claim 0) :=
    show phone 6 ∈ (drain (row.claim 0) 0 .sending unanswered).userDevices (row.claim 0) by decide
  have hsecond := @Step.answer (world 0 (row.claim 0) (some (drain (row.claim 0) 0 .sending (answered a))) second sent)
    0 _ (row.claim 0) (phone 6) a' rfl nofun (List.mem_singleton_self _) hphone (by decide) rfl
  rw [setFirst] at hfirst hsecond
  exact ⟨hfirst, hsecond⟩

end Sample

open Sample in
/-- Both phones accept. -/
theorem run_atMostOnce_accepted : ∃ s, RunWhere Step Unmixed start s ∧ s.sent.length = 2 ∧ s.AtMostOnce := by
  obtain ⟨hfirst, hsecond⟩ := @answers none (both 0) .accepted .accepted
  have hrun := sending.on hfirst fun d hd device => by
    obtain rfl := Option.some.inj hd
    exact ⟨nofun, nofun⟩
  have hend := hrun.on hsecond fun d hd device => by
    obtain rfl := Option.some.inj hd
    refine ⟨fun hboth => ?_, nofun⟩
    have hthrew : Function.update (unanswered 1) 5 (some Answer.accepted) device = some .threw := hboth.2
    rw [Function.update_apply] at hthrew
    split_ifs at hthrew
    · cases hthrew
    · cases hthrew
  exact ⟨_, hend, rfl, run_atMostOnce hend⟩

open Sample in
/-- The phone 5 accepts and the send to the phone 6 throws: a minute later both are sent the row again. -/
theorem accepted_resent : ∃ s, RunWhere Step (fun _ _ => True) start s ∧ ¬ s.AtMostOnce := by
  obtain ⟨hfirst, hsecond⟩ := @answers none (both 0) .accepted .threw
  have hrun := ((sending.mono fun _ _ _ => trivial).on hfirst trivial).on hsecond trivial
  have hok := @Step.settleOk (world 0 (row.claim 0) (some (drain (row.claim 0) 0 .sending (mixed .accepted .threw)))
    none (both 0)) 0 _ 0 rfl rfl (by decide)
  rw [setFirst] at hok
  have hfailed := @Step.settleFailed (world 0 (row.claim 0)
    (some (drain (row.claim 0) 0 .settling (mixed .accepted .threw))) none (both 0)) 0 _ 0 rfl rfl
  rw [setFirst] at hfailed
  have htick := @Step.tick (world 0 (row.claim 0)
    (some (drain (row.claim 0) 0 .settled (mixed .accepted .threw))) none (both 0)) 60_001 (by decide)
    fun n d hd hphase => by
      have hd' : (if n = 0 then some (drain (row.claim 0) 0 .settled (mixed .accepted .threw))
        else if n = 1 then none else none) = some d := hd
      split_ifs at hd' with hn
      obtain rfl := Option.some.inj hd'
      exact absurd rfl hphase
  have hclaim := @claims 60_001 (row.claim 0) (some (drain (row.claim 0) 0 .settled (mixed .accepted .threw))) none
    (both 0) 1 (by decide) rfl
  rw [setSecond] at hclaim
  have hsend := @sends 60_001 ((row.claim 0).claim 60_001) (some (drain (row.claim 0) 0 .settled (mixed .accepted .threw)))
    (some (drain ((row.claim 0).claim 60_001) 60_001 .claimed unanswered)) (both 0) 1 ⟨rfl, rfl, rfl⟩ rfl
  rw [setSecond] at hsend
  have hend := ((((hrun.on hok trivial).on hfailed trivial).on htick trivial).on hclaim trivial).on hsend trivial
  refine ⟨_, hend, fun hall => ?_⟩
  have hpair := (List.pairwise_append.mp hall).2.2 ⟨1, 1, 5, "token"⟩ (by decide) ⟨0, 1, 5, "token"⟩ (by decide)
  exact hpair rfl rfl ⟨_, rfl, rfl⟩

end Yappy.Push
