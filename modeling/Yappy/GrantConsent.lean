import Yappy.PermissionDatabase
import Yappy.Runs

/-!
# Signing in with the app

The grants of `apps/api/src/routes/portal.ts`: a browser asks, somebody types its code to the bot and presses a button
on the card that answers, and the browser's poll takes a token. `claimGrant`, `confirmGrant` and the poll each read a
row and write to it in a later statement, and any number of them are under way at a time.
-/
namespace Yappy.Grants

open Permissions (Time Uuid)

inductive Status
  | pending | awaitingConfirm | approved | denied
  deriving DecidableEq

structure Grant where
  id : Uuid
  userCodeHash : String
  pollTokenHash : String
  clientDescription : String
  requestIp : Option String
  status : Status
  claimedByUserId : Option Uuid
  claimedAt : Option Time
  approvedAt : Option Time
  consumedAt : Option Time
  attempts : ℕ
  expiresAt : Time

def grantTtlSeconds : ℕ := 10 * 60

def maxCodeAttempts : ℕ := 5

/-- `POST /auth/start`. -/
def Grant.new (id : Uuid) (userCodeHash pollTokenHash clientDescription : String) (requestIp : Option String)
    (now : Time) : Grant :=
  ⟨id, userCodeHash, pollTokenHash, clientDescription, requestIp, .pending, none, none, none, none, 0,
    now + grantTtlSeconds⟩

/-- Waiting for this user to confirm, by the query of `confirmGrant`. -/
def Grant.waitsFor (g : Grant) (userId : Uuid) : Bool :=
  g.claimedByUserId = some userId && g.status = .awaitingConfirm && g.consumedAt.isNone

def Grant.claim (userId : Uuid) (now : Time) (g : Grant) : Grant :=
  { g with status := .awaitingConfirm, claimedByUserId := some userId, claimedAt := some now }

def Grant.settle (approve : Bool) (now : Time) (g : Grant) : Grant :=
  if approve then { g with status := .approved, approvedAt := some now } else { g with status := .denied }

def Grant.consume (now : Time) (g : Grant) : Grant := { g with consumedAt := some now }

def Grant.badAttempt (g : Grant) : Grant := { g with attempts := g.attempts + 1 }

lemma Grant.settle_id (approve : Bool) (now : Time) (g : Grant) : (g.settle approve now).id = g.id := by
  cases approve <;> rfl

lemma Grant.settle_kept (approve : Bool) (now : Time) (g : Grant) :
    (g.settle approve now).claimedByUserId = g.claimedByUserId ∧ (g.settle approve now).consumedAt = g.consumedAt ∧
      (g.settle approve now).expiresAt = g.expiresAt := by
  cases approve <;> exact ⟨rfl, rfl, rfl⟩

/-- Why `claimGrant` refuses, if it does. -/
def claimRefusal (grant : Option Grant) (userId : Uuid) (now : Time) : Option String :=
  match grant with
  | none => some "That code is not valid, or it has expired. Codes last ten minutes."
  | some g =>
    if g.expiresAt < now ∨ g.consumedAt.isSome then
      some "That code is not valid, or it has expired. Codes last ten minutes."
    else if g.status = .approved then some "That code was already approved."
    else if maxCodeAttempts ≤ g.attempts then some "Too many attempts on that code. Start again in the browser."
    else if g.claimedByUserId.any (· ≠ userId) then some "Someone else is already signing in with that code."
    else none

/-- `confirmCard`; its buttons name no grant, which one it describes is only known here. -/
structure Card where
  userId : Uuid
  grantId : Uuid
  description : String
  ip : Option String

inductive Call
  | claiming (userId : Uuid) (grant : Grant)
  | refused (userId : Uuid)
  | confirming (card : Card) (approve : Bool) (grant : Grant)
  | polling (grant : Grant) (userId : Uuid)

inductive Entry
  | claimed (userId grantId : Uuid)
  | approved (userId grantId : Uuid)
  | denied (grantId : Uuid)
  | token (grantId userId : Uuid) (now : Time)
  deriving DecidableEq

structure State where
  clock : Time
  grants : KeyedTable Grant.id
  cards : List Card
  calls : ℕ → Option Call
  log : List Entry

namespace State
variable (s : State)

def setCall (n : ℕ) (call : Option Call) : State := { s with calls := Function.update s.calls n call }

def setGrant (id : Uuid) (f : Grant → Grant) (hf : ∀ g, (f g).id = g.id) : State :=
  { s with grants := s.grants.update (fun g => g.id = id) f hf }

def note (entry : Entry) : State := { s with log := entry :: s.log }

/-- The newest grant that waits for a user; any of those claimed at one time. -/
def Newest (userId : Uuid) (g : Grant) : Prop :=
  g ∈ s.grants.rows ∧ g.waitsFor userId = true ∧
    ∀ g' ∈ s.grants.rows, g'.waitsFor userId = true → g'.claimedAt.getD 0 ≤ g.claimedAt.getD 0

def claim (userId : Uuid) (g : Grant) : State :=
  { (s.setGrant g.id (Grant.claim userId s.clock) fun _ => rfl) with
    cards := ⟨userId, g.id, g.clientDescription, g.requestIp⟩ :: s.cards
    log := .claimed userId g.id :: s.log }

def confirm (approve : Bool) (g : Grant) : State :=
  { (s.setGrant g.id (Grant.settle approve s.clock) fun _ => Grant.settle_id _ _ _) with
    log := if approve then s.log else .denied g.id :: s.log }

def take (g : Grant) (userId : Uuid) : State :=
  { (s.setGrant g.id (Grant.consume s.clock) fun _ => rfl) with log := .token g.id userId s.clock :: s.log }

def noteBadAttempt (userId : Uuid) : State :=
  { s with
    grants := s.grants.update (fun g => g.waitsFor userId) Grant.badAttempt fun _ => rfl }

end State

inductive Event
  | start (id : Uuid)
  | look (n : ℕ)
  | claim (n : ℕ)
  | badAttempt (n : ℕ)
  | press (n : ℕ) (card : Card) (approve : Bool)
  | confirm (n : ℕ)
  | poll (n : ℕ)
  | take (n : ℕ)
  | abort (n : ℕ)
  | tick

inductive Step : State → Event → State → Prop
  | start {s : State} {id : Uuid} {userCodeHash pollTokenHash clientDescription : String} {requestIp : Option String}
      (hid : s.grants.find id = none) (hpoll : ∀ g ∈ s.grants.rows, g.pollTokenHash ≠ pollTokenHash) :
      Step s (.start id) { s with
        grants := s.grants.insertIgnore (.new id userCodeHash pollTokenHash clientDescription requestIp s.clock) }
  | look {s : State} {n : ℕ} {userId : Uuid} {codeHash : String} {g : Grant} (hn : s.calls n = none)
      (hg : g ∈ s.grants.rows) (hcode : g.userCodeHash = codeHash) (hok : claimRefusal (some g) userId s.clock = none) :
      Step s (.look n) (s.setCall n (some (.claiming userId g)))
  | refuse {s : State} {n : ℕ} {userId : Uuid} {codeHash reason : String} {grant : Option Grant} (hn : s.calls n = none)
      (hsome : ∀ g ∈ grant, g ∈ s.grants.rows ∧ g.userCodeHash = codeHash)
      (hnone : grant = none → ∀ g ∈ s.grants.rows, g.userCodeHash ≠ codeHash)
      (hreason : claimRefusal grant userId s.clock = some reason) :
      Step s (.look n) (s.setCall n (some (.refused userId)))
  | badAttempt {s : State} {n : ℕ} {userId : Uuid} (hcall : s.calls n = some (.refused userId)) :
      Step s (.badAttempt n) ((s.noteBadAttempt userId).setCall n none)
  | claim {s : State} {n : ℕ} {userId : Uuid} {g : Grant} (hcall : s.calls n = some (.claiming userId g)) :
      Step s (.claim n) ((s.claim userId g).setCall n none)
  | approve {s : State} {n : ℕ} {card : Card} {g : Grant} (hn : s.calls n = none) (hcard : card ∈ s.cards)
      (hg : s.Newest card.userId g) (hlive : ¬g.expiresAt < s.clock) :
      Step s (.press n card true) ((s.note (.approved card.userId card.grantId)).setCall n
        (some (.confirming card true g)))
  | deny {s : State} {n : ℕ} {card : Card} {g : Grant} (hn : s.calls n = none) (hcard : card ∈ s.cards)
      (hg : s.Newest card.userId g) (hlive : ¬g.expiresAt < s.clock) :
      Step s (.press n card false) (s.setCall n (some (.confirming card false g)))
  | confirm {s : State} {n : ℕ} {card : Card} {approve : Bool} {g : Grant}
      (hcall : s.calls n = some (.confirming card approve g)) :
      Step s (.confirm n) ((s.confirm approve g).setCall n none)
  | poll {s : State} {n : ℕ} {userId : Uuid} {pollTokenHash : String} {g : Grant} (hn : s.calls n = none)
      (hg : g ∈ s.grants.rows) (hhash : g.pollTokenHash = pollTokenHash) (hfree : g.consumedAt = none)
      (hlive : ¬g.expiresAt < s.clock) (hstatus : g.status = .approved) (huser : g.claimedByUserId = some userId) :
      Step s (.poll n) (s.setCall n (some (.polling g userId)))
  | take {s : State} {n : ℕ} {userId : Uuid} {g row : Grant} (hcall : s.calls n = some (.polling g userId))
      (hrow : s.grants.find g.id = some row) (hfree : row.consumedAt = none) :
      Step s (.take n) ((s.take g userId).setCall n none)
  | abort {s : State} {n : ℕ} : Step s (.abort n) (s.setCall n none)
  | tick {s : State} {now : Time} (hle : s.clock ≤ now) : Step s .tick { s with clock := now }

/-- Every call writes to a row that is as it read it, every approval is of the card of the grant that waits, and no
poll outlives its grant. -/
def Meant (s : State) : Event → Prop
  | .claim n => ∀ userId g row, s.calls n = some (.claiming userId g) → s.grants.find g.id = some row →
      row.status = .pending ∨ row.status = .awaitingConfirm ∧ row.claimedByUserId = some userId
  | .press _ card approve => approve = true → ∀ g, s.Newest card.userId g → g.id = card.grantId
  | .confirm n => ∀ card approve g row, s.calls n = some (.confirming card approve g) →
      s.grants.find g.id = some row → row.status = .awaitingConfirm ∧ row.claimedByUserId = some card.userId
  | .take n => ∀ g userId, s.calls n = some (.polling g userId) → ¬g.expiresAt < s.clock
  | .start _ | .look _ | .badAttempt _ | .poll _ | .abort _ | .tick => True

def initial (clock : Time) : State := ⟨clock, .empty, [], fun _ => none, []⟩

section Invariants
variable {s s' : State} {event : Event} {clock : Time}

lemma find_setGrant {id : Uuid} {f : Grant → Grant} {hf : ∀ g, (f g).id = g.id} (k : Uuid) :
    (s.setGrant id f hf).grants.find k = if k = id then (s.grants.find k).map f else s.grants.find k := by
  have h := KeyedTable.find_update s.grants (fun g => g.id = id) f hf k
  refine h.trans ?_
  cases hfind : s.grants.find k with
  | none => simp
  | some g =>
    obtain rfl : g.id = k := KeyedTable.find_key hfind
    split_ifs with hid
    · simp [hid]
    · simp [hid]

/-! ### One token of a grant -/

structure Once (s : State) : Prop where
  consumed : ∀ grantId userId now, .token grantId userId now ∈ s.log →
    ∃ row, s.grants.find grantId = some row ∧ row.consumedAt ≠ none
  once : ∀ grantId, (s.log.filter fun
    | .token id _ _ => id = grantId
    | _ => false).length ≤ 1

lemma Once.setCall (h : Once s) (n : ℕ) (call : Option Call) : Once (s.setCall n call) := ⟨h.consumed, h.once⟩

lemma Once.keep (h : Once s)
    (hlog : s'.log = s.log ∨ ∃ e, s'.log = e :: s.log ∧ ∀ grantId userId now, e ≠ .token grantId userId now)
    (hgrants : ∀ id row, s.grants.find id = some row → row.consumedAt ≠ none →
      ∃ row', s'.grants.find id = some row' ∧ row'.consumedAt ≠ none) : Once s' := by
  have hmem : ∀ grantId userId now, .token grantId userId now ∈ s'.log → .token grantId userId now ∈ s.log := by
    intro grantId userId now hmem
    rcases hlog with he | ⟨e, he, hne⟩
    · exact he ▸ hmem
    · rw [he] at hmem
      exact (List.mem_cons.mp hmem).resolve_left fun heq => hne _ _ _ heq.symm
  refine ⟨fun grantId userId now htoken => ?_, fun grantId => ?_⟩
  · obtain ⟨row, hrow, hconsumed⟩ := h.consumed grantId userId now (hmem _ _ _ htoken)
    exact hgrants grantId row hrow hconsumed
  · rcases hlog with he | ⟨e, he, hne⟩
    · rw [he]
      exact h.once grantId
    · rw [he, List.filter_cons_of_neg]
      · exact h.once grantId
      · cases e with
        | token id user now => exact absurd rfl (hne id user now)
        | _ => simp

lemma find_consumed {id k : Uuid} {f : Grant → Grant} {hf : ∀ g, (f g).id = g.id} {row : Grant}
    (hf' : ∀ g, g.consumedAt ≠ none → (f g).consumedAt ≠ none) (hrow : s.grants.find k = some row)
    (hconsumed : row.consumedAt ≠ none) :
    ∃ row', (s.setGrant id f hf).grants.find k = some row' ∧ row'.consumedAt ≠ none := by
  rw [find_setGrant, hrow]
  split_ifs
  · exact ⟨f row, rfl, hf' row hconsumed⟩
  · exact ⟨row, rfl, hconsumed⟩

lemma Once.take (h : Once s) {g row : Grant} {userId : Uuid} (hrow : s.grants.find g.id = some row)
    (hfree : row.consumedAt = none) : Once (s.take g userId) := by
  refine ⟨fun grantId user now hmem => ?_, fun grantId => ?_⟩
  · rcases List.mem_cons.mp hmem with heq | hmem
    · obtain ⟨rfl, -, -⟩ := Entry.token.inj heq
      have hfind := @find_setGrant s g.id (Grant.consume s.clock) (fun _ => rfl) g.id
      rw [if_pos rfl, hrow] at hfind
      exact ⟨row.consume s.clock, hfind, Option.some_ne_none _⟩
    · obtain ⟨row', hrow', hconsumed⟩ := h.consumed grantId user now hmem
      exact @find_consumed s g.id grantId (Grant.consume s.clock) (fun _ => rfl) row'
        (fun _ _ => Option.some_ne_none _) hrow' hconsumed
  · change ((Entry.token g.id userId s.clock :: s.log).filter _).length ≤ 1
    by_cases hid : g.id = grantId
    · subst hid
      -- an unconsumed grant has no token yet
      have hnone : (s.log.filter fun
          | .token id _ _ => decide (id = g.id)
          | _ => false) = [] := by
        rw [List.filter_eq_nil_iff]
        intro e he
        cases e with
        | token id user now =>
          intro hid
          obtain rfl : id = g.id := by simpa using hid
          obtain ⟨row', hrow', hconsumed⟩ := h.consumed _ _ _ he
          obtain rfl := Option.some.inj (hrow.symm.trans hrow')
          exact hconsumed hfree
        | _ => simp
      rw [List.filter_cons_of_pos (by simp), hnone]
      exact le_rfl
    · rw [List.filter_cons_of_neg (by simpa using hid)]
      exact h.once grantId

def Rests (s : State) (userId grantId : Uuid) : Prop :=
  [Entry.approved userId grantId, .claimed userId grantId].Sublist s.log

structure Kept (s : State) : Prop where
  claimed : ∀ id row userId, s.grants.find id = some row → row.status = .awaitingConfirm →
    row.claimedByUserId = some userId → .claimed userId id ∈ s.log
  approved : ∀ id row userId, s.grants.find id = some row → row.status = .approved →
    row.claimedByUserId = some userId → Rests s userId id
  consumed : ∀ id row, s.grants.find id = some row → row.consumedAt ≠ none → row.status = .approved
  denied : ∀ id, .denied id ∈ s.log → ∃ row, s.grants.find id = some row ∧ row.status = .denied
  tokens : ∀ id userId now, .token id userId now ∈ s.log →
    [.token id userId now, .approved userId id, .claimed userId id].Sublist s.log ∧
      ∃ row, s.grants.find id = some row ∧ row.consumedAt ≠ none ∧ ¬row.expiresAt < now
  confirming : ∀ n card approve g, s.calls n = some (.confirming card approve g) →
    (approve = true → Rests s card.userId g.id) ∧ ∃ row, s.grants.find g.id = some row
  polling : ∀ n g userId, s.calls n = some (.polling g userId) → ∃ row, s.grants.find g.id = some row ∧
    row.status = .approved ∧ row.claimedByUserId = some userId ∧ row.expiresAt = g.expiresAt

lemma Kept.setCall (h : Kept s) {n : ℕ} {call : Option Call}
    (hconfirming : ∀ card approve g, call = some (.confirming card approve g) →
      (approve = true → Rests s card.userId g.id) ∧ ∃ row, s.grants.find g.id = some row)
    (hpolling : ∀ g userId, call = some (.polling g userId) → ∃ row, s.grants.find g.id = some row ∧
      row.status = .approved ∧ row.claimedByUserId = some userId ∧ row.expiresAt = g.expiresAt) :
    Kept (s.setCall n call) := by
  have hcalls : ∀ n', (s.setCall n call).calls n' = if n' = n then call else s.calls n' := fun n' =>
    Function.update_apply ..
  refine ⟨h.claimed, h.approved, h.consumed, h.denied, h.tokens, fun n' card approve g hcall => ?_,
    fun n' g userId hcall => ?_⟩
  · rw [hcalls] at hcall
    split_ifs at hcall
    · exact hconfirming card approve g hcall
    · exact h.confirming n' card approve g hcall
  · rw [hcalls] at hcall
    split_ifs at hcall
    · exact hpolling g userId hcall
    · exact h.polling n' g userId hcall

lemma Kept.setAside (h : Kept s) {n : ℕ} {call : Option Call}
    (hconfirming : ∀ card approve g, call ≠ some (.confirming card approve g))
    (hpolling : ∀ g userId, call ≠ some (.polling g userId)) : Kept (s.setCall n call) :=
  h.setCall (fun card approve g he => absurd he (hconfirming card approve g))
    fun g userId he => absurd he (hpolling g userId)

lemma Kept.clear (h : Kept s) (n : ℕ) : Kept (s.setCall n none) :=
  h.setAside (fun _ _ _ he => by cases he) fun _ _ he => by cases he

lemma Kept.keep (h : Kept s) (hcalls : s'.calls = s.calls) (hlog : s.log.Sublist s'.log)
    (hnew : ∀ e ∈ s'.log, e ∈ s.log ∨ ∃ userId grantId, e = .approved userId grantId)
    (hgrants : ∀ id, (s'.grants.find id).map (fun g => (g.status, g.claimedByUserId, g.consumedAt, g.expiresAt)) =
      (s.grants.find id).map fun g => (g.status, g.claimedByUserId, g.consumedAt, g.expiresAt)) : Kept s' := by
  have hback : ∀ id row', s'.grants.find id = some row' → ∃ row, s.grants.find id = some row ∧
      row.status = row'.status ∧ row.claimedByUserId = row'.claimedByUserId ∧ row.consumedAt = row'.consumedAt := by
    intro id row' hrow'
    have hid := hgrants id
    rw [hrow', Option.map_some] at hid
    obtain ⟨row, hrow, he⟩ := Option.map_eq_some_iff.mp hid.symm
    obtain ⟨hstatus, hclaimed, hconsumed, -⟩ := by simpa only [Prod.mk.injEq] using he
    exact ⟨row, hrow, hstatus, hclaimed, hconsumed⟩
  have hforth : ∀ id row, s.grants.find id = some row → ∃ row', s'.grants.find id = some row' ∧
      row'.status = row.status ∧ row'.claimedByUserId = row.claimedByUserId ∧ row'.consumedAt = row.consumedAt ∧
      row'.expiresAt = row.expiresAt := by
    intro id row hrow
    have hid := hgrants id
    rw [hrow, Option.map_some] at hid
    obtain ⟨row', hrow', he⟩ := Option.map_eq_some_iff.mp hid
    exact ⟨row', hrow', by simpa only [Prod.mk.injEq] using he⟩
  refine ⟨fun id row' userId hrow' hstatus huser => ?_, fun id row' userId hrow' hstatus huser => ?_,
    fun id row' hrow' hconsumed => ?_, fun id hdenied => ?_, fun id userId now htoken => ?_,
    fun n card approve g hcall => ?_, fun n g userId hcall => ?_⟩
  · obtain ⟨row, hrow, hs, hu, -⟩ := hback id row' hrow'
    exact hlog.subset (h.claimed id row userId hrow (hs.trans hstatus) (hu.trans huser))
  · obtain ⟨row, hrow, hs, hu, -⟩ := hback id row' hrow'
    exact (h.approved id row userId hrow (hs.trans hstatus) (hu.trans huser)).trans hlog
  · obtain ⟨row, hrow, hs, -, hc⟩ := hback id row' hrow'
    exact hs.symm.trans (h.consumed id row hrow (hc ▸ hconsumed))
  · obtain hold | ⟨_, _, he⟩ := hnew _ hdenied
    · obtain ⟨row, hrow, hstatus⟩ := h.denied id hold
      obtain ⟨row', hrow', hs, -⟩ := hforth id row hrow
      exact ⟨row', hrow', hs.trans hstatus⟩
    · cases he
  · obtain hold | ⟨_, _, he⟩ := hnew _ htoken
    · obtain ⟨hsub, row, hrow, hconsumed, hlive⟩ := h.tokens id userId now hold
      obtain ⟨row', hrow', -, -, hc, he⟩ := hforth id row hrow
      exact ⟨hsub.trans hlog, row', hrow', hc ▸ hconsumed, he ▸ hlive⟩
    · cases he
  · rw [hcalls] at hcall
    obtain ⟨hrests, row, hrow⟩ := h.confirming n card approve g hcall
    obtain ⟨row', hrow', -⟩ := hforth g.id row hrow
    exact ⟨fun he => (hrests he).trans hlog, row', hrow'⟩
  · rw [hcalls] at hcall
    obtain ⟨row, hrow, hs, hu, he⟩ := h.polling n g userId hcall
    obtain ⟨row', hrow', hs', hu', -, he'⟩ := hforth g.id row hrow
    exact ⟨row', hrow', hs'.trans hs, hu'.trans hu, he'.trans he⟩

lemma Kept.start (h : Kept s) {id : Uuid} {userCodeHash pollTokenHash clientDescription : String}
    {requestIp : Option String} (hid : s.grants.find id = none) : Kept { s with
      grants := s.grants.insertIgnore (.new id userCodeHash pollTokenHash clientDescription requestIp s.clock) } := by
  have hfind : ∀ k row, (s.grants.insertIgnore (.new id userCodeHash pollTokenHash clientDescription requestIp
      s.clock)).find k = some row → row.status = .pending ∧ row.consumedAt = none ∨ s.grants.find k = some row := by
    intro k row hrow
    rw [KeyedTable.find_insertIgnore] at hrow
    split_ifs at hrow with hk
    · have hkid : id = k := hk
      rw [← hkid, hid, Option.getD_none] at hrow
      obtain rfl := Option.some.inj hrow
      exact .inl ⟨rfl, rfl⟩
    · exact .inr hrow
  have hforth : ∀ k row, s.grants.find k = some row → (s.grants.insertIgnore (.new id userCodeHash pollTokenHash
      clientDescription requestIp s.clock)).find k = some row := by
    intro k row hrow
    rw [KeyedTable.find_insertIgnore, hrow]
    split_ifs <;> rfl
  refine ⟨fun k row userId hrow hstatus huser => ?_, fun k row userId hrow hstatus huser => ?_,
    fun k row hrow hconsumed => ?_, fun k hdenied => ?_, fun k userId now htoken => ?_,
    fun n card approve g hcall => ?_, fun n g userId hcall => ?_⟩
  · rcases hfind k row hrow with ⟨hpending, -⟩ | hold
    · exact absurd (hpending.symm.trans hstatus) (by decide)
    · exact h.claimed k row userId hold hstatus huser
  · rcases hfind k row hrow with ⟨hpending, -⟩ | hold
    · exact absurd (hpending.symm.trans hstatus) (by decide)
    · exact h.approved k row userId hold hstatus huser
  · rcases hfind k row hrow with ⟨-, hfree⟩ | hold
    · exact absurd hfree hconsumed
    · exact h.consumed k row hold hconsumed
  · obtain ⟨row, hrow, hstatus⟩ := h.denied k hdenied
    exact ⟨row, hforth k row hrow, hstatus⟩
  · obtain ⟨hsub, row, hrow, hrest⟩ := h.tokens k userId now htoken
    exact ⟨hsub, row, hforth k row hrow, hrest⟩
  · obtain ⟨hrests, row, hrow⟩ := h.confirming n card approve g hcall
    exact ⟨hrests, row, hforth g.id row hrow⟩
  · obtain ⟨row, hrow, hrest⟩ := h.polling n g userId hcall
    exact ⟨row, hforth g.id row hrow, hrest⟩

lemma Kept.claim (h : Kept s) {userId : Uuid} {g : Grant}
    (hfree : ∀ row, s.grants.find g.id = some row →
      row.status = .pending ∨ row.status = .awaitingConfirm ∧ row.claimedByUserId = some userId) :
    Kept (s.claim userId g) := by
  have hfind : ∀ k, (s.claim userId g).grants.find k =
      if k = g.id then (s.grants.find k).map (Grant.claim userId s.clock) else s.grants.find k := fun k =>
    @find_setGrant s g.id (Grant.claim userId s.clock) (fun _ => rfl) k
  have hlog : s.log.Sublist (s.claim userId g).log := List.sublist_cons_self _ _
  -- no row that is approved, denied or consumed is claimed
  have hother : ∀ k row, s.grants.find k = some row → (row.status = .approved ∨ row.status = .denied) →
      (s.claim userId g).grants.find k = some row := by
    intro k row hrow hstatus
    rw [hfind, if_neg, hrow]
    rintro rfl
    rcases hfree row hrow with hp | ⟨hp, -⟩ <;> rcases hstatus with hs | hs <;>
      exact absurd (hp.symm.trans hs) (by decide)
  refine ⟨fun id row v hrow hstatus huser => ?_, fun id row v hrow hstatus huser => ?_, fun id row hrow hconsumed => ?_,
    fun id hdenied => ?_, fun id v now htoken => ?_, fun n card approve g' hcall => ?_, fun n g' v hcall => ?_⟩
  · rw [hfind] at hrow
    split_ifs at hrow with hid
    · obtain ⟨old, -, rfl⟩ := Option.map_eq_some_iff.mp hrow
      obtain rfl := Option.some.inj huser
      subst hid
      exact List.mem_cons_self
    · exact List.mem_cons_of_mem _ (h.claimed id row v hrow hstatus huser)
  · rw [hfind] at hrow
    split_ifs at hrow with hid
    · obtain ⟨old, -, rfl⟩ := Option.map_eq_some_iff.mp hrow
      have hs : Status.awaitingConfirm = .approved := hstatus
      cases hs
    · exact (h.approved id row v hrow hstatus huser).trans hlog
  · rw [hfind] at hrow
    split_ifs at hrow with hid
    · obtain ⟨old, hold, rfl⟩ := Option.map_eq_some_iff.mp hrow
      have happroved := h.consumed id old hold hconsumed
      have hkept := hother id old hold (.inl happroved)
      rw [hfind, if_pos hid, hold, Option.map_some] at hkept
      rw [Option.some.inj hkept]
      exact happroved
    · exact h.consumed id row hrow hconsumed
  · rcases List.mem_cons.mp hdenied with he | hdenied
    · cases he
    · obtain ⟨row, hrow, hstatus⟩ := h.denied id hdenied
      exact ⟨row, hother id row hrow (.inr hstatus), hstatus⟩
  · rcases List.mem_cons.mp htoken with he | htoken
    · cases he
    · obtain ⟨hsub, row, hrow, hconsumed, hlive⟩ := h.tokens id v now htoken
      exact ⟨hsub.trans hlog, row, hother id row hrow (.inl (h.consumed id row hrow hconsumed)), hconsumed, hlive⟩
  · obtain ⟨hrests, row, hrow⟩ := h.confirming n card approve g' hcall
    refine ⟨fun he => (hrests he).trans hlog, ?_⟩
    rw [hfind, hrow]
    split_ifs
    · exact ⟨_, rfl⟩
    · exact ⟨row, rfl⟩
  · obtain ⟨row, hrow, hs, hu, he⟩ := h.polling n g' v hcall
    exact ⟨row, hother g'.id row hrow (.inl hs), hs, hu, he⟩

lemma Kept.confirm (h : Kept s) {card : Card} {approve : Bool} {g row : Grant} (hrow : s.grants.find g.id = some row)
    (hrests : approve = true → Rests s card.userId g.id) (hwaits : row.status = .awaitingConfirm)
    (huser : row.claimedByUserId = some card.userId) : Kept (s.confirm approve g) := by
  have hfind : ∀ k, (s.confirm approve g).grants.find k =
      if k = g.id then some (row.settle approve s.clock) else s.grants.find k := by
    intro k
    have hset := @find_setGrant s g.id (Grant.settle approve s.clock) (fun _ => Grant.settle_id _ _ _) k
    refine hset.trans ?_
    split_ifs with hk
    · rw [hk, hrow, Option.map_some]
    · rfl
  have hlog : s.log.Sublist (s.confirm approve g).log := by
    cases approve with
    | true => exact List.Sublist.refl _
    | false => exact List.sublist_cons_self _ _
  have hold : ∀ e ∈ (s.confirm approve g).log, e ∈ s.log ∨ e = .denied g.id ∧ approve = false := by
    intro e he
    cases approve with
    | true => exact .inl he
    | false => exact (List.mem_cons.mp he).symm.imp_right fun h => ⟨h, rfl⟩
  -- no row that is approved, denied or consumed waits
  have hother : ∀ k row', s.grants.find k = some row' → row'.status ≠ .awaitingConfirm →
      (s.confirm approve g).grants.find k = some row' := by
    intro k row' hrow' hstatus
    rw [hfind, if_neg, hrow']
    rintro rfl
    obtain rfl := Option.some.inj (hrow.symm.trans hrow')
    exact hstatus hwaits
  have hkept := Grant.settle_kept approve s.clock row
  refine ⟨fun id row' v hrow' hstatus huser' => ?_, fun id row' v hrow' hstatus huser' => ?_,
    fun id row' hrow' hconsumed => ?_, fun id hdenied => ?_, fun id v now htoken => ?_,
    fun n card' approve' g' hcall => ?_, fun n g' v hcall => ?_⟩
  · rw [hfind] at hrow'
    split_ifs at hrow' with hid
    · obtain rfl := Option.some.inj hrow'
      cases approve with
      | true => exact absurd hstatus (by simp [Grant.settle])
      | false => exact absurd hstatus (by simp [Grant.settle])
    · exact hlog.subset (h.claimed id row' v hrow' hstatus huser')
  · rw [hfind] at hrow'
    split_ifs at hrow' with hid
    · obtain rfl := Option.some.inj hrow'
      rw [hkept.1, huser] at huser'
      obtain rfl := Option.some.inj huser'
      cases approve with
      | true => exact hid ▸ hrests rfl
      | false => exact absurd hstatus (by simp [Grant.settle])
    · exact (h.approved id row' v hrow' hstatus huser').trans hlog
  · rw [hfind] at hrow'
    split_ifs at hrow' with hid
    · obtain rfl := Option.some.inj hrow'
      rw [hkept.2.1] at hconsumed
      exact absurd (hwaits.symm.trans (h.consumed g.id row hrow hconsumed)) (by decide)
    · exact h.consumed id row' hrow' hconsumed
  · rcases hold _ hdenied with hdenied | ⟨he, rfl⟩
    · obtain ⟨row', hrow', hstatus⟩ := h.denied id hdenied
      exact ⟨row', hother id row' hrow' (by rw [hstatus]; decide), hstatus⟩
    · obtain rfl := Entry.denied.inj he
      exact ⟨_, (hfind g.id).trans (if_pos rfl), rfl⟩
  · rcases hold _ htoken with htoken | ⟨he, -⟩
    · obtain ⟨hsub, row', hrow', hconsumed, hlive⟩ := h.tokens id v now htoken
      exact ⟨hsub.trans hlog, row', hother id row' hrow' (by rw [h.consumed id row' hrow' hconsumed]; decide),
        hconsumed, hlive⟩
    · cases he
  · obtain ⟨hrests', row', hrow'⟩ := h.confirming n card' approve' g' hcall
    refine ⟨fun he => (hrests' he).trans hlog, ?_⟩
    rw [hfind]
    split_ifs
    · exact ⟨_, rfl⟩
    · exact ⟨row', hrow'⟩
  · obtain ⟨row', hrow', hs, hu, he⟩ := h.polling n g' v hcall
    exact ⟨row', hother g'.id row' hrow' (by rw [hs]; decide), hs, hu, he⟩

lemma Kept.take (h : Kept s) {g row : Grant} {userId : Uuid} (hrow : s.grants.find g.id = some row)
    (hstatus : row.status = .approved) (huser : row.claimedByUserId = some userId) (hlive : ¬row.expiresAt < s.clock) :
    Kept (s.take g userId) := by
  have hfind : ∀ k, (s.take g userId).grants.find k =
      if k = g.id then some (row.consume s.clock) else s.grants.find k := by
    intro k
    have hset := @find_setGrant s g.id (Grant.consume s.clock) (fun _ => rfl) k
    refine hset.trans ?_
    split_ifs with hk
    · rw [hk, hrow, Option.map_some]
    · rfl
  have hlog : s.log.Sublist (s.take g userId).log := List.sublist_cons_self _ _
  have hforth : ∀ k row', s.grants.find k = some row' → ∃ row'', (s.take g userId).grants.find k = some row'' ∧
      row''.status = row'.status ∧ row''.claimedByUserId = row'.claimedByUserId ∧ row''.expiresAt = row'.expiresAt ∧
      (row'.consumedAt ≠ none → row''.consumedAt ≠ none) := by
    intro k row' hrow'
    rw [hfind]
    split_ifs with hk
    · subst hk
      obtain rfl := Option.some.inj (hrow.symm.trans hrow')
      exact ⟨_, rfl, rfl, rfl, rfl, fun _ => Option.some_ne_none _⟩
    · exact ⟨row', hrow', rfl, rfl, rfl, id⟩
  refine ⟨fun id row' v hrow' hstatus' huser' => ?_, fun id row' v hrow' hstatus' huser' => ?_,
    fun id row' hrow' hconsumed => ?_, fun id hdenied => ?_, fun id v now htoken => ?_,
    fun n card approve g' hcall => ?_, fun n g' v hcall => ?_⟩
  · rw [hfind] at hrow'
    split_ifs at hrow' with hid
    · obtain rfl := Option.some.inj hrow'
      exact absurd (hstatus.symm.trans hstatus') (by decide)
    · exact hlog.subset (h.claimed id row' v hrow' hstatus' huser')
  · rw [hfind] at hrow'
    split_ifs at hrow' with hid
    · obtain rfl := Option.some.inj hrow'
      subst hid
      exact (h.approved g.id row v hrow hstatus huser').trans hlog
    · exact (h.approved id row' v hrow' hstatus' huser').trans hlog
  · rw [hfind] at hrow'
    split_ifs at hrow' with hid
    · obtain rfl := Option.some.inj hrow'
      exact hstatus
    · exact h.consumed id row' hrow' hconsumed
  · rcases List.mem_cons.mp hdenied with he | hdenied
    · cases he
    · obtain ⟨row', hrow', hs⟩ := h.denied id hdenied
      obtain ⟨row'', hrow'', hs', -⟩ := hforth id row' hrow'
      exact ⟨row'', hrow'', hs'.trans hs⟩
  · rcases List.mem_cons.mp htoken with he | htoken
    · obtain ⟨rfl, rfl, rfl⟩ := Entry.token.inj he
      exact ⟨(h.approved g.id row v hrow hstatus huser).cons_cons _, row.consume s.clock,
        (hfind g.id).trans (if_pos rfl), Option.some_ne_none _, hlive⟩
    · obtain ⟨hsub, row', hrow', hconsumed, hlive'⟩ := h.tokens id v now htoken
      obtain ⟨row'', hrow'', -, -, he, hc⟩ := hforth id row' hrow'
      exact ⟨hsub.trans hlog, row'', hrow'', hc hconsumed, he ▸ hlive'⟩
  · obtain ⟨hrests, row', hrow'⟩ := h.confirming n card approve g' hcall
    obtain ⟨row'', hrow'', -⟩ := hforth g'.id row' hrow'
    exact ⟨fun he => (hrests he).trans hlog, row'', hrow''⟩
  · obtain ⟨row', hrow', hs, hu, he⟩ := h.polling n g' v hcall
    obtain ⟨row'', hrow'', hs', hu', he', -⟩ := hforth g'.id row' hrow'
    exact ⟨row'', hrow'', hs'.trans hs, hu'.trans hu, he'.trans he⟩

lemma step_kept (h : Kept s) (hok : Meant s event) (hs : Step s event s') : Kept s' := by
  cases hs with
  | start hid hpoll => exact h.start hid
  | look | refuse => exact h.setAside (fun _ _ _ he => by cases he) fun _ _ he => by cases he
  | @badAttempt n userId hcall =>
    refine Kept.clear (@Kept.keep s (s.noteBadAttempt userId) h rfl (List.Sublist.refl _) (fun e he => .inl he)
      fun id => ?_) n
    have hfind := KeyedTable.find_update s.grants (fun g => g.waitsFor userId) Grant.badAttempt (fun _ => rfl) id
    rw [State.noteBadAttempt, hfind, Option.map_map]
    refine congrArg (Option.map · _) (funext fun g => ?_)
    simp only [Function.comp_apply]
    split_ifs <;> rfl
  | @claim n userId g hcall => exact (h.claim fun row hrow => hok userId g row hcall hrow).clear n
  | @approve n card g hn hcard hg hlive =>
    have hnoted : Kept (s.note (.approved card.userId card.grantId)) :=
      h.keep rfl (List.sublist_cons_self _ _)
        (fun e he => (List.mem_cons.mp he).symm.imp_right fun he => ⟨_, _, he⟩) fun _ => rfl
    have hrow : s.grants.find g.id = some g := KeyedTable.find_eq_some.mpr ⟨hg.1, rfl⟩
    obtain ⟨⟨huser, hstatus⟩, -⟩ := by simpa only [Grant.waitsFor, Bool.and_eq_true, decide_eq_true_eq] using hg.2.1
    -- the grant that is read is the one on the card
    have hcardg : g.id = card.grantId := hok rfl g hg
    have hrests : Rests (s.note (.approved card.userId card.grantId)) card.userId g.id := by
      have hclaimed := h.claimed g.id g card.userId hrow hstatus huser
      rw [Rests, hcardg]
      exact (List.singleton_sublist.mpr (hcardg ▸ hclaimed)).cons_cons _
    refine hnoted.setCall (fun card' approve g' he => ?_) fun _ _ he => by cases he
    obtain ⟨rfl, rfl, rfl⟩ := Call.confirming.inj (Option.some.inj he)
    exact ⟨fun _ => hrests, g, hrow⟩
  | @deny n card g hn hcard hg hlive =>
    refine h.setCall (fun card' approve g' he => ?_) fun _ _ he => by cases he
    obtain ⟨rfl, rfl, rfl⟩ := Call.confirming.inj (Option.some.inj he)
    exact ⟨fun he => absurd he Bool.false_ne_true, g, KeyedTable.find_eq_some.mpr ⟨hg.1, rfl⟩⟩
  | @confirm n card approve g hcall =>
    obtain ⟨hrests, row, hrow⟩ := h.confirming n card approve g hcall
    obtain ⟨hwaits, huser⟩ := hok card approve g row hcall hrow
    exact (h.confirm hrow hrests hwaits huser).clear n
  | @poll n userId pollTokenHash g hn hg hhash hfree hlive hstatus huser =>
    refine h.setCall (fun _ _ _ he => by cases he) fun g' v he => ?_
    obtain ⟨rfl, rfl⟩ := Call.polling.inj (Option.some.inj he)
    exact ⟨g, KeyedTable.find_eq_some.mpr ⟨hg, rfl⟩, hstatus, huser, rfl⟩
  | @take n userId g row hcall hrow hfree =>
    obtain ⟨row', hrow', hstatus, huser, hexpires⟩ := h.polling n g userId hcall
    obtain rfl := Option.some.inj (hrow.symm.trans hrow')
    have hlive : ¬row.expiresAt < s.clock := by
      rw [hexpires]
      exact hok g userId hcall
    exact (h.take hrow hstatus huser hlive).clear n
  | abort => exact h.clear _
  | tick hle => exact ⟨h.claimed, h.approved, h.consumed, h.denied, h.tokens, h.confirming, h.polling⟩

end Invariants

namespace Sample

def browser (id : Uuid) (code poll : String) : Grant := .new id code poll "Firefox on Linux" none 0

def asked : State := { initial 0 with grants := (initial 0).grants.insertIgnore (browser 1 "code" "poll") }

def claimed : State := (asked.setCall 0 (some (.claiming 12 (browser 1 "code" "poll")))).claim 12 (browser 1 "code" "poll")
  |>.setCall 0 none

def card : Card := ⟨12, 1, "Firefox on Linux", none⟩

def waiting : Grant := (browser 1 "code" "poll").claim 12 0

def approved : State := (((claimed.note (.approved 12 1)).setCall 0 (some (.confirming card true waiting))).confirm true
  waiting).setCall 0 none

def settled : Grant := waiting.settle true 0

def signedIn : State := ((approved.setCall 0 (some (.polling settled 12))).take settled 12).setCall 0 none

lemma asked_run : RunWhere Step Meant (initial 0) asked :=
  (RunWhere.refl _).on (Step.start rfl fun _ hg => absurd hg List.not_mem_nil) trivial

lemma claimed_run : RunWhere Step Meant (initial 0) claimed := by
  have hlook : RunWhere Step Meant (initial 0) (asked.setCall 0 (some (.claiming 12 (browser 1 "code" "poll")))) :=
    asked_run.on (Step.look rfl (List.mem_singleton_self _) rfl rfl) trivial
  refine hlook.on (Step.claim rfl) fun userId g row hcall hrow => ?_
  obtain ⟨rfl, rfl⟩ := Call.claiming.inj (Option.some.inj hcall)
  obtain rfl := Option.some.inj hrow
  exact .inl rfl

lemma waiting_newest : claimed.Newest 12 waiting := by
  refine ⟨List.mem_singleton_self _, rfl, fun g hg _ => ?_⟩
  obtain rfl := List.mem_singleton.mp hg
  exact le_rfl

lemma approved_run : RunWhere Step Meant (initial 0) approved := by
  have hpress : RunWhere Step Meant (initial 0)
      ((claimed.note (.approved 12 1)).setCall 0 (some (.confirming card true waiting))) := by
    refine claimed_run.on (@Step.approve _ 0 card waiting rfl List.mem_cons_self waiting_newest (by decide))
      fun _ g hg => ?_
    obtain rfl := List.mem_singleton.mp hg.1
    rfl
  refine hpress.on (Step.confirm rfl) fun card' approve g row hcall hrow => ?_
  obtain ⟨rfl, rfl, rfl⟩ := Call.confirming.inj (Option.some.inj hcall)
  obtain rfl := Option.some.inj hrow
  exact ⟨rfl, rfl⟩

lemma signedIn_run : RunWhere Step Meant (initial 0) signedIn := by
  have hpoll : RunWhere Step Meant (initial 0) (approved.setCall 0 (some (.polling settled 12))) :=
    approved_run.on (Step.poll rfl (List.mem_singleton_self _) rfl rfl (by decide) rfl rfl) trivial
  refine hpoll.on (@Step.take _ 0 12 settled settled rfl rfl rfl) fun g userId hcall => ?_
  obtain ⟨rfl, rfl⟩ := Call.polling.inj (Option.some.inj hcall)
  decide

end Sample

namespace Sample

def second : Grant := (browser 2 "code-2" "poll-2").claim 12 1

end Sample

end Yappy.Grants
