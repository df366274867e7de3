import Yappy.MessageService

/-!
# Retried sends

Any number of identical calls of `send` of `apps/api/src/services/messages.ts`: each looks the nonce up, checks,
and inserts in a transaction, and other requests go on in between. The transactions take the conversation's row
first, one after another, so that each is one step.
-/
namespace Yappy.MessageService.Retries

open Markdown (CodeUnit)
open Permissions (AppError Uuid bind_eq_ok conflict)

structure Sending where
  actorId : Uuid
  conversationId : Uuid
  input : SendInput

section Parts
variable (wordish : CodeUnit → Bool) (g : Sending) (db : Database)

def Sending.names (m : Message) : Bool := m.senderId = g.actorId ∧ m.nonce = some g.input.nonce

def lookup : Option Message := db.first g.names

def check (ctx : Context) (messageId : Uuid) : Except AppError Message := do
  ctx.requirePermission (permissionForType g.input.type)
  checkTitle ctx g.input
  checkEmbeds ctx g.input.embeds g.input.components
  let message := g.input.message wordish ctx g.actorId g.conversationId messageId
  extractMentions ctx message.entities
  match ctx.refusal with
  | some refusal => .error refusal
  | none => .ok message

def transact (message : Message) : Except AppError (Database × Message × Bool) :=
  match db.insert message with
  | none => .error (conflict "Conflict")
  | some db => .ok (db, message, true)

lemma send_eq (ctx : Context) (messageId : Uuid) :
    send wordish db ctx g.actorId g.conversationId messageId g.input =
      match lookup g db with
      | some m => .ok (db, m, false)
      | none => check wordish g ctx messageId >>= transact db := by
  unfold send lookup check transact Sending.names
  cases db.first fun m => decide (m.senderId = g.actorId ∧ m.nonce = some g.input.nonce) with
  | some m => rfl
  | none =>
    simp only [bind_assoc]
    cases ctx.refusal with
    | some refusal => rfl
    | none => rfl

end Parts

inductive Call
  | looked
  | checked (message : Message)
  | done (answer : Except AppError (Message × Bool))

def Call.isDone : Call → Bool
  | .done _ => true
  | .looked | .checked _ => false

structure State where
  db : Database
  calls : ℕ → Option Call

namespace State

def setCall (s : State) (n : ℕ) (c : Call) : State := { s with calls := Function.update s.calls n (some c) }

def named (g : Sending) (db : Database) : List Uuid := (db.messages.rows.filter g.names).map Message.id

end State

inductive Event
  | lookup (n : ℕ)
  | check (n : ℕ)
  | transact (n : ℕ)
  | others

variable (wordish : CodeUnit → Bool) (g : Sending)

inductive Step : State → Event → State → Prop
  | found {s : State} {n : ℕ} {m : Message} (hn : s.calls n = none) (hfound : lookup g s.db = some m) :
      Step s (.lookup n) (s.setCall n (.done (.ok (m, false))))
  | missed {s : State} {n : ℕ} (hn : s.calls n = none) (hmissed : lookup g s.db = none) :
      Step s (.lookup n) (s.setCall n .looked)
  | passed {s : State} {n : ℕ} {ctx : Context} {messageId : Uuid} {message : Message} (hn : s.calls n = some .looked)
      (hok : check wordish g ctx messageId = .ok message) : Step s (.check n) (s.setCall n (.checked message))
  -- the requests pass their checks; it is slow mode that counts the message of another one of them
  | refused {s : State} {n : ℕ} {ctx : Context} {messageId : Uuid} {e : AppError} (hn : s.calls n = some .looked)
      (herror : check wordish g ctx messageId = .error e) (hsent : lookup g s.db ≠ none) :
      Step s (.check n) (s.setCall n (.done (.error e)))
  -- an id is new, and a card has the nonce of its name
  | inserted {s : State} {n : ℕ} {message : Message} {db : Database} (hn : s.calls n = some (.checked message))
      (hinsert : transact s.db message = .ok (db, message, true)) :
      Step s (.transact n) { s.setCall n (.done (.ok (message, true))) with db }
  | violated {s : State} {n : ℕ} {message : Message} {e : AppError} (hn : s.calls n = some (.checked message))
      (hid : message.id ∉ s.db.messages.rows.map Message.id)
      (hcard : ∀ r ∈ s.db.messages.rows, message.SharesCard r → message.SharesNonce r)
      (hinsert : transact s.db message = .error e) : Step s (.transact n) (s.setCall n (.done (.error e)))
  | others {s : State} {db : Database} (hsame : State.named g db = State.named g s.db) :
      Step s .others { s with db }

/-- A request looks the nonce up only while no other is between its own lookup and its commit. -/
def InTurn (s : State) : Event → Prop
  | .lookup _ => ∀ n c, s.calls n = some c → c.isDone
  | .check _ | .transact _ | .others => True

/-- One message, whose id every request has, and one request that says it has created it. -/
def Idempotent (s : State) : Prop := ∃ id, State.named g s.db = [id] ∧
  (∀ n c, s.calls n = some c → ∃ m created, c = .done (.ok (m, created)) ∧ m.id = id) ∧
  ∃! n, ∃ m, s.calls n = some (.done (.ok (m, true)))

def start (db : Database) : State := ⟨db, fun _ => none⟩

def Underway (s : State) : Prop := State.named g s.db = [] ∧
  (∀ n c, s.calls n = some c → c = .looked ∨ ∃ message, c = .checked message ∧ g.names message) ∧
  ∀ n n' c c', s.calls n = some c → s.calls n' = some c' → n' = n

variable {wordish g} {s s' : State} {event : Event} {n : ℕ} {m : Message} {db : Database}

lemma setCall_calls {n' : ℕ} {c : Call} : (s.setCall n c).calls n' = if n' = n then some c else s.calls n' :=
  Function.update_apply ..

lemma lookup_id (h : lookup g db = some m) : ∃ ids, State.named g db = m.id :: ids := by
  have hhead : (db.messages.rows.filter g.names).head? = some m := by
    rw [List.head?_filter]
    exact h
  obtain ⟨rest, hrest⟩ := List.head?_eq_some_iff.mp hhead
  exact ⟨rest.map Message.id, by rw [State.named, hrest, List.map_cons]⟩

lemma lookup_eq_none : lookup g db = none ↔ State.named g db = [] := by
  unfold lookup State.named Database.first
  rw [List.map_eq_nil_iff, List.filter_eq_nil_iff, List.find?_eq_none]

lemma check_names {ctx : Context} {messageId : Uuid} (h : check wordish g ctx messageId = .ok m) : g.names m := by
  have hmessage : m = g.input.message wordish ctx g.actorId g.conversationId messageId := by
    unfold check at h
    simp only [bind_eq_ok] at h
    obtain ⟨_, -, _, -, _, -, _, -, hm⟩ := h
    cases hrefusal : ctx.refusal with
    | some refusal =>
      rw [hrefusal] at hm
      cases hm
    | none =>
      rw [hrefusal] at hm
      exact (Except.ok.inj hm).symm
  rw [hmessage]
  exact decide_eq_true ⟨rfl, rfl⟩

lemma transact_named {db' : Database} (hm : g.names m) (h : transact db m = .ok (db', m, true)) :
    State.named g db = [] ∧ State.named g db' = [m.id] := by
  unfold transact at h
  cases hinsert : db.insert m with
  | none =>
    rw [hinsert] at h
    cases h
  | some inserted =>
    rw [hinsert] at h
    obtain rfl : inserted = db' := (Prod.mk.inj (Except.ok.inj h)).1
    obtain ⟨hrows, hfree⟩ := Database.insert_rows hinsert
    have hnames := of_decide_eq_true hm
    have hnone : db.messages.rows.filter g.names = [] := by
      refine List.filter_eq_nil_iff.mpr fun r hr hnamed => hfree r hr ?_
      have hr' := of_decide_eq_true hnamed
      exact ⟨by rw [hnames.2]; rfl, hnames.1.trans hr'.1.symm, hnames.2.trans hr'.2.symm⟩
    unfold State.named
    rw [hrows, List.filter_cons_of_pos hm, hnone]
    exact ⟨rfl, rfl⟩

lemma transact_error {e : AppError} (hm : g.names m) (hid : m.id ∉ db.messages.rows.map Message.id)
    (hcard : ∀ r ∈ db.messages.rows, m.SharesCard r → m.SharesNonce r) (h : transact db m = .error e) :
    State.named g db ≠ [] := by
  intro hnone
  have hfree : ∀ r ∈ db.messages.rows, ¬ m.SharesNonce r := by
    rintro r hr ⟨-, hsender, hnonce⟩
    have hnames := of_decide_eq_true hm
    have hnot := List.filter_eq_nil_iff.mp (List.map_eq_nil_iff.mp hnone) r hr
    exact hnot (decide_eq_true ⟨hsender.symm.trans hnames.1, hnonce.symm.trans hnames.2⟩)
  unfold transact Database.insert at h
  rw [dif_pos ⟨hid, hfree, fun r hr hshares => hfree r hr (hcard r hr hshares)⟩] at h
  cases h

lemma Underway.looks (h : Underway g s) (hturn : ∀ n c, s.calls n = some c → c.isDone) :
    Underway g (s.setCall n .looked) := by
  obtain ⟨hnone, hstage, -⟩ := h
  -- no request is there yet
  have hempty : ∀ n c, s.calls n ≠ some c := by
    intro n c hc
    rcases hstage n c hc with rfl | ⟨message, rfl, -⟩
    · exact absurd (hturn n _ hc) nofun
    · exact absurd (hturn n _ hc) nofun
  have honly : ∀ n' c, (s.setCall n .looked).calls n' = some c → n' = n ∧ c = .looked := by
    intro n' c hc
    rw [setCall_calls] at hc
    split_ifs at hc with hn'
    · exact ⟨hn', (Option.some.inj hc).symm⟩
    · exact absurd hc (hempty n' c)
  refine ⟨hnone, fun n' c hc => Or.inl (honly n' c hc).2, fun n₁ n₂ c₁ c₂ h₁ h₂ => ?_⟩
  rw [(honly n₁ c₁ h₁).1, (honly n₂ c₂ h₂).1]

lemma Underway.checks (h : Underway g s) (hn : s.calls n = some .looked) (hm : g.names m) :
    Underway g (s.setCall n (.checked m)) := by
  obtain ⟨hnone, hstage, hone⟩ := h
  have hwas : ∀ n' c, (s.setCall n (.checked m)).calls n' = some c → n' = n ∧ c = .checked m ∨ s.calls n' = some c := by
    intro n' c hc
    rw [setCall_calls] at hc
    split_ifs at hc with hn'
    · exact Or.inl ⟨hn', (Option.some.inj hc).symm⟩
    · exact Or.inr hc
  have honly : ∀ n' c, (s.setCall n (.checked m)).calls n' = some c → n' = n := by
    intro n' c hc
    rcases hwas n' c hc with ⟨hn', -⟩ | hc
    · exact hn'
    · exact hone n n' _ c hn hc
  refine ⟨hnone, fun n' c hc => ?_, fun n₁ n₂ c₁ c₂ h₁ h₂ => ?_⟩
  · rcases hwas n' c hc with ⟨-, rfl⟩ | hc
    · exact Or.inr ⟨m, rfl, hm⟩
    · exact hstage n' c hc
  · rw [honly n₁ c₁ h₁, honly n₂ c₂ h₂]

lemma Underway.inserts (h : Underway g s) (hn : s.calls n = some (.checked m))
    (hinsert : transact s.db m = .ok (db, m, true)) :
    Idempotent g { s.setCall n (.done (.ok (m, true))) with db } := by
  obtain ⟨-, hstage, hone⟩ := h
  have hnames : g.names m := by
    rcases hstage n _ hn with hlooked | ⟨message, hchecked, hnames⟩
    · cases hlooked
    · obtain rfl := Call.checked.inj hchecked
      exact hnames
  have honly : ∀ n' c, (s.setCall n (.done (.ok (m, true)))).calls n' = some c → n' = n ∧ c = .done (.ok (m, true)) := by
    intro n' c hc
    rw [setCall_calls] at hc
    split_ifs at hc with hn'
    · exact ⟨hn', (Option.some.inj hc).symm⟩
    · exact absurd (hone n n' _ c hn hc) hn'
  have hself : (s.setCall n (.done (.ok (m, true)))).calls n = some (.done (.ok (m, true))) := by
    rw [setCall_calls, if_pos rfl]
  refine ⟨m.id, (transact_named hnames hinsert).2, fun n' c hc => ?_, n, ⟨m, hself⟩, ?_⟩
  · obtain ⟨-, rfl⟩ := honly n' c hc
    exact ⟨m, true, rfl, rfl⟩
  · rintro n' ⟨m', hc⟩
    exact (honly n' _ hc).1

lemma Idempotent.finds (h : Idempotent g s) (hn : s.calls n = none) (hfound : lookup g s.db = some m) :
    Idempotent g (s.setCall n (.done (.ok (m, false)))) := by
  obtain ⟨id, hnamed, hsame, n₀, ⟨m₀, hcreated⟩, hunique⟩ := h
  obtain ⟨ids, hids⟩ := lookup_id hfound
  have hid : m.id = id := (List.cons.inj (hids.symm.trans hnamed)).1
  have hne : n₀ ≠ n := by
    rintro rfl
    rw [hn] at hcreated
    cases hcreated
  refine ⟨id, hnamed, fun n' c hc => ?_, n₀, ⟨m₀, ?_⟩, ?_⟩
  · rw [setCall_calls] at hc
    split_ifs at hc
    · exact ⟨m, false, (Option.some.inj hc).symm, hid⟩
    · exact hsame n' c hc
  · rw [setCall_calls, if_neg hne]
    exact hcreated
  · rintro n' ⟨m', hc⟩
    rw [setCall_calls] at hc
    split_ifs at hc
    · cases hc
    · exact hunique n' ⟨m', hc⟩

lemma Idempotent.done (h : Idempotent g s) {c : Call} (hc : s.calls n = some c) : c.isDone := by
  obtain ⟨id, -, hsame, -⟩ := h
  obtain ⟨m, created, rfl, -⟩ := hsame n c hc
  rfl

lemma step_inv (h : Underway g s ∨ Idempotent g s) (hok : InTurn s event) (hs : Step wordish g s event s') :
    Underway g s' ∨ Idempotent g s' := by
  cases hs with
  | found hn hfound =>
    rcases h with h | h
    · obtain ⟨ids, hids⟩ := lookup_id hfound
      rw [h.1] at hids
      cases hids
    · exact Or.inr (h.finds hn hfound)
  | missed hn hmissed =>
    rcases h with h | h
    · exact Or.inl (h.looks hok)
    · obtain ⟨id, hnamed, -⟩ := h
      rw [lookup_eq_none.mp hmissed] at hnamed
      cases hnamed
  | passed hn hcheck =>
    rcases h with h | h
    · exact Or.inl (h.checks hn (check_names hcheck))
    · exact absurd (h.done hn) nofun
  | refused hn herror hsent =>
    rcases h with h | h
    · exact absurd (lookup_eq_none.mpr h.1) hsent
    · exact absurd (h.done hn) nofun
  | inserted hn hinsert =>
    rcases h with h | h
    · exact Or.inr (h.inserts hn hinsert)
    · exact absurd (h.done hn) nofun
  | @violated n message e hn hid hcard hinsert =>
    rcases h with h | h
    · rcases h.2.1 _ _ hn with hlooked | ⟨message', hchecked, hnames⟩
      · cases hlooked
      · obtain rfl := Call.checked.inj hchecked
        exact absurd h.1 (transact_error hnames hid hcard hinsert)
    · exact absurd (h.done hn) nofun
  | others hsame =>
    rcases h with ⟨hnone, hrest⟩ | ⟨id, hnamed, hrest⟩
    · exact Or.inl ⟨hsame.trans hnone, hrest⟩
    · exact Or.inr ⟨id, hsame.trans hnamed, hrest⟩

/-- However many identical requests there are and whatever goes on in between, once they are all answered there is
one message, which each of them has, and one that says it has created it, as long as they look the nonce up
in turn. -/
theorem run_idempotent (hnew : lookup g db = none) (h : RunWhere (Step wordish g) InTurn (start db) s)
    (hsome : ∃ n, s.calls n ≠ none) (hdone : ∀ n c, s.calls n = some c → c.isDone) : Idempotent g s := by
  have hstart : Underway g (start db) :=
    ⟨lookup_eq_none.mp hnew, fun _ _ hc => absurd hc.symm (Option.some_ne_none _),
      fun _ _ _ _ hc _ => absurd hc.symm (Option.some_ne_none _)⟩
  have hinv : Underway g s ∨ Idempotent g s :=
    h.invariant (Or.inl hstart) fun _ _ _ hinv hok hs => step_inv hinv hok hs
  rcases hinv with ⟨-, hstage, -⟩ | hinv
  · obtain ⟨n, hn⟩ := hsome
    obtain ⟨c, hc⟩ := Option.ne_none_iff_exists'.mp hn
    rcases hstage n c hc with rfl | ⟨message, rfl, -⟩
    · exact absurd (hdone n _ hc) nofun
    · exact absurd (hdone n _ hc) nofun
  · exact hinv

namespace Sample

def context : Context where
  isBoard := false
  isForum := false
  disappearingSeconds := 0
  permissions := some Permissions.Permission.sendMessages
  isBot := false
  badge := none
  refusal := none
  clock := 0

def input : SendInput where
  nonce := .client "nonce"
  type := .text
  content := none
  title := none
  entities := none
  inThread := false
  embeds := none
  components := none
  expiresInSeconds := none
  cardKey := none

def hello : Sending := ⟨10, 2, input⟩

def message (id : Uuid) : Message := input.message (fun _ => false) context 10 2 id

lemma passes (id : Uuid) : check (fun _ => false) hello context id = .ok (message id) := rfl

def sent : Database := ⟨⟨[message 1], by simp⟩, by simp, by simp⟩

lemma inserts : transact .empty (message 1) = .ok (sent, message 1, true) := rfl

end Sample

open Sample in
/-- A request and, after it, its retry. -/
theorem run_idempotent_retried : ∃ s, RunWhere (Step (fun _ => false) hello) InTurn (start .empty) s ∧
    s.calls 1 ≠ none ∧ Idempotent hello s := by
  let s₁ := (start .empty).setCall 0 .looked
  let s₂ := s₁.setCall 0 (.checked (message 1))
  let s₃ : State := { s₂.setCall 0 (.done (.ok (message 1, true))) with db := sent }
  have hmissed := @Step.missed (fun _ => false) hello (start .empty) 0 rfl rfl
  have hpassed := @Step.passed (fun _ => false) hello s₁ 0 context 1 (message 1) rfl (passes 1)
  have hinserted := @Step.inserted (fun _ => false) hello s₂ 0 (message 1) sent rfl inserts
  have hfound := @Step.found (fun _ => false) hello s₃ 1 (message 1) rfl rfl
  have hcalls : ∀ n c, s₃.calls n = some c → n = 0 ∧ c.isDone := by
    intro n c hc
    by_cases hn : n = 0
    · subst hn
      obtain rfl := Option.some.inj hc
      exact ⟨rfl, rfl⟩
    · simp [s₃, s₂, s₁, start, setCall_calls, hn] at hc
  have hrun : RunWhere (Step (fun _ => false) hello) InTurn (start .empty) s₃ :=
    (((RunWhere.refl _).on hmissed fun _ _ hc => absurd hc.symm (Option.some_ne_none _)).on hpassed trivial).on
      hinserted trivial
  have hend := hrun.on hfound fun n c hc => (hcalls n c hc).2
  refine ⟨_, hend, nofun, run_idempotent rfl hend ⟨1, nofun⟩ fun n c hc => ?_⟩
  rw [setCall_calls] at hc
  split_ifs at hc
  · obtain rfl := Option.some.inj hc
    rfl
  · exact (hcalls n c hc).2

open Sample in
/-- Two requests that both look the nonce up before either commits: the second hears of a conflict. -/
theorem overlapping_conflict : ∃ s, RunWhere (Step (fun _ => false) hello) (fun _ _ => True) (start .empty) s ∧
    (∀ n c, s.calls n = some c → c.isDone) ∧ s.calls 1 = some (.done (.error (conflict "Conflict"))) ∧
    ¬ Idempotent hello s := by
  let s₂ := ((start .empty).setCall 0 .looked).setCall 1 .looked
  let s₄ := (s₂.setCall 0 (.checked (message 1))).setCall 1 (.checked (message 2))
  let s₅ : State := { s₄.setCall 0 (.done (.ok (message 1, true))) with db := sent }
  have hmissed := @Step.missed (fun _ => false) hello (start .empty) 0 rfl rfl
  have hmissed' := @Step.missed (fun _ => false) hello ((start .empty).setCall 0 .looked) 1 rfl rfl
  have hpassed := @Step.passed (fun _ => false) hello s₂ 0 context 1 (message 1) rfl (passes 1)
  have hpassed' := @Step.passed (fun _ => false) hello (s₂.setCall 0 (.checked (message 1))) 1 context 2 (message 2)
    rfl (passes 2)
  have hinserted := @Step.inserted (fun _ => false) hello s₄ 0 (message 1) sent rfl inserts
  have hviolated := @Step.violated (fun _ => false) hello s₅ 1 (message 2) (conflict "Conflict") rfl (by decide)
    (by decide) rfl
  have hrun : RunWhere (Step (fun _ => false) hello) (fun _ _ => True) (start .empty) s₄ :=
    ((((RunWhere.refl _).on hmissed trivial).on hmissed' trivial).on hpassed trivial).on hpassed' trivial
  refine ⟨_, (hrun.on hinserted trivial).on hviolated trivial, fun n c hc => ?_, rfl, ?_⟩
  · by_cases h₁ : n = 1
    · subst h₁
      obtain rfl := Option.some.inj hc
      rfl
    · by_cases h₀ : n = 0
      · subst h₀
        obtain rfl := Option.some.inj hc
        rfl
      · simp [s₅, s₄, s₂, start, setCall_calls, h₀, h₁] at hc
  · rintro ⟨id, -, hsame, -⟩
    obtain ⟨m, created, hanswer, -⟩ := hsame 1 _ rfl
    cases hanswer

end Yappy.MessageService.Retries
