import Mathlib
import Yappy.PermissionDatabase
import Yappy.Runs

/-!
# Slow mode

`send` of `apps/api/src/services/messages.ts` in conversations with a slow mode: it looks for the
nonce, asks `check_slow_mode` in a statement of its own, and later opens the transaction that
inserts the message, whose `created_at` is the time that transaction began. Times are in
microseconds.
-/
namespace Yappy.SlowMode
open Permissions (Uuid)

abbrev Time := ℕ

/-- `slow_mode_seconds` of each conversation, and who holds `MANAGE_CONVERSATION` in it. -/
structure Settings where
  slowModeSeconds : Uuid → ℕ
  manages : Uuid → Uuid → Bool

structure Message where
  conversationId : Uuid
  senderId : Uuid
  nonce : ℕ
  system : Bool
  createdAt : Time
deriving DecidableEq

/-- How far a send has come: it has looked for its nonce and may post, slow mode lets it through,
or its transaction has begun. -/
inductive Send
  | asked (conversation sender : Uuid) (nonce : ℕ)
  | checked (conversation sender : Uuid) (nonce : ℕ)
  | writing (conversation sender : Uuid) (nonce : ℕ) (began : Time)

structure State where
  messages : List Message
  sends : ℕ → Option Send
  clock : Time

namespace State
variable (s : State)

def setSend (k : ℕ) (send : Option Send) : State := { s with sends := Function.update s.sends k send }

def post (m : Message) : State := { s with messages := s.messages ++ [m] }

/-- `messages_sender_nonce_uq`. -/
def Unused (sender : Uuid) (nonce : ℕ) : Prop :=
  ∀ m ∈ s.messages, m.system = false → m.senderId = sender → m.nonce ≠ nonce

end State

def interval (seconds : ℕ) : ℕ := seconds * 1000000

def recent (messages : List Message) (conversation sender : Uuid) (seconds : ℕ) (now : Time) : List Time :=
  (messages.filter fun m => m.conversationId = conversation && m.senderId = sender &&
    now < m.createdAt + interval seconds).map Message.createdAt

/-- `check_slow_mode`: how long the sender has to wait. -/
def checkSlowMode (messages : List Message) (conversation sender : Uuid) (seconds : ℕ) (now : Time) : ℤ :=
  if seconds = 0 then 0
  else match (recent messages conversation sender seconds now).max? with
    | none => 0
    | some last => max 0 (interval seconds - ((now : ℤ) - last))

def passes (settings : Settings) (s : State) (conversation sender : Uuid) : Bool :=
  settings.slowModeSeconds conversation = 0 || settings.manages conversation sender ||
    checkSlowMode s.messages conversation sender (settings.slowModeSeconds conversation) s.clock ≤ 0

inductive Event
  | tick (elapsed : ℕ)
  | ask (k : ℕ) (conversation sender : Uuid) (nonce : ℕ)
  | check (k : ℕ)
  | begin (k : ℕ)
  | commit (k : ℕ)
  | drop (k : ℕ)
  | announce (m : Message)

inductive Step (settings : Settings) : State → Event → State → Prop
  | tick {s : State} (elapsed : ℕ) : Step settings s (.tick elapsed) { s with clock := s.clock + elapsed }
  | ask {s : State} {k : ℕ} {conversation sender : Uuid} {nonce : ℕ} (hk : s.sends k = none)
      (hnonce : s.Unused sender nonce) :
      Step settings s (.ask k conversation sender nonce)
        (s.setSend k (some (.asked conversation sender nonce)))
  | check {s : State} {k : ℕ} {conversation sender : Uuid} {nonce : ℕ}
      (hk : s.sends k = some (.asked conversation sender nonce))
      (hpasses : passes settings s conversation sender = true) :
      Step settings s (.check k) (s.setSend k (some (.checked conversation sender nonce)))
  | begin {s : State} {k : ℕ} {conversation sender : Uuid} {nonce : ℕ}
      (hk : s.sends k = some (.checked conversation sender nonce)) :
      Step settings s (.begin k) (s.setSend k (some (.writing conversation sender nonce s.clock)))
  | commit {s : State} {k : ℕ} {conversation sender : Uuid} {nonce : ℕ} {began : Time}
      (hk : s.sends k = some (.writing conversation sender nonce began))
      (hnonce : s.Unused sender nonce) :
      Step settings s (.commit k)
        ((s.post ⟨conversation, sender, nonce, false, began⟩).setSend k none)
  | drop {s : State} (k : ℕ) : Step settings s (.drop k) (s.setSend k none)
  | announce {s : State} (m : Message) (hm : m.system = true) : Step settings s (.announce m) (s.post m)

def State.opened (clock : Time) : State := ⟨[], fun _ => none, clock⟩

/-- The slow mode of the conversation applies to the member. -/
def Settings.Applies (settings : Settings) (conversation sender : Uuid) : Prop :=
  0 < settings.slowModeSeconds conversation ∧ settings.manages conversation sender = false

def Apart (settings : Settings) (conversation : Uuid) (a b : Time) : Prop :=
  a + interval (settings.slowModeSeconds conversation) ≤ b ∨
    b + interval (settings.slowModeSeconds conversation) ≤ a

/-- A message of the member that slow mode is about. -/
def Message.By (m : Message) (conversation sender : Uuid) : Prop :=
  m.conversationId = conversation ∧ m.senderId = sender ∧ m.system = false

/-- A send is checked while no other send of the member to the conversation is between its check
and its commit, unless that one's transaction has begun the slow mode ago. -/
def Alone (settings : Settings) (s : State) : Event → Prop
  | .check k => ∀ conversation sender nonce, s.sends k = some (.asked conversation sender nonce) →
      settings.Applies conversation sender →
        (∀ k' n, s.sends k' ≠ some (.checked conversation sender n)) ∧
        ∀ k' n began, s.sends k' = some (.writing conversation sender n began) →
          began + interval (settings.slowModeSeconds conversation) ≤ s.clock
  | _ => True

/-- What holds of a member's messages and sends in the runs where every check sees them. -/
structure Sparse (settings : Settings) (conversation sender : Uuid) (s : State) : Prop where
  posted : s.messages.Pairwise fun m m' => m.By conversation sender → m'.By conversation sender →
    Apart settings conversation m.createdAt m'.createdAt
  checked : ∀ k n, s.sends k = some (.checked conversation sender n) →
    ∀ m ∈ s.messages, m.By conversation sender →
      m.createdAt + interval (settings.slowModeSeconds conversation) ≤ s.clock
  writing : ∀ k n began, s.sends k = some (.writing conversation sender n began) → began ≤ s.clock ∧
    ∀ m ∈ s.messages, m.By conversation sender → Apart settings conversation m.createdAt began
  single : ∀ k k' n n', s.sends k = some (.checked conversation sender n) →
    s.sends k' = some (.checked conversation sender n') → k = k'
  behind : ∀ k k' n n' began, s.sends k = some (.checked conversation sender n) →
    s.sends k' = some (.writing conversation sender n' began) →
      began + interval (settings.slowModeSeconds conversation) ≤ s.clock
  between : ∀ k k' n n' began began', k ≠ k' → s.sends k = some (.writing conversation sender n began) →
    s.sends k' = some (.writing conversation sender n' began') → Apart settings conversation began began'

instance (s : State) (sender : Uuid) (nonce : ℕ) : Decidable (s.Unused sender nonce) := by
  unfold State.Unused
  infer_instance

instance (settings : Settings) (conversation : Uuid) (a b : Time) :
    Decidable (Apart settings conversation a b) := by
  unfold Apart
  infer_instance

section
variable {settings : Settings} {s s' : State} {event : Event} {conversation sender : Uuid} {m : Message}
  {k k' : ℕ} {send : Option Send}

@[simp, grind =] lemma setSend_messages : (s.setSend k send).messages = s.messages := rfl
@[simp, grind =] lemma setSend_clock : (s.setSend k send).clock = s.clock := rfl
@[grind =] lemma setSend_sends :
    (s.setSend k send).sends k' = if k' = k then send else s.sends k' := Function.update_apply ..
@[simp, grind =] lemma post_messages : (s.post m).messages = s.messages ++ [m] := rfl
@[simp, grind =] lemma post_clock : (s.post m).clock = s.clock := rfl
@[simp, grind =] lemma post_sends : (s.post m).sends = s.sends := rfl

lemma passes_after (happlies : settings.Applies conversation sender)
    (h : passes settings s conversation sender = true) (hm : m ∈ s.messages)
    (hby : m.By conversation sender) :
    m.createdAt + interval (settings.slowModeSeconds conversation) ≤ s.clock := by
  obtain ⟨hpositive, hmanages⟩ := happlies
  obtain ⟨hconversation, hsender, -⟩ := hby
  have hwait : checkSlowMode s.messages conversation sender
      (settings.slowModeSeconds conversation) s.clock ≤ 0 := by
    simpa [passes, hpositive.ne', hmanages] using h
  rw [checkSlowMode, if_neg hpositive.ne'] at hwait
  by_contra hlate
  have hin : m.createdAt ∈ recent s.messages conversation sender
      (settings.slowModeSeconds conversation) s.clock := by
    refine List.mem_map.mpr ⟨m, List.mem_filter.mpr ⟨hm, ?_⟩, rfl⟩
    simpa [hconversation, hsender] using hlate
  cases hmax : (recent s.messages conversation sender
      (settings.slowModeSeconds conversation) s.clock).max? with
  | none =>
    rw [List.max?_eq_none_iff.mp hmax] at hin
    cases hin
  | some last =>
    obtain ⟨m', hm', rfl⟩ := List.mem_map.mp (List.max?_mem hmax)
    have hafter : s.clock < m'.createdAt + interval (settings.slowModeSeconds conversation) := by
      have := (List.mem_filter.mp hm').2
      simp only [Bool.and_eq_true, decide_eq_true_eq] at this
      exact this.2
    simp only [hmax] at hwait
    have hwait := (le_max_right _ _).trans hwait
    have hafter : (s.clock : ℤ) < m'.createdAt + interval (settings.slowModeSeconds conversation) := by
      exact_mod_cast hafter
    linarith

lemma Sparse.tick (elapsed : ℕ) (h : Sparse settings conversation sender s) :
    Sparse settings conversation sender { s with clock := s.clock + elapsed } := by
  obtain ⟨hposted, hchecked, hwriting, hsingle, hbehind, hbetween⟩ := h
  constructor <;> grind

lemma Sparse.setSend (h : Sparse settings conversation sender s)
    (hchecked : ∀ n, send ≠ some (.checked conversation sender n))
    (hwriting : ∀ n began, send ≠ some (.writing conversation sender n began)) :
    Sparse settings conversation sender (s.setSend k send) := by
  obtain ⟨h₁, h₂, h₃, h₄, h₅, h₆⟩ := h
  constructor <;> grind

lemma Sparse.check {nonce : ℕ} (h : Sparse settings conversation sender s)
    (happlies : settings.Applies conversation sender)
    (hpasses : passes settings s conversation sender = true)
    (hnone : ∀ k' n, s.sends k' ≠ some (.checked conversation sender n))
    (hbegun : ∀ k' n began, s.sends k' = some (.writing conversation sender n began) →
      began + interval (settings.slowModeSeconds conversation) ≤ s.clock) :
    Sparse settings conversation sender (s.setSend k (some (.checked conversation sender nonce))) := by
  have hafter : ∀ m ∈ s.messages, m.By conversation sender →
      m.createdAt + interval (settings.slowModeSeconds conversation) ≤ s.clock :=
    fun m hm hby => passes_after happlies hpasses hm hby
  obtain ⟨h₁, h₂, h₃, h₄, h₅, h₆⟩ := h
  constructor <;> grind

lemma Sparse.begin {nonce : ℕ} (h : Sparse settings conversation sender s)
    (hk : s.sends k = some (.checked conversation sender nonce)) :
    Sparse settings conversation sender
      (s.setSend k (some (.writing conversation sender nonce s.clock))) := by
  obtain ⟨h₁, h₂, h₃, h₄, h₅, h₆⟩ := h
  constructor
  case writing =>
    intro k' n began hk'
    rw [setSend_sends] at hk'
    split at hk'
    · obtain ⟨rfl, rfl⟩ : nonce = n ∧ s.clock = began := by simpa using hk'
      exact ⟨le_rfl, fun m hm hby => .inl (h₂ k nonce hk m hm hby)⟩
    · exact h₃ k' n began hk'
  case between =>
    intro k₁ k₂ n₁ n₂ b₁ b₂ hne hk₁ hk₂
    rw [setSend_sends] at hk₁ hk₂
    split at hk₁ <;> split at hk₂
    · omega
    · obtain ⟨-, rfl⟩ : nonce = n₁ ∧ s.clock = b₁ := by simpa using hk₁
      exact .inr (h₅ k k₂ nonce n₂ b₂ hk hk₂)
    · obtain ⟨-, rfl⟩ : nonce = n₂ ∧ s.clock = b₂ := by simpa using hk₂
      exact .inl (h₅ k k₁ nonce n₁ b₁ hk hk₁)
    · exact h₆ k₁ k₂ n₁ n₂ b₁ b₂ hne hk₁ hk₂
  all_goals grind

lemma Sparse.post (h : Sparse settings conversation sender s) (hm : ¬m.By conversation sender) :
    Sparse settings conversation sender (s.post m) := by
  have hold : ∀ x ∈ (s.post m).messages, x.By conversation sender → x ∈ s.messages := by
    intro x hx hby
    rcases List.mem_append.mp hx with hx | hx
    · exact hx
    · exact absurd (List.mem_singleton.mp hx ▸ hby) hm
  obtain ⟨h₁, h₂, h₃, h₄, h₅, h₆⟩ := h
  refine ⟨?_, fun k n hk x hx hby => h₂ k n hk x (hold x hx hby) hby, fun k n began hk => ?_, h₄, h₅, h₆⟩
  · refine List.pairwise_append.mpr ⟨h₁, List.pairwise_singleton _ _, fun a _ b hb _ hby => ?_⟩
    exact absurd (List.mem_singleton.mp hb ▸ hby) hm
  · exact ⟨(h₃ k n began hk).1, fun x hx hby => (h₃ k n began hk).2 x (hold x hx hby) hby⟩

lemma Sparse.commit {nonce : ℕ} {began : Time} (h : Sparse settings conversation sender s)
    (hk : s.sends k = some (.writing conversation sender nonce began)) :
    Sparse settings conversation sender
      ((s.post ⟨conversation, sender, nonce, false, began⟩).setSend k none) := by
  obtain ⟨h₁, h₂, h₃, h₄, h₅, h₆⟩ := h
  have hbegan := h₃ k nonce began hk
  -- the others are under way as they were
  have hothers : ∀ {k' send}, ((s.post ⟨conversation, sender, nonce, false, began⟩).setSend k none).sends k' =
      some send → k' ≠ k ∧ s.sends k' = some send := by
    intro k' send hk'
    rw [setSend_sends] at hk'
    split at hk'
    · cases hk'
    · exact ⟨by assumption, hk'⟩
  constructor
  case posted =>
    refine List.pairwise_append.mpr ⟨h₁, List.pairwise_singleton _ _, fun a ha b hb hby _ => ?_⟩
    obtain rfl := List.mem_singleton.mp hb
    exact hbegan.2 a ha hby
  case checked =>
    intro k' n hk' x hx hby
    rcases List.mem_append.mp hx with hx | hx
    · exact h₂ k' n (hothers hk').2 x hx hby
    · obtain rfl := List.mem_singleton.mp hx
      exact h₅ k' k n nonce began (hothers hk').2 hk
  case writing =>
    intro k' n b hk'
    obtain ⟨hne, hk'⟩ := hothers hk'
    refine ⟨(h₃ k' n b hk').1, fun x hx hby => ?_⟩
    rcases List.mem_append.mp hx with hx | hx
    · exact (h₃ k' n b hk').2 x hx hby
    · obtain rfl := List.mem_singleton.mp hx
      exact h₆ k k' nonce n began b hne.symm hk hk'
  case single => exact fun k₁ k₂ n₁ n₂ hk₁ hk₂ => h₄ k₁ k₂ n₁ n₂ (hothers hk₁).2 (hothers hk₂).2
  case behind => exact fun k₁ k₂ n₁ n₂ b hk₁ hk₂ => h₅ k₁ k₂ n₁ n₂ b (hothers hk₁).2 (hothers hk₂).2
  case between =>
    exact fun k₁ k₂ n₁ n₂ b₁ b₂ hne hk₁ hk₂ => h₆ k₁ k₂ n₁ n₂ b₁ b₂ hne (hothers hk₁).2 (hothers hk₂).2

lemma Sparse.step (happlies : settings.Applies conversation sender)
    (h : Sparse settings conversation sender s) (hok : Alone settings s event)
    (hs : Step settings s event s') : Sparse settings conversation sender s' := by
  cases hs with
  | tick elapsed => exact h.tick elapsed
  | ask => exact h.setSend (by simp) (by simp)
  | drop => exact h.setSend (by simp) (by simp)
  | announce m hm => exact h.post fun hby => by simp [hby.2.2] at hm
  | @check k c u nonce hk hpasses =>
    by_cases hown : c = conversation ∧ u = sender
    · obtain ⟨rfl, rfl⟩ := hown
      obtain ⟨hnone, hbegun⟩ := hok c u nonce hk happlies
      exact h.check happlies hpasses hnone hbegun
    · exact h.setSend (by grind) (by simp)
  | @begin k c u nonce hk =>
    by_cases hown : c = conversation ∧ u = sender
    · obtain ⟨rfl, rfl⟩ := hown
      exact h.begin hk
    · exact h.setSend (by simp) (by grind)
  | @commit k c u nonce began hk hnonce =>
    by_cases hown : c = conversation ∧ u = sender
    · obtain ⟨rfl, rfl⟩ := hown
      exact h.commit hk
    · exact (h.post fun hby => hown ⟨hby.1, hby.2.1⟩).setSend (by simp) (by simp)

/-- In every run whose checks see all that the member has under way, any two messages of a member
to a conversation whose slow mode applies are the slow mode apart. -/
theorem run_apart {clock : Time} (happlies : settings.Applies conversation sender)
    (h : RunWhere (Step settings) (Alone settings) (.opened clock) s) :
    s.messages.Pairwise fun m m' => m.By conversation sender → m'.By conversation sender →
      Apart settings conversation m.createdAt m'.createdAt := by
  have hstart : Sparse settings conversation sender (.opened clock) := by
    constructor <;> simp [State.opened]
  exact (h.invariant hstart fun _ _ _ hinv hok hs => hinv.step happlies hok hs).posted

end

/-- Ten seconds between the messages of whoever does not manage the conversation. -/
def tenSeconds : Settings := ⟨fun _ => 10, fun _ _ => false⟩

lemma tenSeconds_applies : tenSeconds.Applies 1 2 := ⟨by decide, rfl⟩

/-- Two messages, ten seconds apart. -/
theorem run_apart_waited : ∃ s, RunWhere (Step tenSeconds) (Alone tenSeconds) (.opened 0) s ∧
    s.messages = [⟨1, 2, 0, false, 0⟩, ⟨1, 2, 1, false, 10000000⟩] ∧
    s.messages.Pairwise fun m m' => m.By 1 2 → m'.By 1 2 → Apart tenSeconds 1 m.createdAt m'.createdAt := by
  have hfirst : RunWhere (Step tenSeconds) (Alone tenSeconds) (.opened 0) _ :=
    ((((RunWhere.refl _).on (i := Event.ask 0 1 2 0) (.ask rfl (by decide)) trivial).on
      (i := Event.check 0) (.check rfl (by decide)) (by
        intro c u n hk _
        simp [State.opened, State.setSend, Function.update_apply])).on
      (i := Event.begin 0) (.begin rfl) trivial).on
      (i := Event.commit 0) (.commit rfl (by decide)) trivial
  have hsecond := ((((hfirst.on (i := Event.tick 10000000) (.tick _) trivial).on
    (i := Event.ask 1 1 2 1) (.ask rfl (by decide)) trivial).on
    (i := Event.check 1) (.check rfl (by decide)) (by
      intro c u n hk _
      simp [State.opened, State.setSend, State.post, Function.update_apply])).on
    (i := Event.begin 1) (.begin rfl) trivial).on
    (i := Event.commit 1) (.commit rfl (by decide)) trivial
  exact ⟨_, hsecond, by decide, run_apart tenSeconds_applies hsecond⟩

/-- Two devices at once: both sends are checked before either is posted, and two messages have the
same time. -/
theorem both_checked : ∃ s, RunWhere (Step tenSeconds) (fun _ _ => True) (.opened 0) s ∧
    tenSeconds.Applies 1 2 ∧ s.messages = [⟨1, 2, 0, false, 0⟩, ⟨1, 2, 1, false, 0⟩] ∧
    ¬s.messages.Pairwise fun m m' => m.By 1 2 → m'.By 1 2 →
      Apart tenSeconds 1 m.createdAt m'.createdAt := by
  have hchecked : RunWhere (Step tenSeconds) (fun _ _ => True) (.opened 0) _ :=
    ((((RunWhere.refl _).on (i := Event.ask 0 1 2 0) (.ask rfl (by decide)) trivial).on
      (i := Event.ask 1 1 2 1) (.ask rfl (by decide)) trivial).on
      (i := Event.check 0) (.check rfl (by decide)) trivial).on
      (i := Event.check 1) (.check rfl (by decide)) trivial
  have hposted := (((hchecked.on (i := Event.begin 0) (.begin rfl) trivial).on
    (i := Event.begin 1) (.begin rfl) trivial).on
    (i := Event.commit 0) (.commit rfl (by decide)) trivial).on
    (i := Event.commit 1) (.commit rfl (by decide)) trivial
  refine ⟨_, hposted, tenSeconds_applies, by decide, fun hall => ?_⟩
  have hapart := (List.pairwise_pair.mp hall) ⟨rfl, rfl, rfl⟩ ⟨rfl, rfl, rfl⟩
  exact absurd hapart (by decide)

end Yappy.SlowMode
