import Yappy.PermissionDatabase
import Yappy.Runs

/-!
# The history of usernames

`changeUsername` of `apps/api/src/lib/profile.ts`, by any number of accounts and any number of
calls at once. A call reads whether the name is taken, then the name the account has, and then
writes both the new name and the history row in one transaction, which takes effect when it
commits: it holds the account's row from its first statement on.
-/
namespace Yappy.Usernames
open Permissions (Uuid)

abbrev Name := List Char

/-- `citext` compares names in lower case. -/
def fold (name : Name) : Name := name.map Char.toLower

/-! ## Names -/

def usernameMin : ℕ := 3
def usernameMax : ℕ := 32

def reservedUsernames : List Name :=
  ["admin", "administrator", "support", "help", "yappy", "system", "root", "api", "me", "settings",
    "about", "legal", "privacy", "terms", "security", "billing", "moderator", "mod", "staff",
    "official", "everyone", "here", "null", "undefined"].map String.toList

/-- What `trim` takes off. -/
def isSpace (c : Char) : Bool :=
  9 ≤ c.toNat && c.toNat ≤ 13 || 0x2000 ≤ c.toNat && c.toNat ≤ 0x200A ||
    c.toNat ∈ [0x20, 0xA0, 0x1680, 0x2028, 0x2029, 0x202F, 0x205F, 0x3000, 0xFEFF]

def trim (text : List Char) : List Char := (text.dropWhile isSpace).rdropWhile isSpace

/-- `[a-z0-9]`, in either case. -/
def isAlnum (c : Char) : Bool :=
  'a' ≤ c && c ≤ 'z' || 'A' ≤ c && c ≤ 'Z' || '0' ≤ c && c ≤ '9'

/-- `/^[a-z0-9](?:[a-z0-9_.]*[a-z0-9])?$/i`. -/
def wellFormed (name : Name) : Bool :=
  name.head?.any isAlnum && name.getLast?.any isAlnum &&
    name.all fun c => isAlnum c || c = '_' || c = '.'

def repeatsSeparator : Name → Bool
  | c :: d :: rest => (c = d && (c = '.' || c = '_')) || repeatsSeparator (d :: rest)
  | _ => false

def parse (candidate : List Char) : Option Name :=
  let name := trim candidate
  if usernameMin ≤ name.length && name.length ≤ usernameMax && wellFormed name &&
    !repeatsSeparator name && !reservedUsernames.contains (fold name) then some name
  else none

/-! ## Accounts and calls -/

/-- The columns of `users` that matter here; `deleted` while `deleted_at` is set. -/
structure Account where
  username : Option Name
  deleted : Bool

structure HistoryRow where
  userId : Uuid
  username : Name
  replacedBy : Name

/-- A call under way: past `checkUsername`, or about to open its transaction with the name it has
read. -/
inductive Call
  | checked (user : Uuid) (next : Name) (available : Bool)
  | ready (user : Uuid) (current : Option Name) (next : Name)

/-- The tables, the calls, and the names each account has held, the latest last. -/
structure State where
  accounts : Uuid → Option Account
  history : List HistoryRow
  calls : ℕ → Option Call
  held : Uuid → List Name

namespace State
variable (s : State)

def Taken (name : Name) : Prop :=
  ∃ user account held, s.accounts user = some account ∧ account.deleted = false ∧
    account.username = some held ∧ fold held = fold name

/-- The partial unique index lets the account have the name. -/
def Free (user : Uuid) (account : Account) (name : Name) : Prop :=
  account.deleted = false → ∀ other account' held, other ≠ user → s.accounts other = some account' →
    account'.deleted = false → account'.username = some held → fold held ≠ fold name

def trail (user : Uuid) : List HistoryRow := s.history.filter (·.userId = user)

def setCall (k : ℕ) (call : Option Call) : State := { s with calls := Function.update s.calls k call }

def change (user : Uuid) (account : Account) (current : Option Name) (next : Name) : State :=
  { s with
    accounts := Function.update s.accounts user (some { account with username := some next })
    history := s.history ++ (current.map fun name => ⟨user, name, next⟩).toList
    held := Function.update s.held user (s.held user ++ [next]) }

end State

def unchanged (current : Option Name) (next : Name) : Bool := current.any fun name => fold name = fold next

inductive Event
  | check (k : ℕ) (user : Uuid) (candidate : List Char)
  | read (k : ℕ)
  /-- It ends there: no such account, the name it has, or one that is taken. -/
  | stop (k : ℕ)
  /-- The limiter refuses, or the transaction fails for a reason of its own. -/
  | refuse (k : ℕ)
  | change (k : ℕ)
  /-- `23505`. -/
  | clash (k : ℕ)

inductive Step : State → Event → State → Prop
  | check {s : State} {k : ℕ} {candidate : List Char} {next : Name} (user : Uuid) (available : Bool)
      (hcall : s.calls k = none) (hparse : parse candidate = some next)
      (hfree : available = true ↔ ¬s.Taken next) :
      Step s (.check k user candidate) (s.setCall k (some (.checked user next available)))
  | read {s : State} {k : ℕ} {user : Uuid} {next : Name} {account : Account}
      (hcall : s.calls k = some (.checked user next true)) (hrow : s.accounts user = some account)
      (hother : unchanged account.username next = false) :
      Step s (.read k) (s.setCall k (some (.ready user account.username next)))
  | stop {s : State} {k : ℕ} {user : Uuid} {next : Name} {available : Bool}
      (hcall : s.calls k = some (.checked user next available))
      (hends : s.accounts user = none ∨ available = false ∨
        ∃ account, s.accounts user = some account ∧ unchanged account.username next) :
      Step s (.stop k) (s.setCall k none)
  | refuse {s : State} (k : ℕ) : Step s (.refuse k) (s.setCall k none)
  | change {s : State} {k : ℕ} {user : Uuid} {current : Option Name} {next : Name} {account : Account}
      (hcall : s.calls k = some (.ready user current next)) (hrow : s.accounts user = some account)
      (hfree : s.Free user account next) :
      Step s (.change k) ((s.change user account current next).setCall k none)
  | clash {s : State} {k : ℕ} {user : Uuid} {current : Option Name} {next : Name} {account : Account}
      (hcall : s.calls k = some (.ready user current next)) (hrow : s.accounts user = some account)
      (hclash : ¬s.Free user account next) :
      Step s (.clash k) (s.setCall k none)

def State.opened (accounts : Uuid → Option Account) : State :=
  ⟨accounts, [], fun _ => none, fun user => ((accounts user).bind Account.username).toList⟩

/-- No two accounts that are not deleted hold the same name. -/
def Unique (s : State) : Prop :=
  ∀ user other account account' name name', s.accounts user = some account →
    s.accounts other = some account' → account.deleted = false → account'.deleted = false →
    account.username = some name → account'.username = some name' → fold name = fold name' → user = other

/-- The history has the names the account gave up, in order, each with the name that followed. -/
structure Recorded (s : State) (user : Uuid) (account : Account) : Prop where
  vacated : (s.trail user).map HistoryRow.username = (s.held user).dropLast
  followed : (s.trail user).map HistoryRow.replacedBy = (s.held user).tail
  latest : (s.held user).getLast? = account.username

/-- The transaction gives up the name that the call has read. -/
def Current (s : State) : Event → Prop
  | .change k => ∀ user current next account, s.calls k = some (.ready user current next) →
      s.accounts user = some account → account.username = current
  | _ => True

section
variable {s s' : State} {event : Event} {user other : Uuid} {account : Account} {name : Name}
  {accounts : Uuid → Option Account}

lemma change_unique (current : Option Name) (h : Unique s) (hrow : s.accounts user = some account)
    (hfree : s.Free user account name) : Unique (s.change user account current name) := by
  intro u v a b n n' ha hb hna hnb hn hn' hfold
  by_cases hu : u = user
  · by_cases hv : v = user
    · exact hu.trans hv.symm
    · -- the one that changed against one that did not
      subst hu
      obtain rfl : { account with username := some name } = a := by simpa [State.change] using ha
      obtain rfl : name = n := by simpa using hn
      have hb : s.accounts v = some b := by simpa [State.change, hv] using hb
      exact absurd hfold.symm (hfree hna v b n' hv hb hnb hn')
  · have hu' : s.accounts u = some a := by simpa [State.change, hu] using ha
    by_cases hv : v = user
    · subst hv
      obtain rfl : { account with username := some name } = b := by simpa [State.change] using hb
      obtain rfl : name = n' := by simpa using hn'
      exact absurd hfold (hfree hnb u a n hu hu' hna hn)
    · have hb : s.accounts v = some b := by simpa [State.change, hv] using hb
      exact h u v a b n n' hu' hb hna hnb hn hn' hfold

lemma step_unique (h : Unique s) (hs : Step s event s') : Unique s' := by
  cases hs with
  | check => exact h
  | read => exact h
  | stop => exact h
  | refuse => exact h
  | @change k user current next account _ hrow hfree => exact change_unique current h hrow hfree
  | clash => exact h

lemma change_recorded (h : Recorded s user account) :
    Recorded (s.change user account account.username name) user { account with username := some name } := by
  obtain ⟨hvacated, hfollowed, hlatest⟩ := h
  have hheld : (s.change user account account.username name).held user = s.held user ++ [name] := by
    simp [State.change]
  have htrail : (s.change user account account.username name).trail user =
      s.trail user ++ (account.username.map fun held => ⟨user, held, name⟩).toList := by
    cases account.username <;> simp [State.change, State.trail]
  cases hnames : (s.held user).getLast? with
  | none =>
    -- a first name follows nothing
    have hnil : s.held user = [] := List.getLast?_eq_none_iff.mp hnames
    have hnone : account.username = none := hlatest.symm.trans hnames
    have hempty : s.trail user = [] := by simpa [hnil] using hvacated
    have hsame : (s.change user account account.username name).trail user = [] := by
      rw [htrail, hnone, hempty]
      rfl
    constructor <;> simp [hsame, hheld, hnil]
  | some held =>
    have hname : account.username = some held := hlatest.symm.trans hnames
    have hlonger : (s.change user account account.username name).trail user =
        s.trail user ++ [⟨user, held, name⟩] := by
      rw [htrail, hname]
      rfl
    have hne : s.held user ≠ [] := by
      intro hnil
      simp [hnil] at hnames
    have hlast : (s.held user).dropLast ++ [held] = s.held user :=
      List.dropLast_append_getLast? held hnames
    refine ⟨?_, ?_, by simp [hheld]⟩
    · rw [hlonger, hheld, List.dropLast_concat, List.map_append, hvacated]
      exact hlast
    · rw [hlonger, hheld, List.map_append, hfollowed, List.tail_append_of_ne_nil hne]
      rfl

lemma change_recorded_other {current : Option Name} {account' : Account} (hne : other ≠ user)
    (h : Recorded s other account') : Recorded (s.change user account current name) other account' := by
  have hheld : (s.change user account current name).held other = s.held other := by
    simp [State.change, hne]
  have htrail : (s.change user account current name).trail other = s.trail other := by
    cases current <;> simp [State.change, State.trail, hne.symm]
  exact ⟨by rw [htrail, hheld, h.vacated], by rw [htrail, hheld, h.followed], by rw [hheld, h.latest]⟩

lemma step_recorded (h : ∀ user account, s.accounts user = some account → Recorded s user account)
    (hok : Current s event) (hs : Step s event s') :
    ∀ user account, s'.accounts user = some account → Recorded s' user account := by
  have hsame : ∀ k call user account, s.accounts user = some account →
      Recorded (s.setCall k call) user account := fun k call user account hrow =>
    ⟨(h user account hrow).vacated, (h user account hrow).followed, (h user account hrow).latest⟩
  cases hs with
  | check => exact hsame _ _
  | read => exact hsame _ _
  | stop => exact hsame _ _
  | refuse => exact hsame _ _
  | clash => exact hsame _ _
  | @change k changed current next account hcall hrow hfree =>
    obtain rfl : account.username = current := hok changed current next account hcall hrow
    intro user after hafter
    have hrecorded : Recorded (s.change changed account account.username next) user after := by
      by_cases hu : user = changed
      · subst hu
        obtain rfl : { account with username := some next } = after := by
          simpa [State.change, State.setCall] using hafter
        exact change_recorded (h user account hrow)
      · have hbefore : s.accounts user = some after := by
          simpa [State.change, State.setCall, hu] using hafter
        exact change_recorded_other hu (h user after hbefore)
    exact ⟨hrecorded.vacated, hrecorded.followed, hrecorded.latest⟩

lemma opened_recorded (hrow : (State.opened accounts).accounts user = some account) :
    Recorded (State.opened accounts) user account := by
  have hheld : (State.opened accounts).held user = account.username.toList := by
    have hrow : accounts user = some account := hrow
    simp [State.opened, hrow]
  have htrail : (State.opened accounts).trail user = [] := rfl
  cases hname : account.username with
  | none => constructor <;> simp [hheld, htrail, hname]
  | some name => constructor <;> simp [hheld, htrail, hname]

/-- In every run no two accounts that are not deleted hold the same name. In every run whose
transactions give up the name their call has read, the history of an account is the sequence of
the names it has held apart from the last, each with the name that followed. -/
theorem run_recorded (h₀ : Unique (State.opened accounts)) :
    (∀ s, RunWhere Step (fun _ _ => True) (State.opened accounts) s → Unique s) ∧
      ∀ s, RunWhere Step Current (State.opened accounts) s → ∀ user account,
        s.accounts user = some account → Recorded s user account := by
  refine ⟨fun s h => h.invariant h₀ fun _ _ _ hinv _ hs => step_unique hinv hs, fun s h => ?_⟩
  exact h.invariant (fun user account hrow => opened_recorded hrow)
    fun _ _ _ hinv hok hs => step_recorded hinv hok hs

end

def ann : Uuid → Option Account := fun user => if user = 1 then some ⟨some "ann".toList, false⟩ else none

lemma ann_alone {s : State} (h : ∀ other ≠ 1, s.accounts other = none) (account : Account) (name : Name) :
    s.Free 1 account name := by
  intro _ other account' held hne hrow
  simp [h other hne] at hrow

lemma ann_unique : Unique (State.opened ann) := by
  have honly : ∀ user account, (State.opened ann).accounts user = some account → user = 1 := by
    intro user account hrow
    by_contra hne
    simp [State.opened, ann, hne] at hrow
  intro user other account account' _ _ hrow hrow' _ _ _ _ _
  exact (honly user account hrow).trans (honly other account' hrow').symm

lemma ann_available {name : Name} (h : fold "ann".toList ≠ fold name) :
    ¬(State.opened ann).Taken name := by
  rintro ⟨user, account, held, hrow, -, hheld, hfold⟩
  by_cases hu : user = 1
  · have hrow : some (⟨some "ann".toList, false⟩ : Account) = some account := by
      simpa [State.opened, ann, hu] using hrow
    obtain rfl := Option.some.inj hrow
    obtain rfl := Option.some.inj hheld
    exact h hfold
  · simp [State.opened, ann, hu] at hrow

/-- Ann becomes ben. -/
theorem run_recorded_once : ∃ s, RunWhere Step Current (State.opened ann) s ∧
    s.history = [⟨1, "ann".toList, "ben".toList⟩] ∧ Unique s ∧
    ∀ user account, s.accounts user = some account → Recorded s user account := by
  have hchecked := (RunWhere.refl (State.opened ann) : RunWhere Step Current _ _).on
    (i := Event.check 0 1 "ben".toList)
    (@Step.check _ _ _ "ben".toList 1 true rfl (by decide)
      (iff_of_true rfl (ann_available (by decide)))) trivial
  have hread := hchecked.on (i := Event.read 0) (.read rfl rfl (by decide)) trivial
  have hchanged := hread.on (i := Event.change 0)
    (.change rfl rfl (ann_alone (fun other hne => if_neg hne) _ _)) (by
      intro user current next account hcall hrow
      cases hcall
      cases hrow
      rfl)
  exact ⟨_, hchanged, rfl, (run_recorded ann_unique).1 _ (hchanged.mono fun _ _ _ => trivial),
    (run_recorded ann_unique).2 _ hchanged⟩

/-- Two calls at once, both having read ann: the account goes from ann to ben to cat, and the
history has ann twice and ben nowhere. -/
theorem calls_overlap : ∃ s, RunWhere Step (fun _ _ => True) (State.opened ann) s ∧
    s.held 1 = ["ann".toList, "ben".toList, "cat".toList] ∧
    (s.trail 1).map HistoryRow.username = ["ann".toList, "ann".toList] ∧
    ∃ account, s.accounts 1 = some account ∧ ¬Recorded s 1 account := by
  have hboth := ((RunWhere.refl (State.opened ann) : RunWhere Step (fun _ _ => True) _ _).on
    (i := Event.check 0 1 "ben".toList)
    (@Step.check _ _ _ "ben".toList 1 true rfl (by decide)
      (iff_of_true rfl (ann_available (by decide)))) trivial).on
    (i := Event.check 1 1 "cat".toList)
    (@Step.check _ _ _ "cat".toList 1 true rfl (by decide)
      (iff_of_true rfl (ann_available (by decide)))) trivial
  have hread := (hboth.on (i := Event.read 0) (.read rfl rfl (by decide)) trivial).on
    (i := Event.read 1) (.read rfl rfl (by decide)) trivial
  have halone : ∀ other ≠ 1, ann other = none := fun other hne => if_neg hne
  have hben := hread.on (i := Event.change 0) (.change rfl rfl (ann_alone halone _ _)) trivial
  have hcat := hben.on (i := Event.change 1) (.change rfl rfl (ann_alone (fun other hne => by
    simp [State.change, State.setCall, State.opened, hne, halone other hne]) _ _)) trivial
  refine ⟨_, hcat, rfl, rfl, _, rfl, fun h => ?_⟩
  exact absurd h.vacated (by decide)

end Yappy.Usernames
