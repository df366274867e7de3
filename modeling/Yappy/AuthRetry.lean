import Yappy.AuthRotation

/-!
# Refreshing at once, and again

One session whose clients refresh it, over and over and at the same time. The refresh token that was
returned last is accepted, as long as responses keep up with rotations.
-/
namespace Yappy.Auth

open Permissions (Time Uuid)

variable {Token Hash : Type} {env : Env Token Hash} {s s' : State Token Hash} {id : ℕ} {did : Uuid}
  {event : Event Token}

def State.lastReturned (s : State Token Hash) (did : Uuid) : Option Token :=
  (s.returned.find? fun x => x.2 = did).map Prod.fst

/-- The session's current token, or the one before within its grace. -/
def Device.Honours (env : Env Token Hash) (d : Device Hash) (token : Token) (now : Time) : Prop :=
  d.refreshTokenHash = some (env.hash token) ∨
    (d.previousRefreshTokenHash = some (env.hash token) ∧ d.withinGrace now = true)

/-- Nothing but refreshes happens; the clock does not run past the session, or past the grace of the
token returned last; a rotation has read that token as the current one; no retry comes too late; and
a response leaves while its token is current. -/
def KeepsUp (env : Env Token Hash) (did : Uuid) (s : State Token Hash) : Event Token → Prop
  | .tick now => ∀ token d, s.lastReturned did = some token → s.devices.find did = some d →
      d.refreshTokenExpiresAt.any (fun expires => expires < now) = false ∧ d.Honours env token now
  | .rotate id _ => ∀ token d epoch, s.requests id = some (.loaded token d epoch) → d.id = did →
      d.refreshTokenHash = (s.lastReturned did).map env.hash
  | .revoke id => ∀ d, s.requests id = some (.reused d) → d.id ≠ did
  | .answer id => ∀ next d, s.requests id = some (.answering did next) → s.devices.find did = some d →
      d.refreshTokenHash = some (env.hash next)
  | .abort _ | .refresh _ _ | .lookup _ | .lookupPrevious _ | .load _ => True
  | _ => False

/-- A session that is open, with the account in good standing. -/
structure Open (env : Env Token Hash) (did : Uuid) (s : State Token Hash) : Prop where
  account : ∃ epoch, s.account.check env s.clock = .ok epoch
  session : ∃ token d, s.lastReturned did = some token ∧ s.devices.find did = some d ∧
    d.check s.clock = .ok () ∧ d.Honours env token s.clock

/-! ## One step -/

lemma check_mono {account : Account} {now later : Time} {epoch : ℕ} (h : account.check env now = .ok epoch)
    (hle : now ≤ later) : account.check env later = .ok epoch := by
  unfold Account.check Account.assertNotSuspended at *
  split_ifs at h ⊢
  cases hs : account.suspendedUntil with
  | none =>
    rw [hs] at h
    exact h
  | some suspendedUntil =>
    rw [hs] at h
    dsimp only at h ⊢
    split_ifs at h ⊢ with hlater hnow
    · exact absurd (lt_of_le_of_lt hle hlater) hnow
    · exact h

lemma device_check_eq_ok {d : Device Hash} {now : Time} :
    d.check now = .ok () ↔
      d.revokedAt = none ∧ d.refreshTokenExpiresAt.any (fun expires => expires < now) = false := by
  unfold Device.check
  cases d.revokedAt with
  | some revokedAt => simp
  | none =>
    rw [if_neg (by simp)]
    cases d.refreshTokenExpiresAt.any (fun expires => expires < now) with
    | true => simp
    | false => simp

lemma Open.set (h : Open env did s) (id : ℕ) (phase : Option (Phase Token Hash)) : Open env did (s.set id phase) :=
  ⟨h.account, h.session⟩

lemma tick_open {now : Time} (h : Open env did s) (hle : s.clock ≤ now)
    (hok : KeepsUp env did s (.tick now)) : Open env did { s with clock := now } := by
  obtain ⟨epoch, haccount⟩ := h.account
  obtain ⟨token, d, hlast, hd, hcheck, -⟩ := h.session
  obtain ⟨hexpires, hhonours⟩ := hok token d hlast hd
  exact ⟨⟨epoch, check_mono haccount hle⟩, token, d, hlast, hd,
    device_check_eq_ok.mpr ⟨(device_check_eq_ok.mp hcheck).1, hexpires⟩, hhonours⟩

lemma rotate_open {token next : Token} {device : Device Hash} {epoch : ℕ} (h : Open env did s)
    (hr : s.requests id = some (.loaded token device epoch)) (hok : KeepsUp env did s (.rotate id next)) :
    Open env did (s.rotated env token next device epoch) := by
  obtain ⟨last, d, hlast, hd, hcheck, hhonours⟩ := h.session
  by_cases hid : device.id = did
  · have hread := hok token device epoch hr hid
    rw [hlast, Option.map_some] at hread
    have hkey := KeyedTable.find_key hd
    have hfind : (Devices.rotate s.devices device (env.hash next) env.refreshTokenTtl s.clock).find did =
        some (d.rotated device (env.hash next) env.refreshTokenTtl s.clock) := by
      rw [Devices.find_rotate, hd, Option.map_some, if_pos (hkey.trans hid.symm)]
    refine ⟨h.account, last, _, hlast, hfind, device_check_eq_ok.mpr ⟨(device_check_eq_ok.mp hcheck).1, ?_⟩,
      Or.inr ⟨hread, ?_⟩⟩
    · change decide (s.clock + env.refreshTokenTtl * 1000 < s.clock) = false
      exact decide_eq_false (Nat.not_lt.mpr (Nat.le_add_right ..))
    · change decide (s.clock < s.clock + refreshRetryGraceSeconds * 1000) = true
      exact decide_eq_true (Nat.lt_add_of_pos_right (by decide))
  · refine ⟨h.account, last, d, hlast, ?_, hcheck, hhonours⟩
    have hother : d.id ≠ device.id := fun he => hid (he.symm.trans (KeyedTable.find_key hd))
    change (Devices.rotate _ _ _ _ _).find did = _
    rw [Devices.find_rotate, hd, Option.map_some, if_neg hother]

lemma answer_open {other : Uuid} {next : Token} (h : Open env did s)
    (hr : s.requests id = some (.answering other next)) (hok : KeepsUp env did s (.answer id)) :
    Open env did (s.answered other next) := by
  obtain ⟨last, d, hlast, hd, hcheck, hhonours⟩ := h.session
  by_cases hid : other = did
  · subst hid
    refine ⟨h.account, next, d, ?_, hd, hcheck, Or.inl (hok next d hr hd)⟩
    unfold State.lastReturned State.answered
    rw [List.find?_cons_of_pos (by simp)]
    rfl
  · refine ⟨h.account, last, d, ?_, hd, hcheck, hhonours⟩
    unfold State.lastReturned State.answered
    rw [List.find?_cons_of_neg (by simp [hid])]
    exact hlast

lemma Valid.holder (h : Valid env s) (hhash : Function.Injective env.hash) {token : Token} {d d' : Device Hash}
    (htoken : (token, did) ∈ s.issued) (hd : s.devices.find did = some d) (hd' : d' ∈ s.devices.rows)
    (hholds : d'.Holds (env.hash token)) : d' = d := by
  obtain ⟨t, ht, heq⟩ := h.stored d' hd' _ hholds
  obtain rfl := hhash heq
  have hid : d'.id = did := h.once t _ _ ht htoken
  have hfind : s.devices.find d'.id = some d' := KeyedTable.find_eq_some.mpr ⟨hd', rfl⟩
  rw [hid, hd] at hfind
  exact (Option.some.inj hfind).symm

lemma proceed_accepts {token next : Token} {d : Device Hash} {epoch : ℕ} (hcheck : d.check s.clock = .ok ())
    (haccount : s.account.check env s.clock = .ok epoch) :
    ∃ response, (s.proceed env token next d).1 = .ok response := by
  unfold State.proceed State.checked
  rw [hcheck]
  dsimp only
  rw [haccount]
  exact ⟨_, rfl⟩

variable [DecidableEq Hash]

lemma step_open (h : Open env did s) (hok : KeepsUp env did s event) (hs : Step env s event s') :
    Open env did s' := by
  cases hs with
  | tick hle => exact tick_open h hle hok
  | rotate hr hfresh hfree => exact (rotate_open h hr hok).set _ _
  | @revoke id device hr hfree =>
    obtain ⟨last, d, hlast, hd, hcheck, hhonours⟩ := h.session
    have hother : d.id ≠ device.id := fun he => hok device hr (he.symm.trans (KeyedTable.find_key hd))
    have hfind : (Devices.revoke s.devices (fun d => d.id = device.id) s.clock).find did = some d := by
      rw [Devices.find_revoke, hd, Option.map_some, if_neg (by simpa using hother)]
    have hopen : Open env did { s with devices := Devices.revoke s.devices (fun d => d.id = device.id) s.clock } :=
      ⟨h.account, last, d, hlast, hfind, hcheck, hhonours⟩
    exact hopen.set id none
  | answer hr => exact (answer_open h hr hok).set _ _
  | abort => exact h.set _ _
  | refresh => exact h.set _ _
  | lookup => exact h.set _ _
  | lookupPrevious => exact h.set _ _
  | load => exact h.set _ _
  | password | change | signIn | share | issue | logoutAll | revokeAll | bump => exact hok.elim

/-! ## What is accepted -/

/-- Presented by itself, the token is exchanged for new ones. -/
def State.Accepted (env : Env Token Hash) (s : State Token Hash) (token : Token) : Prop :=
  ∀ next, ∃ response, (s.refresh env token next).1 = .ok response

lemma Open.accepted (h : Open env did s) (hvalid : Valid env s) (hhash : Function.Injective env.hash)
    {token : Token} (hlast : s.lastReturned did = some token) : s.Accepted env token := by
  obtain ⟨epoch, haccount⟩ := h.account
  obtain ⟨last, d, hlast', hd, hcheck, hhonours⟩ := h.session
  obtain rfl := Option.some.inj (hlast.symm.trans hlast')
  have hissued : (token, did) ∈ s.issued := by
    obtain ⟨x, hx, rfl⟩ := Option.map_eq_some_iff.mp hlast
    have hid : x.2 = did := by simpa using List.find?_some hx
    rw [← hid]
    exact hvalid.returned x (List.mem_of_find?_eq_some hx)
  have hrow : d ∈ s.devices.rows := (KeyedTable.find_eq_some.mp hd).1
  intro next
  unfold State.refresh State.looked
  cases hcurrent : Devices.byCurrent s.devices (env.hash token) with
  | some d' =>
    obtain ⟨hmem, hthis⟩ := byCurrent_some hcurrent
    obtain rfl := hvalid.holder hhash hissued hd hmem (Or.inl hthis)
    exact proceed_accepts hcheck haccount
  | none =>
    have hnot : d.refreshTokenHash ≠ some (env.hash token) := by
      have hall := List.find?_eq_none.mp hcurrent d hrow
      simpa using hall
    obtain ⟨hprevious, hgrace⟩ := hhonours.resolve_left hnot
    unfold State.lookedPrevious
    cases hp : Devices.byPrevious s.devices (env.hash token) with
    | none =>
      have hall := List.find?_eq_none.mp hp d hrow
      simp [hprevious] at hall
    | some d' =>
      obtain ⟨hmem, hthis⟩ := byPrevious_some hp
      obtain rfl := hvalid.holder hhash hissued hd hmem (Or.inr hthis)
      dsimp only
      rw [(device_check_eq_ok.mp hcheck).1, hgrace]
      exact proceed_accepts hcheck haccount

/-- The token returned last is accepted, in every run of refreshes in which the responses keep up. -/
theorem last_returned_accepted {account : Account} {clock : Time} {s₀ : State Token Hash}
    {ok : State Token Hash → Event Token → Prop} (hhash : Function.Injective env.hash)
    (hbefore : RunWhere (Step env) ok (State.registered account clock) s₀) (hopen : Open env did s₀)
    (hrun : RunWhere (Step env) (KeepsUp env did) s₀ s) {token : Token} (hlast : s.lastReturned did = some token) :
    s.Accepted env token := by
  have hvalid : Valid env s := run_valid (run_valid (registered_valid account clock) hbefore) hrun
  have hstill : Open env did s := hrun.invariant hopen fun _ _ _ hinv hok hs => step_open hinv hok hs
  exact hstill.accepted hvalid hhash hlast

/-- Only refreshes, with tokens that the server has as current or previous ones. -/
def Honest (env : Env Token Hash) (s : State Token Hash) : Event Token → Prop
  | .refresh _ token => ∃ d ∈ s.devices.rows, d.Holds (env.hash token)
  | .tick _ | .abort _ | .lookup _ | .lookupPrevious _ | .load _ | .rotate _ _ | .revoke _ | .answer _ => True
  | _ => False

lemma read_run {ok : State Token Hash → Event Token → Prop} {token : Token} {device : Device Hash} {epoch : ℕ}
    (hid : s.requests id = none) (hcurrent : Devices.byCurrent s.devices (env.hash token) = some device)
    (hchecked : s.checked env device = .ok epoch)
    (hok : ∀ s', s'.devices = s.devices → ok s' (.refresh id token) ∧ ok s' (.lookup id) ∧ ok s' (.load id)) :
    RunWhere (Step env) ok s (s.set id (some (.loaded token device epoch))) := by
  have hlookup : Step env (s.set id (some (.refreshing token))) (.lookup id) (s.set id (some (.found token device))) := by
    have h : Step env _ _ ((s.set id (some (.refreshing token))).set id
      (some ((s.set id (some (.refreshing token))).looked env token))) := .lookup (set_requests ..)
    rw [set_set] at h
    change Step env _ _ (s.set id (some (s.looked env token))) at h
    unfold State.looked at h
    rw [hcurrent] at h
    exact h
  have hload : Step env (s.set id (some (.found token device))) (.load id)
      (s.set id (some (.loaded token device epoch))) := by
    have h : Step env _ _ ((s.set id (some (.found token device))).set id
      ((State.checked env (s.set id (some (.found token device))) device).toOption.map (.loaded token device))) :=
      .load (set_requests ..)
    rw [set_set] at h
    change Step env _ _ (s.set id ((s.checked env device).toOption.map (.loaded token device))) at h
    rw [hchecked] at h
    exact h
  have hstarted : RunWhere (Step env) ok s (s.set id (some (.refreshing token))) :=
    (RunWhere.refl s).tail (hok s rfl).1 (.refresh hid)
  have hfound := hstarted.tail (hok (s.set id (some (.refreshing token))) rfl).2.1 hlookup
  exact hfound.tail (hok (s.set id (some (.found token device))) rfl).2.2 hload

namespace Sample

lemma signedIn_open : Open plain 7 signedIn :=
  ⟨⟨0, rfl⟩, 0, _, rfl, rfl, rfl, Or.inl rfl⟩

lemma signedIn_unlocked : ∀ did, ¬ signedIn.Locked did := by
  rintro did ⟨_, _, _, _, h, _⟩
  cases h

def issued : Device ℕ := ⟨7, some 0, none, none, some 2592000000, none⟩

def read : State ℕ ℕ := signedIn.set 0 (some (.loaded 0 issued 0))

def readTwice : State ℕ ℕ := read.set 1 (some (.loaded 0 issued 0))

lemma read_unlocked : ∀ did, ¬ read.Locked did :=
  set_unlocked signedIn_unlocked fun _ _ _ h => by cases h

lemma readTwice_unlocked : ∀ did, ¬ readTwice.Locked did :=
  set_unlocked read_unlocked fun _ _ _ h => by cases h

end Sample

open Sample

/-- One refresh. -/
theorem last_returned_accepted_once :
    ∃ s, RunWhere (Step plain) (KeepsUp plain 7) signedIn s ∧ s.lastReturned 7 = some 1 ∧ s.Accepted plain 1 := by
  have hread : RunWhere (Step plain) (KeepsUp plain 7) signedIn read :=
    read_run rfl rfl rfl fun _ _ => ⟨trivial, trivial, trivial⟩
  have hrotate : KeepsUp plain 7 read (.rotate 0 1) := by
    intro token d epoch hr _
    cases hr
    rfl
  have hrotated := hread.tail hrotate (.rotate rfl (by unfold State.Fresh; decide) (read_unlocked 7))
  have hanswer : KeepsUp plain 7 ((State.rotated plain read 0 1 issued 0).set 0 (some (.answering 7 1))) (.answer 0) := by
    intro next d hr hd
    cases hr
    cases hd
    rfl
  have hrun := hrotated.tail hanswer (.answer rfl)
  exact ⟨_, hrun, rfl, last_returned_accepted (fun _ _ h => h) signedIn_run signedIn_open hrun rfl⟩

/-- Two requests refresh at once, and the token that the first one brings is gone. -/
theorem overtaken_token_refused :
    ¬ ∀ (env : Env ℕ ℕ) (account : Account) (clock : Time) (s₀ s : State ℕ ℕ) (did : Uuid),
      Function.Injective env.hash → RunWhere (Step env) Anyhow (State.registered account clock) s₀ →
      Open env did s₀ → RunWhere (Step env) (Honest env) s₀ s →
      ∀ token, s.lastReturned did = some token → s.Accepted env token := by
  intro h
  have hholds : ∀ s : State ℕ ℕ, s.devices = signedIn.devices → ∀ id, Honest plain s (.refresh id 0) := by
    rintro s hs id
    refine ⟨issued, ?_, Or.inl rfl⟩
    rw [hs]
    exact List.mem_singleton.mpr rfl
  have hread : RunWhere (Step plain) (Honest plain) signedIn read :=
    read_run rfl rfl rfl fun s hs => ⟨hholds s hs 0, trivial, trivial⟩
  have htwice : RunWhere (Step plain) (Honest plain) read readTwice :=
    read_run rfl rfl rfl fun s hs => ⟨hholds s hs 1, trivial, trivial⟩
  have hrotates : ∀ (s : State ℕ ℕ) (id next : ℕ), Honest plain s (.rotate id next) := fun _ _ _ => trivial
  have hanswers : ∀ s : State ℕ ℕ, Honest plain s (.answer 0) := fun _ => trivial
  have hboth : RunWhere (Step plain) (Honest plain) signedIn readTwice := hread.trans htwice
  have hrotated := hboth.tail (hrotates _ 0 1)
    (.rotate rfl (by unfold State.Fresh; decide) (readTwice_unlocked 7))
  have hanswered := hrotated.tail (hanswers _) (.answer rfl)
  have hfreed : ∀ did, ¬ (readTwice.set 0 (some (.answering 7 1))).Locked did :=
    set_unlocked readTwice_unlocked fun _ _ _ h => by cases h
  have hfree : ∀ did, ¬ ((readTwice.set 0 (some (.answering 7 1))).set 0 none).Locked did :=
    set_unlocked hfreed fun _ _ _ h => by cases h
  have hovertaken := hanswered.tail (hrotates _ 1 2)
    (.rotate rfl (by unfold State.Fresh; decide) (hfree 7))
  obtain ⟨response, hresponse⟩ := h plain account 0 signedIn _ 7 (fun _ _ h => h) signedIn_run signedIn_open
    hovertaken 1 rfl 3
  cases hresponse

end Yappy.Auth
