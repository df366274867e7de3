import Yappy.KeyedTable
import Yappy.MessageMarkdown
import Yappy.PermissionDatabase
import Yappy.Runs

/-!
# The early-tester reward

`apps/api/src/lib/earlyclaim.ts`: slots of a treasury, who is told of one, and who is paid. Every statement is
atomic, and the statements of different calls interleave. Times are in milliseconds.
-/
namespace Yappy.EarlyClaims

open Markdown (Text trim)
open Permissions (Time Uuid)

inductive Status
  | reserved | submitted | paid | expired | cancelled
  deriving DecidableEq

def Status.holdsSlot : Status → Bool
  | .reserved | .submitted | .paid => true
  | .expired | .cancelled => false

def Status.isActive : Status → Bool
  | .reserved | .submitted => true
  | _ => false

/-- `EARLY_CLAIM`. -/
structure Reward where
  isOpen : Bool
  slots : ℕ
  amountUsd : ℕ
  answeredRequired : ℕ
  acceptedBugsRequired : ℕ
  reservationHours : ℕ

structure EarlyClaim where
  userId : Uuid
  status : Status
  walletAddress : Option Text
  amountUsd : ℕ
  expiresAt : Time
  submittedAt : Option Time
  confirmedAt : Option Time
  paidAt : Option Time
  txSignature : Option String
  deriving DecidableEq

abbrev Claims := KeyedTable EarlyClaim.userId

/-! ## Statements -/

section Statements
variable (claims : Claims) (userId : Uuid) (now : Time)

def expireStaleReservations : Claims :=
  claims.update (fun c => c.status = .reserved ∧ c.expiresAt < now) (fun c => { c with status := .expired })
    fun _ => rfl

def holders : List EarlyClaim := claims.rows.filter fun c => c.status.holdsSlot

def slotsTaken : ℕ := (holders claims).length

def submitAddress (walletAddress : Text) : Claims :=
  claims.update (fun c => c.userId = userId ∧ c.status.isActive)
    (fun c => { c with
      walletAddress := some (trim walletAddress), status := .reserved, submittedAt := some now,
      confirmedAt := none })
    fun _ => rfl

/-- The rows that `confirmClaimAddress` finds. -/
def confirmable (c : EarlyClaim) : Bool := c.userId = userId ∧ c.status.isActive ∧ c.walletAddress.isSome

def confirmClaimAddress : Claims :=
  claims.update (confirmable userId) (fun c => { c with status := .submitted, confirmedAt := some now }) fun _ => rfl

def markClaimPaid (txSignature : Option String) : Claims :=
  claims.update (fun c => c.userId = userId ∧ c.status = .submitted)
    (fun c => { c with status := .paid, paidAt := some now, txSignature := txSignature }) fun _ => rfl

/-- The row that `reserveSlot` inserts. -/
def reservation (r : Reward) (expiresAt : Time) : EarlyClaim :=
  { userId := userId, status := .reserved, walletAddress := none, amountUsd := r.amountUsd, expiresAt := expiresAt,
    submittedAt := none, confirmedAt := none, paidAt := none, txSignature := none }

/-- What `reserveSlot` does with its row when it comes too late. -/
def giveBack : Claims :=
  claims.update (fun c => c.userId = userId ∧ c.status = .reserved) (fun c => { c with status := .cancelled })
    fun _ => rfl

end Statements

/-! ## Calls of `reserveSlot` -/

/-- What `claimProgress` has read so far; its four reads run side by side. -/
structure Progress where
  answered : Option ℕ
  acceptedBugs : Option ℕ
  taken : Option ℕ
  claim : Option (Option EarlyClaim)
  deriving DecidableEq

def Progress.unread : Progress := ⟨none, none, none, none⟩

def Progress.complete (p : Progress) : Bool :=
  p.answered.isSome && p.acceptedBugs.isSome && p.taken.isSome && p.claim.isSome

def Progress.qualifies (r : Reward) (p : Progress) : Bool :=
  p.answered.any (r.answeredRequired ≤ ·) || p.acceptedBugs.any (r.acceptedBugsRequired ≤ ·)

/-- Whether `reserveSlot` goes on: qualified, without a claim, and slots left. -/
def Progress.passes (r : Reward) (p : Progress) : Bool :=
  p.qualifies r && p.claim == some none && p.taken.any fun taken => 0 < r.slots - taken

inductive Stage
  | sweeping
  | reading (progress : Progress)
  | inserting (expiresAt : Time)
  | counting (expiresAt : Time)
  | givingBack
  deriving DecidableEq

structure Call where
  userId : Uuid
  stage : Stage
  deriving DecidableEq

structure System where
  claims : Claims
  underway : List Call
  /-- Whom `reserveSlot` has answered with a slot. -/
  told : List Uuid
  promised : List Uuid

def System.empty : System := ⟨.empty, [], [], []⟩

def System.goes (s : System) (call : Call) (stage : Stage) : System :=
  { s with underway := ⟨call.userId, stage⟩ :: s.underway.erase call }

def System.ends (s : System) (call : Call) : System := { s with underway := s.underway.erase call }

inductive Event
  | reserveSlot (userId : Uuid)
  | sweep
  | callSweeps (userId : Uuid)
  | callReads (userId : Uuid)
  | callDecides (userId : Uuid)
  | callInserts (userId : Uuid)
  | callCounts (userId : Uuid)
  | callGivesBack (userId : Uuid)
  | callDies (userId : Uuid)
  | submitAddress (userId : Uuid) (walletAddress : Text)
  | confirmClaimAddress (userId : Uuid)
  | markClaimPaid (userId : Uuid) (txSignature : Option String)

inductive Step (r : Reward) : System → Time × Event → System → Prop
  | reserveSlot {s : System} {now : Time} (userId : Uuid) (h : r.isOpen) :
      Step r s (now, .reserveSlot userId) { s with underway := ⟨userId, .sweeping⟩ :: s.underway }
  | sweep {s : System} {now : Time} :
      Step r s (now, .sweep) { s with claims := expireStaleReservations s.claims now }
  | callSweeps {s : System} {now : Time} {userId : Uuid} (h : ⟨userId, .sweeping⟩ ∈ s.underway) :
      Step r s (now, .callSweeps userId)
        ({ s with claims := expireStaleReservations s.claims now }.goes ⟨userId, .sweeping⟩ (.reading .unread))
  | readAnswered {s : System} {now : Time} {userId : Uuid} {p : Progress} (h : ⟨userId, .reading p⟩ ∈ s.underway)
      (answered : ℕ) :
      Step r s (now, .callReads userId)
        (s.goes ⟨userId, .reading p⟩ (.reading { p with answered := some answered }))
  | readBugs {s : System} {now : Time} {userId : Uuid} {p : Progress} (h : ⟨userId, .reading p⟩ ∈ s.underway)
      (acceptedBugs : ℕ) :
      Step r s (now, .callReads userId)
        (s.goes ⟨userId, .reading p⟩ (.reading { p with acceptedBugs := some acceptedBugs }))
  | readTaken {s : System} {now : Time} {userId : Uuid} {p : Progress} (h : ⟨userId, .reading p⟩ ∈ s.underway) :
      Step r s (now, .callReads userId)
        (s.goes ⟨userId, .reading p⟩ (.reading { p with taken := some (slotsTaken s.claims) }))
  | readClaim {s : System} {now : Time} {userId : Uuid} {p : Progress} (h : ⟨userId, .reading p⟩ ∈ s.underway) :
      Step r s (now, .callReads userId)
        (s.goes ⟨userId, .reading p⟩ (.reading { p with claim := some (s.claims.find userId) }))
  | passes {s : System} {now : Time} {userId : Uuid} {p : Progress} (h : ⟨userId, .reading p⟩ ∈ s.underway)
      (hread : p.complete) (hp : p.passes r) :
      Step r s (now, .callDecides userId)
        (s.goes ⟨userId, .reading p⟩ (.inserting (now + r.reservationHours * 3600000)))
  | fails {s : System} {now : Time} {userId : Uuid} {p : Progress} (h : ⟨userId, .reading p⟩ ∈ s.underway)
      (hread : p.complete) (hp : ¬ p.passes r) :
      Step r s (now, .callDecides userId) (s.ends ⟨userId, .reading p⟩)
  | inserts {s : System} {now expiresAt : Time} {userId : Uuid} (h : ⟨userId, .inserting expiresAt⟩ ∈ s.underway)
      (hnew : s.claims.find userId = none) :
      Step r s (now, .callInserts userId)
        ({ s with claims := s.claims.insertIgnore (reservation userId r expiresAt) }.goes
          ⟨userId, .inserting expiresAt⟩ (.counting expiresAt))
  | refused {s : System} {now expiresAt : Time} {userId : Uuid} (h : ⟨userId, .inserting expiresAt⟩ ∈ s.underway)
      (hold : s.claims.find userId ≠ none) :
      Step r s (now, .callInserts userId) (s.ends ⟨userId, .inserting expiresAt⟩)
  | tells {s : System} {now expiresAt : Time} {userId : Uuid} (h : ⟨userId, .counting expiresAt⟩ ∈ s.underway)
      (hcount : slotsTaken s.claims ≤ r.slots) :
      Step r s (now, .callCounts userId)
        ({ s with told := userId :: s.told }.ends ⟨userId, .counting expiresAt⟩)
  | comesLate {s : System} {now expiresAt : Time} {userId : Uuid} (h : ⟨userId, .counting expiresAt⟩ ∈ s.underway)
      (hcount : r.slots < slotsTaken s.claims) :
      Step r s (now, .callCounts userId) (s.goes ⟨userId, .counting expiresAt⟩ .givingBack)
  | givesBack {s : System} {now : Time} {userId : Uuid} (h : ⟨userId, .givingBack⟩ ∈ s.underway) :
      Step r s (now, .callGivesBack userId)
        ({ s with claims := giveBack s.claims userId }.ends ⟨userId, .givingBack⟩)
  | dies {s : System} {now : Time} {call : Call} (h : call ∈ s.underway) :
      Step r s (now, .callDies call.userId) (s.ends call)
  | submitAddress {s : System} {now : Time} (userId : Uuid) (walletAddress : Text) :
      Step r s (now, .submitAddress userId walletAddress)
        { s with claims := submitAddress s.claims userId now walletAddress }
  | confirmClaimAddress {s : System} {now : Time} (userId : Uuid) :
      Step r s (now, .confirmClaimAddress userId)
        { s with
          claims := confirmClaimAddress s.claims userId now
          promised := (s.claims.rows.filter fun c => confirmable userId c ∧ now < c.expiresAt).map
            EarlyClaim.userId ++ s.promised }
  | markClaimPaid {s : System} {now : Time} (userId : Uuid) (txSignature : Option String) :
      Step r s (now, .markClaimPaid userId txSignature)
        { s with claims := markClaimPaid s.claims userId now txSignature }

/-! ## Who holds a slot -/

variable {r : Reward} {claims claims' : Claims} {s s' : System} {now : Time} {userId : Uuid} {c c' : EarlyClaim}

def holding (claims : Claims) : List Uuid := (holders claims).map EarlyClaim.userId

def System.toldHolding (s : System) : List Uuid := (holding s.claims).filter fun u => u ∈ s.told

lemma mem_holding : userId ∈ holding claims ↔ ∃ c ∈ claims.rows, c.userId = userId ∧ c.status.holdsSlot := by
  unfold holding holders
  simp only [List.mem_map, List.mem_filter]
  constructor
  · rintro ⟨c, ⟨hc, hs⟩, hid⟩
    exact ⟨c, hc, hid, hs⟩
  · rintro ⟨c, hc, hid, hs⟩
    exact ⟨c, ⟨hc, hs⟩, hid⟩

lemma holding_nodup : (holding claims).Nodup := claims.nodup.sublist (List.filter_sublist.map _)

lemma toldHolding_nodup : s.toldHolding.Nodup := holding_nodup.filter _

lemma length_holding : (holding claims).length = slotsTaken claims := List.length_map _

structure Keeps (claims claims' : Claims) : Prop where
  stays : ∀ userId, claims.find userId ≠ none → claims'.find userId ≠ none
  holding : ∀ userId ∈ holding claims', userId ∈ holding claims

lemma Keeps.refl (claims : Claims) : Keeps claims claims := ⟨fun _ h => h, fun _ h => h⟩

lemma keeps_update {p : EarlyClaim → Bool} {f : EarlyClaim → EarlyClaim} {hf : ∀ c, (f c).userId = c.userId}
    (h : ∀ c, p c → (f c).status.holdsSlot → c.status.holdsSlot) : Keeps claims (claims.update p f hf) where
  stays userId hstays := by
    rw [KeyedTable.find_update]
    exact fun he => hstays (Option.map_eq_none_iff.mp he)
  holding userId hin := by
    obtain ⟨c', hc', hid, hs⟩ := mem_holding.mp hin
    obtain ⟨c, hc, rfl⟩ := List.mem_map.mp hc'
    refine mem_holding.mpr ⟨c, hc, ?_⟩
    split_ifs at hid hs with hp
    · exact ⟨(hf c).symm.trans hid, h c hp hs⟩
    · exact ⟨hid, hs⟩

lemma keeps_sweep : Keeps claims (expireStaleReservations claims now) := keeps_update fun _ _ h => by cases h

lemma holdsSlot_of_active {status : Status} (h : status.isActive) : status.holdsSlot := by
  cases status <;> first | rfl | cases h

lemma keeps_submit {walletAddress : Text} : Keeps claims (submitAddress claims userId now walletAddress) :=
  keeps_update fun _ hp _ => holdsSlot_of_active (of_decide_eq_true hp).2

lemma keeps_confirm : Keeps claims (confirmClaimAddress claims userId now) :=
  keeps_update fun _ hp _ => holdsSlot_of_active (of_decide_eq_true hp).2.1

lemma keeps_paid {txSignature : Option String} : Keeps claims (markClaimPaid claims userId now txSignature) :=
  keeps_update fun c hp _ => by rw [(of_decide_eq_true hp).2]; rfl

lemma keeps_giveBack : Keeps claims (giveBack claims userId) := keeps_update fun _ _ h => by cases h

/-! ## No more slots are promised than there are -/

structure Honest (r : Reward) (s : System) : Prop where
  told : ∀ userId ∈ s.told, s.claims.find userId ≠ none
  counting : ∀ userId expiresAt, ⟨userId, .counting expiresAt⟩ ∈ s.underway → s.claims.find userId ≠ none
  bounded : s.toldHolding.length ≤ r.slots

lemma honest_empty : Honest r .empty where
  told := List.forall_mem_nil _
  counting _ _ h := absurd h List.not_mem_nil
  bounded := Nat.zero_le _

lemma toldHolding_length (h : ∀ userId ∈ s'.toldHolding, userId ∈ s.toldHolding) :
    s'.toldHolding.length ≤ s.toldHolding.length :=
  (List.subperm_of_subset toldHolding_nodup h).length_le

lemma Honest.keeps (hs : Honest r s) (h : Keeps s.claims claims') {underway : List Call}
    (hcalls : ∀ call ∈ underway, call ∈ s.underway ∨ ∀ expiresAt, call.stage ≠ .counting expiresAt)
    {promised : List Uuid} : Honest r ⟨claims', underway, s.told, promised⟩ where
  told userId hu := h.stays userId (hs.told userId hu)
  counting userId expiresAt hcall := by
    rcases hcalls _ hcall with hold | hne
    · exact h.stays userId (hs.counting userId expiresAt hold)
    · exact absurd rfl (hne expiresAt)
  bounded := by
    refine (toldHolding_length fun userId hu => ?_).trans hs.bounded
    obtain ⟨hin, htold⟩ := List.mem_filter.mp hu
    exact List.mem_filter.mpr ⟨h.holding userId hin, htold⟩

lemma Honest.ends (hs : Honest r s) (h : Keeps s.claims claims') {call : Call} :
    Honest r ({ s with claims := claims' }.ends call) :=
  hs.keeps h fun _ hcall => Or.inl (List.mem_of_mem_erase hcall)

lemma Honest.goes (hs : Honest r s) (h : Keeps s.claims claims') {call : Call} {stage : Stage}
    (hstage : ∀ expiresAt, stage ≠ .counting expiresAt) : Honest r ({ s with claims := claims' }.goes call stage) :=
  hs.keeps h fun call' hcall => by
    rcases List.mem_cons.mp hcall with rfl | hcall
    · exact Or.inr hstage
    · exact Or.inl (List.mem_of_mem_erase hcall)

lemma Step.honest {e : Event} (h : Step r s (now, e) s') (hs : Honest r s) : Honest r s' := by
  cases h with
  | reserveSlot userId h =>
    exact hs.keeps (.refl _) fun call hcall =>
      (List.mem_cons.mp hcall).symm.imp_right fun he _ => by rw [he]; exact nofun
  | sweep => exact hs.keeps keeps_sweep fun _ hcall => Or.inl hcall
  | callSweeps h => exact hs.goes keeps_sweep fun _ => nofun
  | readAnswered h answered => exact hs.goes (.refl _) fun _ => nofun
  | readBugs h acceptedBugs => exact hs.goes (.refl _) fun _ => nofun
  | readTaken h => exact hs.goes (.refl _) fun _ => nofun
  | readClaim h => exact hs.goes (.refl _) fun _ => nofun
  | passes h hread hp => exact hs.goes (.refl _) fun _ => nofun
  | fails h hread hp => exact hs.ends (.refl _)
  | @inserts _ expiresAt userId h hnew =>
    have hfind : ∀ k, (s.claims.insertIgnore (reservation userId r expiresAt)).find k ≠ none ↔
        k = userId ∨ s.claims.find k ≠ none := by
      intro k
      rw [KeyedTable.find_insertIgnore]
      change (if userId = k then _ else _) ≠ none ↔ _
      by_cases hk : userId = k
      · rw [if_pos hk]
        exact iff_of_true (Option.some_ne_none _) (Or.inl hk.symm)
      · rw [if_neg hk]
        exact (or_iff_right (Ne.symm hk)).symm
    constructor
    · exact fun k hk => (hfind k).mpr (Or.inr (hs.told k hk))
    · intro k t hcall
      rcases List.mem_cons.mp hcall with he | hcall
      · exact (hfind k).mpr (Or.inl (congrArg Call.userId he))
      · exact (hfind k).mpr (Or.inr (hs.counting k t (List.mem_of_mem_erase hcall)))
    · refine (toldHolding_length fun k hk => ?_).trans hs.bounded
      obtain ⟨hin, htold⟩ := List.mem_filter.mp hk
      refine List.mem_filter.mpr ⟨?_, htold⟩
      obtain ⟨c, hc, rfl, hslot⟩ := mem_holding.mp hin
      rcases KeyedTable.mem_insertIgnore hc with rfl | hc
      · exact absurd hnew (hs.told _ (of_decide_eq_true htold))
      · exact mem_holding.mpr ⟨c, hc, rfl, hslot⟩
  | refused h hold => exact hs.ends (.refl _)
  | @tells _ expiresAt userId h hcount =>
    constructor
    · intro k hk
      rcases List.mem_cons.mp hk with rfl | hk
      · exact hs.counting k expiresAt h
      · exact hs.told k hk
    · exact fun k t hcall => hs.counting k t (List.mem_of_mem_erase hcall)
    · calc _ ≤ (holding s.claims).length := List.length_filter_le _ _
        _ = slotsTaken s.claims := length_holding
        _ ≤ r.slots := hcount
  | comesLate h hcount => exact hs.goes (.refl _) fun _ => nofun
  | givesBack h => exact hs.ends keeps_giveBack
  | dies h => exact hs.ends (.refl _)
  | submitAddress userId walletAddress => exact hs.keeps keeps_submit fun _ hcall => Or.inl hcall
  | confirmClaimAddress userId => exact hs.keeps keeps_confirm fun _ hcall => Or.inl hcall
  | markClaimPaid userId txSignature => exact hs.keeps keeps_paid fun _ hcall => Or.inl hcall

/-! ## What is confirmed in time is paid -/

/-- No address is given for a claim that its owner has confirmed already. -/
def Meant (s : System) : Time × Event → Prop
  | (_, .submitAddress userId _) => ∀ c ∈ s.claims.rows, c.userId = userId → c.status ≠ .submitted
  | _ => True

def Settled (claims : Claims) (userId : Uuid) : Prop :=
  ∃ c ∈ claims.rows, c.userId = userId ∧ (c.status = .submitted ∨ c.status = .paid)

lemma Settled.update (h : Settled claims userId) {p : EarlyClaim → Bool} {f : EarlyClaim → EarlyClaim}
    {hf : ∀ c, (f c).userId = c.userId}
    (hp : ∀ c ∈ claims.rows, p c → c.userId = userId → c.status = .submitted ∨ c.status = .paid →
      (f c).status = .submitted ∨ (f c).status = .paid) : Settled (claims.update p f hf) userId := by
  obtain ⟨c, hc, hid, hstatus⟩ := h
  refine ⟨_, List.mem_map_of_mem hc, ?_⟩
  split_ifs with hpc
  · exact ⟨(hf c).trans hid, hp c hc hpc hid hstatus⟩
  · exact ⟨hid, hstatus⟩

lemma Settled.reserved (h : Settled claims userId) {p : EarlyClaim → Bool} {f : EarlyClaim → EarlyClaim}
    {hf : ∀ c, (f c).userId = c.userId} (hp : ∀ c, p c → c.status = .reserved) :
    Settled (claims.update p f hf) userId :=
  h.update fun c _ hpc _ hstatus => by
    rw [hp c hpc] at hstatus
    exact hstatus.elim nofun nofun

lemma Settled.giveBack {u : Uuid} (h : Settled claims userId) : Settled (giveBack claims u) userId :=
  h.reserved fun _ hp => (of_decide_eq_true hp).2

lemma Settled.confirm {u : Uuid} (h : Settled claims userId) : Settled (confirmClaimAddress claims u now) userId :=
  h.update fun _ _ _ _ _ => Or.inl rfl

lemma settled_confirm {u : Uuid} (hc : c ∈ claims.rows) (hp : confirmable u c) :
    Settled (confirmClaimAddress claims u now) c.userId := by
  refine ⟨_, List.mem_map_of_mem hc, ?_⟩
  rw [if_pos hp]
  exact ⟨rfl, Or.inl rfl⟩

lemma Settled.paid {u : Uuid} {txSignature : Option String} (h : Settled claims userId) :
    Settled (markClaimPaid claims u now txSignature) userId :=
  h.update fun _ _ _ _ _ => Or.inr rfl

lemma Settled.submit {u : Uuid} {walletAddress : Text} (h : Settled claims userId)
    (hmeant : ∀ c ∈ claims.rows, c.userId = u → c.status ≠ .submitted) :
    Settled (submitAddress claims u now walletAddress) userId :=
  h.update fun c hc hp _ hstatus => by
    obtain ⟨hid, hactive⟩ := of_decide_eq_true hp
    rcases hstatus with hstatus | hstatus
    · exact absurd hstatus (hmeant c hc hid)
    · rw [hstatus] at hactive
      cases hactive

lemma Step.settled {e : Event} (h : Step r s (now, e) s') (hmeant : Meant s (now, e))
    (hs : ∀ userId ∈ s.promised, Settled s.claims userId) : ∀ userId ∈ s'.promised, Settled s'.claims userId := by
  have hsweep : ∀ u ∈ s.promised, Settled (expireStaleReservations s.claims now) u := fun u hu =>
    (hs u hu).reserved fun _ hp => (of_decide_eq_true hp).1
  cases h with
  | reserveSlot userId h => exact hs
  | sweep => exact hsweep
  | callSweeps h => exact hsweep
  | readAnswered h answered => exact hs
  | readBugs h acceptedBugs => exact hs
  | readTaken h => exact hs
  | readClaim h => exact hs
  | passes h hread hp => exact hs
  | fails h hread hp => exact hs
  | inserts h hnew =>
    intro u hu
    obtain ⟨c, hc, hid⟩ := hs u hu
    refine ⟨c, ?_, hid⟩
    change c ∈ (s.claims.insertIgnore _).rows
    rw [KeyedTable.insertIgnore_rows hnew]
    exact List.mem_cons_of_mem _ hc
  | refused h hold => exact hs
  | tells h hcount => exact hs
  | comesLate h hcount => exact hs
  | givesBack h => exact fun u hu => (hs u hu).giveBack
  | dies h => exact hs
  | submitAddress userId walletAddress => exact fun u hu => (hs u hu).submit hmeant
  | confirmClaimAddress userId =>
    intro u hu
    rcases List.mem_append.mp hu with hu | hu
    · obtain ⟨c, hc, rfl⟩ := List.mem_map.mp hu
      obtain ⟨hc, hp⟩ := List.mem_filter.mp hc
      exact settled_confirm hc (of_decide_eq_true hp).1
    · exact (hs u hu).confirm
  | markClaimPaid userId txSignature => exact fun u hu => (hs u hu).paid

/-- In every run slots are promised to no more people than there are; in one whose owners leave a confirmed
address alone, whoever has confirmed in time keeps the claim. -/
theorem run_honest : (RunWhere (Step r) (fun _ _ => True) .empty s → s.toldHolding.length ≤ r.slots) ∧
    (RunWhere (Step r) Meant .empty s → ∀ userId ∈ s.promised, userId ∈ holding s.claims) := by
  constructor
  · intro hrun
    exact (hrun.invariant honest_empty fun _ _ _ hs _ hstep => hstep.honest hs).bounded
  · intro hrun userId hu
    have hsettled : ∀ u ∈ s.promised, Settled s.claims u :=
      hrun.invariant (List.forall_mem_nil _) fun _ _ _ hs hok hstep => hstep.settled hok hs
    obtain ⟨c, hc, hid, hstatus⟩ := hsettled userId hu
    refine mem_holding.mpr ⟨c, hc, hid, ?_⟩
    rcases hstatus with hstatus | hstatus <;> rw [hstatus] <;> rfl

def lone (claim : Option EarlyClaim) (underway : List Call) (told promised : List Uuid) : System where
  claims := ⟨claim.toList, by cases claim <;> simp⟩
  underway := underway
  told := told
  promised := promised

def reading (p : Progress) : System := lone none [⟨1, .reading p⟩] [] []

def reward : Reward := ⟨true, 3, 20, 20, 1, 72⟩

def hours (n : ℕ) : Time := n * 3600000

def first (status : Status) (submittedAt confirmedAt : Option Time) : EarlyClaim :=
  { userId := 1, status := status, walletAddress := submittedAt.map fun _ => [49], amountUsd := 20,
    expiresAt := hours 72, submittedAt := submittedAt, confirmedAt := confirmedAt, paidAt := none,
    txSignature := none }

def confirmed : System := lone (some (first .submitted (some (hours 1)) (some (hours 2)))) [] [1] [1]

lemma confirmed_reachable : RunWhere (Step reward) Meant .empty confirmed := by
  have hasked : RunWhere (Step reward) Meant .empty (lone none [⟨1, .sweeping⟩] [] []) :=
    (RunWhere.refl _).on (.reserveSlot 1 rfl : Step reward .empty (0, _) _) trivial
  have hswept : RunWhere (Step reward) Meant .empty (reading ⟨none, none, none, none⟩) :=
    hasked.on (.callSweeps List.mem_cons_self : Step reward _ (0, .callSweeps 1) _) trivial
  have hanswered : RunWhere (Step reward) Meant .empty (reading ⟨some 25, none, none, none⟩) :=
    hswept.on (.readAnswered (p := ⟨none, none, none, none⟩) List.mem_cons_self 25 :
      Step reward (reading _) (0, .callReads 1) _) trivial
  have hbugs : RunWhere (Step reward) Meant .empty (reading ⟨some 25, some 0, none, none⟩) :=
    hanswered.on (.readBugs (p := ⟨some 25, none, none, none⟩) List.mem_cons_self 0 :
      Step reward (reading _) (0, .callReads 1) _) trivial
  have htaken : RunWhere (Step reward) Meant .empty (reading ⟨some 25, some 0, some 0, none⟩) :=
    hbugs.on (.readTaken (p := ⟨some 25, some 0, none, none⟩) List.mem_cons_self :
      Step reward (reading _) (0, .callReads 1) _) trivial
  have hclaim : RunWhere (Step reward) Meant .empty (reading ⟨some 25, some 0, some 0, some none⟩) :=
    htaken.on (.readClaim (p := ⟨some 25, some 0, some 0, none⟩) List.mem_cons_self :
      Step reward (reading _) (0, .callReads 1) _) trivial
  have hpassed : RunWhere (Step reward) Meant .empty (lone none [⟨1, .inserting (hours 72)⟩] [] []) :=
    hclaim.on (.passes (p := ⟨some 25, some 0, some 0, some none⟩) List.mem_cons_self rfl rfl :
      Step reward (reading _) (0, .callDecides 1) _) trivial
  have hinserted : RunWhere (Step reward) Meant .empty
      (lone (some (first .reserved none none)) [⟨1, .counting (hours 72)⟩] [] []) :=
    hpassed.on (.inserts List.mem_cons_self rfl : Step reward _ (0, .callInserts 1) _) trivial
  have hcount : slotsTaken
      (lone (some (first .reserved none none)) [⟨1, .counting (hours 72)⟩] [] []).claims ≤ reward.slots := by decide
  have htold : RunWhere (Step reward) Meant .empty (lone (some (first .reserved none none)) [] [1] []) :=
    hinserted.on (.tells List.mem_cons_self hcount : Step reward (lone _ _ _ _) (0, .callCounts 1) _) trivial
  have hsubmitted : RunWhere (Step reward) Meant .empty
      (lone (some (first .reserved (some (hours 1)) none)) [] [1] []) :=
    htold.on (.submitAddress 1 [49] : Step reward _ (hours 1, .submitAddress 1 [49]) _)
      (List.forall_mem_singleton.mpr fun _ => nofun)
  exact hsubmitted.on (.confirmClaimAddress 1 : Step reward _ (hours 2, .confirmClaimAddress 1) confirmed) trivial

theorem run_honest_confirmed : confirmed.toldHolding.length ≤ 3 ∧ 1 ∈ holding confirmed.claims :=
  ⟨(@run_honest reward confirmed).1 (confirmed_reachable.mono fun _ _ _ => trivial),
    (@run_honest reward confirmed).2 confirmed_reachable 1 (by decide)⟩

/-- The owner gives another address after confirming one, and the reservation runs out before it is confirmed. -/
theorem corrected_claim_expires : ¬ ∀ r s, RunWhere (Step r) (fun _ _ => True) .empty s →
    s.toldHolding.length ≤ r.slots ∧ ∀ userId ∈ s.promised, userId ∈ holding s.claims := by
  intro h
  have hconfirmed : RunWhere (Step reward) (fun _ _ => True) .empty confirmed :=
    confirmed_reachable.mono fun _ _ _ => trivial
  have hcorrected : RunWhere (Step reward) (fun _ _ => True) .empty
      (lone (some (first .reserved (some (hours 71)) none)) [] [1] [1]) :=
    hconfirmed.on (.submitAddress 1 [49] : Step reward _ (hours 71, .submitAddress 1 [49]) _) trivial
  have hexpired : RunWhere (Step reward) (fun _ _ => True) .empty
      (lone (some (first .expired (some (hours 71)) none)) [] [1] [1]) :=
    hcorrected.on (.sweep : Step reward _ (hours 73, .sweep) _) trivial
  exact absurd ((h _ _ hexpired).2 1 (by decide)) (by decide)

end Yappy.EarlyClaims
