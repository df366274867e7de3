import Yappy.KeyedTable
import Yappy.PermissionDatabase
import Yappy.Runs

/-!
# Verification codes

`issueCode` and `consumeCode` of `apps/api/src/lib/codes.ts` over `otp_challenges`, and the sweep of
that table in `apps/worker/src/jobs/maintenance.ts`. Every statement is atomic at READ COMMITTED: an
update finds its rows when it begins, waits for those that are locked, and then looks at these rows
again. Times are in milliseconds.
-/
namespace Yappy.Codes

open Permissions (Time Uuid)

inductive CodePurpose
  | emailVerify | passwordReset
  deriving DecidableEq

/-- What the rows of one address and purpose have in common. -/
structure Subject where
  identifier : String
  purpose : CodePurpose
  deriving DecidableEq

structure Challenge where
  id : Uuid
  subject : Subject
  channel : String
  codeHash : String
  attempts : ℕ
  maxAttempts : ℕ
  consumedAt : Option Time
  expiresAt : Time
  requestIp : Option String
  createdAt : Time

inductive CodeResult
  | ok | invalid | expired | tooManyAttempts

def codeTtlMinutes : ℕ := 15

def maxAttempts : ℕ := 5

abbrev Challenges := KeyedTable Challenge.id

namespace Challenge
variable (c : Challenge)

def Unconsumed : Prop := c.consumedAt = none

instance : Decidable c.Unconsumed := inferInstanceAs (Decidable (_ = _))

def issued (id : Uuid) (subject : Subject) (codeHash : String) (requestIp : Option String)
    (now began : Time) : Challenge where
  id := id
  subject := subject
  channel := "email"
  codeHash := codeHash
  attempts := 0
  maxAttempts := Codes.maxAttempts
  consumedAt := none
  expiresAt := now + codeTtlMinutes * 60000
  requestIp := requestIp
  createdAt := began

/-- The wrong guess that found the row as `read` is counted, and the last one ends the challenge. -/
def counted (read : Challenge) (now : Time) : Challenge :=
  { c with
    attempts := read.attempts + 1
    consumedAt := if read.attempts + 1 ≥ read.maxAttempts then some now else c.consumedAt }

lemma counted_id (read : Challenge) (now : Time) : (c.counted read now).id = c.id := rfl

def consumed (now : Time) : Challenge := { c with consumedAt := some now }

lemma consumed_id (now : Time) : (c.consumed now).id = c.id := rfl

def refusal : CodeResult := if c.attempts + 1 ≥ c.maxAttempts then .tooManyAttempts else .invalid

/-- Why `consumeCode` does not look at the guess, if so. -/
def refused (now : Time) : Option CodeResult :=
  if c.expiresAt < now then some .expired
  else if c.attempts ≥ c.maxAttempts then some .tooManyAttempts
  else none

end Challenge

inductive Call
  | issuing (subject : Subject) (code : String) (requestIp : Option String)
  | invalidating (subject : Subject) (code : String) (requestIp : Option String) (began : Time)
      (found : List Uuid)
  /-- And has consumed those that were still unconsumed, at `now`. -/
  | invalidated (subject : Subject) (code : String) (requestIp : Option String) (began : Time)
      (marked : List Uuid) (now : Time)
  | guessing (subject : Subject) (code : String)
  | wrong (read : Challenge)
  | right (read : Challenge)
  | answered (result : CodeResult)

structure State where
  challenges : Challenges
  clock : Time
  calls : ℕ → Option Call
  issued : List Uuid
  /-- How many guesses were compared with the challenge and found wrong. -/
  wrong : Uuid → ℕ
  accepted : List Uuid

inductive Event
  | tick (now : Time)
  | issue (call : ℕ) (subject : Subject) (code : String) (requestIp : Option String)
  | begin (call : ℕ)
  | invalidate (call : ℕ)
  | insert (call : ℕ) (id : Uuid)
  | guess (call : ℕ) (subject : Subject) (code : String)
  | read (call : ℕ) (found : Option Challenge)
  | count (call : ℕ)
  | consume (call : ℕ)
  | abort (call : ℕ)
  | sweep

namespace State

def start (clock : Time) : State := ⟨.empty, clock, fun _ => none, [], fun _ => 0, []⟩

/-- What both `where` clauses ask for. -/
def live (s : State) (subject : Subject) : List Challenge :=
  s.challenges.rows.filter fun c => c.subject = subject ∧ c.Unconsumed

def Locked (s : State) (id : Uuid) : Prop :=
  ∃ call subject code ip began marked now,
    s.calls call = some (.invalidated subject code ip began marked now) ∧ id ∈ marked

/-- `order by created_at desc limit 1` -/
def Latest (s : State) (subject : Subject) : Option Challenge → Prop
  | none => s.live subject = []
  | some c => c ∈ s.live subject ∧ ∀ c' ∈ s.live subject, c'.createdAt ≤ c.createdAt

def set (s : State) (call : ℕ) (c : Call) : State :=
  { s with calls := Function.update s.calls call (some c) }

def unconsumed (s : State) (found : List Uuid) : List Uuid :=
  found.filter fun id => (s.challenges.find id).any fun c => c.Unconsumed

def inserted (s : State) (marked : List Uuid) (now : Time) (c : Challenge) : State :=
  { s with
    challenges := KeyedTable.insertIgnore
      (s.challenges.update (fun c => c.id ∈ marked) (fun c => c.consumed now)
        fun c => c.consumed_id now) c
    issued := c.id :: s.issued }

def compared (s : State) (hashToken : String → String) (call : ℕ) (c : Challenge) (code : String) :
    State :=
  match c.refused s.clock with
  | some result => s.set call (.answered result)
  | none =>
    if c.codeHash ≠ hashToken code then
      { s.set call (.wrong c) with wrong := Function.update s.wrong c.id (s.wrong c.id + 1) }
    else s.set call (.right c)

def counted (s : State) (read : Challenge) : State :=
  { s with
    challenges := s.challenges.update (fun c => c.id = read.id) (fun c => c.counted read s.clock)
      fun c => c.counted_id read s.clock }

def consumed (s : State) (call : ℕ) (read : Challenge) : State :=
  if (s.challenges.find read.id).any fun c => c.Unconsumed then
    { s.set call (.answered .ok) with
      challenges := s.challenges.update (fun c => c.id = read.id ∧ c.Unconsumed)
        (fun c => c.consumed s.clock) fun c => c.consumed_id s.clock
      accepted := read.id :: s.accepted }
  else s.set call (.answered .invalid)

end State

def day : Time := 24 * 60 * 60000

inductive Step (hashToken : String → String) : State → Event → State → Prop
  | tick {s : State} {now : Time} (h : s.clock ≤ now) :
      Step hashToken s (.tick now) { s with clock := now }
  | issue {s : State} {call : ℕ} {subject : Subject} {code : String} {ip : Option String}
      (h : s.calls call = none) :
      Step hashToken s (.issue call subject code ip) (s.set call (.issuing subject code ip))
  | begin {s : State} {call : ℕ} {subject : Subject} {code : String} {ip : Option String}
      (h : s.calls call = some (.issuing subject code ip)) :
      Step hashToken s (.begin call) (s.set call (.invalidating subject code ip s.clock
        ((s.live subject).map Challenge.id)))
  | invalidate {s : State} {call : ℕ} {subject : Subject} {code : String} {ip : Option String}
      {began : Time} {found : List Uuid}
      (h : s.calls call = some (.invalidating subject code ip began found))
      (hfree : ∀ id ∈ found, ¬ s.Locked id) :
      Step hashToken s (.invalidate call)
        (s.set call (.invalidated subject code ip began (s.unconsumed found) s.clock))
  | insert {s : State} {call : ℕ} {id : Uuid} {subject : Subject} {code : String} {ip : Option String}
      {began now : Time} {marked : List Uuid}
      (h : s.calls call = some (.invalidated subject code ip began marked now)) (hid : id ∉ s.issued) :
      Step hashToken s (.insert call id)
        { s.inserted marked now (.issued id subject (hashToken code) ip s.clock began) with
          calls := Function.update s.calls call none }
  | guess {s : State} {call : ℕ} {subject : Subject} {code : String} (h : s.calls call = none) :
      Step hashToken s (.guess call subject code) (s.set call (.guessing subject code))
  | miss {s : State} {call : ℕ} {subject : Subject} {code : String}
      (h : s.calls call = some (.guessing subject code)) (hnone : s.Latest subject none) :
      Step hashToken s (.read call none) (s.set call (.answered .invalid))
  | read {s : State} {call : ℕ} {subject : Subject} {code : String} {c : Challenge}
      (h : s.calls call = some (.guessing subject code)) (hlatest : s.Latest subject (some c)) :
      Step hashToken s (.read call (some c)) (s.compared hashToken call c code)
  | count {s : State} {call : ℕ} {read : Challenge} (h : s.calls call = some (.wrong read))
      (hfree : ¬ s.Locked read.id) :
      Step hashToken s (.count call) ((s.counted read).set call (.answered read.refusal))
  | consume {s : State} {call : ℕ} {read : Challenge} (h : s.calls call = some (.right read))
      (hfree : ¬ s.Locked read.id) :
      Step hashToken s (.consume call) (s.consumed call read)
  | abort {s : State} {call : ℕ} :
      Step hashToken s (.abort call) { s with calls := Function.update s.calls call none }
  | sweep {s : State} (hfree : ∀ c ∈ s.challenges.rows, c.expiresAt + day < s.clock → ¬ s.Locked c.id) :
      Step hashToken s .sweep
        { s with challenges := s.challenges.delete fun c => c.expiresAt + day < s.clock }

/-- A wrong guess at the challenge that is not counted yet. -/
def State.Counting (s : State) (id : Uuid) : Prop :=
  ∃ call read, s.calls call = some (.wrong read) ∧ read.id = id

section
variable {hashToken : String → String} {subject : Subject} {s s' : State} {event : Event} {call : ℕ}

/-! ## The rows after each statement -/

lemma mem_live {c : Challenge} :
    c ∈ s.live subject ↔ s.challenges.find c.id = some c ∧ c.subject = subject ∧ c.Unconsumed := by
  unfold State.live
  rw [List.mem_filter, KeyedTable.find_eq_some, decide_eq_true_eq]
  tauto

lemma set_calls (s : State) (call other : ℕ) (c : Call) :
    (s.set call c).calls other = if other = call then some c else s.calls other := by
  simp only [State.set, Function.update_apply]

lemma find_inserted {marked : List Uuid} {now : Time} {c : Challenge}
    (hid : s.challenges.find c.id = none) (id : Uuid) :
    (s.inserted marked now c).challenges.find id =
      if c.id = id then some c
      else (s.challenges.find id).map fun d => if d.id ∈ marked then d.consumed now else d := by
  unfold State.inserted
  dsimp only
  rw [KeyedTable.find_insertIgnore, KeyedTable.find_update]
  by_cases he : c.id = id
  · subst he
    simp [hid]
  · simp [he]

structure Bounded (subject : Subject) (s : State) : Prop where
  one : ∀ c c', s.challenges.find c.id = some c → s.challenges.find c'.id = some c' →
    c.subject = subject → c'.subject = subject → c.Unconsumed → c'.Unconsumed → c.id = c'.id
  known : ∀ id c, s.challenges.find id = some c → id ∈ s.issued
  fresh : ∀ id, id ∉ s.issued → s.wrong id = 0 ∧ ¬ s.Counting id
  reads : ∀ call read c, s.calls call = some (.wrong read) → s.challenges.find read.id = some c →
    read.subject = c.subject ∧ read.maxAttempts = c.maxAttempts
  limit : ∀ id c, s.challenges.find id = some c → c.maxAttempts = maxAttempts
  quiet : ∀ id c, s.challenges.find id = some c → c.subject = subject → ¬ s.Counting id →
    s.wrong id = c.attempts ∧ c.attempts ≤ maxAttempts
  counting : ∀ call read c, s.calls call = some (.wrong read) → s.challenges.find read.id = some c →
    c.subject = subject → s.wrong read.id = c.attempts + 1 ∧ read.attempts = c.attempts ∧
      c.attempts < maxAttempts
  alone : ∀ call call' read read' c, s.calls call = some (.wrong read) →
    s.calls call' = some (.wrong read') → read.id = read'.id → s.challenges.find read.id = some c →
    c.subject = subject → call = call'
  spent : ∀ id ∈ s.accepted, id ∈ s.issued ∧
    ∀ c, s.challenges.find id = some c → ¬ c.Unconsumed
  once : s.accepted.Nodup

lemma Bounded.calls (h : Bounded subject s) (hchallenges : s'.challenges = s.challenges)
    (hissued : s'.issued = s.issued) (hwrong : s'.wrong = s.wrong) (haccepted : s'.accepted = s.accepted)
    (hold : ∀ call read, s'.calls call = some (.wrong read) → s.calls call = some (.wrong read))
    (hkept : ∀ call read, s.calls call = some (.wrong read) → read.subject = subject →
      s'.calls call = some (.wrong read)) : Bounded subject s' := by
  have hcounting : ∀ id, s'.Counting id → s.Counting id := by
    rintro id ⟨call, read, hcall, he⟩
    exact ⟨call, read, hold call read hcall, he⟩
  have hagain : ∀ id c, s.challenges.find id = some c → c.subject = subject → s.Counting id →
      s'.Counting id := by
    rintro id c hc hsub ⟨call, read, hcall, rfl⟩
    exact ⟨call, read, hkept call read hcall ((h.reads call read c hcall hc).1.trans hsub), rfl⟩
  constructor
  · rw [hchallenges]
    exact h.one
  · rw [hchallenges, hissued]
    exact h.known
  · rw [hissued, hwrong]
    exact fun id hid => ⟨(h.fresh id hid).1, fun hc => (h.fresh id hid).2 (hcounting id hc)⟩
  · rw [hchallenges]
    exact fun call read c hcall => h.reads call read c (hold call read hcall)
  · rw [hchallenges]
    exact h.limit
  · rw [hchallenges, hwrong]
    exact fun id c hc hsub hquiet => h.quiet id c hc hsub fun hcount => hquiet (hagain id c hc hsub hcount)
  · rw [hchallenges, hwrong]
    exact fun call read c hcall => h.counting call read c (hold call read hcall)
  · rw [hchallenges]
    exact fun call call' read read' c hcall hcall' =>
      h.alone call call' read read' c (hold call read hcall) (hold call' read' hcall')
  · rw [hchallenges, hissued, haccepted]
    exact h.spent
  · rw [haccepted]
    exact h.once

lemma Bounded.set {c : Call} (h : Bounded subject s) (hwas : ∀ read, s.calls call ≠ some (.wrong read))
    (hc : ∀ read, c ≠ .wrong read) : Bounded subject (s.set call c) := by
  refine h.calls rfl rfl rfl rfl (fun other read hother => ?_) fun other read hother _ => ?_
  · rw [set_calls] at hother
    split_ifs at hother with he
    · exact absurd (Option.some.inj hother) (hc read)
    · exact hother
  · rw [set_calls]
    split_ifs with he
    · subst he
      exact absurd hother (hwas read)
    · exact hother

structure Rewrites (s s' : State) : Prop where
  rows : ∀ id c', s'.challenges.find id = some c' → ∃ c, s.challenges.find id = some c ∧
    c'.subject = c.subject ∧ c'.maxAttempts = c.maxAttempts ∧ c'.attempts = c.attempts ∧
      (c'.Unconsumed → c.Unconsumed)
  issued : s'.issued = s.issued
  calls : s'.calls = s.calls
  wrong : s'.wrong = s.wrong

lemma Bounded.rewritten (h : Bounded subject s) (hs : Rewrites s s')
    (hspent : ∀ id ∈ s'.accepted, id ∈ s.issued ∧
      ∀ c, s'.challenges.find id = some c → ¬ c.Unconsumed) (honce : s'.accepted.Nodup) :
    Bounded subject s' := by
  have hcounting : ∀ id, s'.Counting id ↔ s.Counting id := by
    intro id
    unfold State.Counting
    rw [hs.calls]
  constructor
  · intro c c' hc hc' hsub hsub' hlive hlive'
    obtain ⟨d, hd, hdsub, -, -, hdlive⟩ := hs.rows c.id c hc
    obtain ⟨d', hd', hdsub', -, -, hdlive'⟩ := hs.rows c'.id c' hc'
    have hid := KeyedTable.find_key hd
    have hid' := KeyedTable.find_key hd'
    rw [← hid, ← hid']
    exact h.one d d' (hid ▸ hd) (hid' ▸ hd') (hdsub.symm.trans hsub) (hdsub'.symm.trans hsub')
      (hdlive hlive) (hdlive' hlive')
  · intro id c' hc'
    obtain ⟨c, hc, -⟩ := hs.rows id c' hc'
    rw [hs.issued]
    exact h.known id c hc
  · intro id hid
    rw [hs.issued] at hid
    rw [hs.wrong, hcounting]
    exact h.fresh id hid
  · intro call read c' hcall hc'
    rw [hs.calls] at hcall
    obtain ⟨c, hc, hsub, hmax, -⟩ := hs.rows read.id c' hc'
    rw [hsub, hmax]
    exact h.reads call read c hcall hc
  · intro id c' hc'
    obtain ⟨c, hc, -, hmax, -⟩ := hs.rows id c' hc'
    rw [hmax]
    exact h.limit id c hc
  · intro id c' hc' hsub' hquiet
    obtain ⟨c, hc, hsub, -, hattempts, -⟩ := hs.rows id c' hc'
    rw [hcounting] at hquiet
    rw [hs.wrong, hattempts]
    exact h.quiet id c hc (hsub.symm.trans hsub') hquiet
  · intro call read c' hcall hc' hsub'
    rw [hs.calls] at hcall
    obtain ⟨c, hc, hsub, -, hattempts, -⟩ := hs.rows read.id c' hc'
    rw [hs.wrong, hattempts]
    exact h.counting call read c hcall hc (hsub.symm.trans hsub')
  · intro call call' read read' c' hcall hcall' hid hc' hsub'
    rw [hs.calls] at hcall hcall'
    obtain ⟨c, hc, hsub, -⟩ := hs.rows read.id c' hc'
    exact h.alone call call' read read' c hcall hcall' hid hc (hsub.symm.trans hsub')
  · intro id hid
    rw [hs.issued]
    exact hspent id hid
  · exact honce

lemma Bounded.inserted (marked : List Uuid) (now : Time) {c : Challenge} (h : Bounded subject s)
    (hid : c.id ∉ s.issued) (hmax : c.maxAttempts = maxAttempts) (hattempts : c.attempts = 0)
    (honly : c.subject = subject → ∀ d ∈ s.live subject, d.id ∈ marked) :
    Bounded subject (s.inserted marked now c) := by
  have hnone : s.challenges.find c.id = none := by
    cases hf : s.challenges.find c.id with
    | none => rfl
    | some d => exact absurd (h.known _ d hf) hid
  have hrows : ∀ id d', (s.inserted marked now c).challenges.find id = some d' →
      (id = c.id ∧ d' = c) ∨ (id ≠ c.id ∧ ∃ d, s.challenges.find id = some d ∧
        d'.subject = d.subject ∧ d'.maxAttempts = d.maxAttempts ∧ d'.attempts = d.attempts ∧
        (d'.Unconsumed → d.Unconsumed ∧ id ∉ marked)) := by
    intro id d' hd'
    rw [find_inserted hnone] at hd'
    split_ifs at hd' with he
    · exact Or.inl ⟨he.symm, (Option.some.inj hd').symm⟩
    · obtain ⟨d, hd, rfl⟩ := Option.map_eq_some_iff.mp hd'
      refine Or.inr ⟨fun hc => he hc.symm, d, hd, ?_⟩
      have hkey := KeyedTable.find_key hd
      split_ifs with hmark
      · exact ⟨rfl, rfl, rfl, nofun⟩
      · exact ⟨rfl, rfl, rfl, fun hu => ⟨hu, hkey ▸ hmark⟩⟩
  have hcounting : ∀ id, (s.inserted marked now c).Counting id ↔ s.Counting id := fun id => Iff.rfl
  have hfresh := h.fresh c.id hid
  -- where the new code is the subject's, nothing else of the subject is left unconsumed
  have hothers : c.subject = subject → ∀ d', (s.inserted marked now c).challenges.find d'.id = some d' →
      d'.subject = subject → d'.Unconsumed → d'.id = c.id := by
    intro hsub d' hd' hsub' hlive'
    rcases hrows d'.id d' hd' with ⟨he, -⟩ | ⟨-, d, hd, hdsub, -, -, hlive⟩
    · exact he
    · have hkey := KeyedTable.find_key hd
      have hd2 : d ∈ s.live subject :=
        mem_live.mpr ⟨hkey ▸ hd, hdsub.symm.trans hsub', (hlive hlive').1⟩
      exact absurd (hkey ▸ honly hsub d hd2) (hlive hlive').2
  constructor
  · intro d d' hd hd' hsub hsub' hlive hlive'
    by_cases hnew : c.subject = subject
    · rw [hothers hnew d hd hsub hlive, hothers hnew d' hd' hsub' hlive']
    · rcases hrows d.id d hd with ⟨-, rfl⟩ | ⟨-, e, he, hesub, -, -, helive⟩
      · exact absurd hsub hnew
      · rcases hrows d'.id d' hd' with ⟨-, rfl⟩ | ⟨-, e', he', hesub', -, -, helive'⟩
        · exact absurd hsub' hnew
        · have hid := KeyedTable.find_key he
          have hid' := KeyedTable.find_key he'
          rw [← hid, ← hid']
          exact h.one e e' (hid ▸ he) (hid' ▸ he') (hesub.symm.trans hsub) (hesub'.symm.trans hsub')
            (helive hlive).1 (helive' hlive').1
  · intro id d' hd'
    rcases hrows id d' hd' with ⟨rfl, -⟩ | ⟨-, d, hd, -⟩
    · exact List.mem_cons_self
    · exact List.mem_cons_of_mem _ (h.known id d hd)
  · intro id hnew
    exact h.fresh id fun hmem => hnew (List.mem_cons_of_mem _ hmem)
  · intro call read d' hcall hd'
    rcases hrows read.id d' hd' with ⟨he, -⟩ | ⟨-, d, hd, hsub, hm, -⟩
    · exact absurd ⟨call, read, hcall, he⟩ hfresh.2
    · rw [hsub, hm]
      exact h.reads call read d hcall hd
  · intro id d' hd'
    rcases hrows id d' hd' with ⟨-, rfl⟩ | ⟨-, d, hd, -, hm, -⟩
    · exact hmax
    · rw [hm]
      exact h.limit id d hd
  · intro id d' hd' hsub' hquiet
    rcases hrows id d' hd' with ⟨rfl, rfl⟩ | ⟨-, d, hd, hsub, -, ha, -⟩
    · rw [hattempts]
      exact ⟨hfresh.1, Nat.zero_le _⟩
    · rw [ha]
      exact h.quiet id d hd (hsub.symm.trans hsub') hquiet
  · intro call read d' hcall hd' hsub'
    rcases hrows read.id d' hd' with ⟨he, -⟩ | ⟨-, d, hd, hsub, -, ha, -⟩
    · exact absurd ⟨call, read, hcall, he⟩ hfresh.2
    · rw [ha]
      exact h.counting call read d hcall hd (hsub.symm.trans hsub')
  · intro call call' read read' d' hcall hcall' hids hd' hsub'
    rcases hrows read.id d' hd' with ⟨he, -⟩ | ⟨-, d, hd, hsub, -⟩
    · exact absurd ⟨call, read, hcall, he⟩ hfresh.2
    · exact h.alone call call' read read' d hcall hcall' hids hd (hsub.symm.trans hsub')
  · intro id hacc
    obtain ⟨hknown, hdead⟩ := h.spent id hacc
    refine ⟨List.mem_cons_of_mem _ hknown, fun d' hd' hlive' => ?_⟩
    rcases hrows id d' hd' with ⟨rfl, -⟩ | ⟨-, d, hd, -, -, -, hlive⟩
    · exact hid hknown
    · exact hdead d hd (hlive hlive').1
  · exact h.once

lemma Bounded.counted {read : Challenge} {result : CodeResult} (h : Bounded subject s)
    (hcall : s.calls call = some (.wrong read)) :
    Bounded subject ((s.counted read).set call (.answered result)) := by
  have hfind : ∀ id, (s.counted read).challenges.find id = (s.challenges.find id).map fun c =>
      if c.id = read.id then c.counted read s.clock else c := by
    intro id
    unfold State.counted
    dsimp only
    rw [KeyedTable.find_update]
    simp
  have hrows : ∀ id c', (s.counted read).challenges.find id = some c' →
      ∃ c, s.challenges.find id = some c ∧ c'.subject = c.subject ∧ c'.maxAttempts = c.maxAttempts ∧
        (c'.Unconsumed → c.Unconsumed) ∧
        c'.attempts = if id = read.id then read.attempts + 1 else c.attempts := by
    intro id c' hc'
    rw [hfind] at hc'
    obtain ⟨c, hc, rfl⟩ := Option.map_eq_some_iff.mp hc'
    have hkey := KeyedTable.find_key hc
    refine ⟨c, hc, ?_⟩
    split_ifs with h1 h2
    · refine ⟨rfl, rfl, fun hlive => ?_, rfl⟩
      unfold Challenge.Unconsumed Challenge.counted at hlive
      dsimp only at hlive
      split_ifs at hlive
      exact hlive
    · exact absurd (hkey ▸ h1) h2
    · exact absurd (hkey.trans ‹id = read.id›) h1
    · exact ⟨rfl, rfl, fun hu => hu, rfl⟩
  have hcalls : ∀ other r, ((s.counted read).set call (.answered result)).calls other = some (.wrong r) →
      other ≠ call ∧ s.calls other = some (.wrong r) := by
    intro other r hother
    rw [set_calls] at hother
    split_ifs at hother with he
    · cases Option.some.inj hother
    · exact ⟨he, hother⟩
  have hstill : ∀ id, id ≠ read.id → s.Counting id →
      ((s.counted read).set call (.answered result)).Counting id := by
    rintro id hne ⟨other, r, hother, rfl⟩
    refine ⟨other, r, ?_, rfl⟩
    rw [set_calls, if_neg]
    · exact hother
    · rintro rfl
      exact hne (congrArg Challenge.id (Call.wrong.inj (Option.some.inj (hother.symm.trans hcall))))
  constructor
  · intro c c' hc hc' hsub hsub' hlive hlive'
    obtain ⟨d, hd, hdsub, -, hdlive, -⟩ := hrows c.id c hc
    obtain ⟨d', hd', hdsub', -, hdlive', -⟩ := hrows c'.id c' hc'
    have hid := KeyedTable.find_key hd
    have hid' := KeyedTable.find_key hd'
    rw [← hid, ← hid']
    exact h.one d d' (hid ▸ hd) (hid' ▸ hd') (hdsub.symm.trans hsub) (hdsub'.symm.trans hsub')
      (hdlive hlive) (hdlive' hlive')
  · intro id c' hc'
    obtain ⟨c, hc, -⟩ := hrows id c' hc'
    exact h.known id c hc
  · intro id hid
    refine ⟨(h.fresh id hid).1, ?_⟩
    rintro ⟨other, r, hother, he⟩
    exact (h.fresh id hid).2 ⟨other, r, (hcalls other r hother).2, he⟩
  · intro other r c' hother hc'
    obtain ⟨c, hc, hsub, hmax, -⟩ := hrows r.id c' hc'
    rw [hsub, hmax]
    exact h.reads other r c (hcalls other r hother).2 hc
  · intro id c' hc'
    obtain ⟨c, hc, -, hmax, -⟩ := hrows id c' hc'
    rw [hmax]
    exact h.limit id c hc
  · intro id c' hc' hsub' hquiet
    obtain ⟨c, hc, hsub, -, -, ha⟩ := hrows id c' hc'
    rw [ha]
    split_ifs with he
    · subst he
      obtain ⟨hwrong, hread, hlt⟩ := h.counting call read c hcall hc (hsub.symm.trans hsub')
      rw [hread]
      exact ⟨hwrong, hlt⟩
    · exact h.quiet id c hc (hsub.symm.trans hsub') fun hcount => hquiet (hstill id he hcount)
  · intro other r c' hother hc' hsub'
    obtain ⟨hne, hother⟩ := hcalls other r hother
    obtain ⟨c, hc, hsub, -, -, ha⟩ := hrows r.id c' hc'
    have hid : r.id ≠ read.id := fun he =>
      hne (h.alone other call r read c hother hcall he hc (hsub.symm.trans hsub'))
    rw [if_neg hid] at ha
    rw [ha]
    exact h.counting other r c hother hc (hsub.symm.trans hsub')
  · intro other other' r r' c' hother hother' hids hc' hsub'
    obtain ⟨c, hc, hsub, -⟩ := hrows r.id c' hc'
    exact h.alone other other' r r' c (hcalls other r hother).2 (hcalls other' r' hother').2 hids hc
      (hsub.symm.trans hsub')
  · intro id hacc
    obtain ⟨hknown, hdead⟩ := h.spent id hacc
    refine ⟨hknown, fun c' hc' hlive' => ?_⟩
    obtain ⟨c, hc, -, -, hlive, -⟩ := hrows id c' hc'
    exact hdead c hc (hlive hlive')
  · exact h.once

lemma Bounded.consumed {read : Challenge} (h : Bounded subject s)
    (hwas : ∀ r, s.calls call ≠ some (.wrong r)) : Bounded subject (s.consumed call read) := by
  unfold State.consumed
  split_ifs with hlive
  · obtain ⟨c, hc, hu⟩ := (Option.any_eq_true ..).mp hlive
    have hu : c.Unconsumed := of_decide_eq_true hu
    have hset := h.set (c := .answered .ok) hwas nofun
    have hkey := KeyedTable.find_key hc
    have hrows : ∀ id d', (s.challenges.update (fun c => decide (c.id = read.id ∧ c.Unconsumed))
        (fun c => c.consumed s.clock) fun c => c.consumed_id s.clock).find id = some d' →
        ∃ d, s.challenges.find id = some d ∧ d'.subject = d.subject ∧ d'.maxAttempts = d.maxAttempts ∧
          d'.attempts = d.attempts ∧ (d'.Unconsumed → d.Unconsumed) ∧ (id = read.id → ¬ d'.Unconsumed) := by
      intro id d' hd'
      rw [KeyedTable.find_update] at hd'
      obtain ⟨d, hd, rfl⟩ := Option.map_eq_some_iff.mp hd'
      have hk := KeyedTable.find_key hd
      refine ⟨d, hd, ?_⟩
      split_ifs with hmatch
      · exact ⟨rfl, rfl, rfl, nofun, fun _ => nofun⟩
      · refine ⟨rfl, rfl, rfl, fun hu => hu, fun he hd'' => ?_⟩
        exact hmatch (decide_eq_true ⟨hk.trans he, hd''⟩)
    refine hset.rewritten ⟨fun id d' hd' => ?_, rfl, rfl, rfl⟩ (fun id hid => ?_) ?_
    · obtain ⟨d, hd, hsub, hmax, ha, hl, -⟩ := hrows id d' hd'
      exact ⟨d, hd, hsub, hmax, ha, hl⟩
    · rcases List.mem_cons.mp hid with rfl | hid
      · refine ⟨h.known _ c hc, fun d' hd' => ?_⟩
        obtain ⟨d, -, -, -, -, -, hdead⟩ := hrows _ d' hd'
        exact hdead rfl
      · obtain ⟨hknown, hdead⟩ := h.spent id hid
        refine ⟨hknown, fun d' hd' hl' => ?_⟩
        obtain ⟨d, hd, -, -, -, hl, -⟩ := hrows id d' hd'
        exact hdead d hd (hl hl')
    · refine List.nodup_cons.mpr ⟨fun hmem => ?_, h.once⟩
      exact (h.spent read.id hmem).2 c hc hu
  · exact h.set hwas nofun

lemma set_set (s : State) (call : ℕ) (c c' : Call) : (s.set call c).set call c' = s.set call c' := by
  simp only [State.set, Function.update_idem]

lemma set_comm (s : State) {call other : ℕ} (c c' : Call) (h : other ≠ call) :
    (s.set call c).set other c' = (s.set other c').set call c := by
  simp only [State.set, Function.update_comm h]

/-! ## Runs -/

end

namespace Sample

def account : Subject := ⟨"ada@example.org", .passwordReset⟩

def hash (code : String) : String := "#" ++ code

def challenge (id : Uuid) (code : String) : Challenge := .issued id account (hash code) none 0 0

def issued : State := { (State.start 0).inserted [] 0 (challenge 1 "000000") with calls := fun _ => none }

def both (c c' : Call) : State := ((State.start 0).set 0 c).set 1 c'

lemma both_left (c c' d : Call) : (both c c').set 0 d = both d c' := by
  unfold both
  rw [set_comm _ _ _ (by decide), set_set]

lemma both_right (c c' d : Call) : (both c c').set 1 d = both c d := set_set ..

end Sample

end Yappy.Codes
