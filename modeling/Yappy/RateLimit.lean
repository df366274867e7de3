import Yappy.Runs

/-!
# The shared token bucket

`consume_rate_limit` of `packages/db/sql/0003_functions.sql` and the sweep of its table in
`apps/worker/src/jobs/maintenance.ts`, for one subject and one action. Every statement of the
function is atomic under READ COMMITTED, and other calls and the sweep come between them. Numbers
are rational where PostgreSQL rounds, and times are in seconds.
-/
namespace Yappy.RateLimit

abbrev Seconds := ℚ

/-- `p_capacity` and `p_refill_per_second`, which all calls of one action share. -/
structure Bucket where
  capacity : ℚ≥0
  refillPerSecond : ℚ≥0

structure Row where
  tokens : ℚ
  updatedAt : Seconds
  expiresAt : Seconds

structure Answer where
  allowed : Bool
  remaining : ℚ
  retryAfter : Option ℚ

namespace Bucket
variable (bucket : Bucket)

/-- `GREATEST(p_capacity / NULLIF(p_refill_per_second, 0), 60)`, where `GREATEST` passes over a null. -/
def lifetime : Seconds :=
  if bucket.refillPerSecond = 0 then 60 else max (bucket.capacity / bucket.refillPerSecond) 60

def available (found : Option Row) (nowTs : Seconds) : ℚ :=
  match found with
  | none => bucket.capacity
  | some row => min bucket.capacity (row.tokens + (nowTs - row.updatedAt) * bucket.refillPerSecond)

/-- What a call writes, refused or not, and what it answers. -/
def consume (found : Option Row) (nowTs : Seconds) (cost : ℚ≥0) : Row × Answer :=
  let available := bucket.available found nowTs
  if cost ≤ available then
    (⟨available - cost, nowTs, nowTs + bucket.lifetime⟩, ⟨true, available - cost, some 0⟩)
  else
    (⟨available, nowTs, nowTs + bucket.lifetime⟩, ⟨false, available,
      if bucket.refillPerSecond = 0 then none else some ((cost - available) / bucket.refillPerSecond)⟩)

end Bucket

/-- A call after its `DECLARE`, and after its `SELECT … FOR UPDATE`. -/
inductive Call
  | declared (cost : ℚ≥0) (nowTs : Seconds)
  | selected (cost : ℚ≥0) (nowTs : Seconds) (found : Option Row)

def Call.nowTs : Call → Seconds
  | .declared _ nowTs | .selected _ nowTs _ => nowTs

/-- A call that was admitted, at the time it read from the clock. -/
structure Admission where
  time : Seconds
  cost : ℚ≥0

structure State where
  row : Option Row
  clock : Seconds
  calls : ℕ → Option Call
  admitted : List Admission

inductive Event
  | tick (now : Seconds)
  | call (id : ℕ) (cost : ℚ≥0)
  | select (id : ℕ)
  /-- `INSERT … ON CONFLICT … DO UPDATE`, with which the call ends. -/
  | upsert (id : ℕ)
  | abort (id : ℕ)
  | sweep (now : Seconds)

namespace State

def start (clock : Seconds) : State := ⟨none, clock, fun _ => none, []⟩

def Locks (s : State) (id : ℕ) : Prop :=
  ∃ cost nowTs row, s.calls id = some (.selected cost nowTs (some row))

/-- The times that calls yet to write have read or will read. -/
def Ahead (s : State) (t : Seconds) : Prop :=
  s.clock ≤ t ∨ ∃ id call, s.calls id = some call ∧ call.nowTs = t

/-- What was admitted from `a` on. -/
def spent (s : State) (a : Seconds) : ℚ≥0 :=
  ((s.admitted.filter fun x => a ≤ x.time).map Admission.cost).sum

/-- What was admitted from `a` until `b`. -/
def spentUntil (s : State) (a b : Seconds) : ℚ≥0 :=
  ((s.admitted.filter fun x => a ≤ x.time ∧ x.time ≤ b).map Admission.cost).sum

def set (s : State) (id : ℕ) (call : Option Call) : State :=
  { s with calls := Function.update s.calls id call }

def written (s : State) (id : ℕ) (nowTs : Seconds) (cost : ℚ≥0) (result : Row × Answer) : State :=
  { s.set id none with
    row := some result.1
    admitted := if result.2.allowed then ⟨nowTs, cost⟩ :: s.admitted else s.admitted }

end State

/-- A locked row makes a statement wait, which looks for it or would write it. -/
inductive Step (bucket : Bucket) : State → Event → State → Prop
  | tick {s : State} {now : Seconds} (h : s.clock ≤ now) : Step bucket s (.tick now) { s with clock := now }
  | call {s : State} {id : ℕ} {cost : ℚ≥0} (h : s.calls id = none) :
      Step bucket s (.call id cost) (s.set id (some (.declared cost s.clock)))
  | select {s : State} {id : ℕ} {cost : ℚ≥0} {nowTs : Seconds}
      (h : s.calls id = some (.declared cost nowTs)) (hfree : ∀ other, ¬ s.Locks other) :
      Step bucket s (.select id) (s.set id (some (.selected cost nowTs s.row)))
  | upsert {s : State} {id : ℕ} {cost : ℚ≥0} {nowTs : Seconds} {found : Option Row}
      (h : s.calls id = some (.selected cost nowTs found)) (hfree : ∀ other, other ≠ id → ¬ s.Locks other) :
      Step bucket s (.upsert id) (s.written id nowTs cost (bucket.consume found nowTs cost))
  | abort {s : State} {id : ℕ} : Step bucket s (.abort id) (s.set id none)
  /-- `sweepEphemeral` -/
  | sweep {s : State} {now : Seconds} (h : now ≤ s.clock) (hfree : ∀ other, ¬ s.Locks other) :
      Step bucket s (.sweep now) { s with row := s.row.filter fun row => ¬ row.expiresAt < now }

def Row.Full (bucket : Bucket) (row : Row) (t : Seconds) : Prop :=
  bucket.capacity ≤ row.tokens + (t - row.updatedAt) * bucket.refillPerSecond

/-- A call that found no row writes over none, and a row is swept, only where the bucket is full by
then for the calls that do not see it. -/
def Careful (bucket : Bucket) (s : State) : Event → Prop
  | .upsert id => ∀ cost nowTs row, s.calls id = some (.selected cost nowTs none) → s.row = some row →
      row.Full bucket nowTs
  | .sweep now => ∀ row t, s.row = some row → row.expiresAt < now → s.Ahead t → row.Full bucket t
  | _ => True

section
variable {bucket : Bucket} {s s' : State} {id : ℕ} {nowTs a b t : Seconds} {cost : ℚ≥0}

/-! ## What a call leaves -/

lemma available_le (found : Option Row) (nowTs : Seconds) :
    bucket.available found nowTs ≤ bucket.capacity := by
  cases found with
  | none => exact le_rfl
  | some row => exact min_le_left _ _

lemma consume_tokens (found : Option Row) (nowTs : Seconds) (cost : ℚ≥0) :
    (bucket.consume found nowTs cost).1.updatedAt = nowTs ∧
      (((bucket.consume found nowTs cost).2.allowed = true ∧
        (bucket.consume found nowTs cost).1.tokens = bucket.available found nowTs - cost ∧
        0 ≤ (bucket.consume found nowTs cost).1.tokens) ∨
      ((bucket.consume found nowTs cost).2.allowed = false ∧
        (bucket.consume found nowTs cost).1.tokens = bucket.available found nowTs)) := by
  unfold Bucket.consume
  dsimp only
  split_ifs with h
  · exact ⟨rfl, Or.inl ⟨rfl, rfl, sub_nonneg.mpr h⟩⟩
  · exact ⟨rfl, Or.inr ⟨rfl, rfl⟩⟩
  · exact ⟨rfl, Or.inr ⟨rfl, rfl⟩⟩

lemma spent_cons (s : State) (a : Seconds) (admission : Admission) :
    State.spent { s with admitted := admission :: s.admitted } a =
      (if a ≤ admission.time then admission.cost else 0) + s.spent a := by
  unfold State.spent
  dsimp only
  rw [List.filter_cons]
  by_cases h : a ≤ admission.time
  · simp [h]
  · simp [h]

lemma spentUntil_cons (s : State) (a b : Seconds) (admission : Admission) :
    State.spentUntil { s with admitted := admission :: s.admitted } a b =
      (if a ≤ admission.time ∧ admission.time ≤ b then admission.cost else 0) + s.spentUntil a b := by
  unfold State.spentUntil
  dsimp only
  rw [List.filter_cons]
  by_cases h : a ≤ admission.time ∧ admission.time ≤ b
  · simp [h]
  · simp [h]

lemma spentUntil_le (s : State) (a b : Seconds) : s.spentUntil a b ≤ s.spent a := by
  obtain ⟨row, clock, calls, admitted⟩ := s
  induction admitted with
  | nil => exact le_rfl
  | cons x l ih =>
    have hspent := spent_cons ⟨row, clock, calls, l⟩ a x
    have huntil := spentUntil_cons ⟨row, clock, calls, l⟩ a b x
    dsimp only at hspent huntil
    rw [hspent, huntil]
    refine add_le_add ?_ ih
    split_ifs with h h'
    · exact le_rfl
    · exact absurd h.1 h'
    · exact zero_le
    · exact le_rfl

/-! ## The bound -/

/-- A call was admitted at `a` or later. -/
def State.Since (s : State) (a : Seconds) : Prop := ∃ x ∈ s.admitted, a ≤ x.time

lemma spent_eq_zero (h : ¬ s.Since a) : s.spent a = 0 := by
  have hnil : (s.admitted.filter fun x => a ≤ x.time) = [] := by
    refine List.filter_eq_nil_iff.mpr fun x hx hle => h ⟨x, hx, ?_⟩
    simpa using hle
  unfold State.spent
  rw [hnil]
  rfl

/-- What `tokens` at `updatedAt` were at `a`, with what was spent since, was no more than the
bucket holds. -/
def Covers (bucket : Bucket) (s : State) (tokens : ℚ) (updatedAt : Seconds) : Prop :=
  ∀ a, s.Since a → tokens + (a - updatedAt) * bucket.refillPerSecond + s.spent a ≤ bucket.capacity

/-- The row accounts for what was admitted. Where there is none, the calls to come find the bucket
as full as they take it to be. -/
structure Metered (bucket : Bucket) (s : State) : Prop where
  held : ∀ id cost nowTs row, s.calls id = some (.selected cost nowTs (some row)) → s.row = some row
  kept : ∀ row, s.row = some row → Covers bucket s row.tokens row.updatedAt
  gone : s.row = none → ∀ t, s.Ahead t → Covers bucket s bucket.capacity t
  bounded : ∀ a b, a ≤ b →
    (s.spentUntil a b : ℚ) ≤ bucket.capacity + (b - a) * bucket.refillPerSecond

lemma start_metered (clock : Seconds) : Metered bucket (State.start clock) where
  held _ _ _ _ h := by cases h
  kept _ h := by cases h
  gone _ _ _ _ h := by
    obtain ⟨x, hx, -⟩ := h
    cases hx
  bounded a b hab := by
    have hcapacity := bucket.capacity.coe_nonneg
    have hgrown := mul_nonneg (sub_nonneg.mpr hab) bucket.refillPerSecond.coe_nonneg
    have hzero : (State.start clock).spentUntil a b = 0 := rfl
    rw [hzero, NNRat.coe_zero]
    linarith

lemma Covers.mono {tokens tokens' : ℚ} {u u' : Seconds} (h : Covers bucket s tokens u)
    (hle : tokens' - u' * bucket.refillPerSecond ≤ tokens - u * bucket.refillPerSecond) :
    Covers bucket s tokens' u' := by
  intro a ha
  have hbound := h a ha
  linarith

lemma Covers.full {row : Row} (h : Covers bucket s row.tokens row.updatedAt) (hfull : row.Full bucket t) :
    Covers bucket s bucket.capacity t := by
  refine h.mono ?_
  unfold Row.Full at hfull
  linarith

lemma available_covered {found : Option Row} (h : Metered bucket s) (hok : Careful bucket s (.upsert id))
    (hcall : s.calls id = some (.selected cost nowTs found)) :
    Covers bucket s (bucket.available found nowTs) nowTs := by
  cases found with
  | none =>
    cases hrow : s.row with
    | none => exact h.gone hrow nowTs (Or.inr ⟨id, _, hcall, rfl⟩)
    | some row => exact (h.kept row hrow).full (hok cost nowTs row hcall hrow)
  | some row =>
    refine (h.kept row (h.held id cost nowTs row hcall)).mono ?_
    have hle : bucket.available (some row) nowTs ≤
        row.tokens + (nowTs - row.updatedAt) * bucket.refillPerSecond := min_le_right _ _
    linarith

lemma Covers.afterCost {tokens : ℚ} (h : Covers bucket s tokens nowTs) (hle : tokens ≤ bucket.capacity)
    (cost : ℚ≥0) :
    Covers bucket { s with admitted := ⟨nowTs, cost⟩ :: s.admitted } (tokens - cost) nowTs := by
  intro a ha
  rw [spent_cons]
  push_cast
  have hcost := cost.coe_nonneg
  by_cases hsince : s.Since a
  · have hbound := h a hsince
    split_ifs
    · linarith
    · rw [NNRat.coe_zero]
      linarith
  · obtain ⟨x, hx, hax⟩ := ha
    have hnow : a ≤ nowTs := by
      rcases List.mem_cons.mp hx with rfl | hold
      · exact hax
      · exact absurd ⟨x, hold, hax⟩ hsince
    have hgrown := mul_nonneg (sub_nonneg.mpr hnow) bucket.refillPerSecond.coe_nonneg
    rw [if_pos hnow, spent_eq_zero hsince, NNRat.coe_zero]
    linarith

lemma bounded_take {tokens : ℚ} (h : Covers bucket { s with admitted := ⟨nowTs, cost⟩ :: s.admitted } tokens nowTs)
    (hleft : 0 ≤ tokens) (ha : a ≤ nowTs) (hb : nowTs ≤ b) :
    (State.spentUntil { s with admitted := ⟨nowTs, cost⟩ :: s.admitted } a b : ℚ) ≤
      bucket.capacity + (b - a) * bucket.refillPerSecond := by
  have hspent := h a ⟨_, List.mem_cons_self, ha⟩
  have huntil : (State.spentUntil { s with admitted := ⟨nowTs, cost⟩ :: s.admitted } a b : ℚ) ≤
      State.spent { s with admitted := ⟨nowTs, cost⟩ :: s.admitted } a := by
    exact_mod_cast spentUntil_le _ a b
  have hgrown := mul_le_mul_of_nonneg_right (sub_le_sub_right hb a) bucket.refillPerSecond.coe_nonneg
  linarith

lemma written_metered {found : Option Row} (h : Metered bucket s) (hok : Careful bucket s (.upsert id))
    (hcall : s.calls id = some (.selected cost nowTs found)) (hfree : ∀ other, other ≠ id → ¬ s.Locks other) :
    Metered bucket (s.written id nowTs cost (bucket.consume found nowTs cost)) := by
  have hcovered := available_covered h hok hcall
  obtain ⟨hupdated, hresult⟩ := @consume_tokens bucket found nowTs cost
  have hheld : ∀ other cost' nowTs' row, (s.written id nowTs cost (bucket.consume found nowTs cost)).calls
      other ≠ some (.selected cost' nowTs' (some row)) := by
    intro other cost' nowTs' row hother
    by_cases he : other = id
    · subst he
      have hself : (s.written other nowTs cost (bucket.consume found nowTs cost)).calls other = none :=
        Function.update_self ..
      rw [hself] at hother
      cases hother
    · have hsame : (s.written id nowTs cost (bucket.consume found nowTs cost)).calls other = s.calls other :=
        Function.update_of_ne he ..
      rw [hsame] at hother
      exact hfree other he ⟨cost', nowTs', row, hother⟩
  rcases hresult with ⟨hallowed, htokens, hleft⟩ | ⟨hrefused, htokens⟩
  · have hadmitted : (s.written id nowTs cost (bucket.consume found nowTs cost)).admitted =
        ⟨nowTs, cost⟩ :: s.admitted := if_pos hallowed
    have hnew := hcovered.afterCost (available_le found nowTs) cost
    rw [← htokens] at hnew
    refine ⟨fun other c n r hr => absurd hr (hheld other c n r), ?_, nofun, ?_⟩
    · intro row hrow
      obtain rfl := Option.some.inj hrow
      rw [hupdated]
      intro a ha
      have hbound := hnew a (by simpa [State.Since, hadmitted] using ha)
      simpa [State.spent, hadmitted] using hbound
    · intro a b hab
      have hbound := h.bounded a b hab
      by_cases hin : a ≤ nowTs ∧ nowTs ≤ b
      · have hthis := @bounded_take bucket s nowTs a b cost _ hnew hleft hin.1 hin.2
        simpa [State.spentUntil, hadmitted] using hthis
      · have hsame := spentUntil_cons s a b ⟨nowTs, cost⟩
        rw [if_neg hin, zero_add] at hsame
        rw [← hsame] at hbound
        simpa [State.spentUntil, hadmitted] using hbound
  · have hadmitted : (s.written id nowTs cost (bucket.consume found nowTs cost)).admitted = s.admitted :=
      if_neg (by simp [hrefused])
    refine ⟨fun other c n r hr => absurd hr (hheld other c n r), ?_, nofun, ?_⟩
    · intro row hrow
      obtain rfl := Option.some.inj hrow
      rw [hupdated, htokens]
      intro a ha
      have hbound := hcovered a (by simpa [State.Since, hadmitted] using ha)
      simpa [State.spent, hadmitted] using hbound
    · intro a b hab
      have hbound := h.bounded a b hab
      simpa [State.spentUntil, hadmitted] using hbound

lemma Metered.of_calls {s' : State} (h : Metered bucket s) (hrow : s'.row = s.row)
    (hadmitted : s'.admitted = s.admitted) (hahead : ∀ t, s'.Ahead t → s.Ahead t)
    (hheld : ∀ id cost nowTs row, s'.calls id = some (.selected cost nowTs (some row)) → s.row = some row) :
    Metered bucket s' := by
  obtain ⟨row, clock, calls, admitted⟩ := s'
  dsimp only at hrow hadmitted
  subst hrow hadmitted
  exact ⟨hheld, h.kept, fun hnone t ht => h.gone hnone t (hahead t ht), h.bounded⟩

lemma ahead_set {call : Option Call} (h : (s.set id call).Ahead t) :
    s.Ahead t ∨ ∃ c, call = some c ∧ c.nowTs = t := by
  rcases h with hclock | ⟨other, c, hother, hc⟩
  · exact Or.inl (Or.inl hclock)
  · by_cases he : other = id
    · subst he
      have hself : (s.set other call).calls other = call := Function.update_self ..
      exact Or.inr ⟨c, hself.symm.trans hother, hc⟩
    · have hsame : (s.set id call).calls other = s.calls other := Function.update_of_ne he ..
      exact Or.inl (Or.inr ⟨other, c, hsame.symm.trans hother, hc⟩)

lemma set_calls {call c : Option Call} {other : ℕ} (h : (s.set id call).calls other = c) :
    call = c ∨ s.calls other = c := by
  by_cases he : other = id
  · subst he
    have hself : (s.set other call).calls other = call := Function.update_self ..
    exact Or.inl (hself.symm.trans h)
  · have hsame : (s.set id call).calls other = s.calls other := Function.update_of_ne he ..
    exact Or.inr (hsame.symm.trans h)

lemma step_ahead {event : Event} (hs : Step bucket s event s') (ht : s'.Ahead t) : s.Ahead t := by
  cases hs with
  | tick hle =>
    rcases ht with hclock | hcall
    · exact Or.inl (hle.trans hclock)
    · exact Or.inr hcall
  | call hnone =>
    rcases ahead_set ht with hold | ⟨c, hc, hn⟩
    · exact hold
    · obtain rfl := Option.some.inj hc
      exact Or.inl hn.le
  | select hcall =>
    rcases ahead_set ht with hold | ⟨c, hc, hn⟩
    · exact hold
    · obtain rfl := Option.some.inj hc
      exact Or.inr ⟨_, _, hcall, hn⟩
  | @upsert id =>
    rcases ahead_set (show (s.set id none).Ahead t from ht) with hold | ⟨c, hc, -⟩
    · exact hold
    · cases hc
  | abort =>
    rcases ahead_set ht with hold | ⟨c, hc, -⟩
    · exact hold
    · cases hc
  | sweep => exact ht

def Held (s : State) : Prop :=
  ∀ id cost nowTs row, s.calls id = some (.selected cost nowTs (some row)) → s.row = some row

lemma step_held {event : Event} (h : Held s) (hs : Step bucket s event s') : Held s' := by
  cases hs with
  | tick => exact h
  | call =>
    intro other c n row hother
    rcases set_calls hother with hnew | hold
    · cases hnew
    · exact h other c n row hold
  | select =>
    intro other c n row hother
    rcases set_calls hother with hnew | hold
    · exact (Call.selected.inj (Option.some.inj hnew)).2.2
    · exact h other c n row hold
  | @upsert id cost nowTs found hcall hfree =>
    intro other c n row hother
    by_cases he : other = id
    · subst he
      have hself : (s.written other nowTs cost (bucket.consume found nowTs cost)).calls other = none :=
        Function.update_self ..
      cases hself.symm.trans hother
    · have hsame : (s.written id nowTs cost (bucket.consume found nowTs cost)).calls other = s.calls other :=
        Function.update_of_ne he ..
      exact absurd ⟨c, n, row, hsame.symm.trans hother⟩ (hfree other he)
  | abort =>
    intro other c n row hother
    rcases set_calls hother with hnew | hold
    · cases hnew
    · exact h other c n row hold
  | sweep _ hfree => exact fun other c n row hother => absurd ⟨c, n, row, hother⟩ (hfree other)

lemma step_metered {event : Event} (h : Metered bucket s) (hok : Careful bucket s event)
    (hs : Step bucket s event s') : Metered bucket s' := by
  have hahead : ∀ t, s'.Ahead t → s.Ahead t := fun t ht => step_ahead hs ht
  have hheld := step_held h.held hs
  cases hs with
  | tick | call | select | abort => exact h.of_calls rfl rfl hahead hheld
  | upsert hcall hfree => exact written_metered h hok hcall hfree
  | @sweep now hle hfree =>
    by_cases hexpired : ∃ row, s.row = some row ∧ row.expiresAt < now
    · obtain ⟨row, hrow, hlt⟩ := hexpired
      have hgone : s.row.filter (fun row => decide ¬row.expiresAt < now) = none := by
        rw [hrow]
        exact Option.filter_some_neg (by simpa using hlt)
      refine ⟨hheld, ?_, fun _ t ht => ?_, h.bounded⟩
      · intro r hr
        cases hgone.symm.trans hr
      · exact (h.kept row hrow).full (hok row t hrow hlt ht)
    · have hstays : s.row.filter (fun row => decide ¬row.expiresAt < now) = s.row := by
        cases hrow : s.row with
        | none => rfl
        | some row => exact Option.filter_some_pos (decide_eq_true fun hlt => hexpired ⟨row, hrow, hlt⟩)
      exact h.of_calls hstays rfl hahead h.held

/-- A whole run: what any period admits is the capacity and its refill, where every step is careful. -/
theorem run_metered {clock : Seconds} (h : RunWhere (Step bucket) (Careful bucket) (State.start clock) s)
    (hab : a ≤ b) :
    (s.spentUntil a b : ℚ) ≤ bucket.capacity + bucket.refillPerSecond * (b - a) := by
  have hmetered : Metered bucket s := h.invariant (start_metered clock)
    fun _ _ _ hinv hok hs => step_metered hinv hok hs
  have hbound := hmetered.bounded a b hab
  linarith

lemma set_unlocked {call : Option Call} (h : ∀ other, ¬ s.Locks other)
    (hcall : ∀ cost nowTs row, call ≠ some (.selected cost nowTs (some row))) :
    ∀ other, ¬ (s.set id call).Locks other := by
  rintro other ⟨cost, nowTs, row, hlocked⟩
  rcases set_calls hlocked with hnew | hold
  · exact hcall cost nowTs row hnew
  · exact h other ⟨cost, nowTs, row, hold⟩

end

namespace Sample

def bucket : Bucket := ⟨1, 1⟩

def declared : State := (State.start 0).set 0 (some (.declared 1 0))

def selected : State := declared.set 0 (some (.selected 1 0 none))

def alone : State := selected.written 0 0 1 (bucket.consume none 0 1)

def both : State := (selected.set 1 (some (.declared 1 0))).set 1 (some (.selected 1 0 none))

def overlapped : State :=
  (both.written 0 0 1 (bucket.consume none 0 1)).written 1 0 1 (bucket.consume none 0 1)

lemma start_unlocked : ∀ other, ¬ (State.start 0).Locks other := by
  rintro other ⟨cost, nowTs, row, hlocked⟩
  cases hlocked

lemma declared_unlocked : ∀ other, ¬ declared.Locks other :=
  set_unlocked start_unlocked nofun

lemma selected_unlocked : ∀ other, ¬ selected.Locks other :=
  set_unlocked declared_unlocked nofun

lemma both_unlocked : ∀ other, ¬ both.Locks other :=
  set_unlocked (set_unlocked selected_unlocked nofun) nofun

lemma selected_run (ok : State → Event → Prop) (hok : ∀ s id cost, ok s (.call id cost) ∧ ok s (.select id)) :
    RunWhere (Step bucket) ok (State.start 0) selected :=
  ((RunWhere.refl (State.start 0)).tail (hok (State.start 0) 0 1).1 (.call rfl)).tail (hok declared 0 1).2
    (.select rfl declared_unlocked)

end Sample

open Sample

/-- The first call spends what there is. -/
theorem run_metered_alone : (alone.spentUntil 0 0 : ℚ) ≤ 1 + 1 * (0 - 0) := by
  have hcareful : Careful bucket selected (.upsert 0) := by
    intro cost nowTs row _ hrow
    cases hrow
  have hrun : RunWhere (Step bucket) (Careful bucket) (State.start 0) alone :=
    (selected_run (Careful bucket) fun _ _ _ => ⟨trivial, trivial⟩).tail hcareful
      (.upsert rfl fun other _ => selected_unlocked other)
  exact @run_metered bucket alone 0 0 0 hrun le_rfl

/-- Two first calls at once are both admitted. -/
theorem first_calls_overlap :
    ¬ ∀ (bucket : Bucket) (clock : Seconds) (s : State),
      RunWhere (Step bucket) (fun _ _ => True) (State.start clock) s → ∀ a b, a ≤ b →
        (s.spentUntil a b : ℚ) ≤ bucket.capacity + bucket.refillPerSecond * (b - a) := by
  intro h
  have hboth : RunWhere (Step bucket) (fun _ _ => True) (State.start 0) both :=
    ((selected_run (fun _ _ => True) fun _ _ _ => ⟨trivial, trivial⟩).tail trivial (.call rfl)).tail trivial
      (.select rfl (set_unlocked selected_unlocked nofun))
  have hfirst : ∀ other, ¬ (both.written 0 0 1 (bucket.consume none 0 1)).Locks other :=
    set_unlocked both_unlocked nofun
  have hrun : RunWhere (Step bucket) (fun _ _ => True) (State.start 0) overlapped :=
    (hboth.tail trivial (.upsert rfl fun other _ => both_unlocked other)).tail trivial
      (.upsert rfl fun other _ => hfirst other)
  have hbound := h bucket 0 overlapped hrun 0 0 le_rfl
  have hspent : overlapped.spentUntil 0 0 = 2 := by decide +kernel
  rw [hspent] at hbound
  norm_num [bucket] at hbound

end Yappy.RateLimit
