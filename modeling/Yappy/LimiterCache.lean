import Yappy.RateLimit

/-!
# The cached limiter

`RateLimiter.consume` of `apps/api/src/lib/ratelimit.ts` on each API node, in front of the shared
bucket, for one subject and one action. A call that the node does not settle itself is a trip to
Postgres, and whatever happens in between happens before its answer is cached. The entry of the key
may be shed at any time, to make room for others. The nodes and Postgres have one clock, in seconds;
a clock that is merely set otherwise reads no other differences.
-/
namespace Yappy.LimiterCache

open RateLimit (Seconds Bucket Admission Answer Row Careful)

/-- A `CacheEntry`. -/
structure Entry where
  tokens : ℚ
  updatedAt : Seconds
  /-- What Postgres had left when it answered, and the time it read. The cache does not hold it. -/
  counted : ℚ
  countedAt : Seconds

def Entry.set (entry : Entry) (tokens : ℚ) (now : Seconds) : Entry := { entry with tokens, updatedAt := now }

def Entry.refilled (bucket : Bucket) (entry : Entry) (now : Seconds) : ℚ :=
  min bucket.capacity (entry.tokens + (now - entry.updatedAt) * bucket.refillPerSecond)

/-- What Postgres had left, refilled since. -/
def Entry.given (bucket : Bucket) (entry : Entry) (now : Seconds) : ℚ :=
  min bucket.capacity (entry.counted + (now - entry.countedAt) * bucket.refillPerSecond)

/-- `Math.ceil(missing / bucket.refillPerSecond)`, none where that is infinite. -/
def retryAfter (bucket : Bucket) (missing : ℚ) : Option ℤ :=
  if bucket.refillPerSecond = 0 then none else some ⌈missing / bucket.refillPerSecond⌉

inductive Verdict
  | allow (entry : Entry)
  | refuse (entry : Entry) (retryAfter : Option ℤ)
  | ask

/-- What a node makes of a call before it asks Postgres. -/
def consult (bucket : Bucket) (exact : Bool) (found : Option Entry) (now : Seconds) (cost : ℚ≥0) : Verdict :=
  if exact then .ask
  else match found with
  | none => .ask
  | some entry =>
    let refilled := entry.refilled bucket now
    if refilled - cost > bucket.capacity / 2 then .allow (entry.set (refilled - cost) now)
    else if refilled < cost then
      .refuse (entry.set refilled now) (retryAfter bucket (cost - refilled))
    else .ask

inductive Trip (ν : Type)
  | asked (node : ν) (cost : ℚ≥0)
  | running (node : ν) (cost : ℚ≥0)
  /-- Postgres has answered, having read the clock at `nowTs`. -/
  | answered (node : ν) (cost : ℚ≥0) (answer : Answer) (nowTs : Seconds)

def Trip.isAnswered {ν : Type} : Trip ν → Bool
  | .answered .. => true
  | .asked .. | .running .. => false

structure State (ν : Type) where
  shared : RateLimit.State
  cache : ν → Option Entry
  trips : ℕ → Option (Trip ν)
  /-- By a node or by Postgres, at the time of the decision. The last one first. -/
  admitted : List Admission

inductive Event (ν : Type)
  /-- The clock goes on, a query finds its row, or the table is swept. -/
  | shared (event : RateLimit.Event)
  | consume (node : ν) (id : ℕ) (cost : ℚ≥0)
  | query (id : ℕ)
  | upsert (id : ℕ)
  | throw (id : ℕ)
  | reply (id : ℕ)
  | shed (node : ν)

section
variable {ν : Type} [DecidableEq ν]

namespace State

def start (clock : Seconds) : State ν := ⟨RateLimit.State.start clock, fun _ => none, fun _ => none, []⟩

/-- What the node and Postgres together admitted from `a` until `b`. -/
def spentUntil (s : State ν) (a b : Seconds) : ℚ≥0 :=
  RateLimit.State.spentUntil { s.shared with admitted := s.admitted } a b

def spent (s : State ν) (a : Seconds) : ℚ≥0 := RateLimit.State.spent { s.shared with admitted := s.admitted } a

def trip (s : State ν) (id : ℕ) (trip : Option (Trip ν)) : State ν :=
  { s with trips := Function.update s.trips id trip }

def cached (s : State ν) (node : ν) (entry : Option Entry) : State ν :=
  { s with cache := Function.update s.cache node entry }

/-- `consume`, up to its query. -/
def consume (s : State ν) (bucket : Bucket) (exact : Bool) (node : ν) (id : ℕ) (cost : ℚ≥0) : State ν :=
  match consult bucket exact (s.cache node) s.shared.clock cost with
  | .allow entry => { s.cached node (some entry) with admitted := ⟨s.shared.clock, cost⟩ :: s.admitted }
  | .refuse entry _ => s.cached node (some entry)
  | .ask => s.trip id (some (.asked node cost))

def answered (s : State ν) (id : ℕ) (node : ν) (cost : ℚ≥0) (nowTs : Seconds) (result : Row × Answer) :
    State ν :=
  { s.trip id (some (.answered node cost result.2 nowTs)) with
    shared := s.shared.written id nowTs cost result
    admitted := if result.2.allowed then ⟨s.shared.clock, cost⟩ :: s.admitted else s.admitted }

def replied (s : State ν) (exact : Bool) (id : ℕ) (node : ν) (answer : Answer) (nowTs : Seconds) : State ν :=
  if exact then s.trip id none
  else (s.trip id none).cached node (some ⟨answer.remaining, s.shared.clock, answer.remaining, nowTs⟩)

end State

/-- What happens in Postgres other than the start of a query and its write. -/
def Quiet : RateLimit.Event → Prop
  | .tick _ | .select _ | .sweep _ => True
  | .call .. | .upsert _ | .abort _ => False

inductive Step (bucket : Bucket) (exact : Bool) : State ν → Event ν → State ν → Prop
  | shared {s : State ν} {event : RateLimit.Event} {after : RateLimit.State} (hquiet : Quiet event)
      (h : RateLimit.Step bucket s.shared event after) :
      Step bucket exact s (.shared event) { s with shared := after }
  | consume {s : State ν} {node : ν} {id : ℕ} {cost : ℚ≥0} (h : s.trips id = none) :
      Step bucket exact s (.consume node id cost) (s.consume bucket exact node id cost)
  | query {s : State ν} {id : ℕ} {node : ν} {cost : ℚ≥0} {after : RateLimit.State}
      (h : s.trips id = some (.asked node cost)) (hcall : RateLimit.Step bucket s.shared (.call id cost) after) :
      Step bucket exact s (.query id) { s.trip id (some (.running node cost)) with shared := after }
  | upsert {s : State ν} {id : ℕ} {node : ν} {cost : ℚ≥0} {nowTs : Seconds} {found : Option Row}
      (h : s.trips id = some (.running node cost)) (hcall : s.shared.calls id = some (.selected cost nowTs found))
      (hfree : ∀ other, other ≠ id → ¬ s.shared.Locks other) :
      Step bucket exact s (.upsert id) (s.answered id node cost nowTs (bucket.consume found nowTs cost))
  | throw {s : State ν} {id : ℕ} {after : RateLimit.State} (h : RateLimit.Step bucket s.shared (.abort id) after) :
      Step bucket exact s (.throw id) { s.trip id none with shared := after }
  | reply {s : State ν} {id : ℕ} {node : ν} {cost : ℚ≥0} {answer : Answer} {nowTs : Seconds}
      (h : s.trips id = some (.answered node cost answer nowTs)) :
      Step bucket exact s (.reply id) (s.replied exact id node answer nowTs)
  | shed {s : State ν} {node : ν} : Step bucket exact s (.shed node) (s.cached node none)

/-! ## One node -/

def debited (bucket : Bucket) : List Admission → Seconds → ℚ
  | [], _ => bucket.capacity
  | x :: rest, t => min bucket.capacity (debited bucket rest x.time - x.cost + (t - x.time) * bucket.refillPerSecond)

end

section
variable {bucket : Bucket} {exact : Bool} {s s' : State Unit} {t t' a b : Seconds} {cost : ℚ≥0}

lemma refill_later {tokens u : ℚ} (h : t ≤ t') :
    min (bucket.capacity : ℚ) (tokens + (t' - u) * bucket.refillPerSecond) =
      min (bucket.capacity : ℚ) (min (bucket.capacity : ℚ) (tokens + (t - u) * bucket.refillPerSecond) +
        (t' - t) * bucket.refillPerSecond) := by
  have hgrown := mul_nonneg (sub_nonneg.mpr h) bucket.refillPerSecond.coe_nonneg
  have hlater : tokens + (t' - u) * bucket.refillPerSecond =
      tokens + (t - u) * bucket.refillPerSecond + (t' - t) * bucket.refillPerSecond := by ring
  rw [hlater]
  rcases le_total (bucket.capacity : ℚ) (tokens + (t - u) * bucket.refillPerSecond) with hfull | hfull
  · rw [min_eq_left hfull, min_eq_left (by linarith), min_eq_left (by linarith)]
  · rw [min_eq_right hfull]

lemma debited_le (bucket : Bucket) (l : List Admission) (t : Seconds) : debited bucket l t ≤ bucket.capacity := by
  cases l with
  | nil => exact le_rfl
  | cons x rest => exact min_le_left _ _

lemma debited_later (l : List Admission) (h : t ≤ t') :
    debited bucket l t' = min (bucket.capacity : ℚ) (debited bucket l t + (t' - t) * bucket.refillPerSecond) := by
  cases l with
  | nil =>
    have hgrown := mul_nonneg (sub_nonneg.mpr h) bucket.refillPerSecond.coe_nonneg
    unfold debited
    exact (min_eq_left (by linarith)).symm
  | cons x rest =>
    unfold debited
    exact refill_later h

lemma debited_cons (l : List Admission) (t : Seconds) (cost : ℚ≥0) :
    debited bucket (⟨t, cost⟩ :: l) t = debited bucket l t - cost := by
  have hle := debited_le bucket l t
  have hcost := cost.coe_nonneg
  change min (bucket.capacity : ℚ) (debited bucket l t - cost + (t - t) * bucket.refillPerSecond) = _
  rw [sub_self, zero_mul, add_zero]
  exact min_eq_right (by linarith)

structure Halved (bucket : Bucket) (s : State Unit) : Prop where
  past : ∀ x ∈ s.admitted, x.time ≤ s.shared.clock
  covered : ∀ a ≤ s.shared.clock, s.spent a + debited bucket s.admitted s.shared.clock ≤
    bucket.capacity + (s.shared.clock - a) * bucket.refillPerSecond
  view : ∀ entry, s.cache () = some entry →
    entry.refilled bucket s.shared.clock ≤ debited bucket s.admitted s.shared.clock + bucket.capacity
  bounded : ∀ a b, a ≤ b →
    (s.spentUntil a b : ℚ) ≤ bucket.capacity + bucket.capacity / 2 + (b - a) * bucket.refillPerSecond

lemma Halved.later (h : Halved bucket s) (hclock : s.shared.clock ≤ s'.shared.clock)
    (hadmitted : s'.admitted = s.admitted)
    (hview : ∀ entry, s'.cache () = some entry →
      entry.refilled bucket s.shared.clock ≤ debited bucket s.admitted s.shared.clock + bucket.capacity) :
    Halved bucket s' := by
  have hspent : ∀ a, s'.spent a = s.spent a := by
    intro a
    unfold State.spent RateLimit.State.spent
    dsimp only
    rw [hadmitted]
  have huntil : ∀ a b, s'.spentUntil a b = s.spentUntil a b := by
    intro a b
    unfold State.spentUntil RateLimit.State.spentUntil
    dsimp only
    rw [hadmitted]
  have hgrown := mul_nonneg (sub_nonneg.mpr hclock) bucket.refillPerSecond.coe_nonneg
  constructor
  · intro x hx
    rw [hadmitted] at hx
    exact (h.past x hx).trans hclock
  · intro a ha
    rw [hspent, hadmitted, debited_later _ hclock]
    rcases le_or_gt a s.shared.clock with hle | hlt
    · have hcovered := h.covered a hle
      have hmin : min (bucket.capacity : ℚ) (debited bucket s.admitted s.shared.clock +
          (s'.shared.clock - s.shared.clock) * bucket.refillPerSecond) ≤ _ := min_le_right _ _
      linarith
    · have hzero : s.spent a = 0 := by
        refine RateLimit.spent_eq_zero ?_
        rintro ⟨x, hx, hax⟩
        exact absurd (hax.trans (h.past x hx)) (not_le.mpr hlt)
      have hmin : min (bucket.capacity : ℚ) (debited bucket s.admitted s.shared.clock +
          (s'.shared.clock - s.shared.clock) * bucket.refillPerSecond) ≤ bucket.capacity := min_le_left _ _
      have hsince := mul_nonneg (sub_nonneg.mpr ha) bucket.refillPerSecond.coe_nonneg
      rw [hzero, NNRat.coe_zero]
      linarith
  · intro entry hentry
    have hnow := hview entry hentry
    have hcapacity := bucket.capacity.coe_nonneg
    have hlater : entry.refilled bucket s'.shared.clock = min (bucket.capacity : ℚ)
        (entry.refilled bucket s.shared.clock + (s'.shared.clock - s.shared.clock) * bucket.refillPerSecond) :=
      refill_later hclock
    rw [hadmitted, debited_later _ hclock, hlater, ← min_add_add_right]
    refine le_min ?_ ?_
    · exact (min_le_left _ _).trans (by linarith)
    · exact (min_le_right _ _).trans (by linarith)
  · intro a b hab
    rw [huntil]
    exact h.bounded a b hab

lemma Halved.admits (h : Halved bucket s) (hclock : s'.shared.clock = s.shared.clock)
    (hadmitted : s'.admitted = ⟨s.shared.clock, cost⟩ :: s.admitted)
    (hcost : cost ≤ debited bucket s.admitted s.shared.clock + bucket.capacity / 2)
    (hview : ∀ entry, s'.cache () = some entry →
      entry.refilled bucket s.shared.clock ≤ debited bucket s.admitted s.shared.clock - cost + bucket.capacity) :
    Halved bucket s' := by
  have hdebited : debited bucket s'.admitted s'.shared.clock =
      debited bucket s.admitted s.shared.clock - cost := by
    rw [hadmitted, hclock, debited_cons]
  have hspent : ∀ a ≤ s.shared.clock, (s'.spent a : ℚ) = cost + s.spent a := by
    intro a ha
    have hcons := RateLimit.spent_cons { s.shared with admitted := s.admitted } a ⟨s.shared.clock, cost⟩
    rw [if_pos ha] at hcons
    have hsame : s'.spent a = cost + s.spent a := by
      rw [← show _ = cost + s.spent a from hcons]
      unfold State.spent RateLimit.State.spent
      dsimp only
      rw [hadmitted]
    rw [hsame]
    push_cast
    rfl
  have hcovered : ∀ a ≤ s.shared.clock, (s'.spent a : ℚ) + (debited bucket s.admitted s.shared.clock - cost) ≤
      bucket.capacity + (s.shared.clock - a) * bucket.refillPerSecond := by
    intro a ha
    have hold := h.covered a ha
    rw [hspent a ha]
    linarith
  constructor
  · intro x hx
    rw [hadmitted] at hx
    rw [hclock]
    rcases List.mem_cons.mp hx with rfl | hx
    · exact le_rfl
    · exact h.past x hx
  · intro a ha
    rw [hclock] at ha
    rw [hdebited, hclock]
    exact hcovered a ha
  · intro entry hentry
    rw [hdebited, hclock]
    exact hview entry hentry
  · intro a b hab
    have hcons := RateLimit.spentUntil_cons { s.shared with admitted := s.admitted } a b ⟨s.shared.clock, cost⟩
    have hsame : s'.spentUntil a b =
        (if a ≤ s.shared.clock ∧ s.shared.clock ≤ b then cost else 0) + s.spentUntil a b := by
      rw [← show _ = _ + s.spentUntil a b from hcons]
      unfold State.spentUntil RateLimit.State.spentUntil
      dsimp only
      rw [hadmitted]
    by_cases hin : a ≤ s.shared.clock ∧ s.shared.clock ≤ b
    · have hbound := hcovered a hin.1
      have hle : (s'.spentUntil a b : ℚ) ≤ s'.spent a := by exact_mod_cast RateLimit.spentUntil_le _ a b
      have hgrown := mul_le_mul_of_nonneg_right (sub_le_sub_right hin.2 a) bucket.refillPerSecond.coe_nonneg
      linarith
    · rw [hsame, if_neg hin, zero_add]
      exact h.bounded a b hab

lemma consume_allowed {found : Option Row} {nowTs : Seconds} :
    (bucket.consume found nowTs cost).2.allowed = true ↔ (cost : ℚ) ≤ bucket.available found nowTs := by
  unfold Bucket.consume
  dsimp only
  split_ifs with h
  · exact iff_of_true rfl h
  · exact iff_of_false nofun h

lemma consume_remaining {found : Option Row} {nowTs : Seconds} :
    (bucket.consume found nowTs cost).1.tokens = (bucket.consume found nowTs cost).2.remaining := by
  unfold Bucket.consume
  dsimp only
  split_ifs <;> rfl

end

/-! ## Many nodes -/

section
variable {ν : Type} [DecidableEq ν] {bucket : Bucket} {exact : Bool} {s s' : State ν} {event : Event ν}
  {r r' : RateLimit.State} {tokens : ℚ} {u nowTs : Seconds} {cost : ℚ≥0}

/-- A call that the cache cannot pay for costs more than what Postgres had left when the node last heard
of it, refilled since, and the calls and sweeps in Postgres are careful. -/
def Unlent (bucket : Bucket) (s : State ν) : Event ν → Prop
  | .consume node _ cost => ∀ entry, s.cache node = some entry → entry.refilled bucket s.shared.clock < cost →
      entry.given bucket s.shared.clock < cost
  | .shared event => Careful bucket s.shared event
  | .upsert id => Careful bucket s.shared (.upsert id)
  | _ => True

/-- Where the node refuses a call, Postgres would have. -/
def RefusesRightly (bucket : Bucket) (exact : Bool) (s : State ν) : Event ν → Prop
  | .consume node _ cost => ∀ entry retryAfter,
      consult bucket exact (s.cache node) s.shared.clock cost = .refuse entry retryAfter →
        (bucket.consume s.shared.row s.shared.clock cost).2.allowed = false
  | _ => True

structure Above (bucket : Bucket) (r : RateLimit.State) (tokens : ℚ) (u : Seconds) : Prop where
  row : ∀ row, r.row = some row →
    row.tokens - row.updatedAt * bucket.refillPerSecond ≤ tokens - u * bucket.refillPerSecond
  none : r.row = none → ∀ t, r.Ahead t → bucket.capacity ≤ tokens + (t - u) * bucket.refillPerSecond

lemma Above.available (h : Above bucket r tokens u) :
    bucket.available r.row r.clock ≤
      min (bucket.capacity : ℚ) (tokens + (r.clock - u) * bucket.refillPerSecond) := by
  refine le_min (RateLimit.available_le _ _) ?_
  cases hrow : r.row with
  | none => exact h.none hrow r.clock (Or.inl le_rfl)
  | some row =>
    have hle : bucket.available (some row) r.clock ≤
        row.tokens + (r.clock - row.updatedAt) * bucket.refillPerSecond := min_le_right _ _
    have hrow := h.row row hrow
    linarith

lemma Above.found {id : ℕ} {found : Option Row} (h : Above bucket r tokens u) (hheld : RateLimit.Held r)
    (hok : Careful bucket r (.upsert id)) (hcall : r.calls id = some (.selected cost nowTs found)) :
    bucket.available found nowTs ≤ tokens + (nowTs - u) * bucket.refillPerSecond := by
  cases found with
  | some row =>
    have hle : bucket.available (some row) nowTs ≤
        row.tokens + (nowTs - row.updatedAt) * bucket.refillPerSecond := min_le_right _ _
    have hrow := h.row row (hheld id cost nowTs row hcall)
    linarith
  | none =>
    cases hrow : r.row with
    | none => exact h.none hrow nowTs (Or.inr ⟨id, _, hcall, rfl⟩)
    | some row =>
      have hfull : bucket.capacity ≤ row.tokens + (nowTs - row.updatedAt) * bucket.refillPerSecond :=
        hok cost nowTs row hcall hrow
      have hrow := h.row row hrow
      exact hfull.trans (by linarith)

lemma step_above {event : RateLimit.Event} (h : Above bucket r tokens u) (hheld : RateLimit.Held r)
    (hok : Careful bucket r event) (hs : RateLimit.Step bucket r event r') : Above bucket r' tokens u := by
  have hahead : ∀ t, r'.Ahead t → r.Ahead t := fun t ht => RateLimit.step_ahead hs ht
  cases hs with
  | tick | call | select | abort => exact ⟨h.row, fun hnone t ht => h.none hnone t (hahead t ht)⟩
  | @upsert id cost nowTs found hcall hfree =>
    have hfound := h.found hheld hok hcall
    refine ⟨fun row hrow => ?_, nofun⟩
    obtain rfl := Option.some.inj hrow
    obtain ⟨hupdated, ⟨-, htokens, -⟩ | ⟨-, htokens⟩⟩ := @RateLimit.consume_tokens bucket found nowTs cost
    · have hcost := cost.coe_nonneg
      rw [hupdated, htokens]
      linarith
    · rw [hupdated, htokens]
      linarith
  | @sweep now hle hfree =>
    refine ⟨fun row hrow => h.row row (Option.filter_eq_some_iff.mp hrow).1, fun hnone t ht => ?_⟩
    cases hrow : r.row with
    | none => exact h.none hrow t (hahead t ht)
    | some row =>
      have hexpired : row.expiresAt < now := by
        dsimp only at hnone
        rw [hrow] at hnone
        simpa using Option.filter_eq_none_iff.mp hnone row rfl
      have hfull : bucket.capacity ≤ row.tokens + (t - row.updatedAt) * bucket.refillPerSecond :=
        hok row t hrow hexpired (hahead t ht)
      have hrow := h.row row hrow
      exact hfull.trans (by linarith)

structure Told (bucket : Bucket) (s : State ν) : Prop where
  held : RateLimit.Held s.shared
  cached : ∀ node entry, s.cache node = some entry → Above bucket s.shared entry.counted entry.countedAt
  answered : ∀ id node cost answer nowTs, s.trips id = some (.answered node cost answer nowTs) →
    Above bucket s.shared answer.remaining nowTs

omit [DecidableEq ν] in
lemma start_told (clock : Seconds) : Told bucket (.start clock : State ν) where
  held _ _ _ _ h := by cases h
  cached _ _ h := by cases h
  answered _ _ _ _ _ h := by cases h

omit [DecidableEq ν] in
lemma trip_trips (s : State ν) (id other : ℕ) (trip : Option (Trip ν)) :
    (s.trip id trip).trips other = if other = id then trip else s.trips other := by
  simp only [State.trip, Function.update_apply]

lemma cached_cache (s : State ν) (node other : ν) (entry : Option Entry) :
    (s.cached node entry).cache other = if other = node then entry else s.cache other := by
  simp only [State.cached, Function.update_apply]

lemma consult_settled {found : Option Entry} {now : Seconds} {verdict : Verdict}
    (h : consult bucket exact found now cost = verdict) :
    (∃ entry entry' : Entry, found = some entry ∧ entry'.counted = entry.counted ∧
      entry'.countedAt = entry.countedAt ∧ (verdict = .allow entry' ∨
        entry.refilled bucket now < cost ∧ ∃ retryAfter, verdict = .refuse entry' retryAfter)) ∨
      verdict = .ask := by
  unfold consult at h
  split_ifs at h
  · exact Or.inr h.symm
  · cases found with
    | none => exact Or.inr h.symm
    | some entry =>
      dsimp only at h
      split_ifs at h with hcomfortable hdry
      · exact Or.inl ⟨entry, entry.set (entry.refilled bucket now - cost) now, rfl, rfl, rfl, Or.inl h.symm⟩
      · exact Or.inl ⟨entry, entry.set (entry.refilled bucket now) now, rfl, rfl, rfl, Or.inr ⟨hdry, _, h.symm⟩⟩
      · exact Or.inr h.symm

omit [DecidableEq ν] in
lemma Told.moves (event : RateLimit.Event) (h : Told bucket s) (hok : Careful bucket s.shared event)
    (hs : RateLimit.Step bucket s.shared event s'.shared)
    (hcache : ∀ node entry, s'.cache node = some entry → s.cache node = some entry)
    (htrips : ∀ id node cost answer nowTs, s'.trips id = some (.answered node cost answer nowTs) →
      s.trips id = some (.answered node cost answer nowTs)) : Told bucket s' where
  held := RateLimit.step_held h.held hs
  cached node entry hentry := step_above (h.cached node entry (hcache node entry hentry)) h.held hok hs
  answered id node cost answer nowTs htrip :=
    step_above (h.answered id node cost answer nowTs (htrips id node cost answer nowTs htrip)) h.held hok hs

omit [DecidableEq ν] in
lemma trip_told {id other : ℕ} {trip : Option (Trip ν)} {node : ν} {answer : Answer}
    (htrip : trip.any Trip.isAnswered = false)
    (h : (s.trip id trip).trips other = some (.answered node cost answer nowTs)) :
    s.trips other = some (.answered node cost answer nowTs) := by
  rw [trip_trips] at h
  split_ifs at h
  · rw [h] at htrip
    cases htrip
  · exact h

lemma step_told (h : Told bucket s) (hok : Unlent bucket s event) (hs : Step bucket exact s event s') :
    Told bucket s' := by
  cases hs with
  | shared _ hstep => exact h.moves _ hok hstep (fun _ _ he => he) fun _ _ _ _ _ ht => ht
  | @consume node id cost =>
    unfold State.consume
    have hverdict : consult bucket exact (s.cache node) s.shared.clock cost =
        consult bucket exact (s.cache node) s.shared.clock cost := rfl
    rcases consult_settled hverdict with
      ⟨entry, entry', hentry, hcounted, hat, hverdict⟩ | hask
    · have hcached : ∀ other e, (s.cached node (some entry')).cache other = some e →
          Above bucket s.shared e.counted e.countedAt := by
        intro other e he
        rw [cached_cache] at he
        split_ifs at he
        · obtain rfl := Option.some.inj he
          rw [hcounted, hat]
          exact h.cached node entry hentry
        · exact h.cached other e he
      rcases hverdict with hallow | ⟨-, retryAfter, hrefuse⟩
      · rw [hallow]
        exact ⟨h.held, hcached, h.answered⟩
      · rw [hrefuse]
        exact ⟨h.held, hcached, h.answered⟩
    · rw [hask]
      exact ⟨h.held, h.cached, fun _ _ _ _ _ ht => h.answered _ _ _ _ _ (trip_told rfl ht)⟩
  | query _ hcall => exact h.moves (.call _ _) trivial hcall (fun _ _ he => he) fun _ _ _ _ _ ht => trip_told rfl ht
  | throw habort => exact h.moves (.abort _) trivial habort (fun _ _ he => he) fun _ _ _ _ _ ht => trip_told rfl ht
  | @upsert id node cost nowTs found htrip hcall hfree =>
    have hstep : RateLimit.Step bucket s.shared (.upsert id)
        (s.shared.written id nowTs cost (bucket.consume found nowTs cost)) := .upsert hcall hfree
    have hcareful : Careful bucket s.shared (.upsert id) := hok
    refine ⟨RateLimit.step_held h.held hstep, fun other entry hentry => ?_,
      fun other node' cost' answer nowTs' ht => ?_⟩
    · exact step_above (h.cached other entry hentry) h.held hcareful hstep
    · have ht' : (s.trip id (some (.answered node cost (bucket.consume found nowTs cost).2 nowTs))).trips other =
          some (.answered node' cost' answer nowTs') := ht
      rw [trip_trips] at ht'
      split_ifs at ht'
      · obtain ⟨rfl, rfl, rfl, rfl⟩ := Trip.answered.inj (Option.some.inj ht')
        refine ⟨fun row hrow => ?_, nofun⟩
        obtain rfl := Option.some.inj hrow
        rw [(RateLimit.consume_tokens found nowTs cost).1, consume_remaining]
      · exact step_above (h.answered other node' cost' answer nowTs' ht') h.held hcareful hstep
  | @reply id node cost answer nowTs htrip =>
    unfold State.replied
    split_ifs
    · exact ⟨h.held, h.cached, fun _ _ _ _ _ ht => h.answered _ _ _ _ _ (trip_told rfl ht)⟩
    · refine ⟨h.held, fun other entry hentry => ?_, fun _ _ _ _ _ ht => h.answered _ _ _ _ _ (trip_told rfl ht)⟩
      rw [cached_cache] at hentry
      split_ifs at hentry
      · obtain rfl := Option.some.inj hentry
        exact h.answered id node cost answer nowTs htrip
      · exact h.cached other entry hentry
  | shed =>
    refine ⟨h.held, fun other entry hentry => ?_, h.answered⟩
    rw [cached_cache] at hentry
    split_ifs at hentry
    exact h.cached other entry hentry

lemma step_refuses (h : Told bucket s) (hok : Unlent bucket s event) (hs : Step bucket exact s event s') :
    RefusesRightly bucket exact s event := by
  cases hs with
  | @consume node id cost =>
    intro entry retryAfter hrefuse
    rcases consult_settled hrefuse with ⟨found, _, hfound, _, _, hallow | ⟨hdry, _⟩⟩ | hask
    · cases hallow
    · have hgiven := hok found hfound hdry
      have hleft := (h.cached node found hfound).available
      refine Bool.eq_false_iff.mpr fun hallowed => ?_
      have hcost := consume_allowed.mp hallowed
      exact absurd (hcost.trans hleft) (not_le.mpr hgiven)
    · cases hask
  | shared | query | upsert | throw | reply | shed => trivial

/-- What a node refuses from its cache, Postgres would have refused. -/
theorem refusals_agree {clock : Seconds} {entries : List (State ν × Event ν × State ν)}
    (hrun : History (Step bucket exact) (.start clock) entries s)
    (hok : ∀ e ∈ entries, Unlent bucket e.1 e.2.1) :
    ∀ e ∈ entries, RefusesRightly bucket exact e.1 e.2.1 := by
  have hboth : Told bucket s ∧ ∀ e ∈ entries, RefusesRightly bucket exact e.1 e.2.1 :=
    @History.forall_entries (State ν) (Event ν) (Step bucket exact) _ _ _ (Told bucket) (Unlent bucket)
      (fun s event _ => RefusesRightly bucket exact s event) hrun (start_told clock)
      (fun _ _ _ h hok hs => ⟨step_told h hok hs, step_refuses h hok hs⟩) hok
  exact hboth.2

end

namespace Sample

def forward : Bucket := ⟨10, 1 / 2⟩

def resting (row : Option Row) (entry : Option Entry) (shared admitted : List Admission) : State Unit :=
  ⟨⟨row, 0, fun _ => none, shared⟩, fun _ => entry, fun _ => none, admitted⟩

def tripped (row : Option Row) (shared admitted : List Admission) (cost : ℚ≥0) : State Unit :=
  let result := forward.consume row 0 cost
  resting (some result.1) (some ⟨result.2.remaining, 0, result.2.remaining, 0⟩)
    (if result.2.allowed then ⟨0, cost⟩ :: shared else shared)
    (if result.2.allowed then ⟨0, cost⟩ :: admitted else admitted)

lemma resting_free (row : Option Row) (entry : Option Entry) (shared admitted : List Admission) :
    ∀ other, ¬ (resting row entry shared admitted).shared.Locks other := by
  rintro other ⟨_, _, _, hlocked⟩
  cases hlocked

variable {row : Option Row} {entry : Option Entry} {shared admitted : List Admission} {cost : ℚ≥0}
  {ok : State Unit → Event Unit → Prop}

def under (row : Option Row) (entry : Option Entry) (shared admitted : List Admission) (call : Option RateLimit.Call)
    (trip : Trip Unit) : State Unit :=
  ⟨⟨row, 0, Function.update (fun _ => none) 0 call, shared⟩, fun _ => entry,
    Function.update (fun _ => none) 0 (some trip), admitted⟩

def found (row : Option Row) (entry : Option Entry) (shared admitted : List Admission) (cost : ℚ≥0) : State Unit :=
  under row entry shared admitted (some (.selected cost 0 row)) (.running () cost)

lemma found_run (hask : consult forward false entry 0 cost = .ask)
    (hconsume : ok (resting row entry shared admitted) (.consume () 0 cost))
    (hquiet : ∀ s, ok s (.query 0) ∧ ok s (.shared (.select 0))) :
    RunWhere (Step forward false) ok (resting row entry shared admitted) (found row entry shared admitted cost) := by
  have h₁ : Step forward false (resting row entry shared admitted) (.consume () 0 cost)
      (under row entry shared admitted none (.asked () cost)) := by
    have hstep := @Step.consume Unit _ forward false (resting row entry shared admitted) () 0 cost rfl
    unfold State.consume at hstep
    rw [show consult forward false ((resting row entry shared admitted).cache ())
      (resting row entry shared admitted).shared.clock cost = .ask from hask] at hstep
    convert hstep using 1
    simp [under, resting, State.trip]
  have h₂ : Step forward false (under row entry shared admitted none (.asked () cost)) (.query 0)
      (under row entry shared admitted (some (.declared cost 0)) (.running () cost)) := by
    have hstep := @Step.query Unit _ forward false (under row entry shared admitted none (.asked () cost)) 0 () cost _
      rfl (.call rfl)
    convert hstep using 1
    simp [under, State.trip, RateLimit.State.set]
  have hfree : ∀ other, ¬ (under row entry shared admitted (some (.declared cost 0)) (.running () cost)).shared.Locks
      other :=
    RateLimit.set_unlocked (s := ⟨row, 0, fun _ => none, shared⟩) (resting_free row entry shared admitted) nofun
  have h₃ : Step forward false (under row entry shared admitted (some (.declared cost 0)) (.running () cost))
      (.shared (.select 0)) (found row entry shared admitted cost) := by
    have hstep := @Step.shared Unit _ forward false (under row entry shared admitted (some (.declared cost 0))
      (.running () cost)) (.select 0) _ trivial (.select rfl hfree)
    convert hstep using 1
    simp [found, under, RateLimit.State.set]
  exact (((RunWhere.refl _).tail hconsume h₁).tail (hquiet _).1 h₂).tail (hquiet _).2 h₃

lemma trip_run (row : Option Row) (entry : Option Entry) (shared admitted : List Admission) (cost : ℚ≥0)
    (hask : consult forward false entry 0 cost = .ask)
    (hconsume : ok (resting row entry shared admitted) (.consume () 0 cost))
    (hquiet : ∀ s, ok s (.query 0) ∧ ok s (.shared (.select 0)))
    (hupsert : ok (found row entry shared admitted cost) (.upsert 0))
    (hreply : ok ((found row entry shared admitted cost).answered 0 () cost 0 (forward.consume row 0 cost)) (.reply 0)) :
    RunWhere (Step forward false) ok (resting row entry shared admitted) (tripped row shared admitted cost) := by
  have hfree : ∀ other, other ≠ 0 → ¬ (found row entry shared admitted cost).shared.Locks other := by
    rintro other hother ⟨_, _, _, hlocked⟩
    have hnone : (found row entry shared admitted cost).shared.calls other = none := by
      simp [found, under, Function.update_of_ne hother]
    cases hnone.symm.trans hlocked
  have h₁ := @Step.upsert Unit _ forward false (found row entry shared admitted cost) 0 () cost 0 row rfl rfl hfree
  have h₂ := @Step.reply Unit _ forward false ((found row entry shared admitted cost).answered 0 () cost 0
    (forward.consume row 0 cost)) 0 () cost (forward.consume row 0 cost).2 0 rfl
  have hrun := ((found_run hask hconsume hquiet).tail hupsert h₁).tail hreply h₂
  have hcache : ∀ e : Option Entry, Function.update (fun _ : Unit => entry) () e = fun _ => e :=
    fun _ => funext fun _ => rfl
  convert hrun using 1
  simp [found, under, tripped, resting, State.replied, State.answered, State.trip, State.cached,
    RateLimit.State.written, RateLimit.State.set, hcache]

lemma local_run {entry' : Entry} (hallow : consult forward false entry 0 cost = .allow entry')
    (hconsume : ok (resting row entry shared admitted) (.consume () 0 cost)) :
    RunWhere (Step forward false) ok (resting row entry shared admitted)
      (resting row (some entry') shared (⟨0, cost⟩ :: admitted)) := by
  have hstep := @Step.consume Unit _ forward false (resting row entry shared admitted) () 0 cost rfl
  unfold State.consume at hstep
  rw [show consult forward false ((resting row entry shared admitted).cache ())
    (resting row entry shared admitted).shared.clock cost = .allow entry' from hallow] at hstep
  exact (RunWhere.refl _).tail hconsume hstep

lemma consult_now {tokens counted : ℚ} (h : tokens ≤ 10) :
    consult forward false (some ⟨tokens, 0, counted, 0⟩) 0 cost =
      if tokens - cost > 5 then .allow ⟨tokens - cost, 0, counted, 0⟩
      else if tokens < cost then .refuse ⟨tokens, 0, counted, 0⟩ (retryAfter forward (cost - tokens)) else .ask := by
  have hrefilled : Entry.refilled forward ⟨tokens, 0, counted, 0⟩ 0 = tokens := by
    unfold Entry.refilled forward
    simpa using h
  unfold consult
  dsimp only
  rw [hrefilled, if_neg Bool.false_ne_true]
  norm_num [forward, Entry.set]

def left (d v counted : ℚ) (shared admitted : List Admission) : State Unit :=
  resting (some ⟨d, 0, 60⟩) (some ⟨v, 0, counted, 0⟩) shared admitted

lemma first_trip {cost : ℚ≥0} (h : (cost : ℚ) ≤ 10) : tripped none [] [] cost =
    left (10 - cost) (10 - cost) (10 - cost) [⟨0, cost⟩] [⟨0, cost⟩] := by
  have hlifetime : forward.lifetime = 60 := by
    unfold Bucket.lifetime forward
    norm_num
  have havailable : forward.available none 0 = 10 := rfl
  unfold tripped Bucket.consume left
  rw [havailable, hlifetime, if_pos h]
  simp

variable {d d' v v' counted : ℚ}

lemma left_local (cost : ℚ≥0) (hconsume : ok (left d v counted shared admitted) (.consume () 0 cost)) (hv : v ≤ 10)
    (hhalf : 5 < v - cost) (hv' : v - cost = v') : RunWhere (Step forward false) ok (left d v counted shared admitted)
      (left d v' counted shared (⟨0, cost⟩ :: admitted)) := by
  refine local_run ?_ hconsume
  rw [consult_now hv, if_pos hhalf, hv']

lemma opened_run (hconsume : ∀ s id cost, ok s (.consume () id cost))
    (hquiet : ∀ s, ok s (.query 0) ∧ ok s (.shared (.select 0))) (hupsert : ok (found none none [] [] 1) (.upsert 0))
    (hreply : ok ((found none none [] [] 1).answered 0 () 1 0 (forward.consume none 0 1)) (.reply 0)) :
    RunWhere (Step forward false) ok (.start 0) (left 9 6 9 [⟨0, 1⟩] [⟨0, 3⟩, ⟨0, 1⟩]) := by
  have htrip := trip_run none none [] [] 1 rfl (hconsume _ _ _) hquiet hupsert hreply
  rw [first_trip (by norm_num), show (10 : ℚ) - (1 : ℚ≥0) = 9 by norm_num] at htrip
  exact htrip.trans (left_local 3 (hconsume _ _ _) (by norm_num) (by norm_num) (by norm_num))

end Sample

open Sample in
/-- Nothing is left, and the node knows. -/
theorem refusals_agree_dry : ∃ entries s, History (Step forward false) (.start 0) entries s ∧
    (∃ e ∈ entries, ∃ entry retryAfter, e.2.1 = .consume () 0 1 ∧
      consult forward false (e.1.cache ()) e.1.shared.clock 1 = .refuse entry retryAfter) ∧
    ∀ e ∈ entries, RefusesRightly forward false e.1 e.2.1 := by
  have htrip : RunWhere (Step forward false) (Unlent forward) (.start 0) (tripped none [] [] 10) :=
    trip_run none none [] [] 10 rfl nofun (fun _ => ⟨trivial, trivial⟩) nofun trivial
  rw [first_trip (by norm_num), show (10 : ℚ) - (10 : ℚ≥0) = 0 by norm_num] at htrip
  have hrefuse : consult forward false (some ⟨0, 0, 0, 0⟩) 0 1 = .refuse ⟨0, 0, 0, 0⟩ (retryAfter forward (1 - 0)) := by
    rw [consult_now (by norm_num)]
    norm_num
  have hdry : Unlent forward (left 0 0 0 [⟨0, 10⟩] [⟨0, 10⟩]) (.consume () 0 1) := by
    intro entry hentry _
    obtain rfl := Option.some.inj hentry
    change min ((10 : ℚ≥0) : ℚ) (0 + (0 - 0) * ((1 / 2 : ℚ≥0) : ℚ)) < ((1 : ℚ≥0) : ℚ)
    norm_num
  obtain ⟨entries, htripped, hok⟩ := History.of_run htrip
  have hlast := htripped.snoc (@Step.consume Unit _ forward false _ () 0 1 rfl)
  refine ⟨_, _, hlast, ⟨_, List.mem_append_right _ (List.mem_singleton_self _), _, _, rfl, hrefuse⟩,
    refusals_agree hlast fun e he => ?_⟩
  rcases List.mem_append.mp he with he | he
  · exact hok e he
  · obtain rfl := List.mem_singleton.mp he
    exact hdry

open Sample in
/-- What the node has let through since leaves it too little for the call, and Postgres enough. -/
theorem refused_for_nothing : ∃ entries, ∃ s : State Unit, History (Step forward false) (.start 0) entries s ∧
    ∃ e ∈ entries, ¬ RefusesRightly forward false e.1 e.2.1 := by
  have hrun : RunWhere (Step forward false) (fun _ _ => True) (.start 0)
      (left 9 6 9 [⟨0, 1⟩] [⟨0, 3⟩, ⟨0, 1⟩]) :=
    opened_run (fun _ _ _ => trivial) (fun _ => ⟨trivial, trivial⟩) trivial trivial
  obtain ⟨entries, hopened, -⟩ := History.of_run hrun
  have hrefuse : consult forward false (some ⟨6, 0, 9, 0⟩) 0 7 = .refuse ⟨6, 0, 9, 0⟩ (retryAfter forward (7 - 6)) := by
    rw [consult_now (by norm_num)]
    norm_num
  refine ⟨_, _, hopened.snoc (@Step.consume Unit _ forward false _ () 0 7 rfl), _,
    List.mem_append_right _ (List.mem_singleton_self _), fun hright => ?_⟩
  have hrefused := hright _ _ hrefuse
  revert hrefused
  decide +kernel

end Yappy.LimiterCache
