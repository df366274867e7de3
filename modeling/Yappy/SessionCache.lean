import Mathlib

/-!
# The session cache

`sessionResource` of `apps/webapp/src/lib/sessionResource.ts`, a memory cache for the account that is signed in.
A request answers for the account that was signed in when it started. The moments, and the request a value
comes from, are recorded for the statements only.
-/
namespace Yappy.SessionResource

abbrev Account := String

structure Request where
  account : Option Account
  started : ℕ

structure Sourced (T : Type) where
  value : T
  source : Request

/-- The asynchronous function of `load`. Without an outcome it awaits its request; it is rejected with
`some none`. -/
structure Work (T : Type) where
  user : Account
  session : ℕ
  asked : ℕ
  request : Request
  outcome : Option (Option (Sourced T))

structure Resource (T : Type) where
  account : Option Account
  owner : Option Account
  value : Option (Sourced T)
  fetched : ℤ
  generation : ℕ
  revision : ℕ
  pending : Option ℕ
  works : List (Work T)
  ttl : ℤ
  /-- Steps taken so far, and the last of them that invalidated or updated. -/
  moment : ℕ
  changed : ℕ

variable {T : Type}

def Resource.init (account : Option Account) (ttl : ℤ) : Resource T :=
  { account, owner := account, value := none, fetched := 0, generation := 0, revision := 0, pending := none
    works := [], ttl, moment := 1, changed := 0 }

def Resource.clear (s : Resource T) : Resource T :=
  { s with
    owner := s.account, value := none, fetched := 0, generation := s.generation + 1
    revision := s.revision + 1, pending := none }

/-- What `read` does before it returns the value. -/
def Resource.read (s : Resource T) : Resource T := if s.owner ≠ s.account then s.clear else s

def Resource.request (s : Resource T) : Request := { account := s.account, started := s.moment }

inductive Output (T : Type)
  | none
  | value (v : Option (Sourced T))
  | promise (work : ℕ)
  | rejected

/-- `load` at a time; a new work runs up to its request. -/
def Resource.load (s : Resource T) (force : Bool) (now : ℤ) : Resource T × Output T :=
  let s := s.read
  match s.owner with
  | none => (s, .rejected)
  | some user =>
    match s.pending with
    | some work => (s, .promise work)
    | none =>
      if !force && s.value.isSome && now - s.fetched < s.ttl then (s, .value s.value)
      else
        let work : Work T :=
          { user, session := s.generation, asked := s.revision, request := s.request, outcome := none }
        ({ s with works := s.works ++ [work], pending := some s.works.length }, .promise s.works.length)

def Resource.invalidate (s : Resource T) : Resource T :=
  let s := s.read
  { s with fetched := 0, revision := s.revision + 1, changed := s.moment }

def Resource.update (s : Resource T) (transform : T → T) : Resource T :=
  let s := s.read
  { s with
    value := s.value.map fun current => { current with value := transform current.value }
    fetched := 0, revision := s.revision + 1, changed := s.moment }

def Resource.setWork (s : Resource T) (i : ℕ) (work : Work T) : Resource T :=
  { s with works := s.works.set i work }

/-- The answer to the request of a work, at a time. -/
def Resource.answer (s : Resource T) (i : ℕ) (next : Option T) (now : ℤ) : Resource T :=
  match s.works[i]? with
  | none => s
  | some work =>
    if work.outcome.isSome then s
    else match next with
      | none => s.setWork i { work with outcome := some none }
      | some next =>
        let next : Sourced T := { value := next, source := work.request }
        if work.session ≠ s.generation ∨ s.account ≠ some work.user then
          s.setWork i { work with outcome := some none }
        else if work.asked ≠ s.revision then
          s.setWork i { work with asked := s.revision, request := s.request }
        else { s.setWork i { work with outcome := some (some next) } with value := some next, fetched := now }

def Resource.settle (s : Resource T) (i : ℕ) : Resource T :=
  if (s.works[i]?.bind Work.outcome).isSome ∧ s.pending = some i then { s with pending := none } else s

inductive Action (T : Type)
  | signIn (account : Option Account)
  | read
  | load (force : Bool) (now : ℤ)
  | clear
  | invalidate
  | update (transform : T → T)
  | answer (work : ℕ) (next : Option T) (now : ℤ)
  | settle (work : ℕ)

def Resource.step (s : Resource T) : Action T → Resource T × Output T
  | .signIn account => ({ s with account }, .none)
  | .read => (s.read, .value s.read.value)
  | .load force now => s.load force now
  | .clear => (s.clear, .none)
  | .invalidate => (s.invalidate, .none)
  | .update transform => (s.update transform, .none)
  | .answer i next now => (s.answer i next now, .none)
  | .settle i => (s.settle i, .none)

def Resource.next (s : Resource T) (a : Action T) : Resource T := { (s.step a).1 with moment := s.moment + 1 }

def Resource.run (s : Resource T) (actions : List (Action T)) : Resource T := actions.foldl Resource.next s

def Resource.outcome (s : Resource T) (i : ℕ) : Option (Option (Sourced T)) := s.works[i]?.bind Work.outcome

/-- The request of a work that still runs started for its user, and after every change of a revision it asked
at; what a work resolved with was produced for its user. -/
structure Work.Kept (s : Resource T) (work : Work T) : Prop where
  session : work.session ≤ s.generation
  user : work.session = s.generation → s.owner = some work.user
  request : work.request.account = some work.user
  asked : work.asked ≤ s.revision
  started : work.asked = s.revision → s.changed < work.request.started
  resolved : ∀ v, work.outcome = some (some v) → v.source.account = some work.user

structure Resource.Kept (s : Resource T) : Prop where
  value : ∀ v, s.value = some v → v.source.account = s.owner ∧ s.owner.isSome
  works : ∀ work ∈ s.works, work.Kept s
  pending : ∀ i, s.pending = some i → ∃ work, s.works[i]? = some work ∧ work.session = s.generation
  changed : s.changed < s.moment

lemma kept_init (account : Option Account) (ttl : ℤ) : (Resource.init account ttl : Resource T).Kept := by
  constructor <;> simp [Resource.init]

lemma Resource.Kept.clear {s : Resource T} (h : s.Kept) : s.clear.Kept where
  value := by simp [Resource.clear]
  pending := by simp [Resource.clear]
  changed := h.changed
  works := by
    intro work hw
    obtain ⟨hsession, -, hrequest, hasked, -, hresolved⟩ := h.works work hw
    refine ⟨?_, ?_, hrequest, ?_, ?_, hresolved⟩ <;> simp only [Resource.clear] <;> omega

lemma Resource.Kept.read {s : Resource T} (h : s.Kept) : s.read.Kept := by
  unfold Resource.read
  split
  · exact h.clear
  · exact h

lemma read_owner (s : Resource T) : s.read.owner = s.account ∧ s.read.account = s.account := by
  unfold Resource.read
  split
  · exact ⟨rfl, rfl⟩
  · exact ⟨not_not.mp ‹_›, rfl⟩

lemma Resource.Kept.load {s : Resource T} (h : s.Kept) (force : Bool) (now : ℤ) :
    (s.load force now).1.Kept := by
  have hread := h.read
  obtain ⟨howner, haccount⟩ := read_owner s
  unfold Resource.load
  generalize s.read = r at *
  dsimp only
  split
  · exact hread
  · rename_i user hsome
    split
    · exact hread
    · split
      · exact hread
      · refine ⟨hread.value, ?_, ?_, hread.changed⟩
        · intro work hw
          rcases List.mem_append.mp hw with hw | hw
          · exact { hread.works work hw with }
          · obtain rfl := List.mem_singleton.mp hw
            have hrequest : r.account = some user := by rw [haccount, ← howner, hsome]
            exact ⟨le_rfl, fun _ => hsome, hrequest, le_rfl, fun _ => hread.changed, nofun⟩
        · rintro i ⟨⟩
          exact ⟨_, List.getElem?_concat_length .., rfl⟩

lemma Resource.Kept.change {s : Resource T} (h : s.Kept) (value : Option (Sourced T))
    (hvalue : ∀ v, value = some v → ∃ w, s.value = some w ∧ v.source = w.source) :
    Resource.Kept { s with
      value, fetched := 0, revision := s.revision + 1, changed := s.moment, moment := s.moment + 1 } where
  value := by
    intro v hv
    obtain ⟨w, hw, hsource⟩ := hvalue v hv
    rw [hsource]
    exact h.value w hw
  pending := h.pending
  changed := Nat.lt_succ_self _
  works := by
    intro work hw
    obtain ⟨hsession, huser, hrequest, hasked, -, hresolved⟩ := h.works work hw
    refine ⟨hsession, huser, hrequest, ?_, ?_, hresolved⟩ <;> simp only <;> omega

lemma Resource.Kept.setWork {s : Resource T} (h : s.Kept) {i : ℕ} {work : Work T} (work' : Work T)
    (hi : s.works[i]? = some work) (hsession : work'.session = work.session) (hkept : work'.Kept s) :
    (s.setWork i work').Kept where
  value := h.value
  changed := h.changed
  works := by
    intro w hw
    rcases List.mem_or_eq_of_mem_set hw with hw | rfl
    · exact { h.works w hw with }
    · exact { hkept with }
  pending := by
    intro j hj
    obtain ⟨w, hw, hs⟩ := h.pending j hj
    by_cases hij : i = j
    · subst hij
      obtain rfl := Option.some.inj (hi.symm.trans hw)
      exact ⟨work', by simp [Resource.setWork, (List.getElem?_eq_some_iff.mp hi).1], by rw [hsession, hs]; rfl⟩
    · exact ⟨w, by simp [Resource.setWork, hij, hw], hs⟩

lemma answer_cases (s : Resource T) (i : ℕ) (next : Option T) (now : ℤ) :
    s.answer i next now = s ∨ ∃ work, s.works[i]? = some work ∧ work.outcome = none ∧
      (s.answer i next now = s.setWork i { work with outcome := some none } ∨
        s.account = some work.user ∧ work.session = s.generation ∧
          s.answer i next now = s.setWork i { work with asked := s.revision, request := s.request } ∨
        ∃ v, v.source = work.request ∧ s.account = some work.user ∧ work.session = s.generation ∧
          work.asked = s.revision ∧ s.answer i next now =
            { s.setWork i { work with outcome := some (some v) } with value := some v, fetched := now }) := by
  unfold Resource.answer
  rcases s.works[i]? with _ | work
  · exact Or.inl rfl
  dsimp only
  by_cases hsome : work.outcome.isSome
  · exact Or.inl (if_pos hsome)
  rw [if_neg hsome]
  refine Or.inr ⟨work, rfl, by simpa using hsome, ?_⟩
  rcases next with _ | next
  · exact Or.inl rfl
  dsimp only
  split_ifs with hgone hasked
  · exact Or.inl rfl
  all_goals
    obtain ⟨hsession, haccount⟩ := not_or.mp hgone
    refine Or.inr ?_
  · exact Or.inl ⟨not_not.mp haccount, not_not.mp hsession, rfl⟩
  · exact Or.inr ⟨_, rfl, not_not.mp haccount, not_not.mp hsession, not_not.mp hasked, rfl⟩

lemma Resource.Kept.answer {s : Resource T} (h : s.Kept) (i : ℕ) (next : Option T) (now : ℤ) :
    (s.answer i next now).Kept := by
  rcases answer_cases s i next now with heq | ⟨work, hi, hnone, heq | ⟨haccount, hsession, heq⟩ |
    ⟨v, hv, haccount, hsession, hasked, heq⟩⟩
  · rwa [heq]
  all_goals have hwork := h.works work (List.mem_of_getElem? hi)
  · rw [heq]
    exact h.setWork _ hi rfl { hwork with resolved := nofun }
  · rw [heq]
    refine h.setWork _ hi rfl { hwork with
      request := haccount, asked := le_rfl, started := fun _ => h.changed, resolved := ?_ }
    intro v hv
    rw [hnone] at hv
    nomatch hv
  · have howner := hwork.user hsession
    have hsource : v.source.account = some work.user := by rw [hv, hwork.request]
    have hset := h.setWork { work with outcome := some (some v) } hi rfl
      { hwork with resolved := by rintro _ ⟨⟩; exact hsource }
    rw [heq]
    refine { hset with value := ?_, works := fun w hw => { hset.works w hw with } }
    rintro _ ⟨⟩
    exact ⟨hsource.trans howner.symm, by simp [Resource.setWork, howner]⟩

lemma Resource.Kept.later {s : Resource T} (h : s.Kept) : { s with moment := s.moment + 1 }.Kept where
  value := h.value
  works := fun w hw => { h.works w hw with }
  pending := h.pending
  changed := h.changed.trans (Nat.lt_succ_self _)

lemma Resource.Kept.settle {s : Resource T} (h : s.Kept) (i : ℕ) : (s.settle i).Kept := by
  unfold Resource.settle
  split
  · exact { h with pending := nofun, works := fun w hw => { h.works w hw with } }
  · exact h

@[simp] lemma read_moment (s : Resource T) : s.read.moment = s.moment := by
  unfold Resource.read
  split <;> rfl

@[simp] lemma load_moment (s : Resource T) (force : Bool) (now : ℤ) :
    (s.load force now).1.moment = s.moment := by
  rw [← read_moment s]
  unfold Resource.load
  dsimp only
  repeat' split
  all_goals rfl

lemma answer_moment (s : Resource T) (i : ℕ) (next : Option T) (now : ℤ) :
    (s.answer i next now).moment = s.moment := by
  rcases answer_cases s i next now with heq | ⟨_, -, -, heq | ⟨-, -, heq⟩ | ⟨_, -, -, -, -, heq⟩⟩ <;>
    rw [heq] <;> rfl

lemma settle_moment (s : Resource T) (i : ℕ) : (s.settle i).moment = s.moment := by
  unfold Resource.settle
  split <;> rfl

lemma Resource.Kept.next {s : Resource T} (h : s.Kept) (a : Action T) : (s.next a).Kept := by
  unfold Resource.next
  cases a with
  | signIn account =>
    have : Resource.Kept { s with account } := { h with works := fun w hw => { h.works w hw with } }
    exact this.later
  | read => simpa [Resource.step] using h.read.later
  | load force now => simpa [Resource.step] using (h.load force now).later
  | clear => exact h.clear.later
  | invalidate =>
    have := h.read.change s.read.value fun v hv => ⟨v, hv, rfl⟩
    simpa [Resource.step, Resource.invalidate] using this
  | update transform =>
    have := h.read.change (s.read.value.map fun current => { current with value := transform current.value })
      fun v hv => by
        obtain ⟨w, hw, rfl⟩ := Option.map_eq_some_iff.mp hv
        exact ⟨w, hw, rfl⟩
    simpa [Resource.step, Resource.update] using this
  | answer i next now =>
    have := (h.answer i next now).later
    rwa [answer_moment] at this
  | settle i =>
    have := (h.settle i).later
    rwa [settle_moment] at this

lemma kept_run (account : Option Account) (ttl : ℤ) (actions : List (Action T)) :
    ((Resource.init account ttl).run actions).Kept :=
  actions.foldlRecOn _ (kept_init account ttl) fun _ h a _ => h.next a

structure Sound (s : Resource T) (a : Action T) : Prop where
  /-- A value that `read` or `load` returns was produced for the account signed in. -/
  returned : ∀ v, (s.step a).2 = .value (some v) → s.account.isSome ∧ v.source.account = s.account
  /-- So was the one of a promise that is resolved by the time `load` returns it, -/
  joined : ∀ i v, (s.step a).2 = .promise i → s.outcome i = some (some v) →
    s.account.isSome ∧ v.source.account = s.account
  /-- and the one that a promise resolves with later, which is stored, and whose request started after every
  invalidation and update. -/
  resolved : ∀ i v, s.outcome i = none → (s.next a).outcome i = some (some v) →
    s.account.isSome ∧ v.source.account = s.account ∧ (s.next a).value = some v ∧ s.changed < v.source.started
  stored : ∀ i next now, a = .answer i next now → (s.next a).value = s.value ∨
    ∃ v, s.outcome i = none ∧ (s.next a).outcome i = some (some v) ∧ (s.next a).value = some v
  /-- All callers wait for the work that is pending, and its outcome does not change. -/
  shared : ∀ i force now, a = .load force now → s.pending = some i → s.owner = s.account → s.owner.isSome →
    (s.step a).2 = .promise i
  settled : ∀ i outcome, s.outcome i = some outcome → (s.next a).outcome i = some outcome

lemma outcome_answer (s : Resource T) (i j : ℕ) (next : Option T) (now : ℤ) :
    (s.answer j next now).outcome i = s.outcome i ∨
      i = j ∧ s.outcome i = none ∧ ((s.answer j next now).outcome i = some none ∨
        ∃ work v, s.works[i]? = some work ∧ v.source = work.request ∧ s.account = some work.user ∧
          work.asked = s.revision ∧ (s.answer j next now).outcome i = some (some v) ∧
          (s.answer j next now).value = some v) := by
  rcases answer_cases s j next now with heq | ⟨work, hj, hnone, h⟩
  · exact Or.inl (by rw [heq])
  have hlt := (List.getElem?_eq_some_iff.mp hj).1
  by_cases hij : i = j
  · subst hij
    have hout : s.outcome i = none := by rw [Resource.outcome, hj, Option.bind_some, hnone]
    rcases h with heq | ⟨-, -, heq⟩ | ⟨v, hv, haccount, -, hasked, heq⟩
    · exact Or.inr ⟨rfl, hout, Or.inl (by simp [heq, Resource.outcome, Resource.setWork, hlt])⟩
    · exact Or.inl (by rw [hout, heq]; simp [Resource.outcome, Resource.setWork, hlt, hnone])
    · refine Or.inr ⟨rfl, hout, Or.inr ⟨work, v, hj, hv, haccount, hasked, ?_, by rw [heq]⟩⟩
      simp [heq, Resource.outcome, Resource.setWork, hlt]
  · left
    rcases h with heq | ⟨-, -, heq⟩ | ⟨v, -, -, -, -, heq⟩ <;>
      simp [heq, Resource.outcome, Resource.setWork, Ne.symm hij]

lemma read_works (s : Resource T) : s.read.works = s.works := by
  unfold Resource.read
  split <;> rfl

lemma outcome_next (s : Resource T) {a : Action T} (ha : ∀ i next now, a ≠ .answer i next now) (i : ℕ) :
    (s.next a).outcome i = s.outcome i := by
  unfold Resource.next Resource.outcome
  cases a with
  | load force now =>
    dsimp only [Resource.step]
    rw [← read_works s]
    unfold Resource.load
    dsimp only
    split
    · rfl
    · split
      · rfl
      · split
        · rfl
        · rcases lt_trichotomy i s.read.works.length with hlt | rfl | hlt
          · rw [List.getElem?_append_left hlt]
          · simp
          · simp [hlt.le, hlt]
  | answer i next now => exact absurd rfl (ha i next now)
  | settle j =>
    dsimp only [Resource.step, Resource.settle]
    split <;> rfl
  | _ => simp [Resource.step, Resource.clear, Resource.invalidate, Resource.update, read_works]

lemma settled_next (s : Resource T) (a : Action T) {i : ℕ} {outcome : Option (Sourced T)}
    (h : s.outcome i = some outcome) : (s.next a).outcome i = some outcome := by
  cases a with
  | answer j next now =>
    rcases outcome_answer s i j next now with heq | ⟨-, hnone, -⟩
    · exact heq.trans h
    · rw [hnone] at h
      nomatch h
  | _ => rw [outcome_next s (by nofun), h]

lemma sound {s : Resource T} (h : s.Kept) (a : Action T) : Sound s a where
  settled := fun _ _ => settled_next s a
  returned := by
    intro v hv
    obtain ⟨howner, haccount⟩ := read_owner s
    have hvalue : s.read.value = some v := by
      cases a with
      | read => simpa [Resource.step] using hv
      | load force now =>
        simp only [Resource.step, Resource.load] at hv
        repeat' split at hv
        all_goals simp_all
      | _ => simp [Resource.step] at hv
    rw [← howner]
    exact (h.read.value v hvalue).symm
  joined := by
    intro i v hi hv
    obtain ⟨howner, haccount⟩ := read_owner s
    cases a with
    | load force now =>
      have hpending : s.read.pending = some i ∨ i = s.read.works.length := by
        simp only [Resource.step, Resource.load] at hi
        repeat' split at hi
        all_goals simp_all
      rcases hpending with hpending | rfl
      · obtain ⟨work, hwork, hsession⟩ := h.read.pending i hpending
        have hkept := h.read.works work (List.mem_of_getElem? hwork)
        rw [read_works] at hwork
        rw [Resource.outcome, hwork] at hv
        rw [← howner, hkept.resolved v hv, hkept.user hsession]
        exact ⟨rfl, rfl⟩
      · simp [Resource.outcome, read_works] at hv
    | _ => simp [Resource.step] at hi
  resolved := by
    intro i v hnone hv
    cases a with
    | answer j next now =>
      rcases outcome_answer s i j next now with heq | ⟨-, -, heq |
        ⟨work, w, hwork, hsource, haccount, hasked, heq, hvalue⟩⟩
      · rw [← heq] at hnone
        exact nomatch hnone.symm.trans hv
      · exact nomatch heq.symm.trans hv
      · obtain rfl : w = v := by simpa using heq.symm.trans hv
        have hkept := h.works work (List.mem_of_getElem? hwork)
        rw [hsource, hkept.request, haccount]
        exact ⟨rfl, rfl, hvalue, hkept.started hasked⟩
    | _ =>
      rw [outcome_next s (by nofun), hnone] at hv
      nomatch hv
  stored := by
    rintro i next now rfl
    rcases answer_cases s i next now with heq | ⟨work, hi, hnone, heq | ⟨-, -, heq⟩ | ⟨v, -, -, -, -, heq⟩⟩
    · exact Or.inl (by simp [Resource.next, Resource.step, heq])
    · exact Or.inl (by simp [Resource.next, Resource.step, heq, Resource.setWork])
    · exact Or.inl (by simp [Resource.next, Resource.step, heq, Resource.setWork])
    · have hlt := (List.getElem?_eq_some_iff.mp hi).1
      refine Or.inr ⟨v, by rw [Resource.outcome, hi, Option.bind_some, hnone], ?_, ?_⟩ <;>
        simp [Resource.next, Resource.step, heq, Resource.outcome, Resource.setWork, hlt]
  shared := by
    rintro i force now rfl hpending howner hsome
    obtain ⟨user, huser⟩ := Option.isSome_iff_exists.mp hsome
    have hread : s.read = s := if_neg (not_not.mpr howner)
    simp [Resource.step, Resource.load, hread, huser, hpending]

/-- In every run every action is sound, and what a load has resolved with or been rejected with stays. -/
theorem session_cache (account : Option Account) (ttl : ℤ) (actions : List (Action T)) :
    (∀ a, Sound ((Resource.init account ttl).run actions) a) ∧
      ∀ more i outcome, ((Resource.init account ttl).run actions).outcome i = some outcome →
        ((Resource.init account ttl).run (actions ++ more)).outcome i = some outcome := by
  refine ⟨fun a => sound (kept_run account ttl actions) a, fun more i outcome h => ?_⟩
  rw [Resource.run, List.foldl_append]
  exact more.foldlRecOn (motive := fun s => s.outcome i = some outcome) _ h fun s hs a _ => settled_next s a hs

end Yappy.SessionResource
