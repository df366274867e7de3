import Yappy.Runs

/-!
# Subscriptions

`SubscriptionManager` of `apps/gateway/src/subscriptions.ts` over `PgBus.subscribe` and
`unsubscribe` of `packages/db/src/bus.ts`, for one topic; topics share nothing. Both keep sets in
maps, and an `add` that is suspended holds on to the very sets it made, so the sets are objects
with an identity here.
-/
namespace Yappy.Subscriptions

abbrev SessionId := ℕ
abbrev ObjectId := ℕ

/-- Where a suspended `add` stands in `bus.subscribe`. -/
inductive Phase
  | listening
  /-- The handler is in the set; only the continuation is to come. -/
  | subscribed
  deriving DecidableEq

structure Adding where
  session : SessionId
  sessions : ObjectId
  handlers : ObjectId
  phase : Phase
  deriving DecidableEq

structure Topic where
  sessions : ObjectId → Finset SessionId
  /-- `this.topics.get(topic)`. -/
  topics : Option ObjectId
  timers : Finset ObjectId
  /-- `this.pendingUnsubscribe.get(topic)`. -/
  pendingUnsubscribe : Option ObjectId
  adding : List Adding
  handlerSets : ObjectId → ℕ
  /-- `this.handlers.get(topic)`. -/
  handlers : Option ObjectId
  /-- `this.unlisteners.get(topic)`. -/
  unlisteners : Option ObjectId
  listening : Finset ObjectId
  made : ObjectId
  /-- Sessions whose `add` has resolved and that were not dropped since, for the record. -/
  resolved : Finset SessionId

namespace Topic

/-- The head of `bus.subscribe`, up to its first suspension: the set it will add the handler to,
and whether a LISTEN is issued for it. -/
def subscribe (w : Topic) : Topic × ObjectId × Phase :=
  match w.handlers with
  | some set =>
    ({ w with handlerSets := Function.update w.handlerSets set (w.handlerSets set + 1) },
      set, .subscribed)
  | none =>
    ({ w with
      handlerSets := Function.update w.handlerSets w.made 0
      handlers := some w.made
      made := w.made + 1 }, w.made, .listening)

def clearPending (w : Topic) : Topic :=
  match w.pendingUnsubscribe with
  | some timer => { w with timers := w.timers.erase timer, pendingUnsubscribe := none }
  | none => w

/-- `sessions.add`, after which `add` resolves. -/
def resolve (w : Topic) (set : ObjectId) (session : SessionId) : Topic :=
  { w with
    sessions := Function.update w.sessions set (insert session (w.sessions set))
    resolved := insert session w.resolved }

def add (w : Topic) (session : SessionId) : Topic :=
  let w := w.clearPending
  match w.topics with
  | some set => w.resolve set session
  | none =>
    let set := w.made
    let r := subscribe { w with
      sessions := Function.update w.sessions set ∅
      topics := some set
      made := w.made + 1 }
    { r.1 with adding := r.1.adding ++ [⟨session, set, r.2.1, r.2.2⟩] }

/-- The LISTEN of a suspended `add` is active. -/
def listened (w : Topic) (a : Adding) : Topic :=
  { w with
    listening := insert w.made w.listening
    unlisteners := some w.made
    made := w.made + 1
    handlerSets := Function.update w.handlerSets a.handlers (w.handlerSets a.handlers + 1)
    adding := w.adding.erase a ++ [{ a with phase := .subscribed }] }

/-- It throws: `add` forgets the topic and rejects. -/
def listenFailed (w : Topic) (a : Adding) : Topic :=
  { w with topics := none, adding := w.adding.erase a }

/-- The continuation of a suspended `add`. -/
def resume (w : Topic) (a : Adding) : Topic :=
  { w with adding := w.adding.erase a }.resolve a.sessions a.session

/-- `remove`; the last session arms the timer. -/
def drop (w : Topic) (session : SessionId) : Topic :=
  let w := { w with resolved := w.resolved.erase session }
  match w.topics with
  | none => w
  | some set =>
    let w := { w with
      sessions := Function.update w.sessions set ((w.sessions set).erase session) }
    if (w.sessions set).Nonempty then w
    else { w with
      timers := insert w.made w.timers
      pendingUnsubscribe := some w.made
      made := w.made + 1 }

def unsubscribe (w : Topic) : Topic :=
  match w.handlers with
  | none => w
  | some set =>
    let w := { w with handlerSets := Function.update w.handlerSets set 0, handlers := none }
    match w.unlisteners with
    | some listen => { w with unlisteners := none, listening := w.listening.erase listen }
    | none => w

def fire (w : Topic) (timer : ObjectId) : Topic :=
  let w := { w with timers := w.timers.erase timer, pendingUnsubscribe := none }
  match w.topics with
  | some set =>
    -- someone rejoined in the meantime
    if (w.sessions set).Nonempty then w else unsubscribe { w with topics := none }
  | none => w.unsubscribe

end Topic

inductive Event
  | add (session : SessionId)
  | listened (a : Adding)
  | listenFailed (a : Adding)
  | resume (a : Adding)
  | drop (session : SessionId)
  | fire (timer : ObjectId)

inductive Step : Topic → Event → Topic → Prop
  | add {w : Topic} {session : SessionId} : Step w (.add session) (w.add session)
  | listened {w : Topic} {a : Adding} (ha : a ∈ w.adding) (hp : a.phase = .listening) :
      Step w (.listened a) (w.listened a)
  | listenFailed {w : Topic} {a : Adding} (ha : a ∈ w.adding) (hp : a.phase = .listening) :
      Step w (.listenFailed a) (w.listenFailed a)
  | resume {w : Topic} {a : Adding} (ha : a ∈ w.adding) (hp : a.phase = .subscribed) :
      Step w (.resume a) (w.resume a)
  | drop {w : Topic} {session : SessionId} : Step w (.drop session) (w.drop session)
  | fire {w : Topic} {timer : ObjectId} (ht : timer ∈ w.timers) :
      Step w (.fire timer) (w.fire timer)

/-- No LISTEN of the topic is on its way. -/
def Settled (w : Topic) : Prop := ∀ a ∈ w.adding, a.phase ≠ .listening

/-- No session is added while the topic's LISTEN is on its way, no timer fires on the empty set of
a suspended `add`, and no LISTEN throws. -/
def Orderly (w : Topic) : Event → Prop
  | .add _ => Settled w
  | .listenFailed _ => False
  | .fire _ => ∀ a ∈ w.adding, (w.sessions a.sessions).Nonempty
  | .listened _ | .resume _ | .drop _ => True

/-- The bus has a LISTEN that delivers to a handler of the topic. -/
def Up (w : Topic) : Prop :=
  ∃ set, w.handlers = some set ∧ 0 < w.handlerSets set ∧ w.listening.Nonempty

/-- Whoever was added and not dropped is in the topic's set, and events reach it. -/
def Live (w : Topic) : Prop :=
  ∀ session ∈ w.resolved, (∃ set, w.topics = some set ∧ session ∈ w.sessions set) ∧ Up w

/-- The next `subscribe` issues a LISTEN. -/
def Retries (w : Topic) : Prop := w.subscribe.2.2 = .listening

structure Invariant (w : Topic) : Prop where
  up : w.topics ≠ none → Settled w → Up w
  down : w.topics = none → w.handlers = none ∧ w.adding = []
  place : ∀ a ∈ w.adding, w.topics = some a.sessions
  member : ∀ session ∈ w.resolved, ∃ set, w.topics = some set ∧ session ∈ w.sessions set
  alone : ∀ a ∈ w.adding, a.phase = .listening → w.adding = [a] ∧ w.handlers = some a.handlers ∧
    w.handlerSets a.handlers = 0 ∧ w.resolved = ∅

variable {w w' : Topic} {session : SessionId} {a : Adding}

lemma Invariant.live (h : Invariant w) : Live w := by
  intro session hs
  obtain ⟨set, ht, hm⟩ := h.member session hs
  refine ⟨⟨set, ht, hm⟩, h.up (by simp [ht]) fun a ha hp => ?_⟩
  rw [(h.alone a ha hp).2.2.2] at hs
  simp at hs

lemma Invariant.timers (h : Invariant w) (timers : Finset ObjectId)
    (pending : Option ObjectId) (made : ObjectId) : Invariant { w with
      timers := timers, pendingUnsubscribe := pending, made := made } :=
  ⟨h.up, h.down, h.place, h.member, h.alone⟩

lemma Invariant.nobody (h : Invariant w) (ht : ∀ set, w.topics = some set → w.sessions set = ∅) :
    w.resolved = ∅ := by
  by_contra hne
  obtain ⟨s, hs⟩ := Finset.nonempty_iff_ne_empty.mpr hne
  obtain ⟨set, hset, hm⟩ := h.member s hs
  rw [ht set hset] at hm
  simp at hm

lemma clearPending_invariant (h : Invariant w) : Invariant w.clearPending := by
  unfold Topic.clearPending
  cases w.pendingUnsubscribe with
  | none => exact h
  | some timer => exact h.timers _ none w.made

lemma add_invariant (h : Invariant w) (hok : Settled w) : Invariant (w.add session) := by
  have hc := clearPending_invariant h
  have hadding : w.clearPending.adding = w.adding := by
    unfold Topic.clearPending
    cases w.pendingUnsubscribe <;> rfl
  have hsettled : Settled w.clearPending := by
    unfold Settled
    rwa [hadding]
  unfold Topic.add
  generalize w.clearPending = v at hc hsettled
  cases ht : v.topics with
  | some set =>
    simp only [ht]
    refine ⟨fun hn hs => hc.up hn hs, hc.down, hc.place, fun s hs => ?_, fun a ha hp => ?_⟩
    · refine ⟨set, ht, ?_⟩
      simp only [Topic.resolve, Function.update_self, Finset.mem_insert] at hs ⊢
      rcases hs with rfl | hs
      · exact Or.inl rfl
      · obtain ⟨set', ht', hm⟩ := hc.member s hs
        obtain rfl := Option.some.inj (ht.symm.trans ht')
        exact Or.inr hm
    · exact absurd hp (hsettled a ha)
  | none =>
    obtain ⟨hhandlers, hnone⟩ := hc.down ht
    have hresolved : v.resolved = ∅ := hc.nobody (by simp [ht])
    simp only [ht, Topic.subscribe, hhandlers, hnone, List.nil_append]
    refine ⟨fun _ hs => ?_, fun hn => by simp at hn, fun a ha => ?_, fun s hs => ?_,
      fun a ha _ => ?_⟩
    · exact absurd rfl (hs _ (List.mem_singleton_self _))
    · obtain rfl := List.mem_singleton.mp ha
      rfl
    · simp [hresolved] at hs
    · obtain rfl := List.mem_singleton.mp ha
      exact ⟨rfl, rfl, by simp, hresolved⟩

lemma listened_invariant (h : Invariant w) (ha : a ∈ w.adding) (hp : a.phase = .listening) :
    Invariant (w.listened a) := by
  obtain ⟨hone, hhandlers, -, hresolved⟩ := h.alone a ha hp
  have hadding : (w.listened a).adding = [{ a with phase := .subscribed }] := by
    simp [Topic.listened, hone]
  have hplace := h.place a ha
  refine ⟨fun _ _ => ?_, fun hn => ?_, fun a' ha' => ?_, fun s hs => ?_, fun a' ha' hp' => ?_⟩
  · exact ⟨a.handlers, hhandlers, by simp [Topic.listened], ⟨w.made, by simp [Topic.listened]⟩⟩
  · have hn' : w.topics = none := hn
    rw [hplace] at hn'
    cases hn'
  · rw [hadding] at ha'
    obtain rfl := List.mem_singleton.mp ha'
    exact hplace
  · have hs' : s ∈ w.resolved := hs
    rw [hresolved] at hs'
    simp at hs'
  · rw [hadding] at ha'
    obtain rfl := List.mem_singleton.mp ha'
    cases hp'

lemma resume_invariant (h : Invariant w) (ha : a ∈ w.adding) (hp : a.phase = .subscribed) :
    Invariant (w.resume a) := by
  have hplace := h.place a ha
  have hall : Settled w := by
    intro a' ha' hp'
    obtain ⟨hone, -, -, -⟩ := h.alone a' ha' hp'
    rw [hone] at ha
    obtain rfl := List.mem_singleton.mp ha
    rw [hp] at hp'
    cases hp'
  refine ⟨fun hn _ => h.up hn hall, fun hn => ?_, fun a' ha' => ?_, fun s hs => ?_,
    fun a' ha' hp' => ?_⟩
  · have hn' : w.topics = none := hn
    rw [hplace] at hn'
    cases hn'
  · exact h.place a' (List.mem_of_mem_erase ha')
  · refine ⟨a.sessions, hplace, ?_⟩
    simp only [Topic.resume, Topic.resolve, Function.update_self, Finset.mem_insert] at hs ⊢
    rcases hs with rfl | hs
    · exact Or.inl rfl
    · obtain ⟨set, ht, hm⟩ := h.member s hs
      obtain rfl := Option.some.inj (hplace.symm.trans ht)
      exact Or.inr hm
  · exact absurd hp' (hall a' (List.mem_of_mem_erase ha'))

lemma dropped_invariant {set : ObjectId} (h : Invariant w) (ht : w.topics = some set) :
    Invariant { w with
      resolved := w.resolved.erase session
      sessions := Function.update w.sessions set ((w.sessions set).erase session) } := by
  refine ⟨h.up, h.down, h.place, fun s hs => ?_, fun a ha hp => ?_⟩
  · obtain ⟨hne, hs⟩ := Finset.mem_erase.mp hs
    obtain ⟨set', ht', hm⟩ := h.member s hs
    obtain rfl := Option.some.inj (ht.symm.trans ht')
    exact ⟨set, ht, by simp [hne, hm]⟩
  · obtain ⟨h1, h2, h3, h4⟩ := h.alone a ha hp
    exact ⟨h1, h2, h3, by simp [h4]⟩

lemma drop_invariant (h : Invariant w) : Invariant (w.drop session) := by
  unfold Topic.drop
  dsimp only
  split
  · refine ⟨h.up, h.down, h.place, fun s hs => h.member s (Finset.mem_of_mem_erase hs),
      fun a ha hp => ?_⟩
    obtain ⟨h1, h2, h3, h4⟩ := h.alone a ha hp
    exact ⟨h1, h2, h3, by simp [h4]⟩
  · rename_i set ht
    have hdropped := @dropped_invariant w session set h ht
    split_ifs
    · exact hdropped
    · exact hdropped.timers _ _ _

lemma unsubscribe_handlers (w : Topic) : w.unsubscribe.handlers = none := by
  unfold Topic.unsubscribe
  cases hh : w.handlers with
  | none => exact hh
  | some set =>
    simp only
    cases w.unlisteners <;> rfl

lemma unsubscribe_same (w : Topic) : w.unsubscribe.topics = w.topics ∧
    w.unsubscribe.adding = w.adding ∧ w.unsubscribe.resolved = w.resolved := by
  unfold Topic.unsubscribe
  cases w.handlers with
  | none => exact ⟨rfl, rfl, rfl⟩
  | some set =>
    simp only
    cases w.unlisteners <;> exact ⟨rfl, rfl, rfl⟩

lemma forgotten_invariant (hresolved : w.resolved = ∅) (hadding : w.adding = [])
    (htopics : w.topics = none) : Invariant w.unsubscribe := by
  obtain ⟨ht, ha, hr⟩ := unsubscribe_same w
  refine ⟨fun hn => ?_, fun _ => ⟨unsubscribe_handlers w, ha.trans hadding⟩, fun a hmem => ?_,
    fun s hs => ?_, fun a hmem => ?_⟩
  · exact absurd (ht.trans htopics) hn
  · rw [ha, hadding] at hmem
    cases hmem
  · rw [hr, hresolved] at hs
    simp at hs
  · rw [ha, hadding] at hmem
    cases hmem

lemma fire_invariant {timer : ObjectId} (h : Invariant w)
    (hok : ∀ a ∈ w.adding, (w.sessions a.sessions).Nonempty) : Invariant (w.fire timer) := by
  unfold Topic.fire
  dsimp only
  split
  · rename_i set ht
    split_ifs with hne
    · exact h.timers _ _ _
    · have hempty : w.sessions set = ∅ := Finset.not_nonempty_iff_eq_empty.mp hne
      refine forgotten_invariant ?_ ?_ rfl
      · refine h.nobody fun set' ht' => ?_
        obtain rfl := Option.some.inj (ht.symm.trans ht')
        exact hempty
      · refine List.eq_nil_iff_forall_not_mem.mpr fun a ha => hne ?_
        obtain rfl := Option.some.inj (ht.symm.trans (h.place a ha))
        exact hok a ha
  · rename_i ht
    refine forgotten_invariant ?_ (h.down ht).2 ht
    refine h.nobody fun set hset => ?_
    rw [ht] at hset
    cases hset

lemma step_invariant {event : Event} (h : Invariant w) (hok : Orderly w event)
    (hs : Step w event w') : Invariant w' := by
  cases hs with
  | add => exact add_invariant h hok
  | listened ha hp => exact listened_invariant h ha hp
  | listenFailed => exact hok.elim
  | resume ha hp => exact resume_invariant h ha hp
  | drop => exact drop_invariant h
  | fire => exact fire_invariant h hok

def Topic.unused : Topic :=
  ⟨fun _ => ∅, none, ∅, none, [], fun _ => 0, none, none, ∅, 0, ∅⟩

lemma unused_invariant : Invariant Topic.unused where
  up hn := absurd rfl hn
  down _ := ⟨rfl, rfl⟩
  place a ha := by cases ha
  member s hs := by simp [Topic.unused] at hs
  alone a ha := by cases ha

lemma fire_topics (w : Topic) (timer : ObjectId)
    (hempty : ∀ set, w.topics = some set → w.sessions set = ∅) : (w.fire timer).topics = none := by
  unfold Topic.fire
  dsimp only
  split
  · rename_i set ht
    rw [if_neg (by simp [hempty set ht]), (unsubscribe_same _).1]
  · rename_i ht
    rw [(unsubscribe_same _).1]
    exact ht

lemma add_up {set : ObjectId} (ht : w.topics = some set) (h : Up (w.add session)) : Up w := by
  have hc : w.clearPending.topics = w.topics ∧ w.clearPending.handlers = w.handlers ∧
      w.clearPending.handlerSets = w.handlerSets ∧ w.clearPending.listening = w.listening := by
    unfold Topic.clearPending
    cases w.pendingUnsubscribe <;> exact ⟨rfl, rfl, rfl, rfl⟩
  have hadd : w.add session = w.clearPending.resolve set session := by
    unfold Topic.add
    simp only [hc.1, ht]
  rw [hadd] at h
  simpa [Up, Topic.resolve, hc] using h

lemma mem_add_resolved {set : ObjectId} (ht : w.topics = some set) :
    session ∈ (w.add session).resolved := by
  have hc : w.clearPending.topics = some set := by
    unfold Topic.clearPending
    cases w.pendingUnsubscribe <;> exact ht
  unfold Topic.add
  simp only [hc]
  simp [Topic.resolve]

/-- In an orderly run everybody who was added is reached. A LISTEN that throws in it is not
retried, an `add` that comes before the LISTEN is active resolves without one, and a timer that
fires under a suspended `add` lets it resolve into a set nobody looks at. -/
theorem run_live (h : RunWhere Step Orderly Topic.unused w) :
    Live w ∧ ∀ a ∈ w.adding,
      (a.phase = .listening →
        ¬ Retries (w.listenFailed a) ∧ ∀ session, ¬ Live (w.add session)) ∧
      (w.sessions a.sessions = ∅ → ∀ timer, ¬ Live ((w.fire timer).resume a)) := by
  have hi : Invariant w :=
    h.invariant unused_invariant fun _ _ _ hi hok hs => step_invariant hi hok hs
  refine ⟨hi.live, fun a ha => ?_⟩
  have hplace := hi.place a ha
  constructor
  · intro hp
    obtain ⟨-, hhandlers, hzero, -⟩ := hi.alone a ha hp
    constructor
    · intro hretries
      simp [Retries, Topic.subscribe, Topic.listenFailed, hhandlers] at hretries
    · intro session hlive
      have hup : Up w := add_up hplace (hlive session (mem_add_resolved hplace)).2
      obtain ⟨set, hset, hpos, -⟩ := hup
      obtain rfl := Option.some.inj (hhandlers.symm.trans hset)
      rw [hzero] at hpos
      exact absurd hpos (lt_irrefl 0)
  · intro hempty timer hlive
    have htopics : (w.fire timer).topics = none := by
      refine fire_topics w timer fun set hset => ?_
      obtain rfl := Option.some.inj (hplace.symm.trans hset)
      exact hempty
    obtain ⟨⟨set, hset, -⟩, -⟩ := hlive a.session (by simp [Topic.resume, Topic.resolve])
    have hset' : (w.fire timer).topics = some set := hset
    rw [htopics] at hset'
    cases hset'

namespace Sample

def added : Topic := Topic.unused.add 7

def suspended : Adding := ⟨7, 0, 1, .listening⟩

def heard : Topic := added.listened suspended

def unheard : Topic := ((added.listenFailed suspended).add 8).resume ⟨8, 2, 1, .subscribed⟩

end Sample

theorem run_live_heard : Live (Sample.heard.resume ⟨7, 0, 1, .subscribed⟩) := by
  refine (run_live ?_).1
  have hadded : RunWhere Step Orderly Topic.unused Sample.added :=
    .head (i := .add 7) (by simp [Orderly, Settled, Topic.unused]) .add (.refl _)
  have hheard : RunWhere Step Orderly Topic.unused Sample.heard :=
    hadded.tail (i := .listened Sample.suspended) trivial (.listened (by decide) rfl)
  exact hheard.tail (i := .resume ⟨7, 0, 1, .subscribed⟩) trivial (.resume (by decide) rfl)

/-- One LISTEN that throws leaves the topic deaf: session 8 is in, and nothing listens. -/
theorem failed_listen_stays_deaf :
    RunWhere Step (fun _ _ => True) Topic.unused Sample.unheard ∧
      8 ∈ Sample.unheard.resolved ∧ Sample.unheard.listening = ∅ ∧ ¬ Live Sample.unheard := by
  refine ⟨?_, by decide, rfl, ?_⟩
  · have hadded : RunWhere Step (fun _ _ => True) Topic.unused Sample.added :=
      .head (i := .add 7) trivial .add (.refl _)
    have hfailed : RunWhere Step (fun _ _ => True) Topic.unused
        (Sample.added.listenFailed Sample.suspended) :=
      hadded.tail (i := .listenFailed Sample.suspended) trivial (.listenFailed (by decide) rfl)
    have hagain := hfailed.tail (i := .add 8) trivial .add
    exact hagain.tail (i := .resume ⟨8, 2, 1, .subscribed⟩) trivial (.resume (by decide) rfl)
  · intro hlive
    obtain ⟨-, set, -, -, hlistening⟩ := hlive 8 (by decide)
    exact Finset.not_nonempty_empty hlistening

end Yappy.Subscriptions
