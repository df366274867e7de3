import Yappy.Runs

/-!
# The event bus

`packages/db/src/bus.ts`, from `publish` to the handlers of one topic. Postgres queues the
notifications of a channel in commit order. An event that fits travels in the notification; a
larger one leaves its payload in `bus_overflow`, and the listener that is told of it has to fetch
the row first, which is a suspension.
-/
namespace Yappy.Bus

/-- A `bus_overflow` id, drawn at random. -/
abbrev Ref := ℕ
abbrev HandlerId := ℕ

structure BusMessage where
  t : String
  d : Option String
  exclude : Option (List String)
  excludeDevice : Option String
  origin : Option String
  deriving DecidableEq

structure Envelope where
  t : String
  d : Option String
  /-- Present instead of `d` when the payload spilled. -/
  ref : Option Ref
  x : Option (List String)
  xd : Option String
  o : Option String
  deriving DecidableEq

def notifyLimit : ℕ := 7000

def inline (msg : BusMessage) : Envelope :=
  ⟨msg.t, msg.d, none, msg.exclude, msg.excludeDevice, msg.origin⟩

def spilled (msg : BusMessage) (ref : Ref) : Envelope :=
  ⟨msg.t, none, some ref, msg.exclude, msg.excludeDevice, msg.origin⟩

/-- What `publish` notifies; `byteLength` is the size of an envelope's JSON. -/
def envelope (byteLength : Envelope → ℕ) (msg : BusMessage) (ref : Ref) : Envelope :=
  if byteLength (inline msg) > notifyLimit then spilled msg ref else inline msg

/-- The message that `dispatch` hands on, with its body. -/
def Envelope.message (e : Envelope) (d : Option String) : BusMessage :=
  ⟨e.t, d, e.x, e.xd, e.o⟩

def notified (es : List Envelope) : List Envelope :=
  es.foldl (fun sent e => if e ∈ sent then sent else sent ++ [e]) []

/-- One topic: its notifications on their way to one listener, the dispatches suspended in their
fetch, the overflow rows, and the calls each handler of the topic has had. -/
structure Topic where
  handlers : List HandlerId
  queue : List Envelope
  fetching : List Envelope
  /-- `payload.d` of the rows there are. -/
  overflow : Ref → Option (Option String)
  calls : HandlerId → List BusMessage
  published : List BusMessage

namespace Topic

def deliver (w : Topic) (msg : BusMessage) : Topic :=
  { w with calls := fun h => if h ∈ w.handlers then w.calls h ++ [msg] else w.calls h }

def writeOverflow (byteLength : Envelope → ℕ) (overflow : Ref → Option (Option String))
    (event : BusMessage × Ref) : Ref → Option (Option String) :=
  if byteLength (inline event.1) > notifyLimit then
    Function.update overflow event.2 (some event.1.d)
  else overflow

def commit (byteLength : Envelope → ℕ) (w : Topic) (events : List (BusMessage × Ref)) : Topic :=
  { w with
    queue := w.queue ++ notified (events.map fun e => envelope byteLength e.1 e.2)
    overflow := events.foldl (writeOverflow byteLength) w.overflow
    published := w.published ++ events.map Prod.fst }

/-- `dispatch` of the next notification, up to its first suspension. -/
def arrive (w : Topic) (e : Envelope) (rest : List Envelope) : Topic :=
  match e.ref with
  | none => { w with queue := rest }.deliver (e.message e.d)
  | some _ => { w with queue := rest, fetching := w.fetching ++ [e] }

end Topic

inductive Event
  | commit (events : List (BusMessage × Ref))
  | arrive
  | fetched (e : Envelope)
  | failed (e : Envelope)
  | expire (ref : Ref)

inductive Step (byteLength : Envelope → ℕ) : Topic → Event → Topic → Prop
  | commit {w : Topic} (events : List (BusMessage × Ref))
      (hnew : ∀ event ∈ events, ∀ e ∈ w.fetching ++ w.queue, e.ref ≠ some event.2)
      (hdistinct : (events.map Prod.snd).Nodup) :
      Step byteLength w (.commit events) (w.commit byteLength events)
  | arrive {w : Topic} {e : Envelope} {rest : List Envelope} (hq : w.queue = e :: rest) :
      Step byteLength w .arrive (w.arrive e rest)
  | fetched {w : Topic} (before after : List Envelope) {e : Envelope} {ref : Ref}
      {d : Option String} (hf : w.fetching = before ++ e :: after) (href : e.ref = some ref)
      (hrow : w.overflow ref = some d) :
      Step byteLength w (.fetched e)
        ({ w with fetching := before ++ after }.deliver (e.message d))
  | failed {w : Topic} {before after : List Envelope} {e : Envelope}
      (hf : w.fetching = before ++ e :: after) :
      Step byteLength w (.failed e) { w with fetching := before ++ after }
  | expire {w : Topic} {ref : Ref} :
      Step byteLength w (.expire ref) { w with overflow := Function.update w.overflow ref none }

/-- No event arrives while an earlier one is being fetched, no fetch comes back without its row,
and no transaction notifies the same envelope twice. -/
def InTurn (byteLength : Envelope → ℕ) (w : Topic) : Event → Prop
  | .commit events => (events.map fun e => envelope byteLength e.1 e.2).Nodup
  | .arrive => w.fetching = []
  | .fetched _ => True
  | .failed _ => False
  | .expire _ => True

/-! ### What is still on its way -/

variable {byteLength : Envelope → ℕ} {w w' : Topic}

def Carries (overflow : Ref → Option (Option String)) (e : Envelope) (msg : BusMessage) : Prop :=
  match e.ref with
  | none => e.message e.d = msg
  | some ref => e.message msg.d = msg ∧ ∀ d, overflow ref = some d → d = msg.d

/-- What was published is what every handler was called with, then what is being fetched, then
what is queued; and at most one event is being fetched. -/
def Ordered (w : Topic) : Prop :=
  ∃ pending, (∀ h ∈ w.handlers, w.published = w.calls h ++ pending) ∧
    List.Forall₂ (Carries w.overflow) (w.fetching ++ w.queue) pending ∧ w.fetching.length ≤ 1

lemma notified_eq {es : List Envelope} (h : es.Nodup) : notified es = es := by
  have hfold : ∀ sent : List Envelope, (sent ++ es).Nodup →
      es.foldl (fun sent e => if e ∈ sent then sent else sent ++ [e]) sent = sent ++ es := by
    induction es with
    | nil => simp
    | cons e es ih =>
      intro sent hnodup
      have hnot : e ∉ sent := by
        intro he
        exact (List.nodup_append.mp hnodup).2.2 e he e (List.mem_cons_self) rfl
      have hrest : (sent ++ [e] ++ es).Nodup := by simpa using hnodup
      rw [List.foldl_cons, if_neg hnot, ih (List.nodup_cons.mp h).2 _ hrest]
      simp
  simpa [notified] using hfold [] (by simpa using h)

lemma Carries.congr {overflow overflow' : Ref → Option (Option String)} {e : Envelope}
    {msg : BusMessage} (h : Carries overflow e msg)
    (hrow : ∀ ref, e.ref = some ref → ∀ d, overflow' ref = some d → overflow ref = some d) :
    Carries overflow' e msg := by
  unfold Carries at h ⊢
  cases hr : e.ref with
  | none => simpa [hr] using h
  | some ref =>
    simp only [hr] at h ⊢
    exact ⟨h.1, fun d hd => h.2 d (hrow ref hr d hd)⟩

lemma carries_congr {overflow overflow' : Ref → Option (Option String)} {es : List Envelope}
    {msgs : List BusMessage} (h : List.Forall₂ (Carries overflow) es msgs)
    (hrow : ∀ e ∈ es, ∀ ref, e.ref = some ref →
      ∀ d, overflow' ref = some d → overflow ref = some d) :
    List.Forall₂ (Carries overflow') es msgs := by
  induction h with
  | nil => exact .nil
  | cons hc _ ih =>
    exact .cons (hc.congr (hrow _ List.mem_cons_self))
      (ih fun e he => hrow e (List.mem_cons_of_mem _ he))

lemma writeOverflow_of_notMem {events : List (BusMessage × Ref)}
    {overflow : Ref → Option (Option String)} {ref : Ref} (h : ref ∉ events.map Prod.snd) :
    events.foldl (Topic.writeOverflow byteLength) overflow ref = overflow ref := by
  induction events generalizing overflow with
  | nil => rfl
  | cons event events ih =>
    simp only [List.map_cons, List.mem_cons, not_or] at h
    rw [List.foldl_cons, ih h.2, Topic.writeOverflow]
    split_ifs
    · exact Function.update_of_ne h.1 _ _
    · rfl

lemma commit_carries {events : List (BusMessage × Ref)} (hdistinct : (events.map Prod.snd).Nodup)
    (overflow : Ref → Option (Option String)) :
    List.Forall₂ (Carries (events.foldl (Topic.writeOverflow byteLength) overflow))
      (events.map fun e => envelope byteLength e.1 e.2) (events.map Prod.fst) := by
  induction events generalizing overflow with
  | nil => exact .nil
  | cons event events ih =>
    obtain ⟨hnot, hrest⟩ := List.nodup_cons.mp hdistinct
    refine .cons ?_ (ih hrest _)
    rw [List.foldl_cons]
    unfold Carries envelope
    by_cases hbig : byteLength (inline event.1) > notifyLimit
    · simp only [if_pos hbig]
      refine ⟨rfl, fun d hd => ?_⟩
      rw [writeOverflow_of_notMem hnot, Topic.writeOverflow, if_pos hbig,
        Function.update_self] at hd
      exact (Option.some.inj hd).symm
    · simp only [if_neg hbig]
      rfl

/-! ### Every step -/

lemma commit_ordered {events : List (BusMessage × Ref)} (h : Ordered w)
    (hnew : ∀ event ∈ events, ∀ e ∈ w.fetching ++ w.queue, e.ref ≠ some event.2)
    (hdistinct : (events.map Prod.snd).Nodup)
    (hok : (events.map fun e => envelope byteLength e.1 e.2).Nodup) :
    Ordered (w.commit byteLength events) := by
  obtain ⟨pending, hpub, hcarry, hone⟩ := h
  refine ⟨pending ++ events.map Prod.fst, fun h hh => ?_, ?_, hone⟩
  · have := hpub h hh
    simp [Topic.commit, this]
  · simp only [Topic.commit, notified_eq hok]
    rw [← List.append_assoc]
    refine List.rel_append ?_ (commit_carries hdistinct _)
    refine carries_congr hcarry fun e he ref href d hd => ?_
    rw [writeOverflow_of_notMem] at hd
    · exact hd
    · intro hmem
      obtain ⟨event, hevent, rfl⟩ := List.mem_map.mp hmem
      exact hnew event hevent e he href

lemma deliver_ordered {msg : BusMessage} {pending : List BusMessage}
    (hpub : ∀ h ∈ w.handlers, w.published = w.calls h ++ msg :: pending) :
    ∀ h ∈ (w.deliver msg).handlers,
      (w.deliver msg).published = (w.deliver msg).calls h ++ pending := by
  intro h hh
  have hmem : h ∈ w.handlers := hh
  simp [Topic.deliver, hmem, hpub h hmem]

lemma step_ordered {event : Event} (h : Ordered w) (hok : InTurn byteLength w event)
    (hs : Step byteLength w event w') : Ordered w' := by
  cases hs with
  | commit _ hnew hdistinct => exact commit_ordered h hnew hdistinct hok
  | @arrive e rest hq =>
    obtain ⟨pending, hpub, hcarry, hone⟩ := h
    have hidle : w.fetching = [] := hok
    rw [hidle, List.nil_append, hq] at hcarry
    cases hcarry with
    | @cons _ msg _ pending hc hrest =>
      cases hr : e.ref with
      | none =>
        simp only [Topic.arrive, hr]
        have hmsg : e.message e.d = msg := by simpa [Carries, hr] using hc
        rw [hmsg]
        refine ⟨pending, deliver_ordered hpub, ?_, ?_⟩
        · simpa [Topic.deliver, hidle] using hrest
        · simp [Topic.deliver, hidle]
      | some ref =>
        simp only [Topic.arrive, hr]
        refine ⟨msg :: pending, hpub, ?_, by simp [hidle]⟩
        simpa [hidle] using List.Forall₂.cons hc hrest
  | @fetched before after e ref d hf href hrow =>
    obtain ⟨pending, hpub, hcarry, hone⟩ := h
    -- it is the only one, so it is the first of what is pending
    obtain ⟨rfl, rfl⟩ : before = [] ∧ after = [] := by
      rw [hf, List.length_append, List.length_cons] at hone
      exact ⟨List.length_eq_zero_iff.mp (by omega), List.length_eq_zero_iff.mp (by omega)⟩
    rw [hf] at hcarry
    cases hcarry with
    | @cons _ msg _ pending hc hrest =>
      simp only [Carries, href] at hc
      obtain rfl := hc.2 d hrow
      rw [hc.1]
      exact ⟨pending, deliver_ordered hpub, hrest, by simp [Topic.deliver]⟩
  | failed hf => exact hok.elim
  | @expire ref =>
    obtain ⟨pending, hpub, hcarry, hone⟩ := h
    refine ⟨pending, hpub, carries_congr hcarry fun e he ref' href d hd => ?_, hone⟩
    by_cases hr : ref' = ref
    · subst hr
      simp at hd
    · simpa [hr] using hd

def Topic.listening (handlers : List HandlerId) : Topic :=
  ⟨handlers, [], [], fun _ => none, fun _ => [], []⟩

lemma listening_ordered (handlers : List HandlerId) : Ordered (Topic.listening handlers) :=
  ⟨[], fun _ _ => rfl, .nil, by simp [Topic.listening]⟩

/-- Every handler has been called with the events published first, each once and in order, and
with all of them once nothing is on its way. -/
theorem calls_in_order {handlers : List HandlerId}
    (hrun : RunWhere (Step byteLength) (InTurn byteLength) (Topic.listening handlers) w) :
    ∀ h ∈ w.handlers, w.calls h <+: w.published ∧
      (w.queue = [] → w.fetching = [] → w.calls h = w.published) := by
  have hordered : Ordered w :=
    hrun.invariant (listening_ordered handlers) fun _ _ _ h hok hs => step_ordered h hok hs
  obtain ⟨pending, hpub, hcarry, -⟩ := hordered
  intro h hh
  refine ⟨⟨pending, (hpub h hh).symm⟩, fun hq hf => ?_⟩
  rw [hq, hf] at hcarry
  cases hcarry
  simpa using (hpub h hh).symm

namespace Sample

def large : BusMessage := ⟨"message.create", some "a long one", none, none, none⟩
def small : BusMessage := ⟨"typing", some "1", none, none, none⟩

def size (e : Envelope) : ℕ := if e.d = large.d then 9000 else 100

def fetching : Topic :=
  (((Topic.listening [0]).commit size [(large, 1)]).commit size [(small, 2)]).arrive
    (spilled large 1) [inline small]

def inTurn : Topic :=
  { fetching with fetching := [] }.deliver large |>.arrive (inline small) []

def overtaken : Topic :=
  { fetching.arrive (inline small) [] with fetching := [] }.deliver large

lemma fetching_run (ok : Topic → Event → Prop) (hcommit : ∀ w events, ok w (.commit [events]))
    (harrive : ∀ w, w.fetching = [] → ok w .arrive) :
    RunWhere (Step size) ok (Topic.listening [0]) fetching := by
  refine .head (hcommit _ _) (.commit [(large, 1)] ?_ (by decide)) ?_
  · simp [Topic.listening]
  refine .head (hcommit _ _) (.commit [(small, 2)] ?_ (by decide)) ?_
  · decide
  exact .head (harrive _ rfl) (.arrive rfl) (.refl _)

end Sample

/-- A small event waits for the large one before it. -/
theorem calls_in_order_waiting : Sample.inTurn.calls 0 = [Sample.large, Sample.small] := by
  have hrun : RunWhere (Step Sample.size) (InTurn Sample.size) (Topic.listening [0])
      Sample.inTurn := by
    have hfetching := Sample.fetching_run (InTurn Sample.size) (fun _ _ => by simp [InTurn])
      fun _ h => h
    have hback := hfetching.tail
      (show InTurn Sample.size Sample.fetching (.fetched (spilled Sample.large 1)) from trivial)
      (.fetched [] [] rfl rfl rfl)
    exact hback.tail (show InTurn Sample.size _ .arrive from rfl) (.arrive rfl)
  exact ((calls_in_order hrun 0 (by decide)).2 rfl rfl).trans rfl

/-- Or overtakes it, where it does not wait: nothing fails, and the order is lost. -/
theorem small_overtakes_large :
    RunWhere (Step Sample.size) (fun _ event => ∀ e, event ≠ .failed e) (Topic.listening [0])
        Sample.overtaken ∧
      Sample.overtaken.queue = [] ∧ Sample.overtaken.fetching = [] ∧
      Sample.overtaken.published = [Sample.large, Sample.small] ∧
      Sample.overtaken.calls 0 = [Sample.small, Sample.large] := by
  refine ⟨?_, rfl, rfl, by decide, by decide⟩
  have hfetching := Sample.fetching_run (fun _ event => ∀ e, event ≠ .failed e)
    (fun _ _ _ => by simp) fun _ _ _ => by simp
  have hsmall := hfetching.tail (i := .arrive) (by simp) (.arrive rfl)
  exact hsmall.tail (i := .fetched (spilled Sample.large 1)) (by simp) (.fetched [] [] rfl rfl rfl)

end Yappy.Bus
