import Mathlib

/-!
# Reminders of the utility bot

`Reminders` of `bots/utility/src/reminders.ts` over the file of `bots/utility/src/store.ts`. The list is
replaced in memory at once and written later, one write after the other, each of what is in memory when it
begins; a call goes on when its write is done. A process crashes between any two steps, and a message that is
under way to the server may still arrive.
-/
namespace Yappy.UtilityBot

/-- What is done with a reminder depends on these; the rest of it is only said in the message. -/
structure Reminder where
  id : ℕ
  userId : ℕ
  dueAt : ℕ
  deriving DecidableEq

def ids (reminders : List Reminder) : List ℕ := reminders.map Reminder.id

def without (id : ℕ) (reminders : List Reminder) : List Reminder := reminders.filter fun r => r.id ≠ id

inductive Waiter
  | add (reminder : Reminder)
  | cancel (id : ℕ)
  | fire
  deriving DecidableEq

/-- The file, the list in memory, the writes that are to come, of which the first may have its text already, and
the calls that go on. -/
structure Store where
  running : Bool
  state : List Reminder
  file : List Reminder
  writing : List Waiter
  body : Option (List Reminder)
  written : List Waiter
  deriving DecidableEq

def Store.set (s : Store) (next : List Reminder) (waiter : Waiter) : Store :=
  { s with state := next, writing := s.writing ++ [waiter] }

/-- `flush` begins, with the text of what is in memory. -/
def Store.stringify (s : Store) : Store :=
  if s.writing ≠ [] ∧ s.body = none then { s with body := some s.state } else s

/-- `flush` ends: the file is replaced. -/
def Store.rename (s : Store) : Store :=
  match s.writing, s.body with
  | waiter :: writing, some body =>
    { s with file := body, body := none, writing, written := s.written ++ [waiter] }
  | _, _ => s

def Store.proceed (s : Store) (waiter : Waiter) : Store := { s with written := s.written.erase waiter }

def Store.crash (s : Store) : Store :=
  { running := false, state := [], file := s.file, writing := [], body := none, written := [] }

def Store.reopen (s : Store) : Store := { s with running := true, state := s.file }

/-- A timer that fires the reminder, or one that only waits for the rest of its time. -/
abbrev Timer := Reminder × Bool

structure Bot where
  store : Store
  timers : ℕ → Option Timer
  /-- The calls of `fire` that wait for the answer to their message. -/
  sending : List Reminder
  /-- The nonces of the messages that are under way to the server, and of those it has created. -/
  requests : List ℕ
  messages : List ℕ
  /-- What has happened so far: the ids that were given, the calls of `add` that resolved, the calls of `cancel`
  that found the reminder and those that returned it, the sends that succeeded, and those that were started for
  a reminder that a `cancel` had returned. -/
  used : List ℕ
  added : List ℕ
  cancelled : List ℕ
  returned : List ℕ
  delivered : List ℕ
  broken : List ℕ

def maxDelay : ℕ := 2147483000

def Bot.schedule (s : Bot) (r : Reminder) (now : ℕ) : Bot :=
  { s with timers := Function.update s.timers r.id (some (r, decide (maxDelay < r.dueAt - now))) }

def Bot.fire (s : Bot) (r : Reminder) : Bot :=
  { s with
    timers := Function.update s.timers r.id none, sending := r :: s.sending, requests := r.id :: s.requests
    broken := if r.id ∈ s.returned then r.id :: s.broken else s.broken }

def Bot.add (s : Bot) (r : Reminder) : Bot :=
  { s with store := s.store.set (s.store.state ++ [r]) (.add r), used := r.id :: s.used }

def Bot.cancel (s : Bot) (id byUserId : ℕ) : Bot :=
  match s.store.state.find? (·.id = id) with
  | none => s
  | some found =>
    if found.userId ≠ byUserId then s
    else { s with
      timers := Function.update s.timers id none, cancelled := id :: s.cancelled
      store := s.store.set (without id s.store.state) (.cancel id) }

def Bot.proceed (s : Bot) (waiter : Waiter) (now : ℕ) : Bot :=
  let s := { s with store := s.store.proceed waiter }
  match waiter with
  | .add r => { s.schedule r now with added := r.id :: s.added }
  | .cancel id => { s with returned := id :: s.returned }
  | .fire => s

def Bot.tick (s : Bot) (id now : ℕ) : Bot :=
  match s.timers id with
  | none => s
  | some (r, true) => s.schedule r now
  | some (r, false) => s.fire r

/-- The `finally` of `fire`. -/
def Bot.settle (s : Bot) (r : Reminder) : Bot :=
  { s with sending := s.sending.erase r, store := s.store.set (without r.id s.store.state) .fire }

/-- `resume`, for one of the reminders. -/
def Bot.resume (s : Bot) (now : ℕ) (r : Reminder) : Bot := if r.dueAt ≤ now then s.fire r else s.schedule r now

inductive Event
  | add (r : Reminder)
  | cancel (id byUserId : ℕ)
  | stringify
  | rename
  | proceed (waiter : Waiter) (now : ℕ)
  | tick (id now : ℕ)
  | arrive (id : ℕ)
  | succeed (r : Reminder)
  | fail (r : Reminder)
  | crash
  | boot (now : ℕ)

/-- An event that cannot happen changes nothing. A new id is a random one, a message with a used nonce creates
nothing, and a send only succeeds once there is the message. -/
def Bot.step (s : Bot) : Event → Bot
  | .add r => if s.store.running ∧ r.id ∉ s.used then s.add r else s
  | .cancel id byUserId => if s.store.running then s.cancel id byUserId else s
  | .stringify => { s with store := s.store.stringify }
  | .rename => { s with store := s.store.rename }
  | .proceed waiter now => if waiter ∈ s.store.written then s.proceed waiter now else s
  | .tick id now => if s.store.running then s.tick id now else s
  | .arrive id =>
    if id ∈ s.requests then
      { s with
        requests := s.requests.erase id
        messages := if id ∈ s.messages then s.messages else id :: s.messages }
    else s
  | .succeed r =>
    if r ∈ s.sending ∧ r.id ∈ s.messages then { s.settle r with delivered := r.id :: s.delivered } else s
  | .fail r => if r ∈ s.sending then s.settle r else s
  | .crash => { s with store := s.store.crash, timers := fun _ => none, sending := [] }
  | .boot now =>
    if s.store.running then s
    else s.store.file.foldl (Bot.resume · now ·) { s with store := s.store.reopen }

def Bot.init : Bot where
  store := { running := false, state := [], file := [], writing := [], body := none, written := [] }
  timers := fun _ => none
  sending := []
  requests := []
  messages := []
  used := []
  added := []
  cancelled := []
  returned := []
  delivered := []
  broken := []

def run (s : Bot) (events : List Event) : Bot := events.foldl Bot.step s

structure Store.Sane (s : Store) : Prop where
  idle : s.writing = [] → s.body = none
  stopped : s.running = false → s.writing = [] ∧ s.written = []

/-- What holds of the list from a change on, which a call of `mine` made or which is there for good. It holds of
the file once the change is written, and of whatever replaces the file then. -/
structure Store.Written (s : Store) (mine : Waiter → Prop) (durable : Prop) (Q : List Reminder → Prop) :
    Prop where
  state : s.running → durable ∨ (∃ w ∈ s.writing ++ s.written, mine w) → Q s.state
  body : ∀ w rest b, s.writing = w :: rest → s.body = some b → mine w → Q b
  file : durable ∨ (∃ w ∈ s.written, mine w) → Q s.file ∧ ∀ b, s.body = some b → Q b

namespace Store.Written
variable {s : Store} {mine : Waiter → Prop} {durable durable' : Prop} {Q Q' : List Reminder → Prop}

lemma mono (h : s.Written mine durable Q) (hd : durable' → durable ∨ ∃ w ∈ s.written, mine w)
    (hQ : ∀ l, Q l → Q' l) : s.Written mine durable' Q' where
  state hrun hw := by
    refine hQ _ (h.state hrun ?_)
    rcases hw with hd' | hw
    · exact (hd hd').imp_right fun ⟨w, hw, hm⟩ => ⟨w, List.mem_append_right _ hw, hm⟩
    · exact Or.inr hw
  body w rest b hw hb hm := hQ _ (h.body w rest b hw hb hm)
  file hw := by
    obtain ⟨hfile, hbody⟩ := h.file (hw.elim hd Or.inr)
    exact ⟨hQ _ hfile, fun b hb => hQ _ (hbody b hb)⟩

lemma set (h : s.Written mine durable Q) (hs : s.Sane) {next : List Reminder} {waiter : Waiter}
    (hrun : s.running) (hmine : mine waiter → Q next)
    (hold : durable ∨ (∃ w ∈ s.writing ++ s.written, mine w) → Q s.state → Q next) :
    (s.set next waiter).Written mine durable Q where
  state _ hw := by
    by_cases hm : mine waiter
    · exact hmine hm
    · have hw' : durable ∨ ∃ w ∈ s.writing ++ s.written, mine w := by
        rcases hw with hd | ⟨w, hw, hmw⟩
        · exact Or.inl hd
        · refine Or.inr ⟨w, ?_, hmw⟩
          simp only [Store.set, List.mem_append, List.mem_singleton] at hw ⊢
          rcases hw with (hw | rfl) | hw
          · exact Or.inl hw
          · exact absurd hmw hm
          · exact Or.inr hw
      exact hold hw' (h.state hrun hw')
  body w rest b hw hb hm := by
    rcases hwriting : s.writing with _ | ⟨w', rest'⟩
    · exact nomatch (hs.idle hwriting).symm.trans hb
    · rw [Store.set, hwriting] at hw
      obtain rfl := (List.cons.inj hw).1
      exact h.body _ rest' b hwriting hb hm
  file := h.file

lemma stringify (h : s.Written mine durable Q) (hs : s.Sane) : s.stringify.Written mine durable Q := by
  unfold Store.stringify
  split
  · rename_i hw
    have hrun : s.running := by
      by_contra hstop
      exact hw.1 (hs.stopped (by simpa using hstop)).1
    refine ⟨h.state, ?_, fun hd => ⟨(h.file hd).1, ?_⟩⟩
    · rintro w rest b hwriting ⟨⟩ hm
      exact h.state hrun (Or.inr ⟨w, by simp_all, hm⟩)
    · rintro b ⟨⟩
      exact h.state hrun (hd.imp_right fun ⟨w, hw, hm⟩ => ⟨w, List.mem_append_right _ hw, hm⟩)
  · exact h

lemma rename (h : s.Written mine durable Q) : s.rename.Written mine durable Q := by
  unfold Store.rename
  split
  · rename_i waiter writing body hwriting hbody
    refine ⟨fun hrun hw => h.state hrun (hw.imp_right ?_), nofun, fun hw => ⟨?_, nofun⟩⟩
    · rintro ⟨w, hw, hm⟩
      refine ⟨w, ?_, hm⟩
      simp only [hwriting, List.mem_append, List.mem_cons, List.not_mem_nil, or_false] at hw ⊢
      tauto
    · rcases hw with hd | ⟨w, hw, hm⟩
      · exact (h.file (Or.inl hd)).2 body hbody
      · rcases List.mem_append.mp hw with hw | hw
        · exact (h.file (Or.inr ⟨w, hw, hm⟩)).2 body hbody
        · obtain rfl := List.mem_singleton.mp hw
          exact h.body _ _ _ hwriting hbody hm
  · exact h

lemma proceed (h : s.Written mine durable Q) (waiter : Waiter) :
    (s.proceed waiter).Written mine durable Q where
  state hrun hw := by
    refine h.state hrun (hw.imp_right fun ⟨w, hw, hm⟩ => ⟨w, ?_, hm⟩)
    exact List.mem_append.mpr ((List.mem_append.mp hw).imp_right List.mem_of_mem_erase)
  body := h.body
  file hw := h.file (hw.imp_right fun ⟨w, hw, hm⟩ => ⟨w, List.mem_of_mem_erase hw, hm⟩)

lemma crash (h : s.Written mine durable Q) : s.crash.Written mine durable Q where
  state := nofun
  body := nofun
  file hw := ⟨(h.file (hw.imp_right fun ⟨_, hw, _⟩ => nomatch hw)).1, nofun⟩

lemma reopen (h : s.Written mine durable Q) (hs : s.Sane) (hstop : s.running = false) :
    s.reopen.Written mine durable Q where
  state _ hw := by
    obtain ⟨hwriting, hwritten⟩ := hs.stopped hstop
    refine (h.file (hw.imp_right ?_)).1
    rintro ⟨w, hw, -⟩
    simp [Store.reopen, hwriting, hwritten] at hw
  body := h.body
  file := h.file

end Store.Written

namespace Store.Sane
variable {s : Store}

lemma set (hrun : s.running) (next : List Reminder) (waiter : Waiter) : (s.set next waiter).Sane where
  idle hw := by simp [Store.set] at hw
  stopped hstop := nomatch hrun.symm.trans hstop

lemma stringify (h : s.Sane) : s.stringify.Sane := by
  unfold Store.stringify
  split
  · rename_i hw
    exact ⟨fun hwriting => absurd hwriting hw.1, h.stopped⟩
  · exact h

lemma rename (h : s.Sane) : s.rename.Sane := by
  unfold Store.rename
  split
  · rename_i hwriting hbody
    exact ⟨fun _ => rfl, fun hstop => nomatch hwriting.symm.trans (h.stopped hstop).1⟩
  · exact h

lemma proceed (h : s.Sane) (waiter : Waiter) : (s.proceed waiter).Sane where
  idle := h.idle
  stopped hstop := ⟨(h.stopped hstop).1, by simp [Store.proceed, (h.stopped hstop).2]⟩

end Store.Sane

lemma mem_ids_without {k id : ℕ} {l : List Reminder} : k ∈ ids (without id l) ↔ k ∈ ids l ∧ k ≠ id := by
  simp only [ids, without, List.mem_map, List.mem_filter, decide_eq_true_eq]
  constructor
  · rintro ⟨r, ⟨hr, hne⟩, rfl⟩
    exact ⟨⟨r, hr, rfl⟩, hne⟩
  · rintro ⟨⟨r, hr, rfl⟩, hne⟩
    exact ⟨r, ⟨hr, hne⟩, rfl⟩

def Waiter.Adds (id : ℕ) (w : Waiter) : Prop := ∃ r, w = .add r ∧ r.id = id

/-- A call of `cancel` has found the reminder in this process, or one has returned it. -/
def Bot.Gone (s : Bot) (id : ℕ) : Prop :=
  id ∈ s.returned ∨ ∃ w ∈ s.store.writing ++ s.store.written, w = .cancel id

structure Bot.Kept (id : ℕ) (s : Bot) : Prop where
  sane : s.store.Sane
  stopped : s.store.running = false → (∀ k, s.timers k = none) ∧ s.sending = []
  timer : ∀ k timer, s.timers k = some timer → timer.1.id = k
  added : s.store.Written (Waiter.Adds id) (id ∈ s.added)
    fun l => id ∈ s.cancelled ∨ id ∈ s.delivered ∨ id ∈ ids l
  removed : s.store.Written (· = .cancel id) (id ∈ s.returned) fun l => id ∉ ids l
  quiet : s.Gone id → s.timers id = none ∧ id ∈ s.used ∧ ∀ w ∈ s.store.writing ++ s.store.written, ¬ w.Adds id
  used : s.store.Written (fun _ => False) True fun l => ∀ k ∈ ids l, k ∈ s.used
  messages : s.messages.Nodup
  broken : id ∉ s.broken

namespace Bot.Kept
variable {id : ℕ} {s : Bot}

lemma schedule (h : s.Kept id) {r : Reminder} (now : ℕ) (hrun : s.store.running)
    (hr : r.id = id → ¬ s.Gone id) :
    (s.schedule r now).Kept id :=
  { h with
    stopped := fun hstop => nomatch hrun.symm.trans hstop
    timer := by
      intro k timer hk
      simp only [Bot.schedule, Function.update_apply] at hk
      split_ifs at hk with he
      · obtain rfl := Option.some.inj hk
        exact he.symm
      · exact h.timer k timer hk
    quiet := by
      intro hgone
      have hne : id ≠ r.id := fun he => hr he.symm hgone
      simpa [Bot.schedule, hne] using h.quiet hgone }

lemma fire (h : s.Kept id) {r : Reminder} (hrun : s.store.running) (hr : r.id = id → ¬ s.Gone id) :
    (s.fire r).Kept id :=
  { h with
    stopped := fun hstop => nomatch hrun.symm.trans hstop
    timer := by
      intro k timer hk
      simp only [Bot.fire, Function.update_apply] at hk
      split_ifs at hk
      exact h.timer k timer hk
    quiet := by
      intro hgone
      have hne : id ≠ r.id := fun he => hr he.symm hgone
      simpa [Bot.fire, hne] using h.quiet hgone
    broken := by
      simp only [Bot.fire]
      split_ifs with hreturned
      · rw [List.mem_cons, not_or]
        exact ⟨fun he => hr he.symm (Or.inl (he ▸ hreturned)), h.broken⟩
      · exact h.broken }

lemma not_gone_of_timer (h : s.Kept id) {k : ℕ} {timer : Timer} (hk : s.timers k = some timer) :
    timer.1.id = id → ¬ s.Gone id := by
  rintro rfl hgone
  have hnone := (h.quiet hgone).1
  rw [h.timer k timer hk, hk] at hnone
  nomatch hnone

lemma tick (h : s.Kept id) (hrun : s.store.running) (k now : ℕ) : (s.tick k now).Kept id := by
  unfold Bot.tick
  split
  · exact h
  · rename_i hk
    exact h.schedule now hrun (h.not_gone_of_timer hk)
  · rename_i hk
    exact h.fire hrun (h.not_gone_of_timer hk)

lemma arrive (h : s.Kept id) (k : ℕ) :
    Bot.Kept id { s with
      requests := s.requests.erase k, messages := if k ∈ s.messages then s.messages else k :: s.messages } :=
  { h with
    messages := by
      dsimp only
      split_ifs with hk
      · exact h.messages
      · exact List.nodup_cons.mpr ⟨hk, h.messages⟩ }

lemma settle (h : s.Kept id) (hrun : s.store.running) {r : Reminder}
    (hr : r.id = id → id ∈ s.delivered) : (s.settle r).Kept id :=
  { h with
    sane := .set hrun _ _
    stopped := fun hstop => nomatch hrun.symm.trans hstop
    added := h.added.set h.sane hrun (fun ⟨_, hw, _⟩ => nomatch hw) fun _ hQ => by
      by_cases hid : r.id = id
      · exact Or.inr (Or.inl (hr hid))
      · exact hQ.imp_right (Or.imp_right fun hin => mem_ids_without.mpr ⟨hin, Ne.symm hid⟩)
    removed := h.removed.set h.sane hrun nofun fun _ hQ hin => hQ (mem_ids_without.mp hin).1
    quiet := by
      simpa [Bot.Gone, Bot.settle, Store.set, Waiter.Adds, or_assoc, or_left_comm] using h.quiet
    used := h.used.set h.sane hrun nofun fun _ hQ k hk => hQ k (mem_ids_without.mp hk).1 }

lemma add (h : s.Kept id) (hrun : s.store.running) {r : Reminder} (hnew : r.id ∉ s.used) :
    (s.add r).Kept id :=
  { h with
    sane := .set hrun _ _
    added := h.added.set h.sane hrun
      (by rintro ⟨_, ⟨⟩, rfl⟩; exact Or.inr (Or.inr (by simp [ids])))
      fun _ hQ => hQ.imp_right (Or.imp_right fun hin => by simp_all [ids])
    removed := h.removed.set h.sane hrun nofun fun hgone hQ hin => by
      have hused := (h.quiet hgone).2.1
      simp only [ids, List.map_append, List.mem_append, List.map_cons, List.map_nil, List.mem_singleton] at hin
      rcases hin with hin | rfl
      · exact hQ hin
      · exact hnew hused
    quiet := by
      intro hgone
      have hgone' : s.Gone id := by
        simpa [Bot.Gone, Bot.add, Store.set] using hgone
      obtain ⟨htimer, hused, hadds⟩ := h.quiet hgone'
      refine ⟨htimer, List.mem_cons_of_mem _ hused, fun w hw => ?_⟩
      simp only [Bot.add, Store.set, List.mem_append, List.mem_singleton] at hw
      rcases hw with (hw | rfl) | hw
      · exact hadds w (List.mem_append_left _ hw)
      · rintro ⟨_, ⟨⟩, rfl⟩
        exact hnew hused
      · exact hadds w (List.mem_append_right _ hw)
    used := (h.used.mono Or.inl fun l hl k hk => List.mem_cons_of_mem r.id (hl k hk)).set h.sane hrun nofun
      fun _ hQ k hk => by
        simp only [ids, List.map_append, List.mem_append, List.map_cons, List.map_nil, List.mem_singleton] at hk
        rcases hk with hk | rfl
        · exact hQ k hk
        · exact List.mem_cons_self .. }

lemma cancel (h : s.Kept id) (hrun : s.store.running) {k : ℕ} (byUserId : ℕ)
    (hadds : k = id → ∀ w ∈ s.store.writing ++ s.store.written, ¬ w.Adds id) :
    (s.cancel k byUserId).Kept id := by
  unfold Bot.cancel
  split
  · exact h
  split_ifs
  · exact h
  rename_i found hfind huser
  have hin : k ∈ ids s.store.state := by
    have hid := List.find?_some hfind
    exact List.mem_map.mpr ⟨found, List.mem_of_find?_eq_some hfind, of_decide_eq_true hid⟩
  exact { h with
    sane := .set hrun _ _
    stopped := fun hstop => nomatch hrun.symm.trans hstop
    timer := by
      intro j timer hj
      simp only [Function.update_apply] at hj
      split_ifs at hj
      exact h.timer j timer hj
    added := (h.added.mono Or.inl fun l hl => hl.imp_left (List.mem_cons_of_mem k)).set h.sane hrun
      (fun ⟨_, hw, _⟩ => nomatch hw) fun _ hQ => by
        by_cases hid : k = id
        · exact Or.inl (hid ▸ List.mem_cons_self ..)
        · exact hQ.imp_right (Or.imp_right fun hin => mem_ids_without.mpr ⟨hin, Ne.symm hid⟩)
    removed := h.removed.set h.sane hrun
      (by rintro ⟨⟩ hin; exact (mem_ids_without.mp hin).2 rfl) fun _ hQ hin => hQ (mem_ids_without.mp hin).1
    quiet := by
      intro hgone
      have hadds' : (∀ w ∈ s.store.writing ++ s.store.written, ¬ w.Adds id) →
          ∀ w ∈ (s.store.set (without k s.store.state) (.cancel k)).writing ++ s.store.written,
            ¬ w.Adds id := by
        intro hall w hw
        simp only [Store.set, List.mem_append, List.mem_singleton] at hw
        rcases hw with (hw | rfl) | hw
        · exact hall w (List.mem_append_left _ hw)
        · exact fun ⟨_, hw, _⟩ => nomatch hw
        · exact hall w (List.mem_append_right _ hw)
      by_cases hid : k = id
      · subst hid
        exact ⟨Function.update_self .., h.used.state hrun (Or.inl trivial) k hin, hadds' (hadds rfl)⟩
      · have hgone' : s.Gone id := by
          simpa [Bot.Gone, Store.set, Ne.symm hid] using hgone
        obtain ⟨htimer, hused, hall⟩ := h.quiet hgone'
        exact ⟨by simp [Ne.symm hid, htimer], hused, hadds' hall⟩
    used := h.used.set h.sane hrun nofun fun _ hQ j hj => hQ j (mem_ids_without.mp hj).1 }

lemma stringify (h : s.Kept id) : Bot.Kept id { s with store := s.store.stringify } := by
  have hsame : s.store.stringify.running = s.store.running ∧ s.store.stringify.writing = s.store.writing ∧
      s.store.stringify.written = s.store.written := by
    unfold Store.stringify
    split <;> exact ⟨rfl, rfl, rfl⟩
  exact { h with
    sane := h.sane.stringify
    stopped := fun hstop => h.stopped (hsame.1 ▸ hstop)
    added := h.added.stringify h.sane
    removed := h.removed.stringify h.sane
    quiet := by
      unfold Bot.Gone
      rw [hsame.2.1, hsame.2.2]
      exact h.quiet
    used := h.used.stringify h.sane }

lemma rename (h : s.Kept id) : Bot.Kept id { s with store := s.store.rename } := by
  have hsame : s.store.rename.running = s.store.running ∧
      ∀ w, w ∈ s.store.rename.writing ++ s.store.rename.written ↔ w ∈ s.store.writing ++ s.store.written := by
    unfold Store.rename
    split
    · rename_i hwriting _
      refine ⟨rfl, fun w => ?_⟩
      simp only [hwriting, List.mem_append, List.mem_cons, List.not_mem_nil, or_false]
      tauto
    · exact ⟨rfl, fun _ => Iff.rfl⟩
  exact { h with
    sane := h.sane.rename
    stopped := fun hstop => h.stopped (hsame.1 ▸ hstop)
    added := h.added.rename
    removed := h.removed.rename
    quiet := by
      unfold Bot.Gone
      simp only [hsame.2]
      exact h.quiet
    used := h.used.rename }

lemma proceed (h : s.Kept id) (hrun : s.store.running) {waiter : Waiter} (now : ℕ)
    (hw : waiter ∈ s.store.written) :
    (s.proceed waiter now).Kept id := by
  have hin : waiter ∈ s.store.writing ++ s.store.written := List.mem_append_right _ hw
  have hmem : ∀ w, w ∈ s.store.writing ++ s.store.written.erase waiter →
      w ∈ s.store.writing ++ s.store.written :=
    fun w hw => List.mem_append.mpr ((List.mem_append.mp hw).imp_right List.mem_of_mem_erase)
  have hkept : Bot.Kept id { s with store := s.store.proceed waiter } := { h with
    sane := h.sane.proceed waiter
    added := h.added.proceed waiter
    removed := h.removed.proceed waiter
    quiet := by
      intro hgone
      obtain ⟨htimer, hused, hall⟩ := h.quiet (hgone.imp_right fun ⟨w, hw, he⟩ => ⟨w, hmem w hw, he⟩)
      exact ⟨htimer, hused, fun w hw => hall w (hmem w hw)⟩
    used := h.used.proceed waiter }
  cases waiter with
  | add r =>
    have hscheduled := hkept.schedule (r := r) now hrun fun hid hgone =>
      (h.quiet (hgone.imp_right fun ⟨w, hw, he⟩ => ⟨w, hmem w hw, he⟩)).2.2 _ hin ⟨r, rfl, hid⟩
    exact { hscheduled with
      added := by
        refine (h.added.mono (fun hd => ?_) fun _ hl => hl).proceed (.add r)
        rcases List.mem_cons.mp hd with rfl | hd
        · exact Or.inr ⟨_, hw, r, rfl, rfl⟩
        · exact Or.inl hd }
  | cancel k =>
    exact { hkept with
      removed := by
        refine (h.removed.mono (fun hd => ?_) fun _ hl => hl).proceed (.cancel k)
        rcases List.mem_cons.mp hd with rfl | hd
        · exact Or.inr ⟨_, hw, rfl⟩
        · exact Or.inl hd
      quiet := by
        intro hgone
        have hgone' : s.Gone id := by
          rcases hgone with hd | ⟨w, hw', he⟩
          · rcases List.mem_cons.mp hd with rfl | hd
            · exact Or.inr ⟨_, hin, rfl⟩
            · exact Or.inl hd
          · exact Or.inr ⟨w, hmem w hw', he⟩
        obtain ⟨htimer, hused, hall⟩ := h.quiet hgone'
        exact ⟨htimer, hused, fun w hw => hall w (hmem w hw)⟩ }
  | fire => exact hkept

lemma crash (h : s.Kept id) :
    Bot.Kept id { s with store := s.store.crash, timers := fun _ => none, sending := [] } :=
  { h with
    sane := ⟨fun _ => rfl, fun _ => ⟨rfl, rfl⟩⟩
    stopped := fun _ => ⟨fun _ => rfl, rfl⟩
    timer := nofun
    added := h.added.crash
    removed := h.removed.crash
    quiet := by
      intro hgone
      have hgone' : s.Gone id := hgone.imp_right fun ⟨_, hw, _⟩ => nomatch hw
      exact ⟨rfl, (h.quiet hgone').2.1, nofun⟩
    used := h.used.crash }

lemma resumed (now : ℕ) {l : List Reminder} (h : s.Kept id) (hrun : s.store.running)
    (hl : s.Gone id → id ∉ ids l) : (l.foldl (Bot.resume · now ·) s).Kept id := by
  induction l generalizing s with
  | nil => exact h
  | cons r l ih =>
    have hr : r.id = id → ¬ s.Gone id := fun he hgone => hl hgone (he ▸ List.mem_cons_self ..)
    have hl' : s.Gone id → id ∉ ids l := fun hgone hin => hl hgone (List.mem_cons_of_mem _ hin)
    rw [List.foldl_cons, Bot.resume]
    split_ifs
    · exact ih (h.fire hrun hr) hrun hl'
    · exact ih (h.schedule now hrun hr) hrun hl'

lemma boot (h : s.Kept id) (hstop : s.store.running = false) (now : ℕ) :
    (s.store.file.foldl (Bot.resume · now ·) { s with store := s.store.reopen }).Kept id := by
  obtain ⟨hwriting, hwritten⟩ := h.sane.stopped hstop
  refine resumed now (s := { s with store := s.store.reopen }) { h with
    sane := ⟨h.sane.idle, nofun⟩
    stopped := nofun
    added := h.added.reopen h.sane hstop
    removed := h.removed.reopen h.sane hstop
    used := h.used.reopen h.sane hstop } rfl fun hgone => ?_
  rcases hgone with hreturned | ⟨w, hw, -⟩
  · exact (h.removed.file (Or.inl hreturned)).1
  · simp [Store.reopen, hwriting, hwritten] at hw

lemma ite (h : s.Kept id) {c : Prop} [Decidable c] {s' : Bot} (hs' : c → s'.Kept id) :
    (if c then s' else s).Kept id := by
  split_ifs with hc
  · exact hs' hc
  · exact h

end Bot.Kept

/-- No send for the reminder fails, and no `cancel` of it comes before its `add` has resolved. -/
def Orderly (id : ℕ) (s : Bot) : Event → Prop
  | .fail r => r.id ≠ id
  | .cancel k _ => k = id → ∀ w ∈ s.store.writing ++ s.store.written, ¬ w.Adds id
  | _ => True

lemma Bot.Kept.step {id : ℕ} {s : Bot} (h : s.Kept id) {e : Event} (hok : Orderly id s e) :
    (s.step e).Kept id := by
  have hwritten : ∀ {w}, w ∈ s.store.written → s.store.running := by
    intro w hw
    by_contra hstop
    rw [(h.sane.stopped (by simpa using hstop)).2] at hw
    nomatch hw
  have hsending : ∀ {r}, r ∈ s.sending → s.store.running := by
    intro r hr
    by_contra hstop
    rw [(h.stopped (by simpa using hstop)).2] at hr
    nomatch hr
  cases e with
  | add r => exact h.ite fun hc => h.add hc.1 hc.2
  | cancel k byUserId => exact h.ite fun hc => h.cancel hc byUserId hok
  | stringify => exact h.stringify
  | rename => exact h.rename
  | proceed waiter now => exact h.ite fun hc => h.proceed (hwritten hc) now hc
  | tick k now => exact h.ite fun hc => h.tick hc k now
  | arrive k => exact h.ite fun _ => h.arrive k
  | succeed r =>
    have hdelivered : Bot.Kept id { s with delivered := r.id :: s.delivered } :=
      { h with added := h.added.mono Or.inl fun _ hl => hl.imp_right (Or.imp_left (List.mem_cons_of_mem _)) }
    exact h.ite fun hc => hdelivered.settle (hsending hc.1) fun he => he ▸ List.mem_cons_self ..
  | fail r => exact h.ite fun hc => h.settle (hsending hc) fun he => absurd he hok
  | crash => exact h.crash
  | boot now =>
    simp only [Bot.step]
    split_ifs with hc
    · exact h
    · exact h.boot (by simpa using hc) now

/-- A reminder whose `add` resolved and that was never cancelled is stored or was delivered; there is at most
one message for it; and no send was started for it once a `cancel` had returned it. -/
def Promised (id : ℕ) (s : Bot) : Prop :=
  (id ∈ s.added → id ∉ s.cancelled → id ∈ ids s.store.file ∨ id ∈ s.delivered) ∧ s.messages.count id ≤ 1 ∧
    id ∉ s.broken

def OrderlyRun (id : ℕ) : Bot → List Event → Prop
  | _, [] => True
  | s, e :: events => Orderly id s e ∧ OrderlyRun id (s.step e) events

lemma Bot.Kept.run {id : ℕ} {s : Bot} (h : s.Kept id) {events : List Event} (hok : OrderlyRun id s events) :
    (run s events).Kept id := by
  induction events generalizing s with
  | nil => exact h
  | cons e events ih => exact ih (h.step hok.1) hok.2

lemma kept_init (id : ℕ) : Bot.init.Kept id := by
  constructor
  case added | removed | used => constructor <;> simp [Bot.init, ids]
  case sane => constructor <;> simp [Bot.init]
  all_goals simp [Bot.init, Bot.Gone]

/-- Where no send for a reminder fails and no `cancel` of it comes before its `add` has resolved, the promise is
kept, whatever happens to the others and wherever the process crashes. -/
theorem reminder_promised (id : ℕ) (events : List Event) (hok : OrderlyRun id Bot.init events) :
    Promised id (run Bot.init events) := by
  have h := (kept_init id).run hok
  refine ⟨fun hadded hnot => ?_, List.nodup_iff_count_le_one.mp h.messages id, h.broken⟩
  exact ((h.added.file (Or.inl hadded)).1.resolve_left hnot).symm

namespace Sample

def added : List Event :=
  [.boot 0, .add ⟨1, 7, 5⟩, .stringify, .rename, .proceed (.add ⟨1, 7, 5⟩) 0]

def late : List Event :=
  added ++ [.tick 1 5, .arrive 1, .crash, .boot 9, .arrive 1, .succeed ⟨1, 7, 5⟩, .stringify, .rename]

end Sample

theorem reminder_promised_late : Promised 1 (run .init Sample.late) ∧ (run .init Sample.late).messages = [1] :=
  ⟨reminder_promised 1 Sample.late (by simp [Sample.late, Sample.added, OrderlyRun, Orderly]), by decide⟩

/-- A reminder whose send failed is gone; one that is cancelled while `add` waits for its write is sent. -/
theorem reminder_broken :
    ¬ Promised 1 (run .init (Sample.added ++ [.tick 1 5, .fail ⟨1, 7, 5⟩, .stringify, .rename])) ∧
      ¬ Promised 1 (run .init [.boot 0, .add ⟨1, 7, 5⟩, .cancel 1 7, .stringify, .rename, .stringify, .rename,
        .proceed (.add ⟨1, 7, 5⟩) 0, .proceed (.cancel 1) 0, .tick 1 5]) := by
  unfold Promised
  decide

end Yappy.UtilityBot
