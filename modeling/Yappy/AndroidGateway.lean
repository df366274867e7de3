import Mathlib

/-!
# The gateway client on Android

`connect`, `networkAvailable`, `disconnect` and the callbacks of a socket, of `GatewayClient` in `Gateway.kt`.
Sockets are numbered as they are opened; what comes from one names it here, and the code does not look at it.
-/
namespace Yappy.AndroidGateway

inductive GatewayState
  | disconnected
  | connecting
  | connected (resumed : Bool)
  | fatal
  deriving DecidableEq

structure Client where
  state : GatewayState
  socket : Option ℕ
  sessionId : Option ℕ
  lastSeq : ℕ
  intentionalClose : Bool
  generation : ℕ
  reconnect : Bool
  /-- The ticket fetches under way, by their generation; the sockets so far, those that may still call back, and
  those of them that neither side has closed. -/
  tickets : List ℕ
  opened : ℕ
  alive : List ℕ
  unclosed : List ℕ
  /-- The sequence number of the last event that was handed to the flow, and the number that each resume sent,
  beside the one that was handed on then. -/
  handed : ℕ
  resumes : List (ℕ × ℕ)
  deriving DecidableEq

def Client.init : Client where
  state := .disconnected
  socket := none
  sessionId := none
  lastSeq := 0
  intentionalClose := true
  generation := 0
  reconnect := false
  tickets := []
  opened := 0
  alive := []
  unclosed := []
  handed := 0
  resumes := []

def Client.connect (s : Client) : Client :=
  if s.state = .connecting ∨ s.socket ≠ none then s
  else { s with
    intentionalClose := false, state := .connecting, generation := s.generation + 1
    tickets := (s.generation + 1) :: s.tickets }

def Client.ticket (s : Client) (mine : ℕ) (found : Bool) : Client :=
  let s := { s with tickets := s.tickets.erase mine }
  if s.intentionalClose ∨ mine ≠ s.generation then s
  else if found then { s with
    socket := some s.opened, opened := s.opened + 1, alive := s.opened :: s.alive
    unclosed := s.opened :: s.unclosed }
  else { s with state := .disconnected, reconnect := true }

def Client.networkAvailable (s : Client) : Client :=
  if s.intentionalClose ∨ s.socket ≠ none then s
  else if s.state = .fatal then s
  else { s with reconnect := false }.connect

def Client.disconnect (s : Client) : Client :=
  { s with
    intentionalClose := true, generation := s.generation + 1, reconnect := false
    unclosed := s.unclosed.filter fun k => some k ≠ s.socket
    socket := none, sessionId := none, lastSeq := 0, state := .disconnected }

def Client.handleClose (s : Client) (code : ℕ) : Client :=
  let s := { s with socket := none }
  if s.intentionalClose then { s with state := .disconnected }
  else if 4010 ≤ code then { s with state := .fatal }
  else { s with state := .disconnected, reconnect := true }

inductive Callback
  | hello
  | ready (sessionId : ℕ)
  | resumed
  | dispatch (seq : Option ℕ) (typed accepted : Bool)
  | invalidSession
  | reconnect
  | closing
  | closed (code : ℕ)

def Client.callback (s : Client) (k : ℕ) : Callback → Client
  | .hello => if s.sessionId ≠ none then { s with resumes := (s.lastSeq, s.handed) :: s.resumes } else s
  | .ready sessionId =>
    { s with sessionId := some sessionId, lastSeq := 0, state := .connected false }
  | .resumed => { s with state := .connected true }
  | .dispatch seq typed accepted =>
    { s with
      lastSeq := seq.getD s.lastSeq
      handed := if typed && accepted then seq.getD s.handed else s.handed }
  | .invalidSession => { s with sessionId := none, lastSeq := 0 }
  | .reconnect | .closing => { s with unclosed := s.unclosed.erase k }
  | .closed code => { s with alive := s.alive.erase k, unclosed := s.unclosed.erase k }.handleClose code

inductive Event
  | connect
  | ticket (mine : ℕ) (found : Bool)
  | networkAvailable
  | disconnect
  | timer
  | socket (k : ℕ) (c : Callback)

def Client.step (s : Client) : Event → Client
  | .connect => s.connect
  | .ticket mine found => if mine ∈ s.tickets then s.ticket mine found else s
  | .networkAvailable => s.networkAvailable
  | .disconnect => s.disconnect
  | .timer => if s.reconnect then { s with reconnect := false }.connect else s
  | .socket k c => if k ∈ s.alive then s.callback k c else s

def run (s : Client) (events : List Event) : Client := events.foldl Client.step s

/-- A callback that only concerns its own socket: a greeting is answered there, a request to close followed. -/
def Callback.Harmless : Callback → Prop
  | .hello | .reconnect | .closing => True
  | _ => False

/-- Callbacks that change the client's fields come from the socket in the field; a socket that `disconnect` let
go of may report its end, as long as nobody has connected since. What has a sequence number is handed on. -/
def Orderly (s : Client) : Event → Prop
  | .socket k c =>
    (c.Harmless ∨ s.socket = some k ∨ (∃ code, c = .closed code) ∧ s.socket = none ∧ s.intentionalClose) ∧
      ∀ seq typed accepted, c = .dispatch (some seq) typed accepted → typed && accepted
  | _ => True

def OrderlyRun : Client → List Event → Prop
  | _, [] => True
  | s, e :: events => Orderly s e ∧ OrderlyRun (s.step e) events

/-- At most one socket is not closed, which is the one in the field; no resume is ahead of what was handed on;
a callback of another socket leaves the state, the session and the number as they are. -/
structure Client.OneSocket (s : Client) : Prop where
  single : s.unclosed.length ≤ 1
  held : ∀ k ∈ s.unclosed, s.socket = some k
  resumes : ∀ r ∈ s.resumes, r.1 ≤ r.2
  apart : ∀ k c j, Orderly s (.socket k c) → s.socket = some j → k ≠ j →
    (s.step (.socket k c)).socket = some j ∧ (s.step (.socket k c)).state = s.state ∧
      (s.step (.socket k c)).sessionId = s.sessionId ∧ (s.step (.socket k c)).lastSeq = s.lastSeq

structure Client.Kept (s : Client) : Prop where
  distinct : s.unclosed.Nodup
  held : ∀ k ∈ s.unclosed, s.socket = some k
  opened : ∀ k ∈ s.unclosed, k < s.opened
  handed : s.lastSeq = 0 ∨ s.lastSeq = s.handed
  resumes : ∀ r ∈ s.resumes, r.1 ≤ r.2
  tickets : s.tickets.Nodup ∧ ∀ g ∈ s.tickets, g ≤ s.generation ∧ (g = s.generation → s.socket = none)

namespace Client.Kept
variable {s : Client}

lemma connect (h : s.Kept) : s.connect.Kept := by
  unfold Client.connect
  split_ifs with hbusy
  · exact h
  · have hnone : s.socket = none := not_not.mp (not_or.mp hbusy).2
    refine { h with tickets := ⟨List.nodup_cons.mpr ⟨fun hin => ?_, h.tickets.1⟩, fun g hg => ?_⟩ }
    · have := (h.tickets.2 _ hin).1
      omega
    · refine ⟨?_, fun _ => hnone⟩
      rcases List.mem_cons.mp hg with rfl | hg
      · exact le_rfl
      · exact (h.tickets.2 g hg).1.trans (Nat.le_succ _)

lemma ticket (h : s.Kept) {mine : ℕ} (hin : mine ∈ s.tickets) (found : Bool) :
    (s.ticket mine found).Kept := by
  have hrest : ∀ g ∈ s.tickets.erase mine, g ∈ s.tickets ∧ g ≠ mine :=
    fun g hg => ⟨List.mem_of_mem_erase hg, fun he => h.tickets.1.not_mem_erase (he ▸ hg)⟩
  have htickets := h.tickets.1.erase mine
  unfold Client.ticket
  dsimp only
  split_ifs with hstale hfound
  · exact { h with tickets := ⟨htickets, fun g hg => h.tickets.2 g (hrest g hg).1⟩ }
  · obtain rfl := not_not.mp (not_or.mp hstale).2
    have hnone : s.unclosed = [] := List.eq_nil_iff_forall_not_mem.mpr fun k hk =>
      nomatch ((h.tickets.2 _ hin).2 rfl).symm.trans (h.held k hk)
    refine ⟨by simp [hnone], by simp [hnone], by simp [hnone], h.handed, h.resumes, htickets, fun g hg => ?_⟩
    exact ⟨(h.tickets.2 g (hrest g hg).1).1, fun he => absurd he (hrest g hg).2⟩
  · exact { h with tickets := ⟨htickets, fun g hg => h.tickets.2 g (hrest g hg).1⟩ }

lemma release (h : s.Kept) {unclosed alive : List ℕ} {lastSeq generation : ℕ} {state : GatewayState}
    {sessionId : Option ℕ} {intentionalClose reconnect : Bool} (hnil : unclosed = [])
    (hseq : lastSeq = 0 ∨ lastSeq = s.handed) (hgeneration : s.generation ≤ generation) :
    Client.Kept { s with
      unclosed, lastSeq, generation, state, sessionId, intentionalClose, reconnect, alive
      socket := none } where
  distinct := by simp [hnil]
  held := by simp [hnil]
  opened := by simp [hnil]
  handed := hseq
  resumes := h.resumes
  tickets := ⟨h.tickets.1, fun g hg => ⟨(h.tickets.2 g hg).1.trans hgeneration, fun _ => rfl⟩⟩

lemma disconnect (h : s.Kept) : s.disconnect.Kept :=
  h.release (List.filter_eq_nil_iff.mpr fun k hk => by simp [h.held k hk]) (Or.inl rfl) (Nat.le_succ _)

lemma callback (h : s.Kept) {k : ℕ} {c : Callback} (hok : Orderly s (.socket k c)) :
    (s.callback k c).Kept := by
  cases c with
  | hello =>
    unfold Client.callback
    split_ifs
    · refine { h with resumes := fun r hr => ?_ }
      rcases List.mem_cons.mp hr with rfl | hr
      · rcases h.handed with hseq | hseq <;> simp [hseq]
      · exact h.resumes r hr
    · exact h
  | ready sessionId => exact { h with handed := Or.inl rfl }
  | resumed => exact { h with }
  | dispatch seq typed accepted =>
    refine { h with handed := ?_ }
    rcases seq with _ | seq
    · simpa [Client.callback] using h.handed
    · have := hok.2 seq typed accepted rfl
      simp [Client.callback, this]
  | invalidSession => exact { h with handed := Or.inl rfl }
  | reconnect | closing => exact { h with
      distinct := h.distinct.erase k
      held := fun j hj => h.held j (List.mem_of_mem_erase hj)
      opened := fun j hj => h.opened j (List.mem_of_mem_erase hj) }
  | closed code =>
    have hnil : s.unclosed.erase k = [] := by
      refine List.eq_nil_iff_forall_not_mem.mpr fun j hj => ?_
      have hheld := h.held j (List.mem_of_mem_erase hj)
      rcases hok.1 with hharm | hk | ⟨-, hnone, -⟩
      · exact hharm
      · obtain rfl := Option.some.inj (hheld.symm.trans hk)
        exact h.distinct.not_mem_erase hj
      · nomatch hnone.symm.trans hheld
    unfold Client.callback Client.handleClose
    dsimp only
    split_ifs <;> exact h.release hnil h.handed le_rfl

lemma step (h : s.Kept) {e : Event} (hok : Orderly s e) : (s.step e).Kept := by
  cases e with
  | connect => exact h.connect
  | ticket mine found =>
    simp only [Client.step]
    split_ifs with hin
    · exact h.ticket hin found
    · exact h
  | networkAvailable =>
    simp only [Client.step, Client.networkAvailable]
    split_ifs
    · exact h
    · exact h
    · exact connect { h with }
  | disconnect => exact h.disconnect
  | timer =>
    simp only [Client.step]
    split_ifs
    · exact connect { h with }
    · exact h
  | socket k c =>
    simp only [Client.step]
    split_ifs
    · exact h.callback hok
    · exact h

lemma run (h : s.Kept) {events : List Event} (hok : OrderlyRun s events) : (run s events).Kept := by
  induction events generalizing s with
  | nil => exact h
  | cons e events ih => exact ih (h.step hok.1) hok.2

lemma oneSocket (h : s.Kept) : s.OneSocket where
  single := by
    rcases hu : s.unclosed with _ | ⟨a, _ | ⟨b, l⟩⟩
    · simp
    · simp
    · have hdistinct := h.distinct
      have ha := h.held a (by simp [hu])
      have hb := h.held b (by simp [hu])
      simp_all
  held := h.held
  resumes := h.resumes
  apart k c j hok hj hne := by
    have hother : c.Harmless := by
      rcases hok.1 with hharm | hk | ⟨-, hnone, -⟩
      · exact hharm
      · exact absurd (Option.some.inj (hk.symm.trans hj)) hne
      · nomatch hnone.symm.trans hj
    simp only [Client.step]
    split_ifs
    · cases c <;> simp_all [Callback.Harmless, Client.callback]
      split_ifs <;> simp [hj]
    · exact ⟨hj, rfl, rfl, rfl⟩

end Client.Kept

/-- Where callbacks come from the socket in the field, there is one socket and no resume is ahead. -/
theorem one_socket (events : List Event) (hok : OrderlyRun .init events) : (run .init events).OneSocket := by
  have hinit : Client.init.Kept := by
    constructor <;> simp [Client.init]
  exact (hinit.run hok).oneSocket

theorem one_socket_twice : (run .init [.connect, .ticket 1 true, .socket 0 .hello, .socket 0 (.ready 7),
    .socket 0 (.dispatch (some 1) true true), .disconnect, .socket 0 (.closed 1000), .connect,
    .ticket 3 true, .socket 1 .hello]).OneSocket :=
  one_socket _ (by simp [OrderlyRun, Orderly, Callback.Harmless, Client.init, Client.step, Client.connect,
    Client.ticket, Client.callback, Client.disconnect, Client.handleClose])

/-- The end of a socket that was let go of is taken for that of its successor; an event that the flow refuses is
counted. -/
theorem sockets_confused :
    ¬ (run .init [.connect, .ticket 1 true, .disconnect, .connect, .ticket 3 true,
      .socket 0 (.closed 1000)]).OneSocket ∧
    ¬ (run .init [.connect, .ticket 1 true, .socket 0 (.ready 7),
      .socket 0 (.dispatch (some 1) true false), .socket 0 (.closed 1006), .timer, .ticket 2 true,
      .socket 1 .hello]).OneSocket :=
  ⟨fun h => absurd (h.held 1 (by decide)) (by decide),
    fun h => absurd (h.resumes (1, 0) (by decide)) (by decide)⟩

end Yappy.AndroidGateway
