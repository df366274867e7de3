import Mathlib
import Yappy.Timeline

/-!
# The history of one room in the web client

`selectConversation`, `loadOlder`, `loadAround` and `resetToLatest` ask for pages of a room's
history. The server answers each from what the room holds at that moment, and the answer is
written over a list that live messages, a painted cache and other answers may have changed
meanwhile. A reconnect that ends in READY hands over none of the messages it missed.
-/
namespace Yappy.RoomHistory
open Timeline

def limit : ℕ := 60

/-- What a request asks for. `loadOlder` holds on to the array it began with and the `seq` of
its first row. -/
inductive Asked
  | history
  | older (array before : ℕ)
  | around (seq : ℕ)
  | latest

section
variable {M : Type} (room : Numbering M)

def below (log : List M) (seq : ℕ) : List M := log.filter fun m => room.seq m < seq

/-- The rows `history` selects from the messages the user may see. -/
def answer (log : List M) : Asked → List M
  | .history | .latest => log.rtake limit
  | .older _ before => (below room log before).rtake limit
  | .around seq => (below room log (seq + 1)).rtake (limit / 2 + 1) ++
      (log.filter fun m => seq < room.seq m).take (limit / 2)

/-- A request under way, and its answer once the server has made it. -/
structure Request where
  asked : Asked
  page : Option (Page room)

/-- The room at the server and in one client: the messages the user may see and the counter
that numbers them, how many of them the socket has handed over or passed by, and the client's
list with its marks `historyLoaded` and `detached`. -/
structure State where
  log : List M
  messageSeq : ℕ
  delivered : ℕ
  connected : Bool
  screen : Timeline.State M
  loaded : Bool
  detached : Bool
  latestSeq : Option ℕ
  requests : ℕ → Option (Request room)

inductive Event
  | post (m : M)
  | disconnect
  | resumed
  | ready
  | listed (latest : ℕ)
  | live (m : M)
  | hydrate (rows : List (Row M))
  | ask (call : ℕ) (asked : Asked)
  | compose (call : ℕ) (page : Page room)
  | land (call : ℕ) (asked : Asked) (page : Page room)

def start : State room := ⟨[], 0, 0, false, Timeline.start, false, false, none, fun _ => none⟩

variable {room}

namespace State
variable (s : State room)

def handed : List M := s.log.take s.delivered

def shown : List M := messages s.screen.list

def setRequest (call : ℕ) (request : Option (Request room)) : State room :=
  { s with requests := Function.update s.requests call request }

/-- The request may be made: `selectConversation` asks while the history is not loaded, and
`loadOlder` below the first row that is not pending. -/
def May : Asked → Prop
  | .history => s.loaded = false
  | .older array before => s.screen.current = some array ∧
      ((s.screen.arrays array).find? (!·.pending)).map (Row.seq room) = some before
  | .around _ | .latest => True

variable [DecidableEq M]

/-- The answer lands: `selectConversation` merges it with the list as it is by then, `loadOlder`
puts it before the array it held on to, and the other two replace the list. -/
def land (page : Page room) : Asked → State room
  | .history => { s with screen := s.screen.setRows (merge room page s.screen.list), loaded := true }
  | .older array _ => { s with screen := s.screen.setRows (prepend room page (s.screen.arrays array)) }
  | .around _ => { s with screen := s.screen.setRows page.rows, loaded := true, detached := true }
  | .latest => { s with screen := s.screen.setRows page.rows, detached := false }

end State

def Reached (room : Numbering M) (shown : List M) (m : M) : Prop :=
  m ∈ shown ∨ ∃ x ∈ shown, room.seq m < room.seq x

/-- No hole in the list and none at its end: nothing between two of its messages is missing, and
what was handed over is on it or is older than a message that is. -/
structure Whole (room : Numbering M) (log handed shown : List M) : Prop where
  between : ∀ m ∈ log, ∀ a ∈ shown, ∀ b ∈ shown, room.seq a ≤ room.seq m →
    room.seq m ≤ room.seq b → m ∈ shown
  reached : ∀ m ∈ handed, Reached room shown m

/-- The rows a page is put to join up with it: what is newer than one of them and older than the
page is among them, and so is what is newer than the page, up to the newest row and the newest
message handed over. -/
structure Meets (room : Numbering M) (log handed shown page : List M) : Prop where
  alone : page = [] → Whole room log handed shown
  older : ∀ first ∈ page.head?, ∀ m ∈ log, room.seq m < room.seq first →
    (∃ a ∈ shown, room.seq a ≤ room.seq m) → m ∈ shown
  newer : ∀ last ∈ page.getLast?, ∀ m ∈ log, room.seq last < room.seq m →
    (m ∈ handed ∨ ∃ b ∈ shown, room.seq m ≤ room.seq b) → m ∈ shown

/-- The step leaves no hole behind. READY finds everything posted so far on the list or older
than a row of it. A live message that is older than every row joins the first. A page meets the
rows it is put to, which for `loadOlder` are those of the array it held on to. A page that
replaces the list is not behind the socket. -/
def Joined (s : State room) : Event room → Prop
  | .ready => s.loaded = true → s.detached = false →
      ∀ m ∈ s.log, Reached room s.shown m
  | .live m => s.loaded = true → s.detached = false → ∀ x ∈ s.log, ∀ b ∈ s.shown,
      room.seq m < room.seq x → room.seq x < room.seq b → x ∈ s.shown
  | .land _ .history page => s.detached = false →
      Meets room s.log s.handed s.shown page.messages
  | .land _ (.older array _) page => s.loaded = true → s.detached = false →
      Meets room s.log s.handed (messages (s.screen.arrays array)) page.messages
  | .land _ .latest page => s.loaded = true → ∀ m ∈ s.handed, Reached room page.messages m
  | _ => True

variable [DecidableEq M]

/-- The room takes a step. A message is numbered as it is posted, live messages come in order,
and the cache is painted only where the room has neither a list nor its history. -/
inductive Step : State room → Event room → State room → Prop
  | post {s : State room} {m : M} (h : s.messageSeq < room.seq m) :
      Step s (.post m) { s with log := s.log ++ [m], messageSeq := room.seq m }
  | disconnect {s : State room} : Step s .disconnect { s with connected := false }
  | resumed {s : State room} (h : s.connected = false) : Step s .resumed { s with connected := true }
  | ready {s : State room} (h : s.connected = false) :
      Step s .ready { s with connected := true, delivered := s.log.length }
  | listed {s : State room} (latest : ℕ) :
      Step s (.listed latest) { s with latestSeq := some latest }
  | live {s : State room} {m : M} (hconnected : s.connected = true)
      (hnext : s.log[s.delivered]? = some m) :
      Step s (.live m) { s with
        delivered := s.delivered + 1
        screen := upsertMessage room s.screen m
        latestSeq := s.latestSeq.map (max · (room.seq m)) }
  | hydrate {s : State room} {rows : List (Row M)} (hlist : s.screen.current = none)
      (hloaded : s.loaded = false) (hpending : ∀ row ∈ rows, row.pending = false)
      (hposted : ∀ m ∈ messages rows, room.seq m ≤ s.messageSeq) :
      Step s (.hydrate rows) { s with screen := s.screen.setRows rows }
  | ask {s : State room} {call : ℕ} {asked : Asked} (hcall : s.requests call = none)
      (hmay : s.May asked) :
      Step s (.ask call asked) (s.setRequest call (some ⟨asked, none⟩))
  | compose {s : State room} {call : ℕ} {asked : Asked} {page : Page room}
      (h : s.requests call = some ⟨asked, none⟩) (hpage : page.messages = answer room s.log asked) :
      Step s (.compose call page) (s.setRequest call (some ⟨asked, some page⟩))
  | land {s : State room} {call : ℕ} {asked : Asked} {page : Page room}
      (h : s.requests call = some ⟨asked, some page⟩) :
      Step s (.land call asked page) ((s.land page asked).setRequest call none)

end

section
variable {M : Type} {room : Numbering M} {log handed shown rows : List M} {list : List (Row M)} {m x : M}
  {seq : ℕ} {asked : Asked} {page : Page room}

lemma below_prefix (h : log.Pairwise fun a b => room.seq a < room.seq b) :
    below room log seq ++ log.filter (fun m => seq ≤ room.seq m) = log := by
  induction log with
  | nil => rfl
  | cons m log ih =>
    obtain ⟨hm, hlog⟩ := List.pairwise_cons.mp h
    by_cases hlt : room.seq m < seq
    · simpa [below, hlt] using ih hlog
    · -- everything after the first message that is not below is not below either
      have hnone : ∀ x ∈ log, seq ≤ room.seq x := fun x hx => (not_lt.mp hlt).trans (hm x hx).le
      have hbelow : below room (m :: log) seq = [] := by
        refine List.filter_eq_nil_iff.mpr fun x hx => ?_
        rcases List.mem_cons.mp hx with rfl | hx
        · simpa using hlt
        · simpa using hnone x hx
      have hrest : (m :: log).filter (fun m => seq ≤ room.seq m) = m :: log := by
        refine List.filter_eq_self.mpr fun x hx => ?_
        rcases List.mem_cons.mp hx with rfl | hx
        · simpa using hlt
        · simpa using hnone x hx
      rw [hbelow, hrest, List.nil_append]

lemma answer_stretch (h : log.Pairwise fun a b => room.seq a < room.seq b) :
    answer room log asked <:+: log := by
  have hlatest : log.rtake limit <:+: log := (List.drop_suffix _ _).isInfix
  cases asked with
  | history => exact hlatest
  | latest => exact hlatest
  | older _ before =>
    exact (List.drop_suffix _ _).isInfix.trans ⟨[], _, below_prefix h⟩
  | around seq =>
    have hsplit : below room log (seq + 1) ++ log.filter (fun m => seq < room.seq m) = log := below_prefix h
    refine ⟨(below room log (seq + 1)).rdrop (limit / 2 + 1),
      (log.filter fun m => seq < room.seq m).drop (limit / 2), ?_⟩
    calc _ = ((below room log (seq + 1)).rdrop (limit / 2 + 1) ++
            (below room log (seq + 1)).rtake (limit / 2 + 1)) ++
          ((log.filter fun m => seq < room.seq m).take (limit / 2) ++
            (log.filter fun m => seq < room.seq m).drop (limit / 2)) := by
          simp only [answer, List.append_assoc]
      _ = log := by rw [List.rdrop, List.rtake, List.take_append_drop, List.take_append_drop, hsplit]

structure Solid (room : Numbering M) (log page : List M) : Prop where
  subset : page ⊆ log
  between : ∀ m ∈ log, ∀ a ∈ page, ∀ b ∈ page, room.seq a ≤ room.seq m →
    room.seq m ≤ room.seq b → m ∈ page

lemma Solid.of_stretch (h : log.Pairwise fun a b => room.seq a < room.seq b) (hpage : rows <:+: log) :
    Solid room log rows := by
  obtain ⟨before, after, rfl⟩ := hpage
  obtain ⟨hfront, -, hafter⟩ := List.pairwise_append.mp h
  obtain ⟨-, -, hbefore⟩ := List.pairwise_append.mp hfront
  refine ⟨by simp, fun m hm a ha b hb hle hge => ?_⟩
  rcases List.mem_append.mp hm with hm | hm
  · rcases List.mem_append.mp hm with hm | hm
    · exact absurd (hbefore m hm a ha) (not_lt.mpr hle)
    · exact hm
  · exact absurd (hafter b (by simp [hb]) m hm) (not_lt.mpr hge)

lemma Solid.post (h : Solid room log rows) (hm : ∀ x ∈ log, room.seq x < room.seq m) :
    Solid room (log ++ [m]) rows := by
  refine ⟨List.subset_append_of_subset_left _ h.subset, fun x hx a ha b hb hle hge => ?_⟩
  rcases List.mem_append.mp hx with hx | hx
  · exact h.between x hx a ha b hb hle hge
  · obtain rfl := List.mem_singleton.mp hx
    exact absurd (hm b (h.subset hb)) (not_lt.mpr hge)

lemma first_le {first : M} (hfirst : first ∈ page.messages.head?) :
    ∀ x ∈ page.messages, room.seq first ≤ room.seq x := by
  obtain ⟨rest, hrest⟩ := List.head?_eq_some_iff.mp hfirst
  have hordered := page.ordered
  rw [hrest] at hordered ⊢
  intro x hx
  rcases List.mem_cons.mp hx with rfl | hx
  · exact le_rfl
  · exact ((List.pairwise_cons.mp hordered).1 x hx).le

lemma le_last {last : M} (hlast : last ∈ page.messages.getLast?) :
    ∀ x ∈ page.messages, room.seq x ≤ room.seq last := by
  obtain ⟨front, hfront⟩ := List.getLast?_eq_some_iff.mp hlast
  have hordered := page.ordered
  rw [hfront] at hordered ⊢
  intro x hx
  rcases List.mem_append.mp hx with hx | hx
  · exact ((List.pairwise_append.mp hordered).2.2 x hx last (by simp)).le
  · exact (congrArg room.seq (List.mem_singleton.mp hx)).le

lemma Solid.cases {first last : M} (h : Solid room log page.messages)
    (hfirst : first ∈ page.messages.head?) (hlast : last ∈ page.messages.getLast?) (hm : m ∈ log) :
    room.seq m < room.seq first ∨ room.seq last < room.seq m ∨ m ∈ page.messages := by
  by_cases hlow : room.seq m < room.seq first
  · exact .inl hlow
  · by_cases hhigh : room.seq last < room.seq m
    · exact .inr (.inl hhigh)
    · exact .inr (.inr (h.between m hm first (List.mem_of_mem_head? hfirst) last
        (List.mem_of_mem_getLast? hlast) (not_lt.mp hlow) (not_lt.mp hhigh)))

lemma nil_or_ends (page : Page room) : page.messages = [] ∨
    ∃ first last, first ∈ page.messages.head? ∧ last ∈ page.messages.getLast? := by
  cases hpage : page.messages with
  | nil => exact .inl rfl
  | cons first rest =>
    exact .inr ⟨first, (first :: rest).getLast (by simp), rfl, List.getLast?_eq_some_getLast (by simp)⟩

lemma Meets.whole (h : Meets room log handed shown page.messages)
    (hsolid : Solid room log page.messages) (hhanded : handed ⊆ log)
    (hpage : ∀ m ∈ page.messages, m ∈ rows)
    (hkeeps : ∀ m ∈ shown, m ∈ log ∨ page.messages = [] → m ∈ rows)
    (hrows : ∀ m ∈ rows, m ∈ page.messages ∨ m ∈ shown) : Whole room log handed rows := by
  rcases nil_or_ends page with hnil | ⟨first, last, hfirst, hlast⟩
  · -- the rows are those that were there
    have hshown : ∀ m, m ∈ rows ↔ m ∈ shown := fun m =>
      ⟨fun hm => (hrows m hm).resolve_left (by simp [hnil]), fun hm => hkeeps m hm (.inr hnil)⟩
    obtain ⟨hbetween, hreached⟩ := h.alone hnil
    refine ⟨fun m hm a ha b hb hle hge => ?_, fun m hm => ?_⟩
    · exact (hshown m).mpr (hbetween m hm a ((hshown a).mp ha) b ((hshown b).mp hb) hle hge)
    · rcases hreached m hm with hm | ⟨x, hx, hlt⟩
      · exact .inl ((hshown m).mpr hm)
      · exact .inr ⟨x, (hshown x).mpr hx, hlt⟩
  · constructor
    · intro m hm a ha b hb hle hge
      rcases hsolid.cases hfirst hlast hm with hlow | hhigh | hon
      · have ha : a ∈ shown := (hrows a ha).resolve_left fun ha =>
          not_lt.mpr (first_le hfirst a ha) (hle.trans_lt hlow)
        exact hkeeps m (h.older first hfirst m hm hlow ⟨a, ha, hle⟩) (.inl hm)
      · have hb : b ∈ shown := (hrows b hb).resolve_left fun hb =>
          not_lt.mpr (le_last hlast b hb) (hhigh.trans_le hge)
        exact hkeeps m (h.newer last hlast m hm hhigh (.inr ⟨b, hb, hge⟩)) (.inl hm)
      · exact hpage m hon
    · intro m hm
      rcases hsolid.cases hfirst hlast (hhanded hm) with hlow | hhigh | hon
      · exact .inr ⟨first, hpage first (List.mem_of_mem_head? hfirst), hlow⟩
      · have hshown := h.newer last hlast m (hhanded hm) hhigh (.inl hm)
        exact .inl (hkeeps m hshown (.inl (hhanded hm)))
      · exact .inl (hpage m hon)

lemma Solid.whole (h : Solid room log rows) (hreached : ∀ m ∈ handed, Reached room rows m) :
    Whole room log handed rows :=
  ⟨h.between, hreached⟩

lemma Whole.post (h : Whole room log handed shown) (hm : ∀ x ∈ shown, room.seq x < room.seq m) :
    Whole room (log ++ [m]) handed shown := by
  refine ⟨fun x hx a ha b hb hle hge => ?_, h.reached⟩
  rcases List.mem_append.mp hx with hx | hx
  · exact h.between x hx a ha b hb hle hge
  · obtain rfl := List.mem_singleton.mp hx
    exact absurd (hm b hb) (not_lt.mpr hge)

lemma Whole.ready (h : Whole room log handed shown)
    (hreached : ∀ m ∈ log, Reached room shown m) : Whole room log log shown :=
  ⟨h.between, hreached⟩

lemma Whole.live (h : Whole room log handed shown)
    (hbefore : ∀ x ∈ log, room.seq x < room.seq m → x ∈ handed)
    (hjoins : ∀ x ∈ log, ∀ b ∈ shown, room.seq m < room.seq x → room.seq x < room.seq b →
      x ∈ shown)
    (hrows : ∀ x, x ∈ rows ↔ x = m ∨ x ∈ shown) : Whole room log (handed ++ [m]) rows := by
  constructor
  · intro x hx a ha b hb hle hge
    by_contra hnot
    have hxm : x ≠ m := fun he => hnot ((hrows x).mpr (.inl he))
    have hshown : x ∉ shown := fun hx => hnot ((hrows x).mpr (.inr hx))
    have hcap {c : M} (hc : c ∈ shown) (hxc : room.seq x ≤ room.seq c) : room.seq x < room.seq c :=
      lt_of_le_of_ne hxc fun he => hshown (room.injective he ▸ hc)
    rcases lt_or_gt_of_ne fun he => hxm (room.injective he) with hlt | hgt
    · -- the message is newer: what it was handed after is on the list or below a row of it
      rcases h.reached x (hbefore x hx hlt) with hx' | ⟨b, hb, hxb⟩
      · exact hshown hx'
      · rcases (hrows a).mp ha with rfl | ha
        · exact absurd hlt (not_lt.mpr hle)
        · exact hshown (h.between x hx a ha b hb hle hxb.le)
    · rcases (hrows b).mp hb with rfl | hb
      · exact absurd hgt (not_lt.mpr hge)
      · exact hshown (hjoins x hx b hb hgt (hcap hb hge))
  · intro x hx
    rcases List.mem_append.mp hx with hx | hx
    · rcases h.reached x hx with hx | ⟨b, hb, hlt⟩
      · exact .inl ((hrows x).mpr (.inr hx))
      · exact .inr ⟨b, (hrows b).mpr (.inr hb), hlt⟩
    · exact .inl ((hrows x).mpr (.inl (List.mem_singleton.mp hx)))

end

section
variable {M : Type} [DecidableEq M] {room : Numbering M} {log : List M} {list : List (Row M)} {m x : M}
  {page : Page room}

lemma mem_messages_insertInOrder :
    x ∈ messages (insertInOrder room list m) ↔ x = m ∨ x ∈ messages list := by
  simp only [mem_messages]
  by_cases hm : Row.settled m ∈ list
  · rw [insertInOrder_of_mem hm]
    exact ⟨.inr, fun h => h.elim (fun he => he ▸ hm) id⟩
  · rw [insertInOrder_of_notMem hm, place_perm.mem_iff, List.mem_cons, Row.settled.injEq]

lemma mem_messages_prepend :
    x ∈ messages (prepend room page list) ↔ x ∈ page.messages ∨ x ∈ messages list := by
  rw [prepend, messages_append, messages_rows, List.mem_append]
  refine ⟨fun h => h.imp_left fun hx => unseen_sublist.subset hx, fun h => ?_⟩
  by_cases hx : x ∈ messages list
  · exact .inr hx
  · have hunseen : (list.any fun row => row.id = .inl x) = false :=
      not_any_id.mpr fun hrow => hx (mem_messages.mpr hrow)
    exact .inl (List.mem_filter.mpr ⟨h.resolve_right hx, by rw [hunseen]; rfl⟩)

lemma mem_messages_merge : x ∈ messages (merge room page list) ↔
    x ∈ page.messages ∨ Row.settled x ∈ kept room page.messages list := by
  rw [mem_messages, merge_perm.mem_iff, List.mem_append, ← mem_messages, Page.rows, messages_rows]

lemma mem_of_mem_merge (h : x ∈ messages (merge room page list)) :
    x ∈ page.messages ∨ x ∈ messages list :=
  (mem_messages_merge.mp h).imp_right fun hkept => mem_messages.mpr (List.mem_of_mem_filter hkept)

lemma mem_merge (hsolid : Solid room log page.messages) (hx : x ∈ messages list)
    (hlog : x ∈ log ∨ page.messages = []) : x ∈ messages (merge room page list) := by
  rw [mem_messages_merge]
  by_cases hpage : x ∈ page.messages
  · exact .inl hpage
  · refine .inr (List.mem_filter.mpr ⟨mem_messages.mp hx, ?_⟩)
    have hseen : (page.messages.any fun m => Row.id (.settled x) = .inl m) = false := by
      refine List.any_eq_false.mpr fun m hm => ?_
      have hne : x ≠ m := fun he => hpage (he ▸ hm)
      simpa [Row.id] using hne
    rcases nil_or_ends page with hnil | ⟨first, last, hfirst, hlast⟩
    · simp [hnil]
    · have hlog : x ∈ log := hlog.resolve_right fun hnil => by simp [hnil] at hfirst
      have hout : room.seq x < room.seq first ∨ room.seq last < room.seq x := by
        rcases hsolid.cases hfirst hlast hlog with hlow | hhigh | hon
        · exact .inl hlow
        · exact .inr hhigh
        · exact absurd hon hpage
      rw [Option.mem_def] at hfirst hlast
      have hwindow : (decide (room.seq x < room.seq first) || decide (room.seq last < room.seq x)) = true := by
        simpa using hout
      rw [hseen, hfirst, hlast]
      exact hwindow

end

section
variable {M : Type} {room : Numbering M} {s : State room} {call : ℕ} {m : M} {page : Page room}
  {asked : Asked} {P : Request room → Prop}

/-- What every run keeps: the room is in order and numbered by its counter, so are the rows, every
answer is a stretch of the room, and a loaded room has a list. -/
structure Known (s : State room) : Prop where
  ordered : s.log.Pairwise fun a b => room.seq a < room.seq b
  numbered : ∀ m ∈ s.log, room.seq m ≤ s.messageSeq
  rows : ∀ array, ∀ m ∈ messages (s.screen.arrays array), room.seq m ≤ s.messageSeq
  solid : ∀ call request, s.requests call = some request →
    ∀ page ∈ request.page, Solid room s.log page.messages
  listed : s.loaded = true → s.screen.current ≠ none
  passed : s.delivered ≤ s.log.length

lemma Known.shown (h : Known s) : ∀ m ∈ s.shown, room.seq m ≤ s.messageSeq :=
  list_inv (P := fun list => ∀ m ∈ messages list, room.seq m ≤ s.messageSeq) (by simp [messages]) h.rows

lemma Known.answered (h : Known s) (hcall : s.requests call = some ⟨asked, some page⟩) :
    Solid room s.log page.messages := h.solid call _ hcall page rfl

lemma Known.page_numbered (h : Known s) (hpage : Solid room s.log page.messages) :
    ∀ m ∈ page.messages, room.seq m ≤ s.messageSeq := fun m hm => h.numbered m (hpage.subset hm)

lemma setRequest_requests (h : ∀ call request, s.requests call = some request → P request)
    {made : Option (Request room)} (hmade : ∀ request ∈ made, P request) :
    ∀ other request, (s.setRequest call made).requests other = some request → P request := by
  intro other request hother
  by_cases he : other = call
  · subst he
    exact hmade request (by simpa [State.setRequest] using hother)
  · exact h other request (by simpa [State.setRequest, he] using hother)

lemma setRequest_known (h : Known s) {made : Option (Request room)}
    (hmade : ∀ request ∈ made, ∀ page ∈ request.page, Solid room s.log page.messages) :
    Known (s.setRequest call made) :=
  ⟨h.ordered, h.numbered, h.rows,
    setRequest_requests (P := fun request => ∀ page ∈ request.page, Solid room s.log page.messages)
      h.solid hmade, h.listed, h.passed⟩

lemma handed_subset : s.handed ⊆ s.log := List.take_subset _ _

lemma list_setRows {rows : List (Row M)} (screen : Timeline.State M) : (screen.setRows rows).list = rows := by
  simp [State.list, State.setRows]

lemma Known.before_next (h : Known s) (hnext : s.log[s.delivered]? = some m) :
    ∀ x ∈ s.log, room.seq x < room.seq m → x ∈ s.handed := by
  obtain ⟨hlt, hget⟩ := List.getElem?_eq_some_iff.mp hnext
  intro x hx hxm
  obtain ⟨i, hi, rfl⟩ := List.getElem_of_mem hx
  have hbefore : i < s.delivered := by
    by_contra hnot
    rcases (not_lt.mp hnot).eq_or_lt with rfl | hlater
    · exact absurd (hget ▸ hxm) (lt_irrefl _)
    · have := List.pairwise_iff_getElem.mp h.ordered s.delivered i hlt hi hlater
      exact absurd (hget ▸ this) (not_lt.mpr hxm.le)
  exact List.mem_take_iff_getElem.mpr ⟨i, by omega, rfl⟩

lemma Known.setRows {rows : List (Row M)} (h : Known s)
    (hrows : ∀ m ∈ messages rows, room.seq m ≤ s.messageSeq) :
    ∀ array, ∀ m ∈ messages ((s.screen.setRows rows).arrays array), room.seq m ≤ s.messageSeq :=
  setRows_arrays (P := fun list => ∀ m ∈ messages list, room.seq m ≤ s.messageSeq) h.rows hrows

end

section
variable {M : Type} [DecidableEq M] {room : Numbering M} {s s' : State room} {event : Event room}
  {page : Page room} {asked : Asked}

lemma Known.land (h : Known s) (hpage : Solid room s.log page.messages) : Known (s.land page asked) := by
  have hnumbered := h.page_numbered hpage
  have hrows : ∀ m ∈ messages page.rows, room.seq m ≤ s.messageSeq := by
    rwa [Page.rows, messages_rows]
  cases asked with
  | history =>
    refine ⟨h.ordered, h.numbered, h.setRows fun m hm => ?_, h.solid, by simp [State.land, State.setRows],
      h.passed⟩
    exact (mem_of_mem_merge hm).elim (hnumbered m) (h.shown m)
  | older array before =>
    refine ⟨h.ordered, h.numbered, h.setRows fun m hm => ?_, h.solid, by simp [State.land, State.setRows],
      h.passed⟩
    exact (mem_messages_prepend.mp hm).elim (hnumbered m) (h.rows array m)
  | around seq =>
    exact ⟨h.ordered, h.numbered, h.setRows hrows, h.solid, by simp [State.land, State.setRows], h.passed⟩
  | latest =>
    exact ⟨h.ordered, h.numbered, h.setRows hrows, h.solid, by simp [State.land, State.setRows], h.passed⟩

lemma step_known (h : Known s) (hs : Step s event s') : Known s' := by
  cases hs with
  | @post m hm =>
    have hnew : ∀ x ∈ s.log, room.seq x < room.seq m := fun x hx => (h.numbered x hx).trans_lt hm
    refine ⟨?_, ?_, fun array x hx => (h.rows array x hx).trans hm.le, ?_, h.listed, ?_⟩
    · refine List.pairwise_append.mpr ⟨h.ordered, List.pairwise_singleton _ _, fun x hx y hy => ?_⟩
      obtain rfl := List.mem_singleton.mp hy
      exact hnew x hx
    · intro x hx
      rcases List.mem_append.mp hx with hx | hx
      · exact (hnew x hx).le
      · exact (congrArg room.seq (List.mem_singleton.mp hx)).le
    · exact fun call request hcall page hpage => (h.solid call request hcall page hpage).post hnew
    · simpa using h.passed.trans (Nat.le_succ _)
  | disconnect => exact ⟨h.ordered, h.numbered, h.rows, h.solid, h.listed, h.passed⟩
  | resumed => exact ⟨h.ordered, h.numbered, h.rows, h.solid, h.listed, h.passed⟩
  | ready => exact ⟨h.ordered, h.numbered, h.rows, h.solid, h.listed, le_rfl⟩
  | listed latest => exact ⟨h.ordered, h.numbered, h.rows, h.solid, h.listed, h.passed⟩
  | @live m hconnected hnext =>
    obtain ⟨hlt, hget⟩ := List.getElem?_eq_some_iff.mp hnext
    have hm : room.seq m ≤ s.messageSeq := h.numbered m (hget ▸ List.getElem_mem hlt)
    refine ⟨h.ordered, h.numbered, ?_, h.solid, fun hloaded => ?_, hlt⟩
    · refine mutate_arrays (P := fun list => ∀ x ∈ messages list, room.seq x ≤ s.messageSeq) h.rows
        fun array _ x hx => ?_
      rcases mem_messages_insertInOrder.mp hx with rfl | hx
      · exact hm
      · exact h.rows array x hx
    · have := h.listed hloaded
      cases hcurrent : s.screen.current with
      | none => exact absurd hcurrent this
      | some array => simp [upsertMessage, State.mutate, hcurrent]
  | hydrate _ hloaded _ hposted =>
    exact ⟨h.ordered, h.numbered, h.setRows hposted, h.solid, by simp [State.setRows], h.passed⟩
  | ask => exact setRequest_known h (by simp)
  | @compose call asked page hcall hpage =>
    refine setRequest_known h ?_
    have hsolid : Solid room s.log page.messages := .of_stretch h.ordered (hpage ▸ answer_stretch h.ordered)
    simpa using hsolid
  | land hcall => exact setRequest_known (h.land (h.answered hcall)) (by simp)

structure Sound (s : State room) : Prop where
  known : Known s
  whole : s.loaded = true → s.detached = false → Whole room s.log s.handed s.shown

lemma land_whole (hpage : Solid room s.log page.messages) {call : ℕ}
    (hjoined : Joined s (.land call asked page)) (hloaded : (s.land page asked).loaded = true)
    (hdetached : (s.land page asked).detached = false) :
    Whole room (s.land page asked).log (s.land page asked).handed (s.land page asked).shown := by
  cases asked with
  | history =>
    have hmeets : Meets room s.log s.handed s.shown page.messages := hjoined hdetached
    change Whole room s.log s.handed (messages (s.screen.setRows (merge room page s.screen.list)).list)
    rw [list_setRows]
    exact hmeets.whole hpage handed_subset (fun m hm => mem_messages_merge.mpr (.inl hm))
      (fun m => mem_merge hpage) fun m => mem_of_mem_merge
  | older array before =>
    have hmeets : Meets room s.log s.handed (messages (s.screen.arrays array)) page.messages :=
      hjoined hloaded hdetached
    change Whole room s.log s.handed
      (messages (s.screen.setRows (prepend room page (s.screen.arrays array))).list)
    rw [list_setRows]
    exact hmeets.whole hpage handed_subset (fun m hm => mem_messages_prepend.mpr (.inl hm))
      (fun m hm _ => mem_messages_prepend.mpr (.inr hm)) fun m => mem_messages_prepend.mp
  | around seq => cases hdetached
  | latest =>
    change Whole room s.log s.handed (messages (s.screen.setRows page.rows).list)
    rw [list_setRows, Page.rows, messages_rows]
    exact hpage.whole (hjoined hloaded)

lemma Sound.step (hinv : Sound s) (hjoined : Joined s event) (hs : Step s event s') : Sound s' := by
  refine ⟨step_known hinv.known hs, fun hloaded hdetached => ?_⟩
  have h := hinv.known
  cases hs with
  | @post m hm =>
    have hnew : ∀ x ∈ s.shown, room.seq x < room.seq m := fun x hx => (h.shown x hx).trans_lt hm
    have hhanded : (s.log ++ [m]).take s.delivered = s.handed := List.take_append_of_le_length h.passed
    have hwhole : Whole room (s.log ++ [m]) s.handed s.shown := (hinv.whole hloaded hdetached).post hnew
    rwa [← hhanded] at hwhole
  | disconnect => exact hinv.whole hloaded hdetached
  | resumed => exact hinv.whole hloaded hdetached
  | ready =>
    have hwhole : Whole room s.log s.log s.shown :=
      (hinv.whole hloaded hdetached).ready (hjoined hloaded hdetached)
    have hall : s.log.take s.log.length = s.log := List.take_length
    exact ⟨hwhole.between, fun m hm => hwhole.reached m (hall ▸ hm)⟩
  | listed latest => exact hinv.whole hloaded hdetached
  | @live m hconnected hnext =>
    obtain ⟨array, hcurrent⟩ := Option.ne_none_iff_exists'.mp (h.listed hloaded)
    have hrows (x : M) : x ∈ messages (upsertMessage room s.screen m).list ↔ x = m ∨ x ∈ s.shown := by
      have hlist : (upsertMessage room s.screen m).list = insertInOrder room s.screen.list m := by
        simp [upsertMessage, State.mutate, State.list, hcurrent]
      rw [hlist, mem_messages_insertInOrder]
      rfl
    have hhanded : s.log.take (s.delivered + 1) = s.handed ++ [m] := by
      rw [List.take_add_one, hnext]
      rfl
    have hwhole := (hinv.whole hloaded hdetached).live (h.before_next hnext) (hjoined hloaded hdetached) hrows
    rwa [← hhanded] at hwhole
  | hydrate _ hnot => exact absurd hloaded (by simp [hnot])
  | ask => exact hinv.whole hloaded hdetached
  | compose => exact hinv.whole hloaded hdetached
  | land hcall => exact land_whole (h.answered hcall) hjoined hloaded hdetached

end

section
variable {M : Type} [DecidableEq M] {room : Numbering M} {s : State room}

end

section
variable {M : Type} {room : Numbering M} {log handed shown page : List M} {m : M}

instance (s : State room) (asked : Asked) : Decidable (s.May asked) := by
  cases asked <;> unfold State.May <;> infer_instance

variable [DecidableEq M]

instance : Decidable (Reached room shown m) := by
  unfold Reached
  infer_instance

instance : Decidable (Whole room log handed shown) :=
  decidable_of_iff ((∀ m ∈ log, ∀ a ∈ shown, ∀ b ∈ shown, room.seq a ≤ room.seq m →
      room.seq m ≤ room.seq b → m ∈ shown) ∧ ∀ m ∈ handed, Reached room shown m)
    ⟨fun h => ⟨h.1, h.2⟩, fun h => ⟨h.1, h.2⟩⟩

instance : Decidable (Meets room log handed shown page) :=
  decidable_of_iff ((page = [] → Whole room log handed shown) ∧
      (∀ first ∈ page.head?, ∀ m ∈ log, room.seq m < room.seq first →
        (∃ a ∈ shown, room.seq a ≤ room.seq m) → m ∈ shown) ∧
      ∀ last ∈ page.getLast?, ∀ m ∈ log, room.seq last < room.seq m →
        (m ∈ handed ∨ ∃ b ∈ shown, room.seq m ≤ room.seq b) → m ∈ shown)
    ⟨fun h => ⟨h.1, h.2.1, h.2.2⟩, fun h => ⟨h.1, h.2, h.3⟩⟩

instance (s : State room) (event : Event room) : Decidable (Joined s event) :=
  match event with
  | .ready | .live _ | .land _ .history _ | .land _ (.older ..) _ | .land _ .latest _ => by
    unfold Joined
    infer_instance
  | .post _ | .disconnect | .resumed | .listed _ | .hydrate _ | .ask .. | .compose .. | .land _ (.around _) _ =>
    .isTrue trivial

end

end Yappy.RoomHistory
