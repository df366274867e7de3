import Yappy.Runs

/-!
# Reactions and their echoes

The reactions to one message: `toggleReaction` of `ui/chat/actions.ts` and the handler of ReactionAdd and
ReactionRemove in `state/store.ts`, in one tab, with the two routes of `routes/messages.ts`. A request of the tab
reaches the server late or never, and is answered late, or with a failure at any time.
-/
namespace Yappy.ReactionEchoes

variable {Emoji : Type} [DecidableEq Emoji]

structure Reaction (Emoji : Type) where
  userId : ℕ
  emoji : Emoji
  added : Bool

/-- Who has reacted with what: the rows of `message_reactions`. -/
abbrev Rows (Emoji : Type) := Emoji → Finset ℕ

def Rows.apply (rows : Rows Emoji) (r : Reaction Emoji) : Rows Emoji :=
  Function.update rows r.emoji (if r.added then insert r.userId (rows r.emoji) else (rows r.emoji).erase r.userId)

/-- The message of the store. An emoji without a count has the count 0. -/
structure Message (Emoji : Type) where
  reactions : Emoji → ℕ
  myReactions : Finset Emoji

namespace Message
variable (m : Message Emoji) (emoji : Emoji)

def add : Message Emoji where
  reactions := Function.update m.reactions emoji (m.reactions emoji + 1)
  myReactions := insert emoji m.myReactions

def remove : Message Emoji where
  reactions := Function.update m.reactions emoji (m.reactions emoji - 1)
  myReactions := m.myReactions.erase emoji

/-- The patch of a toggle, with `mine` as the message passed to it says. -/
def toggle (mine : Bool) : Message Emoji := if mine then m.remove emoji else m.add emoji

def rollBack (mine : Bool) : Message Emoji := if mine then m.add emoji else m.remove emoji

def receive (me : ℕ) (r : Reaction Emoji) : Message Emoji :=
  if r.userId = me then
    if r.added then if r.emoji ∈ m.myReactions then m else m.add r.emoji
    else if r.emoji ∈ m.myReactions then m.remove r.emoji else m
  else if r.added then { m with reactions := Function.update m.reactions r.emoji (m.reactions r.emoji + 1) }
  else { m with reactions := Function.update m.reactions r.emoji (m.reactions r.emoji - 1) }

end Message

/-- How far the server has come with a request of the tab. -/
inductive Progress
  | sent | committed | published | lost

structure Call (Emoji : Type) where
  emoji : Emoji
  mine : Bool
  progress : Progress
  waiting : Bool

structure State (Emoji : Type) where
  message : Message Emoji
  calls : ℕ → Option (Call Emoji)
  rows : Rows Emoji
  /-- What has been committed and not been published, in the order of the commits, with the call it is from. -/
  unpublished : List (Option ℕ × Reaction Emoji)
  undelivered : List (Reaction Emoji)
  told : Rows Emoji

section Steps
variable (s : State Emoji)

def setCall (id : ℕ) (c : Call Emoji) : State Emoji := { s with calls := Function.update s.calls id (some c) }

def commit (id : Option ℕ) (r : Reaction Emoji) : State Emoji :=
  { s with rows := s.rows.apply r, unpublished := s.unpublished ++ [(id, r)] }

/-- `toggleReaction`, up to its request. -/
def toggleReaction (id : ℕ) (emoji : Emoji) (mine : Bool) : State Emoji :=
  { setCall s id ⟨emoji, mine, .sent, true⟩ with message := s.message.toggle emoji mine }

def unlist (n : ℕ) (id : Option ℕ) (progress : Progress) : State Emoji :=
  { s with
    unpublished := s.unpublished.eraseIdx n
    calls := match id with
      | some id => Function.update s.calls id ((s.calls id).map fun c => { c with progress := progress })
      | none => s.calls }

end Steps

inductive Event (Emoji : Type)
  | toggle (id : ℕ) (emoji : Emoji) (mine : Bool)
  | loses (id : ℕ)
  | commits (id : ℕ)
  | others (r : Reaction Emoji)
  | publishes (n : ℕ)
  | drops (n : ℕ)
  | delivers
  | answers (id : ℕ)
  | fails (id : ℕ)

inductive Step (me : ℕ) : State Emoji → Event Emoji → State Emoji → Prop
  | toggle {s : State Emoji} {id : ℕ} (h : s.calls id = none) (emoji : Emoji) (mine : Bool) :
      Step me s (.toggle id emoji mine) (toggleReaction s id emoji mine)
  | loses {s : State Emoji} {id : ℕ} {c : Call Emoji} (h : s.calls id = some c) (hsent : c.progress = .sent) :
      Step me s (.loses id) (setCall s id { c with progress := .lost })
  | commits {s : State Emoji} {id : ℕ} {c : Call Emoji} (h : s.calls id = some c) (hsent : c.progress = .sent) :
      Step me s (.commits id) (commit (setCall s id { c with progress := .committed }) (some id) ⟨me, c.emoji, !c.mine⟩)
  | others {s : State Emoji} (r : Reaction Emoji) : Step me s (.others r) (commit s none r)
  | publishes {s : State Emoji} {n : ℕ} {id : Option ℕ} {r : Reaction Emoji} (h : s.unpublished[n]? = some (id, r)) :
      Step me s (.publishes n) { unlist s n id .published with undelivered := s.undelivered ++ [r] }
  | drops {s : State Emoji} {n : ℕ} {id : Option ℕ} {r : Reaction Emoji} (h : s.unpublished[n]? = some (id, r)) :
      Step me s (.drops n) (unlist s n id .lost)
  | delivers {s : State Emoji} {r : Reaction Emoji} {rest : List (Reaction Emoji)} (h : s.undelivered = r :: rest) :
      Step me s .delivers
        { s with message := s.message.receive me r, undelivered := rest, told := s.told.apply r }
  | answers {s : State Emoji} {id : ℕ} {c : Call Emoji} (h : s.calls id = some c) (hwaiting : c.waiting = true)
      (hdone : c.progress = .published) : Step me s (.answers id) (setCall s id { c with waiting := false })
  | fails {s : State Emoji} {id : ℕ} {c : Call Emoji} (h : s.calls id = some c) (hwaiting : c.waiting = true) :
      Step me s (.fails id)
        { setCall s id { c with waiting := false } with message := s.message.rollBack c.emoji c.mine }

def loaded (rows : Rows Emoji) (myReactions : Finset Emoji) : State Emoji where
  message := ⟨fun emoji => (rows emoji).card, myReactions⟩
  calls _ := none
  rows := rows
  unpublished := []
  undelivered := []
  told := rows

/-! ## What holds -/

/-- Every request has settled and every event has been delivered. -/
structure Settled (s : State Emoji) : Prop where
  answered : ∀ id c, s.calls id = some c → c.waiting = false
  published : s.unpublished = []
  delivered : s.undelivered = []

def Agrees (me : ℕ) (s : State Emoji) : Prop :=
  ∀ emoji, s.message.reactions emoji = (s.rows emoji).card ∧ (emoji ∈ s.message.myReactions ↔ me ∈ s.rows emoji)

/-- The tab will still hear of the own reaction with that emoji: an event is on its way or about to leave, or a
call of the tab that waits for its answer has not been published. -/
def Expects (me : ℕ) (s : State Emoji) (emoji : Emoji) : Prop :=
  (∃ r ∈ s.undelivered, r.userId = me ∧ r.emoji = emoji) ∨
    (∃ x ∈ s.unpublished, x.2.userId = me ∧ x.2.emoji = emoji) ∨
    ∃ id c, s.calls id = some c ∧ c.emoji = emoji ∧ c.waiting = true ∧ c.progress ≠ .published

/-- A toggle is called with the message of the store. Events leave in the order of the commits, and none is
dropped. An event about another person changes what the events before it said. And a call fails while the
store still shows its change, when the tab has more to hear of that reaction, or has heard what it goes back to. -/
def InOrder (me : ℕ) (s : State Emoji) : Event Emoji → Prop
  | .toggle _ emoji mine => mine = true ↔ emoji ∈ s.message.myReactions
  | .publishes n => n = 0
  | .drops _ => False
  | .delivers => ∀ r ∈ s.undelivered.head?, r.userId ≠ me → (r.userId ∈ s.told r.emoji ↔ r.added = false)
  | .fails id => ∀ c, s.calls id = some c → (c.mine = true ↔ c.emoji ∉ s.message.myReactions) ∧
      (Expects me (setCall s id { c with waiting := false }) c.emoji ∨ (c.mine = true ↔ me ∈ s.told c.emoji))
  | _ => True

variable {me : ℕ} {s s' : State Emoji} {emoji : Emoji} {r : Reaction Emoji} {m : Message Emoji} {rows : Rows Emoji}

def Counts (me : ℕ) (m : Message Emoji) (told : Rows Emoji) : Prop :=
  ∀ emoji, m.reactions emoji = ((told emoji).erase me).card + if emoji ∈ m.myReactions then 1 else 0

/-- The server is ahead by what is on its way; the store counts the others, and shows the own reaction as it has
heard of it last or has more to hear. -/
structure Inv (me : ℕ) (s : State Emoji) : Prop where
  ahead : s.rows = (s.undelivered ++ s.unpublished.map Prod.snd).foldl Rows.apply s.told
  calls : ∀ id r, (some id, r) ∈ s.unpublished → ∃ c, s.calls id = some c ∧ r.userId = me ∧ r.emoji = c.emoji
  counts : Counts me s.message s.told
  shows : ∀ emoji, (emoji ∈ s.message.myReactions ↔ me ∈ s.told emoji) ∨ Expects me s emoji

/-! ## The message -/

lemma apply_self : rows.apply r r.emoji =
    if r.added then insert r.userId (rows r.emoji) else (rows r.emoji).erase r.userId := Function.update_self ..

lemma apply_of_ne (h : emoji ≠ r.emoji) : rows.apply r emoji = rows emoji := Function.update_of_ne h ..

lemma mem_add {emoji' : Emoji} : emoji' ∈ (m.add emoji).myReactions ↔ emoji' = emoji ∨ emoji' ∈ m.myReactions :=
  Finset.mem_insert

lemma mem_remove {emoji' : Emoji} :
    emoji' ∈ (m.remove emoji).myReactions ↔ emoji' ≠ emoji ∧ emoji' ∈ m.myReactions := Finset.mem_erase

lemma counts_add (h : Counts me m rows) (hnew : emoji ∉ m.myReactions) : Counts me (m.add emoji) rows := by
  intro emoji'
  have hthis := h emoji'
  by_cases he : emoji' = emoji
  · subst he
    rw [if_neg hnew] at hthis
    simp [Message.add, hthis]
  · simpa [Message.add, he] using hthis

lemma counts_remove (h : Counts me m rows) (hmine : emoji ∈ m.myReactions) : Counts me (m.remove emoji) rows := by
  intro emoji'
  have hthis := h emoji'
  by_cases he : emoji' = emoji
  · subst he
    rw [if_pos hmine] at hthis
    simp [Message.remove, hthis]
  · simpa [Message.remove, he] using hthis

lemma counts_apply_own (h : Counts me m rows) (hown : r.userId = me) : Counts me m (rows.apply r) := by
  intro emoji
  by_cases he : emoji = r.emoji
  · subst he
    rw [apply_self, h, hown]
    split_ifs <;> simp
  · rw [apply_of_ne he]
    exact h emoji

lemma receive_own (h : Counts me m rows) (hown : r.userId = me) :
    Counts me (m.receive me r) (rows.apply r) ∧
      (∀ emoji, emoji ∈ (m.receive me r).myReactions ↔
        if emoji = r.emoji then r.added = true else emoji ∈ m.myReactions) := by
  unfold Message.receive
  rw [if_pos hown]
  split_ifs with hadded hmine hmine
  · refine ⟨counts_apply_own h hown, fun emoji => ?_⟩
    split_ifs with he
    · exact iff_of_true (he ▸ hmine) hadded
    · exact Iff.rfl
  · refine ⟨counts_apply_own (counts_add h hmine) hown, fun emoji => ?_⟩
    split_ifs with he
    · exact iff_of_true (mem_add.mpr (Or.inl he)) hadded
    · exact mem_add.trans (or_iff_right he)
  · refine ⟨counts_apply_own (counts_remove h hmine) hown, fun emoji => ?_⟩
    split_ifs with he
    · exact iff_of_false (fun hmem => (mem_remove.mp hmem).1 he) hadded
    · exact mem_remove.trans (and_iff_right he)
  · refine ⟨counts_apply_own h hown, fun emoji => ?_⟩
    split_ifs with he
    · exact iff_of_false (he ▸ hmine) hadded
    · exact Iff.rfl

lemma receive_other_myReactions (hother : r.userId ≠ me) : (m.receive me r).myReactions = m.myReactions := by
  unfold Message.receive
  rw [if_neg hother]
  split_ifs <;> rfl

lemma counts_receive_other (h : Counts me m rows) (hother : r.userId ≠ me)
    (hnews : r.userId ∈ rows r.emoji ↔ r.added = false) : Counts me (m.receive me r) (rows.apply r) := by
  intro emoji
  have hthis := h emoji
  rw [receive_other_myReactions hother]
  unfold Message.receive
  rw [if_neg hother]
  by_cases he : emoji = r.emoji
  · subst he
    rw [apply_self]
    cases hadded : r.added with
    | true =>
      have hnew : r.userId ∉ (rows r.emoji).erase me := fun hmem => by
        have hfalse := hnews.mp (Finset.mem_of_mem_erase hmem)
        rw [hadded] at hfalse
        cases hfalse
      have hcard : ((insert r.userId (rows r.emoji)).erase me).card = ((rows r.emoji).erase me).card + 1 := by
        rw [Finset.erase_insert_of_ne hother, Finset.card_insert_of_notMem hnew]
      simp [hthis, hcard, Nat.add_right_comm]
    | false =>
      have hold : r.userId ∈ (rows r.emoji).erase me := Finset.mem_erase.mpr ⟨hother, hnews.mpr hadded⟩
      have hcard : (((rows r.emoji).erase r.userId).erase me).card = ((rows r.emoji).erase me).card - 1 := by
        rw [Finset.erase_right_comm, Finset.card_erase_of_mem hold]
      have hpos : 0 < ((rows r.emoji).erase me).card := Finset.card_pos.mpr ⟨_, hold⟩
      simp [hthis, hcard]
      omega
  · rw [apply_of_ne he, ← hthis]
    split_ifs
    · exact Function.update_of_ne he ..
    · exact Function.update_of_ne he ..

lemma told_other (hother : r.userId ≠ me) : me ∈ rows.apply r emoji ↔ me ∈ rows emoji := by
  by_cases he : emoji = r.emoji
  · subst he
    rw [apply_self]
    split_ifs
    · exact Finset.mem_insert.trans (or_iff_right hother.symm)
    · exact Finset.mem_erase.trans (and_iff_right hother.symm)
  · rw [apply_of_ne he]

lemma told_own (hown : r.userId = me) : me ∈ rows.apply r emoji ↔
    if emoji = r.emoji then r.added = true else me ∈ rows emoji := by
  by_cases he : emoji = r.emoji
  · subst he
    rw [apply_self, if_pos rfl, hown]
    cases r.added <;> simp
  · rw [apply_of_ne he, if_neg he]

/-! ## What is expected -/

omit [DecidableEq Emoji] in
lemma Expects.setCall {id : ℕ} {c c' : Call Emoji} (h : Expects me s emoji) (hc : s.calls id = some c)
    (hemoji : c'.emoji = c.emoji) (hstill : c.waiting = true → c.progress ≠ .published →
      c.emoji = emoji → c'.waiting = true ∧ c'.progress ≠ .published) : Expects me (setCall s id c') emoji := by
  refine h.imp_right (Or.imp_right ?_)
  rintro ⟨id', c'', hc'', he, hwaiting, hprogress⟩
  by_cases hid : id' = id
  · subst hid
    rw [hc] at hc''
    cases hc''
    obtain ⟨hw, hp⟩ := hstill hwaiting hprogress he
    exact ⟨id', c', Function.update_self .., hemoji.trans he, hw, hp⟩
  · exact ⟨id', c'', (Function.update_of_ne hid ..).trans hc'', he, hwaiting, hprogress⟩

omit [DecidableEq Emoji] in
lemma Expects.new {id : ℕ} {c : Call Emoji} (h : Expects me s emoji) (hid : s.calls id = none) :
    Expects me (ReactionEchoes.setCall s id c) emoji := by
  refine h.imp_right (Or.imp_right ?_)
  rintro ⟨id', c', hc', hrest⟩
  have hne : id' ≠ id := by
    rintro rfl
    rw [hid] at hc'
    cases hc'
  exact ⟨id', c', (Function.update_of_ne hne ..).trans hc', hrest⟩

lemma Expects.commit {id : Option ℕ} (h : Expects me s emoji) : Expects me (commit s id r) emoji :=
  h.imp_right (Or.imp_left fun ⟨x, hx, hrest⟩ => ⟨x, List.mem_append_left _ hx, hrest⟩)

omit [DecidableEq Emoji] in
lemma Expects.congr (h : Expects me s emoji) (hundelivered : s'.undelivered = s.undelivered)
    (hunpublished : s'.unpublished = s.unpublished) (hcalls : s'.calls = s.calls) : Expects me s' emoji := by
  unfold Expects
  rw [hundelivered, hunpublished, hcalls]
  exact h

/-! ## One step -/

lemma Inv.commit (h : Inv me s) {id : Option ℕ}
    (hcall : ∀ id', id = some id' → ∃ c, s.calls id' = some c ∧ r.userId = me ∧ r.emoji = c.emoji) :
    Inv me (commit s id r) where
  ahead := by
    change s.rows.apply r = (s.undelivered ++ (s.unpublished ++ [(id, r)]).map Prod.snd).foldl Rows.apply s.told
    rw [List.map_append, ← List.append_assoc, List.foldl_append, ← h.ahead]
    rfl
  calls id' r' hmem := by
    rcases List.mem_append.mp hmem with hmem | hmem
    · exact h.calls id' r' hmem
    · cases List.mem_singleton.mp hmem
      exact hcall id' rfl
  counts := h.counts
  shows emoji := (h.shows emoji).imp_right Expects.commit

lemma Inv.setCall (h : Inv me s) {id : ℕ} {c c' : Call Emoji} (hc : s.calls id = some c) (hemoji : c'.emoji = c.emoji)
    (hstill : c.waiting = true → c.progress ≠ .published → c'.waiting = true ∧ c'.progress ≠ .published) :
    Inv me (setCall s id c') where
  ahead := h.ahead
  calls id' r hmem := by
    obtain ⟨c'', hc'', hown, he⟩ := h.calls id' r hmem
    by_cases hid : id' = id
    · subst hid
      rw [hc] at hc''
      cases hc''
      exact ⟨c', Function.update_self .., hown, he.trans hemoji.symm⟩
    · exact ⟨c'', (Function.update_of_ne hid ..).trans hc'', hown, he⟩
  counts := h.counts
  shows emoji := (h.shows emoji).imp_right fun hx => hx.setCall hc hemoji fun hw hp _ => hstill hw hp

lemma Inv.toggle (h : Inv me s) {id : ℕ} (hid : s.calls id = none) {mine : Bool}
    (hok : mine = true ↔ emoji ∈ s.message.myReactions) : Inv me (toggleReaction s id emoji mine) where
  ahead := h.ahead
  calls id' r hmem := by
    obtain ⟨c, hc, hrest⟩ := h.calls id' r hmem
    have hne : id' ≠ id := by
      rintro rfl
      rw [hid] at hc
      cases hc
    exact ⟨c, (Function.update_of_ne hne ..).trans hc, hrest⟩
  counts := by
    change Counts me (s.message.toggle emoji mine) s.told
    unfold Message.toggle
    split_ifs with hmine
    · exact counts_remove h.counts (hok.mp hmine)
    · exact counts_add h.counts fun hmem => hmine (hok.mpr hmem)
  shows emoji' := by
    by_cases he : emoji' = emoji
    · exact Or.inr (Or.inr (Or.inr ⟨id, _, Function.update_self .., he.symm, rfl, nofun⟩))
    · refine (h.shows emoji').imp (fun hsame => ?_) fun hx => (hx.new hid).congr rfl rfl rfl
      refine Iff.trans ?_ hsame
      change emoji' ∈ (s.message.toggle emoji mine).myReactions ↔ _
      unfold Message.toggle
      split_ifs
      · exact mem_remove.trans (and_iff_right he)
      · exact mem_add.trans (or_iff_right he)

lemma Inv.fail (h : Inv me s) {id : ℕ} {c : Call Emoji} (hc : s.calls id = some c)
    (hshown : c.mine = true ↔ c.emoji ∉ s.message.myReactions)
    (hmore : Expects me (ReactionEchoes.setCall s id { c with waiting := false }) c.emoji ∨ (c.mine = true ↔ me ∈ s.told c.emoji)) :
    Inv me { ReactionEchoes.setCall s id { c with waiting := false } with
      message := s.message.rollBack c.emoji c.mine } where
  ahead := h.ahead
  calls id' r hmem := by
    obtain ⟨c', hc', hown, he⟩ := h.calls id' r hmem
    by_cases hid : id' = id
    · subst hid
      rw [hc] at hc'
      cases hc'
      exact ⟨_, Function.update_self .., hown, he⟩
    · exact ⟨c', (Function.update_of_ne hid ..).trans hc', hown, he⟩
  counts := by
    change Counts me (s.message.rollBack c.emoji c.mine) s.told
    unfold Message.rollBack
    split_ifs with hmine
    · exact counts_add h.counts (hshown.mp hmine)
    · exact counts_remove h.counts (not_not.mp fun hnot => hmine (hshown.mpr hnot))
  shows emoji := by
    have hback : emoji ∈ (s.message.rollBack c.emoji c.mine).myReactions ↔
        if emoji = c.emoji then c.mine = true else emoji ∈ s.message.myReactions := by
      unfold Message.rollBack
      split_ifs with hmine he he
      · exact iff_of_true (mem_add.mpr (Or.inl he)) hmine
      · exact mem_add.trans (or_iff_right he)
      · exact iff_of_false (fun hmem => (mem_remove.mp hmem).1 he) hmine
      · exact mem_remove.trans (and_iff_right he)
    by_cases he : emoji = c.emoji
    · subst he
      rw [if_pos rfl] at hback
      rcases hmore with hx | hheard
      · exact Or.inr (hx.congr rfl rfl rfl)
      · exact Or.inl (hback.trans hheard)
    · rw [if_neg he] at hback
      refine (h.shows emoji).imp hback.trans fun hx => ?_
      have hset : Expects me (ReactionEchoes.setCall s id { c with waiting := false }) emoji :=
        hx.setCall hc rfl fun _ _ hsame => absurd hsame.symm he
      exact hset.congr rfl rfl rfl

lemma Inv.publish (h : Inv me s) {id : Option ℕ} (hr : s.unpublished[0]? = some (id, r)) :
    Inv me { unlist s 0 id .published with undelivered := s.undelivered ++ [r] } := by
  obtain ⟨x, rest, hlist⟩ := List.exists_cons_of_ne_nil (List.ne_nil_of_mem (List.mem_of_getElem? hr))
  have hx : x = (id, r) := by
    rw [hlist] at hr
    exact Option.some.inj hr
  subst hx
  have hrest : (unlist s 0 id .published).unpublished = rest := by
    change s.unpublished.eraseIdx 0 = rest
    rw [hlist]
    rfl
  have hsame : ∀ id' c, s.calls id' = some c → ∃ c', (unlist s 0 id .published).calls id' = some c' ∧
      c'.emoji = c.emoji ∧ (some id' ≠ id → c' = c) := by
    intro id' c hc
    cases id with
    | none => exact ⟨c, hc, rfl, fun _ => rfl⟩
    | some id =>
      by_cases he : id' = id
      · subst he
        refine ⟨{ c with progress := .published }, ?_, rfl, fun hne => absurd rfl hne⟩
        change Function.update s.calls id' ((s.calls id').map _) id' = _
        rw [Function.update_self, hc]
        rfl
      · exact ⟨c, (Function.update_of_ne he ..).trans hc, rfl, fun _ => rfl⟩
  refine ⟨?_, fun id' r' hmem => ?_, h.counts, fun emoji => (h.shows emoji).imp_right fun hx => ?_⟩
  · change s.rows = (s.undelivered ++ [r] ++ (unlist s 0 id .published).unpublished.map Prod.snd).foldl Rows.apply s.told
    rw [hrest, h.ahead, hlist, List.append_assoc]
    rfl
  · change _ ∈ (unlist s 0 id .published).unpublished at hmem
    rw [hrest] at hmem
    obtain ⟨c, hc, hown, he⟩ := h.calls id' r' (hlist ▸ List.mem_cons_of_mem _ hmem)
    obtain ⟨c', hc', hemoji, -⟩ := hsame id' c hc
    exact ⟨c', hc', hown, he.trans hemoji.symm⟩
  · rcases hx with ⟨r', hr', hrest'⟩ | ⟨x, hx, hown⟩ | ⟨id', c, hc, he, hwaiting, hprogress⟩
    · exact Or.inl ⟨r', List.mem_append_left _ hr', hrest'⟩
    · rw [hlist] at hx
      rcases List.mem_cons.mp hx with rfl | hx
      · exact Or.inl ⟨r, List.mem_append_right _ (List.mem_singleton.mpr rfl), hown⟩
      · refine Or.inr (Or.inl ⟨x, ?_, hown⟩)
        change x ∈ (unlist s 0 id .published).unpublished
        rwa [hrest]
    · by_cases hid : some id' = id
      · subst hid
        obtain ⟨c', hc', hown, hemoji⟩ := h.calls id' r (hlist ▸ List.mem_cons_self)
        rw [hc] at hc'
        cases hc'
        exact Or.inl ⟨r, List.mem_append_right _ (List.mem_singleton.mpr rfl), hown, hemoji.trans he⟩
      · obtain ⟨c', hc', -, hsame'⟩ := hsame id' c hc
        rw [hsame' hid] at hc'
        exact Or.inr (Or.inr ⟨id', c, hc', he, hwaiting, hprogress⟩)

lemma Inv.deliver (h : Inv me s) {rest : List (Reaction Emoji)} (hr : s.undelivered = r :: rest)
    (hnews : r.userId ≠ me → (r.userId ∈ s.told r.emoji ↔ r.added = false)) :
    Inv me { s with message := s.message.receive me r, undelivered := rest, told := s.told.apply r } where
  ahead := by
    have hahead := h.ahead
    rw [hr] at hahead
    exact hahead
  calls := h.calls
  counts := by
    by_cases hown : r.userId = me
    · exact (receive_own h.counts hown).1
    · exact counts_receive_other h.counts hown (hnews hown)
  shows emoji := by
    have hless : ¬ (r.userId = me ∧ r.emoji = emoji) → Expects me s emoji → Expects me
        { s with message := s.message.receive me r, undelivered := rest, told := s.told.apply r } emoji := by
      rintro hnot (⟨r', hr', hthis⟩ | hx)
      · rw [hr] at hr'
        rcases List.mem_cons.mp hr' with rfl | hr'
        · exact absurd hthis hnot
        · exact Or.inl ⟨r', hr', hthis⟩
      · exact Or.inr hx
    by_cases hown : r.userId = me
    · have hmy := (receive_own h.counts hown).2 emoji
      have htold : me ∈ s.told.apply r emoji ↔ _ := told_own hown
      by_cases he : emoji = r.emoji
      · rw [if_pos he] at hmy htold
        exact Or.inl (hmy.trans htold.symm)
      · rw [if_neg he] at hmy htold
        refine (h.shows emoji).imp (fun hsame => hmy.trans (hsame.trans htold.symm)) (hless fun hthis => ?_)
        exact he hthis.2.symm
    · refine (h.shows emoji).imp (fun hsame => ?_) (hless fun hthis => hown hthis.1)
      have htold : me ∈ s.told.apply r emoji ↔ _ := told_other hown
      change emoji ∈ (s.message.receive me r).myReactions ↔ _
      rw [receive_other_myReactions hown]
      exact hsame.trans htold.symm

lemma Step.inv {e : Event Emoji} (hstep : Step me s e s') (h : Inv me s) (hok : InOrder me s e) : Inv me s' := by
  cases hstep with
  | toggle hid emoji mine => exact h.toggle hid hok
  | loses hc hsent => exact h.setCall hc rfl fun hw _ => ⟨hw, nofun⟩
  | @commits id c hc hsent =>
    have hset : Inv me (setCall s id { c with progress := .committed }) := h.setCall hc rfl fun hw _ => ⟨hw, nofun⟩
    refine hset.commit fun id' he => ?_
    cases he
    exact ⟨_, Function.update_self .., rfl, rfl⟩
  | others r => exact h.commit nofun
  | @publishes n id r hr =>
    obtain rfl : n = 0 := hok
    exact h.publish hr
  | drops => exact hok.elim
  | @delivers r rest hr =>
    refine h.deliver hr (hok r ?_)
    rw [hr]
    rfl
  | answers hc hwaiting hdone => exact h.setCall hc rfl fun _ hp => absurd hdone hp
  | fails hc hwaiting => exact h.fail hc (hok _ hc).1 (hok _ hc).2

lemma loaded_inv {myReactions : Finset Emoji} (hmine : ∀ emoji, emoji ∈ myReactions ↔ me ∈ rows emoji) :
    Inv me (loaded rows myReactions) where
  ahead := rfl
  calls _ _ hmem := by cases hmem
  counts emoji := by
    change (rows emoji).card = ((rows emoji).erase me).card + if emoji ∈ myReactions then 1 else 0
    split_ifs with hmem
    · exact (Finset.card_erase_add_one ((hmine emoji).mp hmem)).symm
    · rw [Finset.erase_eq_of_notMem fun h => hmem ((hmine emoji).mpr h)]
      rfl
  shows emoji := Or.inl (hmine emoji)

lemma Inv.agrees (h : Inv me s) (hsettled : Settled s) : Agrees me s := by
  have hsame : s.rows = s.told := by
    rw [h.ahead, hsettled.delivered, hsettled.published]
    rfl
  intro emoji
  have hmine : emoji ∈ s.message.myReactions ↔ me ∈ s.rows emoji := by
    rw [hsame]
    refine (h.shows emoji).resolve_right ?_
    rintro (⟨r, hr, -⟩ | ⟨x, hx, -⟩ | ⟨id, c, hc, -, hwaiting, -⟩)
    · rw [hsettled.delivered] at hr
      cases hr
    · rw [hsettled.published] at hx
      cases hx
    · rw [hsettled.answered id c hc] at hwaiting
      cases hwaiting
  refine ⟨?_, hmine⟩
  rw [h.counts, hsame]
  rw [hsame] at hmine
  split_ifs with hmem
  · exact Finset.card_erase_add_one (hmine.mp hmem)
  · rw [Finset.erase_eq_of_notMem fun h => hmem (hmine.mpr h)]
    rfl

/-- A settled store shows what the server has, in every run whose steps come in order. -/
theorem run_agrees {myReactions : Finset Emoji} (hmine : ∀ emoji, emoji ∈ myReactions ↔ me ∈ rows emoji)
    (hrun : RunWhere (Step me) (InOrder me) (loaded rows myReactions) s) (hsettled : Settled s) : Agrees me s := by
  have h : Inv me s := hrun.invariant (loaded_inv hmine) fun _ _ _ h hok hstep => hstep.inv h hok
  exact h.agrees hsettled

/-! ## One call -/

def quiet : State ℕ := loaded (fun _ => ∅) ∅

lemma quiet_mine (emoji : ℕ) : emoji ∈ (∅ : Finset ℕ) ↔ 7 ∈ (fun _ : ℕ => (∅ : Finset ℕ)) emoji :=
  iff_of_false (Finset.notMem_empty _) (Finset.notMem_empty _)

lemma settled_one {s : State ℕ} {c : Call ℕ} (hcalls : ∀ id, id ≠ 0 → s.calls id = none) (hc : s.calls 0 = some c)
    (hdone : c.waiting = false) (hpublished : s.unpublished = []) (hdelivered : s.undelivered = []) : Settled s := by
  refine ⟨fun id c' hc' => ?_, hpublished, hdelivered⟩
  by_cases hid : id = 0
  · subst hid
    rw [hc] at hc'
    cases hc'
    exact hdone
  · rw [hcalls id hid] at hc'
    cases hc'

lemma update_four {a b c d : Option (Call ℕ)} (id : ℕ) (hid : id ≠ 0) :
    Function.update (Function.update (Function.update (Function.update (fun _ => none) 0 a) 0 b) 0 c) 0 d id = none := by
  rw [Function.update_idem, Function.update_idem, Function.update_idem, Function.update_of_ne hid]

theorem run_agrees_toggled : ∃ s, RunWhere (Step 7) (InOrder 7) quiet s ∧ Settled s ∧ s.message.reactions 3 = 1 ∧
    Agrees 7 s := by
  have hstart : RunWhere (Step 7) (InOrder 7) quiet quiet := .refl _
  have htoggled := hstart.on (i := Event.toggle 0 3 false) (.toggle rfl 3 false) (iff_of_false nofun nofun)
  have hcommitted := htoggled.on (i := Event.commits 0) (.commits rfl rfl) trivial
  have hpublished := hcommitted.on (i := Event.publishes 0) (.publishes rfl) rfl
  have hdelivered := hpublished.on (i := Event.delivers) (.delivers rfl) fun r hr hother => by
    cases hr
    exact absurd rfl hother
  have hanswered := hdelivered.on (i := Event.answers 0) (.answers rfl rfl rfl) trivial
  refine ⟨_, hanswered, ?_, rfl, run_agrees quiet_mine hanswered ?_⟩ <;>
    exact settled_one update_four rfl rfl rfl rfl

/-- The echo arrives, and then the call fails: its answer is lost. -/
theorem lost_answer_rolls_back : ¬ ∀ (me : ℕ) (rows : Rows ℕ) (myReactions : Finset ℕ) (s : State ℕ),
    (∀ emoji, emoji ∈ myReactions ↔ me ∈ rows emoji) →
    RunWhere (Step me) (fun _ _ => True) (loaded rows myReactions) s → Settled s → Agrees me s := by
  intro h
  have hstart : RunWhere (Step 7) (fun _ _ => True) quiet quiet := .refl _
  have htoggled := hstart.on (i := Event.toggle 0 3 false) (.toggle rfl 3 false) trivial
  have hcommitted := htoggled.on (i := Event.commits 0) (.commits rfl rfl) trivial
  have hpublished := hcommitted.on (i := Event.publishes 0) (.publishes rfl) trivial
  have hdelivered := hpublished.on (i := Event.delivers) (.delivers rfl) trivial
  have hfailed := hdelivered.on (i := Event.fails 0) (.fails rfl rfl) trivial
  have hagrees := h 7 _ _ _ quiet_mine hfailed (settled_one update_four rfl rfl rfl rfl)
  have hzero : 0 = 1 := (hagrees 3).1
  cases hzero

end Yappy.ReactionEchoes
