import Yappy.PermissionDatabase
import Yappy.Rollups

/-!
# What triggers count

`sync_reaction_counts`, `sync_poll_counts` and `sync_member_count` of
`packages/db/sql/0002_triggers.sql`: what `messages.reaction_counts`, `poll_options.vote_count`,
`polls.total_voters` and `conversations.member_count` hold of the rows of `message_reactions`,
`poll_votes` and `conversation_members`. A key that is not in `reaction_counts` counts as zero.
-/
namespace Yappy.Counts

open Permissions (Uuid)

inductive Row
  | reaction (messageId userId : Uuid) (emoji : String)
  | vote (pollId optionId userId : Uuid)
  /-- One with `left_at` null. -/
  | member (conversationId userId : Uuid)
  deriving DecidableEq

inductive Column
  | reactionCounts (messageId : Uuid) (emoji : String)
  | voteCount (optionId : Uuid)
  | totalVoters (pollId : Uuid)
  | memberCount (conversationId : Uuid)
  deriving DecidableEq

inductive Home
  | message (id : Uuid)
  | option (id : Uuid)
  | poll (id : Uuid)
  | conversation (id : Uuid)

namespace Row

def userId : Row → Uuid
  | .reaction _ userId _ | .vote _ _ userId | .member _ userId => userId

def columns : Row → List Column
  | .reaction messageId _ emoji => [.reactionCounts messageId emoji]
  | .vote pollId optionId _ => [.voteCount optionId, .totalVoters pollId]
  | .member conversationId _ => [.memberCount conversationId]

end Row

namespace Column

def home : Column → Home
  | .reactionCounts messageId _ => .message messageId
  | .voteCount optionId => .option optionId
  | .totalVoters pollId => .poll pollId
  | .memberCount conversationId => .conversation conversationId

def About : Column → Row → Bool
  | .reactionCounts messageId emoji, .reaction messageId' _ emoji' => messageId = messageId' && emoji = emoji'
  | .voteCount optionId, .vote _ optionId' _ => optionId = optionId'
  | .totalVoters pollId, .vote pollId' _ _ => pollId = pollId'
  | .memberCount conversationId, .member conversationId' _ => conversationId = conversationId'
  | _, _ => false

def counted (column : Column) (rows : Finset Row) : Finset Row := rows.filter (column.About ·)

def tally (rows : Finset Row) : Column → ℕ
  | .totalVoters pollId => ((counted (.totalVoters pollId) rows).image Row.userId).card
  | column => (column.counted rows).card

/-- `sync_reaction_counts`, with the count it has selected; it removes the key rather than write zero. -/
def syncReactionCounts (inserted : Bool) (current : ℕ) : ℕ :=
  let delta : ℤ := if inserted then 1 else -1
  if current + delta ≤ 0 then 0 else (current + delta).toNat

/-- What the triggers write: `sync_poll_counts` and `sync_member_count` count anew. -/
def sync (inserted : Bool) (current : ℕ) (rows : Finset Row) : Column → ℕ
  | .reactionCounts _ _ => syncReactionCounts inserted current
  | column => column.tally rows

/-- Kept by `sync_reaction_counts`. -/
def Adds : Column → Prop
  | .reactionCounts _ _ => True
  | .voteCount _ | .totalVoters _ | .memberCount _ => False

variable {column : Column} {row : Row} {rows rows' : Finset Row}

lemma mem_columns : column ∈ row.columns ↔ column.About row = true := by
  cases column <;> cases row <;> simp [Row.columns, About]

lemma tally_local (h : ∀ row, column ∈ row.columns → (row ∈ rows ↔ row ∈ rows')) :
    tally rows column = tally rows' column := by
  have hcounted : column.counted rows = column.counted rows' := by
    ext row
    unfold counted
    rw [Finset.mem_filter, Finset.mem_filter]
    exact and_congr_left fun habout => h row (mem_columns.mpr habout)
  cases column <;> simp only [tally, hcounted]

lemma tally_insert (hadds : column.Adds) (hrow : column ∈ row.columns) (hnew : row ∉ rows) :
    tally (insert row rows) column = tally rows column + 1 := by
  cases column with
  | reactionCounts messageId emoji =>
    simp only [tally, counted]
    rw [Finset.filter_insert, if_pos (mem_columns.mp hrow), Finset.card_insert_of_notMem]
    exact fun hmem => hnew (Finset.mem_filter.mp hmem).1
  | voteCount | totalVoters | memberCount => exact hadds.elim

lemma syncReactionCounts_eq (inserted : Bool) (current : ℕ) :
    syncReactionCounts inserted current = if inserted then current + 1 else current - 1 := by
  unfold syncReactionCounts
  cases inserted with
  | true => simp only [if_true]; split_ifs <;> omega
  | false => simp only [Bool.false_eq_true, if_false]; split_ifs <;> omega

end Column

def triggers : Rollup Row Column Home where
  cells := Row.columns
  home := Column.home
  tally column rows := column.tally rows
  fire column inserted current rows := column.sync inserted current rows
  bumps := Column.Adds
  cells_nodup row := by cases row <;> simp [Row.columns]
  tally_local _ _ _ h := Column.tally_local h
  tally_insert _ _ _ hadds hrow hnew := Column.tally_insert hadds hrow hnew
  fire_bump column inserted current _ hadds := by
    cases column with
    | reactionCounts => exact Column.syncReactionCounts_eq inserted current
    | voteCount | totalVoters | memberCount => exact hadds.elim
  fire_count column _ _ _ hcount := by
    cases column with
    | reactionCounts => exact absurd trivial hcount
    | voteCount | totalVoters | memberCount => rfl

open Rollup

/-- Where every trigger writes what it would make of things as they are when it writes, every count is
right, whatever transactions are open. -/
theorem counts_right {rows : Finset Row} {s : State Row Column} (column : Column)
    (hrun : RunWhere triggers.Step triggers.InTurn (triggers.start rows) s) : s.value column = column.tally s.rows :=
  run_kept hrun column

namespace Sample

def held (s : State Row Column) (tx tx' : Option (Tx Row Column)) : State Row Column := (s.set 0 tx).set 1 tx'

variable {s : State Row Column} {event : Event Row} {tx tx' next : Option (Tx Row Column)}

lemma held_left : (held s tx tx').set 0 next = held s next tx' := by
  unfold held State.set
  dsimp only
  rw [Function.update_comm (by decide), Function.update_idem]

lemma held_right : (held s tx tx').set 1 next = held s tx next := by
  unfold held State.set
  dsimp only
  rw [Function.update_idem]

lemma step_left (h : triggers.Step (held s tx tx') event ((held s tx tx').set 0 next)) :
    triggers.Step (held s tx tx') event (held s next tx') := by
  rwa [held_left] at h

lemma step_right (h : triggers.Step (held s tx tx') event ((held s tx tx').set 1 next)) :
    triggers.Step (held s tx tx') event (held s tx next) := by
  rwa [held_right] at h

lemma held_some {id : ℕ} {other : Tx Row Column} (hs : s.txs = fun _ => none)
    (hother : (held s tx tx').txs id = some other) : (id = 0 ∧ tx = some other) ∨ (id = 1 ∧ tx' = some other) := by
  unfold held at hother
  rw [set_txs, set_txs, hs] at hother
  split_ifs at hother with h₁ h₀
  · exact .inr ⟨h₁, hother⟩
  · exact .inl ⟨h₀, hother⟩

lemma start_run {ok : State Row Column → Event Row → Prop} :
    RunWhere triggers.Step ok (triggers.start ∅) (held (triggers.start ∅) none none) := by
  have heq : triggers.start ∅ = held (triggers.start ∅) none none := by
    unfold held State.set Rollup.start
    simp
  rw [← heq]
  exact .refl _

def reaction (userId : Uuid) : Row := .reaction 1 userId "+1"

def counts : Column := .reactionCounts 1 "+1"

def reacted (userId : Uuid) (looked : Option ℕ) : Tx Row Column :=
  ⟨Overlay.empty.put (reaction userId) true, [⟨counts, reaction userId, true⟩], looked, looked.isSome, fun _ => none⟩

def counted (userId : Uuid) (n : ℕ) : Tx Row Column :=
  ⟨Overlay.empty.put (reaction userId) true, [], none, true, Function.update (fun _ => none) counts (some n)⟩

def committed (s : State Row Column) (tx : Tx Row Column) : State Row Column :=
  { s with rows := tx.own.view s.rows, value := tx.value s.value }

def first : State Row Column := committed (triggers.start ∅) (counted 1 1)

lemma reacts_left : triggers.Step (held (triggers.start ∅) none none) (.change 0 (reaction 1) true)
    (held (triggers.start ∅) (some (reacted 1 none)) none) := by
  refine step_left (.change ⟨.inl rfl, nofun⟩ (fun id other _ hother => ?_) (by decide))
  rcases held_some rfl hother with ⟨-, h⟩ | ⟨-, h⟩ <;> cases h

lemma looks_left : triggers.Step (held (triggers.start ∅) (some (reacted 1 none)) tx') (.look 0)
    (held (triggers.start ∅) (some (reacted 1 (some 1))) tx') := by
  have h : triggers.Step (held (triggers.start ∅) (some (reacted 1 none)) tx') (.look 0) _ :=
    @Step.look _ _ _ _ _ _ _ _ (reacted 1 none) ⟨counts, reaction 1, true⟩ [] rfl rfl rfl
  have hone : triggers.next (held (triggers.start ∅) (some (reacted 1 none)) tx') (reacted 1 none)
      ⟨counts, reaction 1, true⟩ = 1 := rfl
  rw [hone] at h
  exact step_left h

lemma writes_left (htx' : ∀ other, tx' = some other → other.written = fun _ => none) :
    triggers.Step (held (triggers.start ∅) (some (reacted 1 (some 1))) tx') (.write 0)
      (held (triggers.start ∅) (some (counted 1 1)) tx') := by
  refine step_left (@Step.write _ _ _ _ _ _ (held (triggers.start ∅) (some (reacted 1 (some 1))) tx') 0 1 _ _ _ rfl rfl
    rfl fun id other hne hother column _ => ?_)
  rcases held_some rfl hother with ⟨rfl, -⟩ | ⟨-, h⟩
  · exact absurd rfl hne
  · rw [htx' other h]

lemma commits_left : triggers.Step (held s (some (counted 1 1)) tx') (.commit 0)
    (held (committed s (counted 1 1)) none tx') := by
  have h : triggers.Step (held s (some (counted 1 1)) tx') (.commit 0)
      ((held (committed s (counted 1 1)) (some (counted 1 1)) tx').set 0 none) :=
    @Step.commit _ _ _ _ _ _ _ _ (counted 1 1) rfl rfl
  rwa [held_left] at h

end Sample

open Sample in
theorem counts_right_once : ∃ s : State Row Column, RunWhere triggers.Step triggers.InTurn (triggers.start ∅) s ∧
    s.value counts = 1 ∧ s.value counts = counts.tally s.rows := by
  have hturn : triggers.InTurn (held (triggers.start ∅) (some (reacted 1 (some 1))) none) (.write 0) := by
    intro tx task queue n htx hqueue hlooked
    obtain rfl := Option.some.inj htx
    obtain ⟨rfl, rfl⟩ := List.cons.inj hqueue
    exact (Option.some.inj hlooked).symm
  have hlooked := ((@start_run triggers.InTurn).on reacts_left trivial).on looks_left trivial
  have hrun := (hlooked.on (writes_left nofun) hturn).on commits_left trivial
  exact ⟨_, hrun, rfl, counts_right counts hrun⟩

open Sample in
/-- Two users react with the same emoji at once. -/
theorem reaction_lost : ∃ s : State Row Column, RunWhere triggers.Step (fun _ _ => True) (triggers.start ∅) s ∧
    (∀ id, s.txs id = none) ∧ s.value counts = 1 ∧ counts.tally s.rows = 2 := by
  have h₁ : triggers.Step (held (triggers.start ∅) (some (reacted 1 none)) none) (.change 1 (reaction 2) true)
      (held (triggers.start ∅) (some (reacted 1 none)) (some (reacted 2 none))) := by
    refine step_right (.change ⟨.inl rfl, nofun⟩ (fun id other hne hother htouches => ?_) (by decide))
    rcases held_some rfl hother with ⟨-, h⟩ | ⟨-, h⟩ <;> cases h
    revert htouches
    unfold Overlay.Touches
    decide
  have h₂ : triggers.Step (held (triggers.start ∅) (some (reacted 1 (some 1))) (some (reacted 2 none))) (.look 1)
      (held (triggers.start ∅) (some (reacted 1 (some 1))) (some (reacted 2 (some 1)))) := by
    have h : triggers.Step (held (triggers.start ∅) (some (reacted 1 (some 1))) (some (reacted 2 none))) (.look 1) _ :=
      @Step.look _ _ _ _ _ _ _ _ (reacted 2 none) ⟨counts, reaction 2, true⟩ [] rfl rfl rfl
    have hone : triggers.next (held (triggers.start ∅) (some (reacted 1 (some 1))) (some (reacted 2 none)))
        (reacted 2 none) ⟨counts, reaction 2, true⟩ = 1 := rfl
    rw [hone] at h
    exact step_right h
  have h₃ : triggers.Step (held first none (some (reacted 2 (some 1)))) (.write 1)
      (held first none (some (counted 2 1))) := by
    refine step_right (@Step.write _ _ _ _ _ _ (held first none (some (reacted 2 (some 1)))) 1 1 _ _ _ rfl rfl rfl
      fun id other hne hother column _ => ?_)
    rcases held_some rfl hother with ⟨-, h⟩ | ⟨rfl, -⟩
    · cases h
    · exact absurd rfl hne
  have h₄ : triggers.Step (held first none (some (counted 2 1))) (.commit 1)
      (held (committed first (counted 2 1)) none none) := by
    have h : triggers.Step (held first none (some (counted 2 1))) (.commit 1)
        ((held (committed first (counted 2 1)) none (some (counted 2 1))).set 1 none) :=
      @Step.commit _ _ _ _ _ _ _ _ (counted 2 1) rfl rfl
    rwa [held_right] at h
  have hboth := ((@start_run fun _ _ => True).on reacts_left trivial).on h₁ trivial
  have hlooked := (hboth.on looks_left trivial).on h₂ trivial
  have hfirst := (hlooked.on (writes_left (by rintro _ ⟨⟩; rfl)) trivial).on commits_left trivial
  refine ⟨_, (hfirst.on h₃ trivial).on h₄ trivial, fun id => ?_, rfl, by decide⟩
  unfold held
  rw [set_txs, set_txs]
  split_ifs <;> rfl

end Yappy.Counts
