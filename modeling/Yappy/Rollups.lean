import Yappy.Runs

/-!
# Rollups

Columns that row triggers keep equal to a count of the rows of other tables, at READ COMMITTED. A
trigger takes a snapshot when it looks, waits for the row it writes while another transaction has
written it, and then writes what it made of what it saw. A cell is one value that is kept so, and its
home is the row it is stored in, which is what a write locks until its transaction ends.
-/
namespace Yappy

structure Overlay (ρ : Type*) where
  ins : Finset ρ
  del : Finset ρ

namespace Overlay
variable {ρ : Type*}

def empty : Overlay ρ := ⟨∅, ∅⟩

def Touches (o : Overlay ρ) (r : ρ) : Prop := r ∈ o.ins ∨ r ∈ o.del

variable [DecidableEq ρ] (o : Overlay ρ)

def view (rows : Finset ρ) : Finset ρ := rows \ o.del ∪ o.ins

def put (r : ρ) (inserted : Bool) : Overlay ρ :=
  if inserted then ⟨insert r o.ins, o.del.erase r⟩ else ⟨o.ins.erase r, insert r o.del⟩

variable {o} {rows rows' : Finset ρ} {r r' : ρ} {inserted : Bool}

lemma mem_view : r ∈ o.view rows ↔ (r ∈ rows ∧ r ∉ o.del) ∨ r ∈ o.ins := by
  unfold view
  rw [Finset.mem_union, Finset.mem_sdiff]

lemma mem_view_untouched (h : ¬ o.Touches r) : r ∈ o.view rows ↔ r ∈ rows := by
  unfold Touches at h
  rw [mem_view]
  tauto

lemma mem_view_congr (h : o.Touches r ∨ (r ∈ rows ↔ r ∈ rows')) : r ∈ o.view rows ↔ r ∈ o.view rows' := by
  unfold Touches at h
  rw [mem_view, mem_view]
  tauto

lemma view_put_insert : (o.put r true).view rows = insert r (o.view rows) := by
  ext r'
  simp only [put, if_true, mem_view, Finset.mem_insert, Finset.mem_erase]
  tauto

lemma view_put_erase : (o.put r false).view rows = (o.view rows).erase r := by
  ext r'
  simp only [put, Bool.false_eq_true, if_false, mem_view, Finset.mem_insert, Finset.mem_erase]
  tauto

lemma mem_view_put : r ∈ (o.put r inserted).view rows ↔ inserted = true := by
  cases inserted with
  | true => simp only [view_put_insert, Finset.mem_insert_self]
  | false => simp only [view_put_erase, Finset.mem_erase, ne_eq, not_true_eq_false, false_and, Bool.false_eq_true]

lemma mem_view_put_of_ne (h : r' ≠ r) : r' ∈ (o.put r inserted).view rows ↔ r' ∈ o.view rows := by
  cases inserted with
  | true => simp only [view_put_insert, Finset.mem_insert, h, false_or]
  | false => simp only [view_put_erase, Finset.mem_erase, ne_eq, h, not_false_eq_true, true_and]

lemma touches_put : (o.put r inserted).Touches r' ↔ r' = r ∨ o.Touches r' := by
  unfold Touches put
  by_cases h : r' = r <;> cases inserted <;> simp [h]

end Overlay

structure Rollup (ρ γ β : Type*) [DecidableEq ρ] where
  /-- The cells that the trigger of a row writes, one after another. -/
  cells : ρ → List γ
  home : γ → β
  tally : γ → Finset ρ → ℕ
  /-- What a trigger writes, with the cell and the rows that it sees. -/
  fire : γ → Bool → ℕ → Finset ρ → ℕ
  bumps : γ → Prop
  cells_nodup : ∀ r, (cells r).Nodup
  tally_local : ∀ cell rows rows', (∀ r, cell ∈ cells r → (r ∈ rows ↔ r ∈ rows')) → tally cell rows = tally cell rows'
  tally_insert : ∀ cell rows r, bumps cell → cell ∈ cells r → r ∉ rows → tally cell (insert r rows) = tally cell rows + 1
  fire_bump : ∀ cell inserted n rows, bumps cell → fire cell inserted n rows = if inserted then n + 1 else n - 1
  fire_count : ∀ cell inserted n rows, ¬ bumps cell → fire cell inserted n rows = tally cell rows

namespace Rollup

/-- One write that a trigger has still to make, for a row that has changed. -/
structure Task (ρ γ : Type*) where
  cell : γ
  row : ρ
  inserted : Bool

structure Tx (ρ γ : Type*) where
  own : Overlay ρ
  queue : List (Task ρ γ)
  looked : Option ℕ
  firing : Bool
  written : γ → Option ℕ

structure State (ρ γ : Type*) where
  rows : Finset ρ
  value : γ → ℕ
  txs : ℕ → Option (Tx ρ γ)

inductive Event (ρ : Type*)
  | change (id : ℕ) (r : ρ) (inserted : Bool)
  | touch (id : ℕ) (r : ρ)
  | look (id : ℕ)
  | write (id : ℕ)
  | commit (id : ℕ)
  | abort (id : ℕ)

namespace Tx
variable {ρ γ : Type*} (tx : Tx ρ γ)

def fresh : Tx ρ γ := ⟨.empty, [], none, false, fun _ => none⟩

/-- A statement may change the row: the triggers of the last one have all run, or it is the same one. -/
def Ready (r : ρ) : Prop := (tx.queue = [] ∨ tx.firing = false) ∧ ∀ task ∈ tx.queue, task.row ≠ r

def value (value : γ → ℕ) (cell : γ) : ℕ := (tx.written cell).getD (value cell)

end Tx

namespace State
variable {ρ γ β : Type*} (s : State ρ γ)

def set (id : ℕ) (tx : Option (Tx ρ γ)) : State ρ γ := { s with txs := Function.update s.txs id tx }

def tx (id : ℕ) : Tx ρ γ := (s.txs id).getD .fresh

def Free (id : ℕ) (r : ρ) : Prop := ∀ id' tx, id' ≠ id → s.txs id' = some tx → ¬ tx.own.Touches r

/-- No other transaction has written what is stored with the cell. -/
def Unlocked (home : γ → β) (id : ℕ) (cell : γ) : Prop :=
  ∀ id' tx, id' ≠ id → s.txs id' = some tx → ∀ cell', home cell' = home cell → tx.written cell' = none

end State

section
variable {ρ γ : Type*} {s : State ρ γ} {tx : Tx ρ γ}

lemma set_txs (s : State ρ γ) (id other : ℕ) (next : Option (Tx ρ γ)) :
    (s.set id next).txs other = if other = id then next else s.txs other := by
  simp only [State.set, Function.update_apply]

lemma set_none {id id' : ℕ} (htx : (s.set id none).txs id' = some tx) : id' ≠ id ∧ s.txs id' = some tx := by
  rw [set_txs] at htx
  split_ifs at htx with hne
  exact ⟨hne, htx⟩

lemma pending_rest {task : Task ρ γ} {queue : List (Task ρ γ)} {cell : γ} {P : Prop} (hqueue : tx.queue = task :: queue)
    (hne : cell ≠ task.cell) (h : (∃ other ∈ tx.queue, other.cell = cell) ∨ P) :
    (∃ other ∈ queue, other.cell = cell) ∨ P := by
  rcases h with ⟨other, hother, hsame⟩ | hP
  · rw [hqueue] at hother
    rcases List.mem_cons.mp hother with rfl | hother
    · exact absurd hsame.symm hne
    · exact .inl ⟨other, hother, hsame⟩
  · exact .inr hP

end

variable {ρ γ β : Type*} [DecidableEq ρ] (K : Rollup ρ γ β)

def start (rows : Finset ρ) : State ρ γ := ⟨rows, fun cell => K.tally cell rows, fun _ => none⟩

def tasks (r : ρ) (inserted : Bool) : List (Task ρ γ) := (K.cells r).map fun cell => ⟨cell, r, inserted⟩

def next (s : State ρ γ) (tx : Tx ρ γ) (task : Task ρ γ) : ℕ :=
  K.fire task.cell task.inserted (tx.value s.value task.cell) (tx.own.view s.rows)

section
variable [DecidableEq γ]

inductive Step : State ρ γ → Event ρ → State ρ γ → Prop
  /-- A statement inserts or deletes a row, or makes it count or count no longer. -/
  | change {s : State ρ γ} {id : ℕ} {r : ρ} {inserted : Bool} (hready : (s.tx id).Ready r) (hfree : s.Free id r)
      (hrow : r ∈ (s.tx id).own.view s.rows ↔ inserted = false) :
      Step s (.change id r inserted) (s.set id (some { s.tx id with
        own := (s.tx id).own.put r inserted, queue := (s.tx id).queue ++ K.tasks r inserted, firing := false }))
  | touch {s : State ρ γ} {id : ℕ} {r : ρ} (hready : (s.tx id).Ready r) (hcount : ∀ cell ∈ K.cells r, ¬ K.bumps cell) :
      Step s (.touch id r) (s.set id (some { s.tx id with
        queue := (s.tx id).queue ++ K.tasks r true, firing := false }))
  | look {s : State ρ γ} {id : ℕ} {tx : Tx ρ γ} {task : Task ρ γ} {queue : List (Task ρ γ)} (h : s.txs id = some tx)
      (hqueue : tx.queue = task :: queue) (hfirst : tx.looked = none) :
      Step s (.look id) (s.set id (some { tx with looked := some (K.next s tx task), firing := true }))
  | write {s : State ρ γ} {id n : ℕ} {tx : Tx ρ γ} {task : Task ρ γ} {queue : List (Task ρ γ)} (h : s.txs id = some tx)
      (hqueue : tx.queue = task :: queue) (hlooked : tx.looked = some n) (hfree : s.Unlocked K.home id task.cell) :
      Step s (.write id) (s.set id (some { tx with
        queue := queue, looked := none, written := Function.update tx.written task.cell (some n) }))
  | commit {s : State ρ γ} {id : ℕ} {tx : Tx ρ γ} (h : s.txs id = some tx) (hqueue : tx.queue = []) :
      Step s (.commit id) ({ s with rows := tx.own.view s.rows, value := tx.value s.value }.set id none)
  | abort {s : State ρ γ} {id : ℕ} {tx : Tx ρ γ} (h : s.txs id = some tx) : Step s (.abort id) (s.set id none)

end

/-- A trigger writes what it would make of the cell and the rows as they are by then. -/
def InTurn (s : State ρ γ) : Event ρ → Prop
  | .write id => ∀ tx task queue n, s.txs id = some tx → tx.queue = task :: queue → tx.looked = some n →
      n = K.next s tx task
  | _ => True

variable {K} {s s' : State ρ γ} {event : Event ρ} {id : ℕ} {tx : Tx ρ γ} {rows rows' : Finset ρ}
  {seen : γ → Overlay ρ}

/-- What a transaction has written is right for the changes whose triggers have run, and for all of them
where the trigger counts: `seen` has the changes that the adding triggers of a cell have run for. -/
structure Tx.Sound (K : Rollup ρ γ β) (rows : Finset ρ) (tx : Tx ρ γ) (seen : γ → Overlay ρ) : Prop where
  within : ∀ cell r, (seen cell).Touches r → tx.own.Touches r
  bumped : ∀ cell n, K.bumps cell → tx.written cell = some n → n = K.tally cell ((seen cell).view rows)
  unseen : ∀ cell, K.bumps cell → tx.written cell = none → ∀ r, cell ∈ K.cells r → ¬ (seen cell).Touches r
  counted : ∀ cell n, ¬ K.bumps cell → tx.written cell = some n →
    (∃ task ∈ tx.queue, task.cell = cell) ∨ n = K.tally cell (tx.own.view rows)
  uncounted : ∀ cell, ¬ K.bumps cell → tx.written cell = none →
    (∃ task ∈ tx.queue, task.cell = cell) ∨ ∀ r, cell ∈ K.cells r → ¬ tx.own.Touches r
  settled : ∀ cell r, K.bumps cell → cell ∈ K.cells r → (∀ task ∈ tx.queue, task.cell = cell → task.row ≠ r) →
    tx.own.Touches r → (seen cell).Touches r ∧ (r ∈ (seen cell).view rows ↔ r ∈ tx.own.view rows)
  pending : ∀ task ∈ tx.queue, K.bumps task.cell → task.cell ∈ K.cells task.row ∧ tx.own.Touches task.row ∧
    (task.row ∈ tx.own.view rows ↔ task.inserted = true) ∧
    (task.row ∈ (seen task.cell).view rows ↔ task.inserted = false)
  once : (tx.queue.map fun task => (task.cell, task.row)).Nodup

lemma fresh_sound : (Tx.fresh : Tx ρ γ).Sound K rows fun _ => .empty where
  within _ _ h := by rcases h with h | h <;> cases h
  bumped _ _ _ h := by cases h
  unseen _ _ _ _ _ h := by rcases h with h | h <;> cases h
  counted _ _ _ h := by cases h
  uncounted _ _ _ := .inr fun _ _ h => by rcases h with h | h <;> cases h
  settled _ _ _ _ _ h := by rcases h with h | h <;> cases h
  pending _ h := by cases h
  once := List.nodup_nil

lemma Tx.Sound.kept (h : tx.Sound K rows seen) (hown : ∀ r, tx.own.Touches r → (r ∈ rows ↔ r ∈ rows'))
    (hcells : ∀ cell, tx.written cell ≠ none → ∀ r, cell ∈ K.cells r → (r ∈ rows ↔ r ∈ rows')) :
    tx.Sound K rows' seen where
  within := h.within
  bumped cell n hbumps hwritten := by
    rw [h.bumped cell n hbumps hwritten]
    exact K.tally_local _ _ _ fun r hr => Overlay.mem_view_congr (.inr (hcells cell (by simp [hwritten]) r hr))
  unseen := h.unseen
  counted cell n hcount hwritten := by
    rcases h.counted cell n hcount hwritten with hqueue | rfl
    · exact .inl hqueue
    · refine .inr (K.tally_local _ _ _ fun r hr => ?_)
      exact Overlay.mem_view_congr (.inr (hcells cell (by simp [hwritten]) r hr))
  uncounted := h.uncounted
  settled cell r hbumps hr hqueue hown' := by
    obtain ⟨htouches, hsame⟩ := h.settled cell r hbumps hr hqueue hown'
    refine ⟨htouches, ?_⟩
    rw [← Overlay.mem_view_congr (.inl htouches), hsame]
    exact Overlay.mem_view_congr (.inl hown')
  pending task htask hbumps := by
    obtain ⟨hr, hown', hinserted, hseen⟩ := h.pending task htask hbumps
    refine ⟨hr, hown', ?_, ?_⟩
    · rw [← Overlay.mem_view_congr (.inl hown')]
      exact hinserted
    · rw [← Overlay.mem_view_congr (.inr (hown _ hown'))]
      exact hseen
  once := h.once

lemma tally_put {o : Overlay ρ} {cell : γ} {r : ρ} {inserted : Bool} (hbumps : K.bumps cell) (hr : cell ∈ K.cells r)
    (hrow : r ∈ o.view rows ↔ inserted = false) (others : Finset ρ) :
    K.tally cell ((o.put r inserted).view rows) = K.fire cell inserted (K.tally cell (o.view rows)) others := by
  rw [K.fire_bump _ _ _ _ hbumps]
  cases inserted with
  | true =>
    rw [Overlay.view_put_insert, K.tally_insert _ _ _ hbumps hr (by simp [hrow])]
    rfl
  | false =>
    have hmem : r ∈ o.view rows := hrow.mpr rfl
    have hback := K.tally_insert cell ((o.view rows).erase r) r hbumps hr (Finset.notMem_erase r _)
    rw [Finset.insert_erase hmem] at hback
    rw [Overlay.view_put_erase, hback]
    rfl

lemma Tx.Sound.agrees (h : tx.Sound K rows seen) {cell : γ} {r : ρ} (hbumps : K.bumps cell) (hr : cell ∈ K.cells r)
    (hqueue : ∀ task ∈ tx.queue, task.cell = cell → task.row ≠ r) :
    r ∈ (seen cell).view rows ↔ r ∈ tx.own.view rows := by
  by_cases hown : tx.own.Touches r
  · exact (h.settled cell r hbumps hr hqueue hown).2
  · rw [Overlay.mem_view_untouched hown, Overlay.mem_view_untouched fun hseen => hown (h.within cell r hseen)]

lemma Tx.Sound.value_seen (h : tx.Sound K s.rows seen) (hkept : ∀ cell, s.value cell = K.tally cell s.rows)
    {cell : γ} (hbumps : K.bumps cell) : tx.value s.value cell = K.tally cell ((seen cell).view s.rows) := by
  unfold Tx.value
  cases hwritten : tx.written cell with
  | some n => exact h.bumped cell n hbumps hwritten
  | none =>
    rw [Option.getD_none, hkept]
    exact K.tally_local _ _ _ fun r hr => (Overlay.mem_view_untouched (h.unseen cell hbumps hwritten r hr)).symm

lemma Tx.Sound.value_done (h : tx.Sound K s.rows seen) (hkept : ∀ cell, s.value cell = K.tally cell s.rows)
    (hqueue : tx.queue = []) (cell : γ) : tx.value s.value cell = K.tally cell (tx.own.view s.rows) := by
  by_cases hbumps : K.bumps cell
  · rw [h.value_seen hkept hbumps]
    exact K.tally_local _ _ _ fun r hr => h.agrees hbumps hr (by simp [hqueue])
  · unfold Tx.value
    cases hwritten : tx.written cell with
    | some n =>
      rcases h.counted cell n hbumps hwritten with ⟨task, htask, -⟩ | hn
      · simp [hqueue] at htask
      · exact hn
    | none =>
      rcases h.uncounted cell hbumps hwritten with ⟨task, htask, -⟩ | hnone
      · simp [hqueue] at htask
      · rw [Option.getD_none, hkept]
        exact K.tally_local _ _ _ fun r hr => (Overlay.mem_view_untouched (hnone r hr)).symm

lemma Tx.Sound.untouched (h : tx.Sound K rows seen) (hqueue : tx.queue = []) {cell : γ}
    (hwritten : tx.written cell = none) {r : ρ} (hr : cell ∈ K.cells r) : ¬ tx.own.Touches r := by
  by_cases hbumps : K.bumps cell
  · intro hown
    exact h.unseen cell hbumps hwritten r hr (h.settled cell r hbumps hr (by simp [hqueue]) hown).1
  · rcases h.uncounted cell hbumps hwritten with ⟨task, htask, -⟩ | hnone
    · simp [hqueue] at htask
    · exact hnone r hr

lemma mem_tasks {r : ρ} {inserted : Bool} {task : Task ρ γ} :
    task ∈ K.tasks r inserted ↔ task.cell ∈ K.cells r ∧ task.row = r ∧ task.inserted = inserted := by
  unfold tasks
  rw [List.mem_map]
  constructor
  · rintro ⟨cell, hcell, rfl⟩
    exact ⟨hcell, rfl, rfl⟩
  · rintro ⟨hcell, rfl, rfl⟩
    exact ⟨task.cell, hcell, rfl⟩

lemma tasks_once {r : ρ} {inserted : Bool} {queue : List (Task ρ γ)}
    (h : (queue.map fun task => (task.cell, task.row)).Nodup) (hrow : ∀ task ∈ queue, task.row ≠ r) :
    ((queue ++ K.tasks r inserted).map fun task => (task.cell, task.row)).Nodup := by
  rw [List.map_append, List.nodup_append']
  refine ⟨h, ?_, fun pair hold hnew => ?_⟩
  · unfold tasks
    rw [List.map_map]
    exact (K.cells_nodup r).map fun cell cell' heq => congrArg Prod.fst heq
  · obtain ⟨task, htask, rfl⟩ := List.mem_map.mp hold
    obtain ⟨task', htask', heq⟩ := List.mem_map.mp hnew
    have hsame : task'.row = task.row := congrArg Prod.snd heq
    exact hrow task htask (hsame.symm.trans (mem_tasks.mp htask').2.1)

lemma Tx.Sound.changes (h : tx.Sound K rows seen) {r : ρ} {inserted : Bool} (hready : tx.Ready r)
    (hrow : r ∈ tx.own.view rows ↔ inserted = false) :
    Tx.Sound K rows { tx with own := tx.own.put r inserted, queue := tx.queue ++ K.tasks r inserted, firing := false }
      seen where
  within cell r' hr' := Overlay.touches_put.mpr (.inr (h.within cell r' hr'))
  bumped := h.bumped
  unseen := h.unseen
  counted cell n hcount hwritten := by
    by_cases hcell : cell ∈ K.cells r
    · exact .inl ⟨⟨cell, r, inserted⟩, List.mem_append_right _ (mem_tasks.mpr ⟨hcell, rfl, rfl⟩), rfl⟩
    rcases h.counted cell n hcount hwritten with ⟨task, htask, hsame⟩ | rfl
    · exact .inl ⟨task, List.mem_append_left _ htask, hsame⟩
    · refine .inr (K.tally_local _ _ _ fun r' hr' => ?_)
      have hne : r' ≠ r := fun heq => hcell (heq ▸ hr')
      exact (Overlay.mem_view_put_of_ne hne).symm
  uncounted cell hcount hwritten := by
    by_cases hcell : cell ∈ K.cells r
    · exact .inl ⟨⟨cell, r, inserted⟩, List.mem_append_right _ (mem_tasks.mpr ⟨hcell, rfl, rfl⟩), rfl⟩
    rcases h.uncounted cell hcount hwritten with ⟨task, htask, hsame⟩ | hnone
    · exact .inl ⟨task, List.mem_append_left _ htask, hsame⟩
    · refine .inr fun r' hr' htouches => ?_
      rcases Overlay.touches_put.mp htouches with rfl | htouches
      · exact hcell hr'
      · exact hnone r' hr' htouches
  settled cell r' hbumps hr' hqueue htouches := by
    have hne : r' ≠ r := by
      rintro rfl
      exact hqueue ⟨cell, r', inserted⟩ (List.mem_append_right _ (mem_tasks.mpr ⟨hr', rfl, rfl⟩)) rfl rfl
    rw [Overlay.mem_view_put_of_ne hne]
    refine h.settled cell r' hbumps hr' (fun task htask => hqueue task (List.mem_append_left _ htask)) ?_
    exact (Overlay.touches_put.mp htouches).resolve_left hne
  pending task htask hbumps := by
    rcases List.mem_append.mp htask with htask | htask
    · have hne : task.row ≠ r := hready.2 task htask
      obtain ⟨hr', hown, hinserted, hseen⟩ := h.pending task htask hbumps
      refine ⟨hr', Overlay.touches_put.mpr (.inr hown), ?_, hseen⟩
      rw [Overlay.mem_view_put_of_ne hne]
      exact hinserted
    · obtain ⟨hr', rfl, rfl⟩ := mem_tasks.mp htask
      refine ⟨hr', Overlay.touches_put.mpr (.inl rfl), Overlay.mem_view_put, ?_⟩
      rw [h.agrees hbumps hr' fun task' htask' _ => hready.2 task' htask']
      exact hrow
  once := tasks_once h.once hready.2

lemma Tx.Sound.fires (h : tx.Sound K rows seen) {r : ρ} (hready : tx.Ready r)
    (hcount : ∀ cell ∈ K.cells r, ¬ K.bumps cell) :
    Tx.Sound K rows { tx with queue := tx.queue ++ K.tasks r true, firing := false } seen where
  within := h.within
  bumped := h.bumped
  unseen := h.unseen
  counted cell n hcount hwritten := by
    rcases h.counted cell n hcount hwritten with ⟨task, htask, hsame⟩ | hn
    · exact .inl ⟨task, List.mem_append_left _ htask, hsame⟩
    · exact .inr hn
  uncounted cell hcount hwritten := by
    rcases h.uncounted cell hcount hwritten with ⟨task, htask, hsame⟩ | hnone
    · exact .inl ⟨task, List.mem_append_left _ htask, hsame⟩
    · exact .inr hnone
  settled cell r' hbumps hr' hqueue :=
    h.settled cell r' hbumps hr' fun task htask => hqueue task (List.mem_append_left _ htask)
  pending task htask hbumps := by
    rcases List.mem_append.mp htask with htask | htask
    · exact h.pending task htask hbumps
    · exact absurd hbumps (hcount task.cell (mem_tasks.mp htask).1)
  once := tasks_once h.once hready.2

lemma Tx.Sound.first (h : tx.Sound K rows seen) {task : Task ρ γ} {queue : List (Task ρ γ)}
    (hqueue : tx.queue = task :: queue) : ∀ other ∈ queue, other.cell = task.cell → other.row ≠ task.row := by
  intro other hother hcell hrow
  have honce := h.once
  rw [hqueue, List.map_cons, List.nodup_cons] at honce
  exact honce.1 (List.mem_map.mpr ⟨other, hother, by rw [hcell, hrow]⟩)

lemma Tx.Sound.once_rest (h : tx.Sound K rows seen) {task : Task ρ γ} {queue : List (Task ρ γ)}
    (hqueue : tx.queue = task :: queue) : (queue.map fun task => (task.cell, task.row)).Nodup := by
  have honce := h.once
  rw [hqueue, List.map_cons, List.nodup_cons] at honce
  exact honce.2

/-- Every cell is what it should be for the rows there are, and every open transaction is right about what
it has changed and written, which no other has. -/
structure Consistent (K : Rollup ρ γ β) (s : State ρ γ) : Prop where
  kept : ∀ cell, s.value cell = K.tally cell s.rows
  apart : ∀ id tx r, s.txs id = some tx → tx.own.Touches r → s.Free id r
  alone : ∀ id tx cell, s.txs id = some tx → tx.written cell ≠ none → s.Unlocked K.home id cell
  sound : ∀ id tx, s.txs id = some tx → ∃ seen, tx.Sound K s.rows seen

lemma start_consistent : Consistent K (K.start rows) := ⟨fun _ => rfl, nofun, nofun, nofun⟩

lemma Consistent.tx_sound (h : Consistent K s) (id : ℕ) : ∃ seen, (s.tx id).Sound K s.rows seen := by
  unfold State.tx
  cases htx : s.txs id with
  | none => exact ⟨_, fresh_sound⟩
  | some tx => exact h.sound id tx htx

lemma Consistent.tx_free (h : Consistent K s) {r : ρ} (hr : (s.tx id).own.Touches r) : s.Free id r := by
  unfold State.tx at hr
  cases htx : s.txs id with
  | none =>
    rw [htx] at hr
    rcases hr with hr | hr <;> cases hr
  | some tx =>
    rw [htx] at hr
    exact h.apart id tx r htx hr

lemma Consistent.tx_unlocked (h : Consistent K s) {cell : γ} (hcell : (s.tx id).written cell ≠ none) :
    s.Unlocked K.home id cell := by
  unfold State.tx at hcell
  cases htx : s.txs id with
  | none =>
    rw [htx] at hcell
    exact absurd rfl hcell
  | some tx =>
    rw [htx] at hcell
    exact h.alone id tx cell htx hcell

lemma Consistent.goes {tx : Tx ρ γ} (h : Consistent K s) (hsound : ∃ seen, tx.Sound K s.rows seen)
    (hfree : ∀ r, tx.own.Touches r → s.Free id r) (hunlocked : ∀ cell, tx.written cell ≠ none → s.Unlocked K.home id cell) :
    Consistent K (s.set id (some tx)) where
  kept := h.kept
  apart id₁ tx₁ r htx₁ hr id₂ tx₂ hne htx₂ hr₂ := by
    rw [set_txs] at htx₁ htx₂
    split_ifs at htx₁ htx₂ with h₁ h₂ h₂
    · exact hne (h₂.trans h₁.symm)
    · obtain rfl := Option.some.inj htx₁
      exact hfree r hr id₂ tx₂ h₂ htx₂ hr₂
    · obtain rfl := Option.some.inj htx₂
      exact hfree r hr₂ id₁ tx₁ h₁ htx₁ hr
    · exact h.apart id₁ tx₁ r htx₁ hr id₂ tx₂ hne htx₂ hr₂
  alone id₁ tx₁ cell htx₁ hcell id₂ tx₂ hne htx₂ cell' hhome := by
    rw [set_txs] at htx₁ htx₂
    split_ifs at htx₁ htx₂ with h₁ h₂ h₂
    · exact absurd (h₂.trans h₁.symm) hne
    · obtain rfl := Option.some.inj htx₁
      exact hunlocked cell hcell id₂ tx₂ h₂ htx₂ cell' hhome
    · obtain rfl := Option.some.inj htx₂
      by_contra hcell'
      exact hcell (hunlocked cell' hcell' id₁ tx₁ h₁ htx₁ cell hhome.symm)
    · exact h.alone id₁ tx₁ cell htx₁ hcell id₂ tx₂ hne htx₂ cell' hhome
  sound id' tx' htx' := by
    rw [set_txs] at htx'
    split_ifs at htx'
    · obtain rfl := Option.some.inj htx'
      exact hsound
    · exact h.sound id' tx' htx'

lemma Consistent.leaves (h : Consistent K s) (id : ℕ) : Consistent K (s.set id none) where
  kept := h.kept
  apart id₁ tx₁ r htx₁ hr id₂ tx₂ hne htx₂ := h.apart id₁ tx₁ r (set_none htx₁).2 hr id₂ tx₂ hne (set_none htx₂).2
  alone id₁ tx₁ cell htx₁ hcell id₂ tx₂ hne htx₂ :=
    h.alone id₁ tx₁ cell (set_none htx₁).2 hcell id₂ tx₂ hne (set_none htx₂).2
  sound id' tx' htx' := h.sound id' tx' (set_none htx').2

/-- A transaction that commits has written every cell that its rows are counted in, so the others have none
of these rows, nor have they written a cell that counts one. -/
theorem Consistent.commits (h : Consistent K s) (htx : s.txs id = some tx) (hqueue : tx.queue = []) :
    Consistent K ({ s with rows := tx.own.view s.rows, value := tx.value s.value }.set id none) := by
  obtain ⟨seen, hsound⟩ := h.sound id tx htx
  refine ⟨hsound.value_done h.kept hqueue, fun id₁ tx₁ r htx₁ hr id₂ tx₂ hne htx₂ => ?_,
    fun id₁ tx₁ cell htx₁ hcell id₂ tx₂ hne htx₂ => ?_, fun id' tx' htx' => ?_⟩
  · exact h.apart id₁ tx₁ r (set_none htx₁).2 hr id₂ tx₂ hne (set_none htx₂).2
  · exact h.alone id₁ tx₁ cell (set_none htx₁).2 hcell id₂ tx₂ hne (set_none htx₂).2
  · obtain ⟨hne, htx'⟩ := set_none htx'
    obtain ⟨seen', hsound'⟩ := h.sound id' tx' htx'
    refine ⟨seen', hsound'.kept (fun r hr => ?_) fun cell hcell r hr => ?_⟩
    · exact (Overlay.mem_view_untouched (h.apart id' tx' r htx' hr id tx (Ne.symm hne) htx)).symm
    · have hnone : tx.written cell = none := h.alone id' tx' cell htx' hcell id tx (Ne.symm hne) htx cell rfl
      exact (Overlay.mem_view_untouched (hsound.untouched hqueue hnone hr)).symm

variable [DecidableEq γ]

lemma written_other {written : γ → Option ℕ} {cell cell' : γ} {n : ℕ} (hne : cell' ≠ cell) :
    Function.update written cell (some n) cell' = written cell' := Function.update_of_ne hne _ _

lemma written_some {written : γ → Option ℕ} {cell : γ} {n n' : ℕ}
    (h : Function.update written cell (some n) cell = some n') : n' = n := by
  rw [Function.update_self] at h
  exact (Option.some.inj h).symm

lemma Tx.Sound.counts (h : tx.Sound K s.rows seen) {task : Task ρ γ} {queue : List (Task ρ γ)}
    (hqueue : tx.queue = task :: queue) (hcount : ¬ K.bumps task.cell) :
    Tx.Sound K s.rows { tx with
      queue := queue, looked := none, written := Function.update tx.written task.cell (some (K.next s tx task)) }
      seen where
  within := h.within
  bumped cell n hbumps hwritten := by
    have hne : cell ≠ task.cell := fun heq => hcount (heq ▸ hbumps)
    exact h.bumped cell n hbumps ((written_other hne).symm.trans hwritten)
  unseen cell hbumps hwritten := by
    have hne : cell ≠ task.cell := fun heq => hcount (heq ▸ hbumps)
    exact h.unseen cell hbumps ((written_other hne).symm.trans hwritten)
  counted cell n hcount' hwritten := by
    by_cases hcell : cell = task.cell
    · subst hcell
      exact .inr ((written_some hwritten).trans (K.fire_count _ _ _ _ hcount))
    · exact pending_rest hqueue hcell (h.counted cell n hcount' ((written_other hcell).symm.trans hwritten))
  uncounted cell hcount' hwritten := by
    have hcell : cell ≠ task.cell := by
      rintro rfl
      dsimp only at hwritten
      rw [Function.update_self] at hwritten
      cases hwritten
    exact pending_rest hqueue hcell (h.uncounted cell hcount' ((written_other hcell).symm.trans hwritten))
  settled cell r hbumps hr hothers := by
    refine h.settled cell r hbumps hr fun other hother hsame => ?_
    rw [hqueue] at hother
    rcases List.mem_cons.mp hother with rfl | hother
    · exact absurd (hsame ▸ hbumps) hcount
    · exact hothers other hother hsame
  pending other hother := h.pending other (hqueue ▸ List.mem_cons_of_mem _ hother)
  once := h.once_rest hqueue

lemma Tx.Sound.adds (h : tx.Sound K s.rows seen) (hkept : ∀ cell, s.value cell = K.tally cell s.rows)
    {task : Task ρ γ} {queue : List (Task ρ γ)} (hqueue : tx.queue = task :: queue) (hbumps : K.bumps task.cell) :
    Tx.Sound K s.rows { tx with
      queue := queue, looked := none, written := Function.update tx.written task.cell (some (K.next s tx task)) }
      (Function.update seen task.cell ((seen task.cell).put task.row task.inserted)) := by
  obtain ⟨hr, hown, hinserted, hseen⟩ := h.pending task (hqueue ▸ List.mem_cons_self) hbumps
  have hother : ∀ cell, cell ≠ task.cell →
      Function.update seen task.cell ((seen task.cell).put task.row task.inserted) cell = seen cell :=
    fun cell hne => Function.update_of_ne hne _ _
  refine ⟨fun cell r htouches => ?_, fun cell n hcell hwritten => ?_, fun cell hcell hwritten r hr' => ?_,
    fun cell n hcount hwritten => ?_, fun cell hcount hwritten => ?_, fun cell r hcell hr' hothers hown' => ?_,
    fun other hmem hcell => ?_, ?_⟩
  · by_cases hne : cell = task.cell
    · subst hne
      rw [Function.update_self] at htouches
      rcases Overlay.touches_put.mp htouches with rfl | htouches
      · exact hown
      · exact h.within _ r htouches
    · rw [hother cell hne] at htouches
      exact h.within cell r htouches
  · by_cases hne : cell = task.cell
    · subst hne
      rw [Function.update_self, tally_put hbumps hr hseen (tx.own.view s.rows), ← h.value_seen hkept hbumps]
      exact written_some hwritten
    · rw [hother cell hne]
      exact h.bumped cell n hcell ((written_other hne).symm.trans hwritten)
  · have hne : cell ≠ task.cell := by
      rintro rfl
      dsimp only at hwritten
      rw [Function.update_self] at hwritten
      cases hwritten
    rw [hother cell hne]
    exact h.unseen cell hcell ((written_other hne).symm.trans hwritten) r hr'
  · have hne : cell ≠ task.cell := fun heq => hcount (heq ▸ hbumps)
    exact pending_rest hqueue hne (h.counted cell n hcount ((written_other hne).symm.trans hwritten))
  · have hne : cell ≠ task.cell := fun heq => hcount (heq ▸ hbumps)
    exact pending_rest hqueue hne (h.uncounted cell hcount ((written_other hne).symm.trans hwritten))
  · by_cases hne : cell = task.cell
    · subst hne
      rw [Function.update_self]
      by_cases hrow : r = task.row
      · subst hrow
        exact ⟨Overlay.touches_put.mpr (.inl rfl), Overlay.mem_view_put.trans hinserted.symm⟩
      · obtain ⟨htouches, hsame⟩ := h.settled _ r hbumps hr' (fun other hmem hcell' => by
          rw [hqueue] at hmem
          rcases List.mem_cons.mp hmem with rfl | hmem
          · exact Ne.symm hrow
          · exact hothers other hmem hcell') hown'
        exact ⟨Overlay.touches_put.mpr (.inr htouches), (Overlay.mem_view_put_of_ne hrow).trans hsame⟩
    · rw [hother cell hne]
      refine h.settled cell r hcell hr' (fun other hmem hcell' => ?_) hown'
      rw [hqueue] at hmem
      rcases List.mem_cons.mp hmem with rfl | hmem
      · exact absurd hcell'.symm hne
      · exact hothers other hmem hcell'
  · obtain ⟨hr', hown', hinserted', hseen'⟩ := h.pending other (hqueue ▸ List.mem_cons_of_mem _ hmem) hcell
    refine ⟨hr', hown', hinserted', ?_⟩
    by_cases hne : other.cell = task.cell
    · rw [hne, Function.update_self, Overlay.mem_view_put_of_ne (h.first hqueue other hmem hne), ← hne]
      exact hseen'
    · rw [hother _ hne]
      exact hseen'
  · exact h.once_rest hqueue

lemma step_consistent (h : Consistent K s) (hturn : K.InTurn s event) (hs : K.Step s event s') : Consistent K s' := by
  cases hs with
  | @change id r inserted hready hfree hrow =>
    obtain ⟨seen, hsound⟩ := h.tx_sound id
    refine h.goes ⟨seen, hsound.changes hready hrow⟩ (fun r' hr' => ?_) fun cell => h.tx_unlocked
    rcases Overlay.touches_put.mp hr' with rfl | hr'
    · exact hfree
    · exact h.tx_free hr'
  | @touch id r hready hcount =>
    obtain ⟨seen, hsound⟩ := h.tx_sound id
    exact h.goes ⟨seen, hsound.fires hready hcount⟩ (fun r' => h.tx_free) fun cell => h.tx_unlocked
  | @look id tx task queue htx hqueue hfirst =>
    obtain ⟨seen, hsound⟩ := h.sound id tx htx
    refine h.goes ⟨seen, ?_⟩ (fun r => h.apart id tx r htx) fun cell => h.alone id tx cell htx
    exact ⟨hsound.within, hsound.bumped, hsound.unseen, hsound.counted, hsound.uncounted, hsound.settled,
      hsound.pending, hsound.once⟩
  | @write id n tx task queue htx hqueue hlooked hfree =>
    obtain ⟨seen, hsound⟩ := h.sound id tx htx
    rw [hturn tx task queue n htx hqueue hlooked]
    refine h.goes ?_ (fun r => h.apart id tx r htx) fun cell hcell => ?_
    · by_cases hbumps : K.bumps task.cell
      · exact ⟨_, hsound.adds h.kept hqueue hbumps⟩
      · exact ⟨seen, hsound.counts hqueue hbumps⟩
    · by_cases hne : cell = task.cell
      · rw [hne]
        exact hfree
      · exact h.alone id tx cell htx fun hnone => hcell ((written_other hne).trans hnone)
  | @commit id tx htx hqueue => exact h.commits htx hqueue
  | abort htx => exact h.leaves _

/-- In every run whose triggers write in turn, every cell is what it should be, whatever transactions
are open. -/
theorem run_kept (hrun : RunWhere K.Step K.InTurn (K.start rows) s) (cell : γ) : s.value cell = K.tally cell s.rows := by
  have h : Consistent K s := RunWhere.invariant hrun start_consistent fun _ _ _ h hturn hs => step_consistent h hturn hs
  exact h.kept cell

end Rollup
end Yappy
