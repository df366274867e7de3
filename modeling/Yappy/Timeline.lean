import Mathlib
import Yappy.Runs

/-!
# The timeline of one room in the web client

`sendChatMessage`, `upsertMessage`, the merge of `selectConversation`, `loadOlder`,
`loadAround` and `resetToLatest` all write the one array `state.messages` holds for the room.
Some change it in place, some put a new array in its place, and `loadOlder` writes back the
array it was given when it began.
-/
namespace Yappy.Timeline

def maxSafeInteger : ℕ := 9007199254740991

/-- How the server numbers the messages of a room: `seq` is unique in it. -/
structure Numbering (M : Type) where
  seq : M → ℕ
  injective : Function.Injective seq
  safe : ∀ m, seq m < maxSafeInteger

/-- A row of `state.messages`: a message the server has numbered, or the optimistic row of a
send, pending until it fails. -/
inductive Row (M : Type)
  | settled (m : M)
  | unsent (nonce : ℕ) (failed : Bool)
deriving DecidableEq

section
variable {M : Type}

/-- A row's id: the message's own, or `pending:<nonce>`. -/
def Row.id : Row M → M ⊕ ℕ
  | .settled m => .inl m
  | .unsent nonce _ => .inr nonce

def Row.pending : Row M → Bool
  | .settled _ => false
  | .unsent _ failed => !failed

def Row.message : Row M → Option M
  | .settled m => some m
  | .unsent .. => none

def messages (list : List (Row M)) : List M := list.filterMap Row.message

variable (room : Numbering M)

/-- An optimistic row sorts after everything: its `seq` is `Number.MAX_SAFE_INTEGER`. -/
def Row.seq : Row M → ℕ
  | .settled m => room.seq m
  | .unsent .. => maxSafeInteger

/-- A page of history as the server answers it: in `seq` order. -/
structure Page where
  messages : List M
  ordered : messages.Pairwise fun a b => room.seq a < room.seq b

def Page.rows {room : Numbering M} (page : Page room) : List (Row M) := page.messages.map .settled

/-- What the loop of `insertInOrder` and `upsertMessage` steps past, coming from the end. -/
def passes (m : M) (row : Row M) : Bool := !row.pending && room.seq m < row.seq room

/-- `while (at > 0 && !list[at - 1].pending && list[at - 1].seq > msg.seq) at -= 1`. -/
def position (list : List (Row M)) (m : M) : ℕ → ℕ
  | 0 => 0
  | i + 1 => if (list[i]?).any (passes room m) then position list m i else i + 1

/-- `list.splice(at, 0, msg)` at the place the loop stops. -/
def place (list : List (Row M)) (m : M) : List (Row M) :=
  list.insertIdx (position room list m list.length) (.settled m)

/-- The comparison `selectConversation` sorts with, as the order it leaves: a row goes before
another unless that one compares as smaller. Two pending rows compare as `1` both ways, so
neither passes the other. -/
def inOrder (a b : Row M) : Prop := b.pending ∨ (!a.pending ∧ a.seq room ≤ b.seq room)

instance : DecidableRel (inOrder room) := fun a b => by unfold inOrder; infer_instance

variable [DecidableEq M]

def insertInOrder (list : List (Row M)) (m : M) : List (Row M) :=
  if list.any fun row => row.id = .inl m then list else place room list m

/-- The rows of the list that survive a fetched page: not on it, and either pending or outside
its window. An empty page has no window, and everything survives it. -/
def kept (page : List M) (existing : List (Row M)) : List (Row M) :=
  existing.filter fun row => !(page.any fun m => row.id = .inl m) &&
    (row.pending || page.head?.all (fun first => row.seq room < room.seq first) ||
      page.getLast?.all (fun last => room.seq last < row.seq room))

def merge (page : Page room) (existing : List (Row M)) : List (Row M) :=
  (page.rows ++ kept room page.messages existing).insertionSort (inOrder room)

def unseen (page : Page room) (list : List (Row M)) : List M :=
  page.messages.filter fun m => !(list.any fun row => row.id = .inl m)

/-- What `loadOlder` writes: the rows of the page not seen, then the list it was given. -/
def prepend (page : Page room) (list : List (Row M)) : List (Row M) :=
  (unseen room page list).map .settled ++ list

def patchRow (list : List (Row M)) (nonce : ℕ) (failed : Bool) : List (Row M) :=
  list.modify (list.findIdx fun row => row.id = .inr nonce) fun _ => .unsent nonce failed

def withoutRow (list : List (Row M)) (nonce : ℕ) : List (Row M) :=
  list.filter fun row => row.id ≠ .inr nonce

end

inductive Send
  | attempting
  | failed
  | sent

/-- The arrays made so far, by reference, which of them `state.messages` holds, the sends, and
the `loadOlder` calls under way: the array each holds on to and the `seq` it asked below. -/
structure State (M : Type) where
  arrays : ℕ → List (Row M)
  count : ℕ
  current : Option ℕ
  sends : ℕ → Option Send
  loads : ℕ → Option (ℕ × ℕ)

namespace State
variable {M : Type} (s : State M)

/-- `state.messages.get(id) ?? []`. -/
def list : List (Row M) := (s.current.map s.arrays).getD []

def mutate (f : List (Row M) → List (Row M)) : State M :=
  match s.current with
  | none => s
  | some array => { s with arrays := Function.update s.arrays array (f (s.arrays array)) }

def setRows (rows : List (Row M)) : State M :=
  { s with arrays := Function.update s.arrays s.count rows, count := s.count + 1, current := some s.count }

def setSend (nonce : ℕ) (send : Send) : State M :=
  { s with sends := Function.update s.sends nonce (some send) }

def setLoad (call : ℕ) (load : Option (ℕ × ℕ)) : State M :=
  { s with loads := Function.update s.loads call load }

/-- `list.push(pending)`, onto a new array where the room has none yet. -/
def push (row : Row M) : State M :=
  match s.current with
  | none => s.setRows [row]
  | some _ => s.mutate (· ++ [row])

end State

section
variable {M : Type} (room : Numbering M)

inductive Event
  | send (nonce : ℕ)
  | succeed (nonce : ℕ) (m : M)
  | fail (nonce : ℕ)
  | retry (nonce : ℕ)
  | live (m : M)
  | select (page : Page room)
  | loadOlder (call : ℕ)
  | olderLoaded (call : ℕ) (page : Page room)
  | loadAround (page : Page room)
  | resetToLatest (page : Page room)

def start : State M := ⟨fun _ => [], 0, none, fun _ => none, fun _ => none⟩

def guarded (list : List (Row M)) : List (Row M) := list.rdropWhile (!·.pending)

def Ordered (list : List (Row M)) : Prop := (messages list).Pairwise fun a b => room.seq a < room.seq b

structure Distinct (sends : ℕ → Option Send) (list : List (Row M)) : Prop where
  nodup : (list.map Row.id).Nodup
  made : ∀ nonce failed, Row.unsent nonce failed ∈ list → sends nonce ≠ none

/-- The invariant of the runs that put no message below a newer one. -/
structure InPlace (s : State M) : Prop where
  distinct : ∀ array, Distinct s.sends (s.arrays array)
  ordered : ∀ array, Ordered room (s.arrays array)

variable [DecidableEq M]

/-- `upsertMessage`: nothing without a list; a row with the id keeps its place. -/
def upsertMessage (s : State M) (m : M) : State M := s.mutate fun list => insertInOrder room list m

variable {room} in
/-- The room takes a step. `live` is a `message.create` or a `message.update`; a page arrives
when the request for it is answered, whatever the list has become meanwhile. -/
inductive Step : State M → Event room → State M → Prop
  | send {s : State M} {nonce : ℕ} (h : s.sends nonce = none) :
      Step s (.send nonce) ((s.push (.unsent nonce false)).setSend nonce .attempting)
  | succeed {s : State M} {nonce : ℕ} (m : M) (h : s.sends nonce = some .attempting) :
      Step s (.succeed nonce m)
        ((s.setRows (insertInOrder room (withoutRow s.list nonce) m)).setSend nonce .sent)
  | fail {s : State M} {nonce : ℕ} (h : s.sends nonce = some .attempting) :
      Step s (.fail nonce) ((s.mutate (patchRow · nonce true)).setSend nonce .failed)
  | retry {s : State M} {nonce : ℕ} (h : s.sends nonce = some .failed) :
      Step s (.retry nonce) ((s.mutate (patchRow · nonce false)).setSend nonce .attempting)
  | live {s : State M} (m : M) : Step s (.live m) (upsertMessage room s m)
  | select {s : State M} (page : Page room) :
      Step s (.select page) (s.setRows (merge room page s.list))
  | loadOlder {s : State M} {call array : ℕ} {oldest : Row M} (hcall : s.loads call = none)
      (hlist : s.current = some array) (hfirst : (s.arrays array).find? (!·.pending) = some oldest) :
      Step s (.loadOlder call) (s.setLoad call (some (array, oldest.seq room)))
  | olderLoaded {s : State M} {call array before : ℕ} (page : Page room)
      (h : s.loads call = some (array, before)) (hpage : ∀ m ∈ page.messages, room.seq m < before) :
      Step s (.olderLoaded call page)
        ((s.setRows (prepend room page (s.arrays array))).setLoad call none)
  | loadAround {s : State M} (page : Page room) : Step s (.loadAround page) (s.setRows page.rows)
  | resetToLatest {s : State M} (page : Page room) :
      Step s (.resetToLatest page) (s.setRows page.rows)

/-- Every settled row above the last pending one is older than the message, unless the list has
the message already. -/
def Clear (list : List (Row M)) (m : M) : Prop :=
  Row.settled m ∉ list → ∀ x ∈ messages (guarded list), room.seq x < room.seq m

/-- The step puts no message below a newer one: a message that is inserted is newer than every
settled row above the last pending one, and an older page that is written back is older than
every settled row of the array it goes before. -/
def Placed (s : State M) : Event room → Prop
  | .succeed nonce m => Clear room (withoutRow s.list nonce) m
  | .live m => Clear room s.list m
  | .olderLoaded call page => ∀ load ∈ s.loads call, ∀ m ∈ unseen room page (s.arrays load.1),
      ∀ x ∈ messages (s.arrays load.1), room.seq m < room.seq x
  | _ => True

instance (list : List (Row M)) (m : M) : Decidable (Clear room list m) := by
  unfold Clear
  infer_instance

instance (s : State M) (event : Event room) : Decidable (Placed room s event) := by
  cases event <;> unfold Placed <;> infer_instance

end

section
variable {M : Type} {room : Numbering M} {list rows : List (Row M)} {m x : M} {nonce : ℕ} {failed : Bool}

@[simp] lemma messages_append : messages (list ++ rows) = messages list ++ messages rows :=
  List.filterMap_append

@[simp] lemma messages_settled : messages [Row.settled m] = [m] := rfl

@[simp] lemma messages_unsent : messages [Row.unsent (M := M) nonce failed] = [] := rfl

@[simp] lemma messages_rows (page : List M) : messages (page.map Row.settled) = page := by
  induction page with
  | nil => rfl
  | cons m page ih => exact congrArg (m :: ·) ih

lemma mem_messages : x ∈ messages list ↔ Row.settled x ∈ list := by
  refine List.mem_filterMap.trans ⟨?_, fun h => ⟨_, h, rfl⟩⟩
  rintro ⟨row, hrow, hmessage⟩
  cases row with
  | settled m =>
    obtain rfl : m = x := Option.some.inj hmessage
    exact hrow
  | unsent nonce failed => cases hmessage

lemma id_settled {row : Row M} : row.id = .inl m ↔ row = .settled m := by
  cases row <;> simp [Row.id]

lemma id_unsent {row : Row M} : row.id = .inr nonce ↔ ∃ failed, row = .unsent nonce failed := by
  cases row <;> simp [Row.id, eq_comm]

lemma position_length :
    position room list m list.length = (list.rdropWhile (passes room m)).length := by
  induction list using List.reverseRecOn with
  | nil => rfl
  | append_singleton list row ih =>
    have hbefore : ∀ i ≤ list.length, position room (list ++ [row]) m i = position room list m i := by
      intro i hi
      induction i with
      | zero => rfl
      | succ i ih =>
        rw [position, position, List.getElem?_append_left (by omega), ih (by omega)]
    rw [List.length_append, List.length_singleton, position, List.getElem?_concat_length]
    cases hrow : passes room m row with
    | true => simp [hrow, hbefore, ih]
    | false => simp [hrow]

lemma place_eq : place room list m =
    list.rdropWhile (passes room m) ++ .settled m :: list.rtakeWhile (passes room m) := by
  have hsplit : list.rdropWhile (passes room m) ++ list.rtakeWhile (passes room m) = list :=
    List.rdropWhile_append_rtakeWhile
  rw [place, position_length]
  generalize list.rdropWhile (passes room m) = above at hsplit
  generalize list.rtakeWhile (passes room m) = below at hsplit
  subst hsplit
  induction above with
  | nil => rfl
  | cons row above ih => simpa using ih

lemma place_concat_passes {row : Row M} (h : passes room m row = true) :
    place room (list ++ [row]) m = place room list m ++ [row] := by
  simp [place_eq, List.rdropWhile_concat_pos, List.rtakeWhile_concat_pos, h]

lemma place_concat_stop {row : Row M} (h : passes room m row = false) :
    place room (list ++ [row]) m = list ++ [row] ++ [.settled m] := by
  simp [place_eq, List.rdropWhile_concat_neg, List.rtakeWhile_concat_neg, h]

lemma place_perm : (place room list m).Perm (.settled m :: list) := by
  have hsplit : list.rdropWhile (passes room m) ++ list.rtakeWhile (passes room m) = list :=
    List.rdropWhile_append_rtakeWhile
  rw [place_eq]
  exact List.perm_middle.trans (hsplit.symm ▸ List.Perm.refl _)

lemma ordered_append : Ordered room (list ++ rows) ↔ Ordered room list ∧ Ordered room rows ∧
    ∀ x ∈ messages list, ∀ y ∈ messages rows, room.seq x < room.seq y := by
  rw [Ordered, messages_append, List.pairwise_append]
  rfl

/-- Placing keeps the settled rows in order exactly when the message is newer than every
settled row above the last pending one. -/
theorem place_ordered (h : Ordered room list) (hm : Row.settled m ∉ list) :
    Ordered room (place room list m) ↔ ∀ x ∈ messages (guarded list), room.seq x < room.seq m := by
  induction list using List.reverseRecOn with
  | nil => simp [place, position, guarded, messages, Row.message, Ordered]
  | append_singleton list row ih =>
    obtain ⟨hlist, hrow⟩ : Row.settled m ∉ list ∧ Row.settled m ≠ row := by simpa using hm
    obtain ⟨hordered, -, hbelow⟩ := ordered_append.mp h
    have ih := ih hordered hlist
    cases hpass : passes room m row with
    | true =>
      -- the loop goes on above the row, which is newer than the message
      obtain ⟨hpending, hlt⟩ : row.pending = false ∧ room.seq m < row.seq room := by
        simpa [passes] using hpass
      have hguard : guarded (list ++ [row]) = guarded list := by simp [guarded, hpending]
      rw [place_concat_passes hpass, hguard, ← ih]
      refine ⟨fun h => (ordered_append.mp h).1, fun h => ordered_append.mpr ⟨h, ?_, ?_⟩⟩
      · cases row <;> simp [Ordered]
      · intro a ha b hb
        rcases List.mem_cons.mp (place_perm.mem_iff.mp (mem_messages.mp ha)) with ha | ha
        · cases ha
          obtain rfl : .settled b = row := List.mem_singleton.mp (mem_messages.mp hb)
          exact hlt
        · exact hbelow a (mem_messages.mpr ha) b hb
    | false =>
      rw [place_concat_stop hpass]
      have hend : Ordered room (list ++ [row] ++ [.settled m]) ↔
          ∀ x ∈ messages (list ++ [row]), room.seq x < room.seq m := by
        have hsingle : Ordered room [.settled m] := List.pairwise_singleton _ _
        rw [ordered_append]
        simp [h, hsingle]
      rw [hend]
      cases hpending : row.pending with
      | true =>
        have hguard : guarded (list ++ [row]) = list ++ [row] := by simp [guarded, hpending]
        rw [hguard]
      | false =>
        -- the row is settled and older, and so is everything before it
        have hle : row.seq room ≤ room.seq m := by simpa [passes, hpending] using hpass
        cases row with
        | unsent nonce failed =>
          exact absurd (room.safe m) (not_lt.mpr hle)
        | settled y =>
          have hlt : room.seq y < room.seq m :=
            lt_of_le_of_ne hle fun he => hrow (congrArg Row.settled (room.injective he).symm)
          have hall : ∀ x ∈ messages (list ++ [.settled y]), room.seq x < room.seq m := by
            intro x hx
            rcases List.mem_append.mp (messages_append ▸ hx) with hx | hx
            · exact (hbelow x hx y (by simp)).trans hlt
            · obtain rfl : x = y := by simpa using hx
              exact hlt
          refine iff_of_true hall fun x hx => hall x (mem_messages.mpr ?_)
          exact (List.rdropWhile_prefix _ _).subset (mem_messages.mp hx)

lemma messages_eq_id : messages list = (list.map Row.id).filterMap Sum.getLeft? := by
  rw [messages, List.filterMap_map]
  congr 1
  funext row
  cases row <;> rfl

lemma Page.nodup (page : Page room) : page.messages.Nodup :=
  page.ordered.imp fun hlt => ne_of_apply_ne room.seq hlt.ne

lemma Page.rows_nodup (page : Page room) : (page.rows.map Row.id).Nodup := by
  have : page.rows.map Row.id = page.messages.map Sum.inl := by simp [Page.rows, Row.id]
  rw [this]
  exact page.nodup.map Sum.inl_injective

lemma Page.rows_ordered (page : Page room) : Ordered room page.rows := by
  rw [Ordered, Page.rows, messages_rows]
  exact page.ordered

lemma Page.unsent_notMem (page : Page room) : Row.unsent nonce failed ∉ page.rows := by
  simp [Page.rows]

end

section
variable {M : Type} [DecidableEq M] {room : Numbering M} {list : List (Row M)} {m x : M} {nonce : ℕ}
  {failed : Bool}

lemma not_any_id : (list.any fun row => row.id = .inl m) = false ↔ Row.settled m ∉ list := by
  simp only [List.any_eq_false, decide_eq_true_eq, id_settled]
  exact ⟨fun h hm => h _ hm rfl, fun h row hrow he => h (he ▸ hrow)⟩

lemma insertInOrder_of_mem (h : Row.settled m ∈ list) : insertInOrder room list m = list := by
  have : (list.any fun row => row.id = .inl m) = true := by
    rw [← Bool.not_eq_false, not_any_id]
    exact not_not.mpr h
  rw [insertInOrder, if_pos this]

lemma insertInOrder_of_notMem (h : Row.settled m ∉ list) :
    insertInOrder room list m = place room list m := by
  rw [insertInOrder, not_any_id.mpr h]
  rfl

lemma insertInOrder_nodup (h : (list.map Row.id).Nodup) :
    ((insertInOrder room list m).map Row.id).Nodup := by
  by_cases hm : Row.settled m ∈ list
  · rwa [insertInOrder_of_mem hm]
  · rw [insertInOrder_of_notMem hm, (place_perm.map Row.id).nodup_iff]
    refine List.nodup_cons.mpr ⟨fun hid => hm ?_, h⟩
    obtain ⟨row, hrow, hid⟩ := List.mem_map.mp hid
    exact id_settled.mp hid ▸ hrow

lemma mem_insertInOrder {row : Row M} (h : row ∈ insertInOrder room list m) :
    row = .settled m ∨ row ∈ list := by
  by_cases hm : Row.settled m ∈ list
  · exact .inr (insertInOrder_of_mem hm ▸ h)
  · rw [insertInOrder_of_notMem hm] at h
    exact List.mem_cons.mp (place_perm.mem_iff.mp h)

lemma insertInOrder_ordered (h : Ordered room list) (hclear : Clear room list m) :
    Ordered room (insertInOrder room list m) := by
  by_cases hm : Row.settled m ∈ list
  · rwa [insertInOrder_of_mem hm]
  · rw [insertInOrder_of_notMem hm]
    exact (place_ordered h hm).mpr (hclear hm)

lemma patchRow_id : (patchRow list nonce failed).map Row.id = list.map Row.id := by
  induction list with
  | nil => rfl
  | cons row list ih =>
    by_cases hrow : row.id = .inr nonce
    · have : patchRow (row :: list) nonce failed = .unsent nonce failed :: list := by
        simp [patchRow, List.findIdx_cons, hrow]
      rw [this, List.map_cons, List.map_cons, hrow]
      rfl
    · have : patchRow (row :: list) nonce failed = row :: patchRow list nonce failed := by
        simp [patchRow, List.findIdx_cons, hrow]
      rw [this, List.map_cons, List.map_cons, ih]

lemma patchRow_messages : messages (patchRow list nonce failed) = messages list := by
  rw [messages_eq_id, patchRow_id, ← messages_eq_id]

lemma mem_patchRow {n : ℕ} {b : Bool} (h : Row.unsent n b ∈ patchRow list nonce failed) :
    ∃ b, Row.unsent n b ∈ list := by
  have hid : Sum.inr n ∈ (patchRow list nonce failed).map Row.id := List.mem_map.mpr ⟨_, h, rfl⟩
  rw [patchRow_id] at hid
  obtain ⟨row, hrow, hid⟩ := List.mem_map.mp hid
  obtain ⟨b, rfl⟩ := id_unsent.mp hid
  exact ⟨b, hrow⟩

lemma withoutRow_messages : messages (withoutRow list nonce) = messages list := by
  induction list with
  | nil => rfl
  | cons row list ih =>
    cases row with
    | settled m =>
      have : withoutRow (.settled m :: list) nonce = .settled m :: withoutRow list nonce := by
        simp [withoutRow, Row.id]
      rw [this]
      exact congrArg (m :: ·) ih
    | unsent n failed =>
      by_cases hn : n = nonce
      · have : withoutRow (.unsent n failed :: list) nonce = withoutRow list nonce := by
          simp [withoutRow, Row.id, hn]
        rw [this]
        exact ih
      · have : withoutRow (.unsent n failed :: list) nonce = .unsent n failed :: withoutRow list nonce := by
          simp [withoutRow, Row.id, hn]
        rw [this]
        exact ih

lemma withoutRow_nodup (h : (list.map Row.id).Nodup) : ((withoutRow list nonce).map Row.id).Nodup :=
  h.sublist (List.filter_sublist.map _)

variable {page : Page room}

lemma merge_perm : (merge room page list).Perm (page.rows ++ kept room page.messages list) :=
  List.perm_insertionSort _ _

lemma merge_nodup (h : (list.map Row.id).Nodup) : ((merge room page list).map Row.id).Nodup := by
  rw [(merge_perm.map Row.id).nodup_iff, List.map_append]
  refine page.rows_nodup.append (h.sublist (List.filter_sublist.map _)) ?_
  -- what the page holds is not kept
  intro id hpage hkept
  obtain ⟨row, hrow, rfl⟩ := List.mem_map.mp hkept
  obtain ⟨m, hm, hid⟩ : ∃ m ∈ page.messages, Sum.inl m = row.id := by
    simpa [Page.rows, Row.id] using hpage
  have hseen := (List.mem_filter.mp hrow).2
  have : (page.messages.any fun m => row.id = .inl m) = true :=
    List.any_eq_true.mpr ⟨m, hm, by simp [hid]⟩
  simp [this] at hseen

instance : Std.Total (inOrder room) where
  total a b := by
    unfold inOrder
    cases a.pending <;> cases b.pending <;> simp [Nat.le_total]

instance : IsTrans (Row M) (inOrder room) where
  trans a b c hab hbc := by
    unfold inOrder at *
    revert hab hbc
    cases a.pending <;> cases b.pending <;> cases c.pending <;> simp
    exact Nat.le_trans

lemma merge_ordered (h : (list.map Row.id).Nodup) : Ordered room (merge room page list) := by
  have hsorted : (merge room page list).Pairwise (inOrder room) :=
    List.pairwise_insertionSort _ _
  have hboth : (merge room page list).Pairwise fun a b => inOrder room a b ∧ a.id ≠ b.id :=
    hsorted.and (List.pairwise_map.mp (merge_nodup h))
  refine List.pairwise_filterMap.mpr (hboth.imp ?_)
  rintro a b ⟨hle, hne⟩ x hx y hy
  obtain rfl : a = .settled x := by cases a <;> simp_all [Row.message]
  obtain rfl : b = .settled y := by cases b <;> simp_all [Row.message]
  have hle : room.seq x ≤ room.seq y := by simpa [inOrder, Row.pending, Row.seq] using hle
  exact lt_of_le_of_ne hle fun he => hne (congrArg Sum.inl (room.injective he))

lemma unseen_sublist : (unseen room page list).Sublist page.messages := List.filter_sublist

lemma prepend_nodup (h : (list.map Row.id).Nodup) : ((prepend room page list).map Row.id).Nodup := by
  rw [prepend, List.map_append]
  refine List.Nodup.append ?_ h ?_
  · have : ((unseen room page list).map Row.settled).map Row.id =
        (unseen room page list).map Sum.inl := by simp [Row.id]
    rw [this]
    exact (page.nodup.sublist unseen_sublist).map Sum.inl_injective
  · intro id hnew hlist
    obtain ⟨m, hm, rfl⟩ : ∃ m ∈ unseen room page list, Sum.inl m = id := by simpa [Row.id] using hnew
    obtain ⟨row, hrow, hid⟩ := List.mem_map.mp hlist
    have hunseen := (List.mem_filter.mp hm).2
    rw [id_settled] at hid
    have := not_any_id.mp ((Bool.not_eq_true' _).mp hunseen)
    exact this (hid ▸ hrow)

/-- Writing an older page back keeps the order exactly when what it adds is older than every
settled row it goes before. -/
theorem prepend_ordered (h : Ordered room list) : Ordered room (prepend room page list) ↔
    ∀ m ∈ unseen room page list, ∀ x ∈ messages list, room.seq m < room.seq x := by
  rw [Ordered, prepend, messages_append, messages_rows, List.pairwise_append]
  exact ⟨fun h => h.2.2, fun hlt => ⟨page.ordered.sublist unseen_sublist, h, hlt⟩⟩

end

section
variable {M : Type} {s : State M} {rows : List (Row M)} {row : Row M} {array nonce : ℕ} {failed : Bool}
  {P : List (Row M) → Prop} {room : Numbering M} {page : Page room}

lemma list_of_current (h : s.current = some array) : s.list = s.arrays array := by
  simp [State.list, h]

lemma list_inv (hnil : P []) (h : ∀ array, P (s.arrays array)) : P s.list := by
  cases hcurrent : s.current with
  | none => simpa [State.list, hcurrent] using hnil
  | some array => simpa [list_of_current hcurrent] using h array

lemma setRows_arrays (h : ∀ array, P (s.arrays array)) (hrows : P rows) :
    ∀ array, P ((s.setRows rows).arrays array) :=
  (Function.forall_update_iff s.arrays fun _ list => P list).mpr ⟨hrows, fun array _ => h array⟩

lemma mutate_arrays {f : List (Row M) → List (Row M)} (h : ∀ array, P (s.arrays array))
    (hf : ∀ array, s.current = some array → P (f (s.arrays array))) :
    ∀ array, P ((s.mutate f).arrays array) := by
  cases hcurrent : s.current with
  | none => simpa [State.mutate, hcurrent] using h
  | some array =>
    simp only [State.mutate, hcurrent]
    exact (Function.forall_update_iff s.arrays fun _ list => P list).mpr
      ⟨hf array hcurrent, fun other _ => h other⟩

lemma push_arrays (h : ∀ array, P (s.arrays array)) (hnew : P [row])
    (hpush : ∀ array, P (s.arrays array ++ [row])) : ∀ array, P ((s.push row).arrays array) := by
  cases hcurrent : s.current with
  | none =>
    simp only [State.push, hcurrent]
    exact setRows_arrays h hnew
  | some array =>
    simp only [State.push, hcurrent]
    exact mutate_arrays h fun array _ => hpush array

@[simp] lemma mutate_sends {f : List (Row M) → List (Row M)} : (s.mutate f).sends = s.sends := by
  cases hcurrent : s.current <;> simp [State.mutate, hcurrent]

@[simp] lemma push_sends : (s.push row).sends = s.sends := by
  cases hcurrent : s.current <;> simp [State.push, State.setRows, hcurrent]

variable {sends : ℕ → Option Send} {list : List (Row M)}

lemma Distinct.nil : Distinct (M := M) sends [] := ⟨List.nodup_nil, by simp⟩

lemma Distinct.of_rows (h : Distinct sends list) (hnodup : (rows.map Row.id).Nodup)
    (hsub : ∀ nonce failed, Row.unsent nonce failed ∈ rows →
      ∃ failed, Row.unsent nonce failed ∈ list) :
    Distinct sends rows := by
  refine ⟨hnodup, fun nonce failed hrow => ?_⟩
  obtain ⟨failed, hrow⟩ := hsub nonce failed hrow
  exact h.made nonce failed hrow

lemma Distinct.setSend (h : Distinct sends list) (send : Send) :
    Distinct (Function.update sends nonce (some send)) list := by
  refine ⟨h.nodup, fun n failed hrow => ?_⟩
  by_cases hn : n = nonce
  · simp [hn]
  · simpa [hn] using h.made n failed hrow

lemma Distinct.push (h : Distinct sends list) (hfresh : sends nonce = none) (send : Send) :
    Distinct (Function.update sends nonce (some send)) (list ++ [.unsent nonce failed]) := by
  constructor
  · rw [List.map_append]
    refine h.nodup.append (List.nodup_singleton _) (List.disjoint_singleton.mpr fun hid => ?_)
    obtain ⟨row, hrow, hid⟩ := List.mem_map.mp hid
    obtain ⟨b, rfl⟩ := id_unsent.mp hid
    exact h.made nonce b hrow hfresh
  · intro n b hrow
    rcases List.mem_append.mp hrow with hrow | hrow
    · exact (h.setSend send).made n b hrow
    · obtain ⟨rfl, -⟩ : n = nonce ∧ b = failed := by simpa using hrow
      simp

lemma Distinct.ofPage : Distinct sends page.rows :=
  Distinct.nil.of_rows page.rows_nodup fun _ _ hrow => absurd hrow page.unsent_notMem

lemma Ordered.strict (h : Ordered room list) (hall : ∀ row ∈ list, row.message ≠ none) :
    list.Pairwise fun a b => a.seq room < b.seq room := by
  refine (List.pairwise_filterMap.mp h).imp_of_mem fun {a b} ha hb hlt => ?_
  cases a with
  | unsent => exact absurd rfl (hall _ ha)
  | settled x =>
    cases b with
    | unsent => exact absurd rfl (hall _ hb)
    | settled y => exact hlt x rfl y rfl

lemma start_distinct (array : ℕ) : Distinct (start : State M).sends ((start : State M).arrays array) := .nil

end

section
variable {M : Type} [DecidableEq M] {room : Numbering M} {s s' : State M} {event : Event room}
  {list : List (Row M)} {m : M} {page : Page room} {sends : ℕ → Option Send} {nonce : ℕ} {failed : Bool}

lemma Distinct.insertInOrder (h : Distinct sends list) :
    Distinct sends (insertInOrder room list m) := by
  refine h.of_rows (insertInOrder_nodup h.nodup) fun n b hrow => ⟨b, ?_⟩
  rcases mem_insertInOrder hrow with hrow | hrow
  · cases hrow
  · exact hrow

lemma Distinct.withoutRow (h : Distinct sends list) : Distinct sends (withoutRow list nonce) :=
  h.of_rows (withoutRow_nodup h.nodup) fun _ b hrow => ⟨b, List.mem_of_mem_filter hrow⟩

lemma Distinct.patchRow (h : Distinct sends list) : Distinct sends (patchRow list nonce failed) :=
  h.of_rows (by rw [patchRow_id]; exact h.nodup) fun _ _ hrow => mem_patchRow hrow

lemma Distinct.merge (h : Distinct sends list) : Distinct sends (merge room page list) := by
  refine h.of_rows (merge_nodup h.nodup) fun n b hrow => ⟨b, ?_⟩
  rcases List.mem_append.mp (merge_perm.mem_iff.mp hrow) with hrow | hrow
  · exact absurd hrow page.unsent_notMem
  · exact List.mem_of_mem_filter hrow

lemma Distinct.prepend (h : Distinct sends list) : Distinct sends (prepend room page list) := by
  refine h.of_rows (prepend_nodup h.nodup) fun n b hrow => ⟨b, ?_⟩
  rcases List.mem_append.mp hrow with hrow | hrow
  · simp at hrow
  · exact hrow

lemma step_distinct (h : ∀ array, Distinct s.sends (s.arrays array)) (hs : Step s event s') :
    ∀ array, Distinct s'.sends (s'.arrays array) := by
  have hlist : Distinct s.sends s.list := list_inv .nil h
  cases hs with
  | @send nonce hfresh =>
    have hpush : ∀ array, Distinct (Function.update s.sends nonce (some .attempting))
        ((s.push (.unsent nonce false)).arrays array) :=
      push_arrays (fun array => (h array).setSend _) (Distinct.nil.push hfresh _)
        fun array => (h array).push hfresh _
    simpa [State.setSend] using hpush
  | @succeed nonce m hsend =>
    have hset : ∀ array, Distinct s.sends
        ((s.setRows (insertInOrder room (withoutRow s.list nonce) m)).arrays array) :=
      setRows_arrays h hlist.withoutRow.insertInOrder
    exact fun array => (hset array).setSend _
  | @fail nonce hsend =>
    have hpatch : ∀ array, Distinct s.sends ((s.mutate (patchRow · nonce true)).arrays array) :=
      mutate_arrays h fun array _ => (h array).patchRow
    have hsend : ∀ array, Distinct (Function.update s.sends nonce (some .failed))
        ((s.mutate (patchRow · nonce true)).arrays array) :=
      fun array => (hpatch array).setSend .failed
    simpa [State.setSend] using hsend
  | @retry nonce hsend =>
    have hpatch : ∀ array, Distinct s.sends ((s.mutate (patchRow · nonce false)).arrays array) :=
      mutate_arrays h fun array _ => (h array).patchRow
    have hsend : ∀ array, Distinct (Function.update s.sends nonce (some .attempting))
        ((s.mutate (patchRow · nonce false)).arrays array) :=
      fun array => (hpatch array).setSend .attempting
    simpa [State.setSend] using hsend
  | live m =>
    have hlive : ∀ array, Distinct s.sends ((upsertMessage room s m).arrays array) :=
      mutate_arrays h fun array _ => (h array).insertInOrder
    simpa [upsertMessage] using hlive
  | select page => exact setRows_arrays h hlist.merge
  | loadOlder => exact h
  | @olderLoaded _ array _ page => exact setRows_arrays h (h array).prepend
  | loadAround page => exact setRows_arrays h .ofPage
  | resetToLatest page => exact setRows_arrays h .ofPage

lemma InPlace.step (hinv : InPlace room s) (hplaced : Placed room s event) (hs : Step s event s') :
    InPlace room s' := by
  refine ⟨step_distinct hinv.distinct hs, ?_⟩
  have h := hinv.ordered
  have hlist : Ordered room s.list := list_inv List.Pairwise.nil h
  have hpatch {list : List (Row M)} {nonce : ℕ} {failed : Bool} (h : Ordered room list) :
      Ordered room (patchRow list nonce failed) := by
    rwa [Ordered, patchRow_messages]
  cases hs with
  | @send nonce =>
    refine push_arrays h List.Pairwise.nil fun array => ?_
    rw [Ordered, messages_append, messages_unsent, List.append_nil]
    exact h array
  | @succeed nonce m =>
    have hwithout : Ordered room (withoutRow s.list nonce) := by rwa [Ordered, withoutRow_messages]
    exact setRows_arrays h (insertInOrder_ordered hwithout hplaced)
  | fail => exact mutate_arrays h fun array _ => hpatch (h array)
  | retry => exact mutate_arrays h fun array _ => hpatch (h array)
  | live m =>
    refine mutate_arrays h fun array hcurrent => insertInOrder_ordered (h array) ?_
    exact list_of_current hcurrent ▸ hplaced
  | select page => exact setRows_arrays h (merge_ordered (list_inv .nil hinv.distinct).nodup)
  | loadOlder => exact h
  | @olderLoaded _ array _ page hload =>
    exact setRows_arrays h ((prepend_ordered (h array)).mpr (hplaced _ hload))
  | loadAround page => exact setRows_arrays h page.rows_ordered
  | resetToLatest page => exact setRows_arrays h page.rows_ordered

lemma run_distinct {ok : State M → Event room → Prop} (h : RunWhere Step ok start s) :
    ∀ array, Distinct s.sends (s.arrays array) :=
  h.invariant start_distinct fun _ _ _ hinv _ hs => step_distinct hinv hs

lemma run_inPlace (h : RunWhere Step (Placed room) start s) : InPlace room s :=
  h.invariant ⟨start_distinct, fun _ => List.Pairwise.nil⟩ fun _ _ _ hinv hok hs => hinv.step hok hs

/-- In every run no id is twice on the list, and in every run that puts no message below a
newer one the list is strictly in order whenever all its rows are settled. -/
theorem run_settles :
    (∀ s, RunWhere Step (fun _ (_ : Event room) => True) start s → (s.list.map Row.id).Nodup) ∧
      ∀ s, RunWhere Step (Placed room) start s → (∀ row ∈ s.list, row.message ≠ none) →
        s.list.Pairwise fun a b => a.seq room < b.seq room := by
  refine ⟨fun s h => (list_inv .nil (run_distinct h)).nodup, fun s h hall => ?_⟩
  have hordered : Ordered room s.list := list_inv List.Pairwise.nil (run_inPlace h).ordered
  exact hordered.strict hall

end

instance : NeZero maxSafeInteger := ⟨by decide⟩

def numbering : Numbering (Fin maxSafeInteger) := ⟨Fin.val, Fin.val_injective, Fin.isLt⟩

def page (messages : List (Fin maxSafeInteger))
    (ordered : messages.Pairwise fun a b => numbering.seq a < numbering.seq b := by decide) :
    Page numbering := ⟨messages, ordered⟩

/-- A message comes while a send is in flight, the send fails and is tried again, and an older
page is fetched: the list ends settled and in order. -/
theorem run_settles_retried : ∃ s, RunWhere Step (Placed numbering) start s ∧
    s.list = [.settled 9, .settled 10, .settled 11, .settled 12] ∧
    s.list.Pairwise fun a b => a.seq numbering < b.seq numbering := by
  have h : RunWhere Step (Placed numbering) start _ :=
    ((((((RunWhere.refl _).on (i := Event.select (page [10])) (.select _) trivial).on
      (i := Event.send 0) (.send rfl) trivial).on
      (i := Event.live 11) (.live 11) (by decide)).on
      (i := Event.fail 0) (.fail rfl) trivial).on
      (i := Event.retry 0) (.retry rfl) trivial).on
      (i := Event.loadOlder 0) (.loadOlder rfl rfl rfl) trivial
  have hpage : ∀ m ∈ (page [9]).messages, numbering.seq m < 10 :=
    List.forall_mem_singleton.mpr (by decide)
  have h := h.on (i := Event.olderLoaded 0 (page [9])) (.olderLoaded _ rfl hpage) (by decide)
  have h := h.on (i := Event.succeed 0 12) (.succeed 12 rfl) (by decide)
  exact ⟨_, h, by decide, run_settles.2 _ h (by decide)⟩

/-- Two sends in flight and a message of somebody else's that comes before the answer to the
first: the first is put behind the second's row, and so behind the message. -/
theorem two_sends_disordered : ∃ s, RunWhere Step (fun _ (_ : Event numbering) => True) start s ∧
    s.list = [.settled 10, .settled 12, .settled 11, .settled 13] ∧
    ¬s.list.Pairwise fun a b => a.seq numbering < b.seq numbering := by
  have h : RunWhere Step (fun _ (_ : Event numbering) => True) start _ :=
    ((((((RunWhere.refl _).on (i := Event.select (page [10])) (.select _) trivial).on
      (i := Event.send 0) (.send rfl) trivial).on
      (i := Event.live 12) (.live 12) trivial).on
      (i := Event.send 1) (.send rfl) trivial).on
      (i := Event.succeed 0 11) (.succeed 11 rfl) trivial).on
      (i := Event.succeed 1 13) (.succeed 13 rfl) trivial
  exact ⟨_, h, by decide, by decide⟩

end Yappy.Timeline
