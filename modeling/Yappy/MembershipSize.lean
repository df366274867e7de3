import Yappy.MembershipOwners

/-!
# Group size

How many are in a group while it is founded, added to, joined and left. `create` and `addMembers`
compare with `groupMembersMax`, before their transaction; the joins compare nothing.
-/
namespace Yappy.Tables
open Permissions (Time Uuid)
open ReadCommitted
open Statement

def Member.present (m : Member) : Bool := m.leftAt.isNone

def present (rows : Database) (g user : Uuid) : Bool := (rows (.member g user)).any Member.present

def newcomers (view : Database) (g : Uuid) (users : List Uuid) : Finset Uuid :=
  {user ∈ users.toFinset | present view g user = false}

/-- The group is within its size, and only a conversation has members. -/
structure Roomy (g : Uuid) (rows : Database) : Prop where
  bound : activeCount rows g ≤ groupMembersMax
  founded : rows (.conversation g) = none → ∀ user, rows (.member g user) = none

structure Thinning (g : Uuid) (view : Database) (changes : Changes) : Prop where
  member : ∀ user x, changes (.member g user) = some x →
    view (.member g user) ≠ none ∧ (x.any Member.present → present view g user)
  conversation : ∀ x, changes (.conversation g) = some x →
    view (.conversation g) ≠ none ∧ x ≠ none

section Presence
variable {g user : Uuid} {users : List Uuid} {rows rows' view : Database} {changes other w : Changes}

lemma mem_activeMembers : user ∈ activeMembers rows g ↔ present rows g user := by
  unfold activeMembers present
  rw [List.mem_filterMap]
  constructor
  · rintro ⟨k, -, h⟩
    cases k with
    | member s u =>
      dsimp only at h
      split_ifs at h with hs
      obtain rfl := Option.some.inj h
      obtain rfl := hs.1
      exact hs.2
    | _ => cases h
  · intro h
    obtain ⟨m, hm, -⟩ := (Option.any_eq_true ..).mp h
    exact ⟨.member g user, rows.covered _ (by simp [hm]), if_pos ⟨rfl, h⟩⟩

lemma activeCount_eq : activeCount rows g = (activeMembers rows g).toFinset.card :=
  (List.card_toFinset _).symm

lemma activeCount_le (h : ∀ user, present rows' g user → present rows g user ∨ user ∈ users) :
    activeCount rows' g ≤ activeCount rows g + (newcomers rows g users).card := by
  rw [activeCount_eq, activeCount_eq]
  refine (Finset.card_le_card fun user hu => ?_).trans (Finset.card_union_le _ _)
  rw [List.mem_toFinset, mem_activeMembers] at hu
  rw [Finset.mem_union, List.mem_toFinset, mem_activeMembers, newcomers, Finset.mem_filter,
    List.mem_toFinset]
  by_cases hold : present rows g user
  · exact Or.inl hold
  · exact Or.inr ⟨(h user hu).resolve_left hold, Bool.eq_false_iff.mpr hold⟩

lemma activeCount_mono (h : ∀ user, present rows' g user → present rows g user) :
    activeCount rows' g ≤ activeCount rows g := by
  have := @activeCount_le g [] rows rows' fun user hu => Or.inl (h user hu)
  simpa [newcomers] using this

lemma activeCount_le_length (h : ∀ user, present rows g user → user ∈ users) :
    activeCount rows g ≤ users.length := by
  rw [activeCount_eq]
  refine (Finset.card_le_card fun user hu => ?_).trans (List.toFinset_card_le users)
  rw [List.mem_toFinset, mem_activeMembers] at hu
  exact List.mem_toFinset.mpr (h user hu)

lemma present_congr (h : rows' (.member g user) = rows (.member g user)) :
    present rows' g user = present rows g user := by
  unfold present
  rw [h]

lemma present_of_some {x : Option Member} (h : changes (.member g user) = some x) :
    present (overlay changes view) g user = x.any Member.present := by
  unfold present
  rw [overlay_of_some h]

lemma thinning_empty : Thinning g view .empty where
  member _ _ hx := by cases hx
  conversation _ hx := by cases hx

lemma thinning_of_apart (hm : ∀ user, changes (.member g user) = none)
    (hc : changes (.conversation g) = none) : Thinning g view changes where
  member user x hx := by
    rw [hm user] at hx
    cases hx
  conversation x hx := by
    rw [hc] at hx
    cases hx

lemma thinning_put {k : Key} {r : Row k} (hk : ∀ user, k ≠ .member g user)
    (hc : k = .conversation g → view (.conversation g) ≠ none) : Thinning g view (put k r) where
  member user x hx := absurd (put_eq_some hx).symm (hk user)
  conversation x hx := by
    obtain rfl := put_eq_some hx
    rw [put_self] at hx
    obtain rfl := Option.some.inj hx
    exact ⟨hc rfl, by simp⟩

lemma Thinning.present (h : Thinning g view changes)
    (hp : Tables.present (overlay changes view) g user) : Tables.present view g user := by
  cases hx : changes (.member g user) with
  | none => rwa [present_congr (overlay_of_none hx)] at hp
  | some x =>
    rw [present_of_some hx] at hp
    exact (h.member user x hx).2 hp

lemma Thinning.isSome (h : Thinning g view changes) :
    (overlay changes view (.conversation g)).isSome = (view (.conversation g)).isSome := by
  cases hx : changes (.conversation g) with
  | none => rw [overlay_of_none hx]
  | some x =>
    obtain ⟨hv, hne⟩ := h.conversation x hx
    rw [overlay_of_some hx, Option.isSome_iff_ne_none.mpr hv, Option.isSome_iff_ne_none.mpr hne]

lemma Thinning.roomy (h : Thinning g view changes) (hr : Roomy g view) :
    Roomy g (overlay changes view) where
  bound := (activeCount_mono fun _ => h.present).trans hr.bound
  founded hnone user := by
    have hv : view (.conversation g) = none := by
      have hs := h.isSome
      rw [hnone] at hs
      simpa using hs.symm
    cases hx : changes (.member g user) with
    | none => exact (overlay_of_none hx).trans (hr.founded hv user)
    | some x => exact absurd (hr.founded hv user) (h.member user x hx).1

lemma Thinning.andThen (h : Thinning g rows changes) (hw : Thinning g (overlay changes rows) w) :
    Thinning g rows (andThen changes w) where
  member user x hx := by
    rw [andThen_apply, Option.or_eq_some_iff] at hx
    rcases hx with hx | ⟨-, hx⟩
    · obtain ⟨hrow, hp⟩ := hw.member user x hx
      refine ⟨?_, fun hx => h.present (hp hx)⟩
      cases hold : changes (.member g user) with
      | none => rwa [overlay_of_none hold] at hrow
      | some y => exact (h.member user y hold).1
    · exact h.member user x hx
  conversation x hx := by
    rw [andThen_apply, Option.or_eq_some_iff] at hx
    rcases hx with hx | ⟨-, hx⟩
    · obtain ⟨hv, hne⟩ := hw.conversation x hx
      rw [← Option.isSome_iff_ne_none, h.isSome, Option.isSome_iff_ne_none] at hv
      exact ⟨hv, hne⟩
    · exact h.conversation x hx

lemma Thinning.stable (h : Thinning g rows changes) (hd : ∀ k, changes k = none ∨ other k = none) :
    Thinning g (overlay other rows) changes where
  member user x hx := by
    have hrow : overlay other rows (.member g user) = rows (.member g user) :=
      overlay_of_none ((hd _).resolve_left (by simp [hx]))
    rw [hrow, present_congr hrow]
    exact h.member user x hx
  conversation x hx := by
    rw [overlay_of_none ((hd _).resolve_left (by simp [hx]))]
    exact h.conversation x hx

end Presence

/-! ## Requests -/

inductive Outward (g : Uuid) : Program → Prop
  | done : Outward g .done
  | fail : Outward g .fail
  | commit {next : Program} (h : Outward g next) : Outward g (.commit next)
  | statement {writes : Database → Changes} {next : Database → Program}
      (hw : ∀ view, Thinning g view (writes view)) (h : ∀ view, Outward g (next view)) :
      Outward g (.statement writes next)

/-- Requests that let people into `g` once they have seen it, which `founded` says. -/
inductive Admitting (g : Uuid) : Bool → Program → Prop
  | outward {founded : Bool} {p : Program} (h : Outward g p) : Admitting g founded p
  | statement {founded : Bool} {writes : Database → Changes} {next : Database → Program}
      (hw : ∀ view, Thinning g view (writes view))
      (h : ∀ view, Admitting g (founded || (view (.conversation g)).isSome) (next view)) :
      Admitting g founded (.statement writes next)
  | rejoin {users : List Uuid} {f : Member → Member} {next : List Uuid → Program}
      (h : ∀ changed, Admitting g true (next changed)) :
      Admitting g true (updateMembers g users (fun _ => true) f next)
  | enter {users : List Uuid} {m : Uuid → Member} {next : Program} (h : Admitting g true next) :
      Admitting g true (insertMembers g users m next)

/-- Where `p` lets people into `g` next, those who are there and those who are new fit. -/
def HasRoom (g : Uuid) (view : Database) (p : Program) : Prop :=
  ∀ users, ((∃ f rest, p = updateMembers g users (fun _ => true) f rest) ∨
      ∃ m rest, p = insertMembers g users m rest) →
    activeCount view g + (newcomers view g users).card ≤ groupMembersMax

/-- Nobody is let into a group that is there but where there is room. -/
def Counting (g : Uuid) (s : Server Row) : Event Row → Prop
  | .statement id => s.rows (.conversation g) ≠ none → ∀ r, s.requests id = some r →
    HasRoom g (overlay r.changes s.rows) r.program
  | _ => True

inductive SizeStands (g : Uuid) (rows : Database) (r : Request Row) : Prop
  | thinning (hc : Thinning g rows r.changes)
      (hp : Admitting g (rows (.conversation g)).isSome r.program)
  /-- It holds the conversation's row, and leaves the group within its size. -/
  | locked (hl : r.changes (.conversation g) ≠ none) (hr : Roomy g (overlay r.changes rows))
      (hf : overlay r.changes rows (.conversation g) ≠ none)
      (hp : Outward g r.program ∨ rows (.conversation g) ≠ none ∧ Admitting g true r.program)
  | creating {actor messageId : Uuid} {input : CreateInput} {allowed : List Uuid} {clock : Time}
      (hc : r.changes = .empty)
      (hp : r.program = createTransaction g actor messageId input allowed clock)
      (hsize : allowed.length + 1 ≤ groupMembersMax)
  | vacant {actor : Uuid} {allowed : List Uuid} {clock : Time} {rest : Program}
      (hl : r.changes (.conversation g) ≠ none)
      (hf : overlay r.changes rows (.conversation g) ≠ none)
      (hn : rows (.conversation g) = none) (hm : ∀ user, r.changes (.member g user) = none)
      (hp : r.program = insertMembers g (actor :: allowed) (founding actor clock) rest)
      (hrest : Outward g rest) (hsize : allowed.length + 1 ≤ groupMembersMax)

/-! ## Steps -/

section Steps
variable {g : Uuid} {founded : Bool} {rows view : Database} {p : Program}

lemma Admitting.mono (h : Admitting g founded p) {founded' : Bool}
    (hle : founded = true → founded' = true) : Admitting g founded' p := by
  induction h generalizing founded' with
  | outward h => exact .outward h
  | statement hw _ ih =>
    refine .statement hw fun view => ih view fun hb => ?_
    rw [Bool.or_eq_true] at hb ⊢
    exact hb.imp_left hle
  | rejoin h =>
    obtain rfl := hle rfl
    exact .rejoin h
  | enter h =>
    obtain rfl := hle rfl
    exact .enter h

lemma Outward.statement_inv {writes : Database → Changes} {next : Database → Program}
    (h : Outward g (.statement writes next)) : Thinning g view (writes view) ∧ Outward g (next view) := by
  cases h with
  | statement hw h => exact ⟨hw view, h view⟩

lemma Outward.commit_inv {next : Program} (h : Outward g (.commit next)) : Outward g next := by
  cases h with
  | commit h => exact h

lemma Admitting.commit_inv {next : Program} (h : Admitting g founded (.commit next)) :
    Outward g next := by
  generalize hp : ReadCommitted.Program.commit next = p at h
  cases h with
  | outward h =>
    subst hp
    exact h.commit_inv
  | statement | rejoin | enter => cases hp

lemma Roomy.admit {view' : Database} {users : List Uuid}
    (hroom : activeCount view g + (newcomers view g users).card ≤ groupMembersMax)
    (hf : view' (.conversation g) ≠ none)
    (hp : ∀ user, present view' g user → present view g user ∨ user ∈ users) : Roomy g view' where
  bound := (activeCount_le hp).trans hroom
  founded hnone := absurd hnone hf

lemma present_updated {users : List Uuid} {q : Member → Bool} {f : Member → Member} {user : Uuid}
    (h : present (overlay (updatedMembers g users q f view) view) g user) :
    present view g user ∨ user ∈ matching view g users q := by
  unfold updatedMembers at h
  by_cases hnil : matching view g users q = []
  · rw [if_pos hnil, overlay_empty] at h
    exact Or.inl h
  · rw [if_neg hnil] at h
    by_cases hu : user ∈ matching view g users q
    · exact Or.inr hu
    · rw [present_congr (overlay_of_none ?_)] at h
      · exact Or.inl h
      · rw [counted_of_ne (by simp), replaced_member, if_neg hu]

lemma present_inserted {users : List Uuid} {m : Uuid → Member} {user : Uuid}
    (h : present (overlay (insertedMembers g users m view) view) g user) :
    present view g user ∨ user ∈ users := by
  unfold insertedMembers at h
  split_ifs at h
  · exact Or.inl h
  · by_cases hu : user ∈ users
    · exact Or.inr hu
    · rw [present_congr (overlay_of_none ?_)] at h
      · exact Or.inl h
      · rw [counted_of_ne (by simp), newRows_member, if_neg hu]

lemma Admitting.statement_cases {writes : Database → Changes} {next : Database → Program}
    (h : Admitting g founded (.statement writes next))
    (hf : founded = true → view (.conversation g) ≠ none)
    (hroom : founded = true → HasRoom g view (.statement writes next)) :
    (Thinning g view (writes view) ∧
      Admitting g (founded || (view (.conversation g)).isSome) (next view)) ∨
    (founded = true ∧ writes view (.conversation g) ≠ none ∧ Roomy g (overlay (writes view) view) ∧
      overlay (writes view) view (.conversation g) ≠ none ∧ Admitting g true (next view)) := by
  generalize hp : ReadCommitted.Program.statement writes next = p at h hroom
  cases h with
  | outward h =>
    subst hp
    obtain ⟨hw, hn⟩ := @Outward.statement_inv g view _ _ h
    exact Or.inl ⟨hw, .outward hn⟩
  | statement hw h =>
    cases hp
    exact Or.inl ⟨hw view, h view⟩
  | @rejoin users f rest h =>
    cases hp
    by_cases hne : matching view g users (fun _ => true) = []
    · refine Or.inl ⟨?_, h _⟩
      unfold updatedMembers
      rw [if_pos hne]
      exact thinning_empty
    · have hrec := (@updated_record g users (fun _ => true) f view (hf rfl)).1
      refine Or.inr ⟨rfl, updated_locks (hf rfl) hne, ?_, hrec, h _⟩
      refine Roomy.admit (hroom rfl users (Or.inl ⟨_, _, rfl⟩)) hrec fun user hu => ?_
      exact (present_updated hu).imp_right fun hm => (mem_matching.mp hm).1
  | @enter users m rest h =>
    cases hp
    beta_reduce
    by_cases hrow : anyRow view g users = true
    · refine Or.inl ⟨?_, ?_⟩
      · unfold insertedMembers
        rw [if_pos hrow]
        exact thinning_empty
      · rw [if_pos hrow]
        exact .outward .fail
    · rw [if_neg hrow]
      have hrec := (@inserted_record g users m view (hf rfl)).1
      refine Or.inr ⟨rfl, inserted_locks (hf rfl) (Bool.eq_false_iff.mpr hrow), ?_, hrec, h⟩
      exact Roomy.admit (hroom rfl users (Or.inr ⟨_, _, rfl⟩)) hrec fun user => present_inserted

lemma SizeStands.founds {changes : Changes} {actor : Uuid} {allowed : List Uuid} {clock : Time}
    {rest : Program} {writes : Database → Changes} {next : Database → Program} (hr : Roomy g rows)
    (hl : changes (.conversation g) ≠ none) (hf : overlay changes rows (.conversation g) ≠ none)
    (hn : rows (.conversation g) = none) (hm : ∀ user, changes (.member g user) = none)
    (hp : .statement writes next = insertMembers g (actor :: allowed) (founding actor clock) rest)
    (hrest : Outward g rest) (hsize : allowed.length + 1 ≤ groupMembersMax) :
    SizeStands g rows
      ⟨andThen changes (writes (overlay changes rows)), next (overlay changes rows)⟩ := by
  have hnobody : ∀ user, overlay changes rows (.member g user) = none := fun user =>
    (overlay_of_none (hm user)).trans (hr.founded hn user)
  have hrow : anyRow (overlay changes rows) g (actor :: allowed) = false :=
    List.any_eq_false.mpr fun user _ => by simp [hnobody user]
  have hrec := (@inserted_record g (actor :: allowed) (founding actor clock) _ hf).1
  cases hp
  beta_reduce
  rw [if_neg (by simp [hrow])]
  refine .locked ?_ ?_ ?_ (Or.inl hrest)
  · rw [andThen_apply]
    simp [hl]
  · rw [overlay_andThen]
    refine ⟨?_, fun hnone => absurd hnone hrec⟩
    refine (@activeCount_le_length g (actor :: allowed) _ fun user hu => ?_).trans hsize
    refine (present_inserted hu).resolve_left fun hold => ?_
    rw [present, hnobody user] at hold
    cases hold
  · rwa [overlay_andThen]

lemma SizeStands.goes_on {changes w : Changes} (hl : changes (.conversation g) ≠ none)
    (hr : Roomy g (overlay w (overlay changes rows)))
    (hf : overlay w (overlay changes rows) (.conversation g) ≠ none)
    (hp : Outward g p ∨ rows (.conversation g) ≠ none ∧ Admitting g true p) :
    SizeStands g rows ⟨andThen changes w, p⟩ := by
  refine .locked ?_ ?_ ?_ hp
  · rw [andThen_apply]
    simp [hl]
  · rwa [overlay_andThen]
  · rwa [overlay_andThen]

lemma outward_read {next : Database → Program} (h : ∀ view, Outward g (next view)) :
    Outward g (read next) := .statement (fun _ => thinning_empty) h

lemma outward_updateWhere {k : Key} {q : Row k → Bool} {f : Row k → Row k}
    {next : Option (Row k) → Program} (hk : ∀ user, k ≠ .member g user)
    (h : ∀ r, Outward g (next r)) : Outward g (updateWhere k q f next) := by
  refine .statement (fun view => ?_) fun view => h _
  split
  · rename_i r hr
    refine thinning_put hk fun he => ?_
    subst he
    exact Option.ne_none_iff_exists'.mpr ⟨r, (Option.filter_eq_some_iff.mp hr).1⟩
  · exact thinning_empty

lemma outward_insertMessage {messageId : Uuid} {row : Message} {next : Program}
    (h : Outward g next) : Outward g (insertMessage messageId row next) := by
  refine .statement (fun view => ?_) fun view => ?_
  · split_ifs
    · exact thinning_empty
    · exact thinning_put (by simp) (by simp)
  · split_ifs
    · exact .fail
    · exact h

lemma outward_announce {id messageId : Uuid} {payload : SystemPayload} {clock : Time}
    {next : Program} (h : Outward g next) : Outward g (announce id messageId payload clock next) := by
  unfold announce writeSystemMessage allocateMessageSeq
  refine outward_updateWhere (by simp) fun r => ?_
  cases r with
  | none => exact .fail
  | some c => exact outward_insertMessage (outward_updateWhere (by simp) fun r => .commit h)

lemma SizeStands.creates {actor messageId : Uuid} {input : CreateInput} {allowed : List Uuid}
    {clock : Time} {writes : Database → Changes} {next : Database → Program}
    (hp : .statement writes next = createTransaction g actor messageId input allowed clock)
    (hsize : allowed.length + 1 ≤ groupMembersMax) :
    SizeStands g rows ⟨andThen .empty (writes (overlay .empty rows)), next (overlay .empty rows)⟩ := by
  unfold createTransaction at hp
  cases hp
  beta_reduce
  rw [overlay_empty]
  by_cases hs : (rows (.conversation g)).isSome
  · rw [if_pos hs, if_pos hs]
    exact .thinning thinning_empty (.outward .fail)
  · rw [if_neg hs, if_neg hs]
    refine .vacant ?_ ?_ (by simpa using hs) (fun user => ?_) rfl (outward_announce .done) hsize
    · rw [andThen_apply, put_self]
      simp
    · rw [overlay_andThen, overlay_of_some (put_self _ _)]
      simp
    · rw [andThen_apply, @put_of_ne _ Row _ _ _ _ (by simp)]
      rfl

lemma SizeStands.statement {changes : Changes} {writes : Database → Changes}
    {next : Database → Program} (hr : Roomy g rows)
    (h : SizeStands g rows ⟨changes, .statement writes next⟩)
    (hroom : rows (.conversation g) ≠ none →
      HasRoom g (overlay changes rows) (.statement writes next)) :
    SizeStands g rows
      ⟨andThen changes (writes (overlay changes rows)), next (overlay changes rows)⟩ := by
  cases h with
  | thinning hc hp =>
    change Thinning g rows changes at hc
    have hsome := hc.isSome
    rcases @Admitting.statement_cases g _ (overlay changes rows) _ _ hp
      (fun hb => Option.isSome_iff_ne_none.mp (hsome.trans hb))
      (fun hb => hroom (Option.isSome_iff_ne_none.mp hb)) with ⟨hw, hn⟩ | ⟨hb, hl, hr', hf, hn⟩
    · rw [hsome, Bool.or_self] at hn
      exact .thinning (hc.andThen hw) hn
    · refine .locked ?_ ?_ ?_ (Or.inr ⟨?_, hn⟩)
      · rw [andThen_apply]
        simp [hl]
      · rwa [overlay_andThen]
      · rwa [overlay_andThen]
      · exact Option.isSome_iff_ne_none.mp hb
  | locked hl hr' hf hp =>
    rcases hp with hp | ⟨hrow, hp⟩
    · obtain ⟨hw, hn⟩ := @Outward.statement_inv g (overlay changes rows) _ _ hp
      refine .goes_on hl (hw.roomy hr') ?_ (Or.inl hn)
      rwa [← Option.isSome_iff_ne_none, hw.isSome, Option.isSome_iff_ne_none]
    · rcases hp.statement_cases (fun _ => hf) (fun _ => hroom hrow) with
        ⟨hw, hn⟩ | ⟨-, -, hr'', hf', hn⟩
      · refine .goes_on hl (hw.roomy hr') ?_ (Or.inr ⟨hrow, hn⟩)
        rwa [← Option.isSome_iff_ne_none, hw.isSome, Option.isSome_iff_ne_none]
      · exact .goes_on hl hr'' hf' (Or.inr ⟨hrow, hn⟩)
  | creating hc hp hsize =>
    obtain rfl : changes = .empty := hc
    exact .creates hp hsize
  | vacant hl hf hn hm hp hrest hsize => exact .founds hr hl hf hn hm hp hrest hsize

end Steps

/-! ## Among others -/

section Others
variable {g : Uuid} {rows : Database} {changes : Changes} {next : Program}

lemma SizeStands.commits (hr : Roomy g rows) (h : SizeStands g rows ⟨changes, .commit next⟩) :
    Roomy g (overlay changes rows) ∧ Outward g next ∧
      (rows (.conversation g) ≠ none → overlay changes rows (.conversation g) ≠ none) ∧
      (Thinning g rows changes ∨ changes (.conversation g) ≠ none) := by
  cases h with
  | thinning hc hp =>
    change Thinning g rows changes at hc
    refine ⟨hc.roomy hr, hp.commit_inv, fun hf => ?_, Or.inl hc⟩
    rwa [← Option.isSome_iff_ne_none, hc.isSome, Option.isSome_iff_ne_none]
  | locked hl hr' hf hp =>
    exact ⟨hr', hp.elim Outward.commit_inv fun hp => hp.2.commit_inv, fun _ => hf, Or.inr hl⟩
  | creating hc hp => cases hp
  | vacant hl hf hn hm hp => cases hp

lemma SizeStands.stable {r : Request Row} (hr : Roomy g rows)
    (hother : SizeStands g rows ⟨changes, .commit next⟩) (h : SizeStands g rows r)
    (hd : ∀ k, r.changes k = none ∨ changes k = none) : SizeStands g (overlay changes rows) r := by
  obtain ⟨-, -, hstays, hcommit⟩ := hother.commits hr
  -- whoever holds the conversation's row finds it as it was
  have hkept : r.changes (.conversation g) ≠ none → Thinning g rows changes ∧
      overlay changes rows (.conversation g) = rows (.conversation g) ∧
      overlay r.changes (overlay changes rows) (.conversation g) =
        overlay r.changes rows (.conversation g) := by
    intro hl
    have hnone := (hd _).resolve_left hl
    obtain ⟨x, hx⟩ := Option.ne_none_iff_exists'.mp hl
    refine ⟨hcommit.resolve_right fun hc => hc hnone, overlay_of_none hnone, ?_⟩
    rw [overlay_of_some hx, overlay_of_some hx]
  cases h with
  | thinning hc hp =>
    refine .thinning (hc.stable hd) (hp.mono fun hs => ?_)
    exact Option.isSome_iff_ne_none.mpr (hstays (Option.isSome_iff_ne_none.mp hs))
  | locked hl hr' hf hp =>
    obtain ⟨hthin, hrow, hconv⟩ := hkept hl
    refine .locked hl ⟨?_, fun hnone => absurd (hconv ▸ hnone) hf⟩ (hconv ▸ hf) (hrow.symm ▸ hp)
    refine (activeCount_mono fun user hu => ?_).trans hr'.bound
    cases hx : r.changes (.member g user) with
    | some x =>
      rw [present_of_some hx] at hu ⊢
      exact hu
    | none =>
      rw [present_congr (overlay_of_none hx)] at hu ⊢
      exact hthin.present hu
  | creating hc hp hsize => exact .creating hc hp hsize
  | vacant hl hf hn hm hp hrest hsize =>
    obtain ⟨-, hrow, hconv⟩ := hkept hl
    exact .vacant hl (hconv ▸ hf) (hrow.trans hn) hm hp hrest hsize

end Others

/-! ## The requests -/

section Requests
variable {permissions : Database → Uuid → Uuid → ℕ} {g id actor target messageId : Uuid}
  {founded : Bool} {users : List Uuid} {clock : Time} {next : Program}

lemma admitting_read {next : Database → Program}
    (h : ∀ view, Admitting g (founded || (view (.conversation g)).isSome) (next view)) :
    Admitting g founded (read next) := .statement (fun _ => thinning_empty) h

lemma admitting_look {next : Database → Program} (h : ∀ view, Admitting g founded (next view)) :
    Admitting g founded (read next) :=
  admitting_read fun view => (h view).mono fun hf => by simp [hf]

lemma admitting_updateMembers {f : Member → Member} {next : List Uuid → Program}
    (hf : id = g → founded = true) (h : ∀ changed, Admitting g founded (next changed)) :
    Admitting g founded (updateMembers id users (fun _ => true) f next) := by
  by_cases hid : id = g
  · subst hid
    obtain rfl := hf rfl
    exact .rejoin h
  · refine .statement (fun view => thinning_of_apart (fun user => ?_) ?_) fun view => ?_
    · exact updatedMembers_of_ne (by simp [Ne.symm hid]) (by simp)
    · exact updatedMembers_of_ne (by simp) (by simp [Ne.symm hid])
    · exact (h _).mono fun hb => by simp [hb]

lemma admitting_insertMembers {m : Uuid → Member} (hf : id = g → founded = true)
    (h : Admitting g founded next) : Admitting g founded (insertMembers id users m next) := by
  by_cases hid : id = g
  · subst hid
    obtain rfl := hf rfl
    exact .enter h
  · refine .statement (fun view => thinning_of_apart (fun user => ?_) ?_) fun view => ?_
    · exact insertedMembers_of_ne (by simp [Ne.symm hid]) (by simp)
    · exact insertedMembers_of_ne (by simp) (by simp [Ne.symm hid])
    · split_ifs
      · exact .outward .fail
      · exact h.mono fun hb => by simp [hb]

lemma admitting_addTransaction {c : Conversation} {added rejoining fresh : List Uuid}
    (hf : id = g → founded = true) :
    Admitting g founded (addTransaction actor id messageId c added rejoining fresh clock) := by
  have hfresh : Admitting g founded (addFresh actor id messageId c added fresh clock) := by
    unfold addFresh
    dsimp only
    split_ifs
    · exact .outward (outward_announce .done)
    · exact admitting_insertMembers hf (.outward (outward_announce .done))
  unfold addTransaction
  dsimp only
  split_ifs
  · exact hfresh
  · exact admitting_updateMembers hf fun _ => hfresh

lemma requireMember_isSome {view : Database} {x : Conversation × Member}
    (h : requireMember view id actor = some x) : (view (.conversation id)).isSome := by
  unfold requireMember at h
  cases hc : view (.conversation id) with
  | none =>
    rw [hc] at h
    cases h
  | some c => rfl

lemma admitting_addMembers {userIds : List Uuid} {initiable : Uuid → Bool} :
    Admitting g founded (addMembers permissions actor id messageId userIds initiable clock) := by
  refine admitting_read fun view => ?_
  split
  · exact .outward .fail
  · rename_i c m hrequire
    split_ifs
    · exact .outward .fail
    · exact .outward .fail
    · refine admitting_look fun view' => admitting_look fun view'' => ?_
      dsimp only
      split_ifs
      · exact .outward .fail
      · exact .outward .done
      · refine admitting_addTransaction fun hid => ?_
        subst hid
        rw [requireMember_isSome hrequire, Bool.or_true]

lemma admitting_joinMember {c : Conversation} {existing : Option Member}
    (hf : id = g → founded = true) (h : Outward g next) :
    Admitting g founded (joinMember actor id c existing clock next) := by
  cases existing with
  | none => exact admitting_insertMembers hf (.outward h)
  | some m => exact admitting_updateMembers hf fun _ => .outward h

lemma outward_grantRole {invite : Invite} (h : Outward g next) :
    Outward g (grantRole actor invite next) := by
  unfold grantRole
  split
  · exact h
  · refine outward_read fun view => ?_
    split_ifs
    · refine .statement (fun view => ?_) fun view => h
      split_ifs
      · exact thinning_empty
      · exact thinning_put (by simp) (by simp)
    · exact h

lemma admitting_joinInvite {code : String} :
    Admitting g founded (joinInvite actor messageId code clock) := by
  refine .statement (fun view => ?_) fun view => ?_
  · split
    · exact thinning_put (by simp) (by simp)
    · exact thinning_empty
  · dsimp only
    split
    · exact .outward .fail
    · split_ifs
      · exact .outward .fail
      · exact .outward .fail
      · refine admitting_look fun view' => ?_
        dsimp only
        split_ifs
        · exact .outward .fail
        · refine admitting_read fun view'' => ?_
          split
          · exact .outward .fail
          · rename_i c hc
            refine admitting_look fun view''' => ?_
            split_ifs
            · exact .outward (.commit .done)
            · refine admitting_joinMember (fun hid => ?_) (outward_updateWhere (by simp) fun _ =>
                outward_grantRole (outward_announce .done))
              rw [← hid, (Option.filter_eq_some_iff.mp hc).1]
              simp

lemma admitting_joinPublic : Admitting g founded (joinPublic actor id messageId clock) := by
  refine admitting_read fun view => ?_
  split
  · exact .outward .fail
  · rename_i c hc
    split_ifs
    · exact .outward .fail
    · refine admitting_look fun view' => ?_
      dsimp only
      split_ifs
      · exact .outward .fail
      · refine admitting_look fun view'' => ?_
        split_ifs
        · exact .outward (.commit .done)
        · refine admitting_joinMember (fun hid => ?_) (outward_announce .done)
          subst hid
          simp [hc]

lemma thinning_gone {view : Database} : Thinning g view
    (updatedMembers id [target] (fun m => m.leftAt.isNone) (Member.gone clock) view) := by
  by_cases hid : id = g
  · subst hid
    unfold updatedMembers
    split_ifs with hnil
    · exact thinning_empty
    · refine ⟨fun user x hx => ?_, fun x hx => ?_⟩
      · rw [counted_of_ne (by simp), replaced_member] at hx
        split_ifs at hx with hin
        obtain ⟨-, m, hm, -⟩ := mem_matching.mp hin
        rw [hm] at hx
        obtain rfl := Option.some.inj hx
        exact ⟨by simp [hm], fun hp => by cases hp⟩
      · cases hc : view (.conversation id) with
        | none =>
          unfold counted at hx
          rw [hc, replaced_of_ne (by simp)] at hx
          cases hx
        | some c =>
          obtain ⟨n, hn⟩ := @counted_conversation id view (replaced id (matching view id [target]
            fun m => m.leftAt.isNone) (Member.gone clock)) c hc
          rw [hn] at hx
          obtain rfl := Option.some.inj hx
          simp
  · refine thinning_of_apart (fun user => ?_) ?_
    · exact updatedMembers_of_ne (by simp [Ne.symm hid]) (by simp)
    · exact updatedMembers_of_ne (by simp) (by simp [Ne.symm hid])

lemma outward_removal : Outward g (removal actor id target messageId clock) := by
  refine .statement (fun view => thinning_gone) fun view => ?_
  dsimp only
  split_ifs
  · exact .commit .done
  · exact outward_announce .done
  · exact outward_announce .done

lemma outward_removeMember :
    Outward g (removeMember permissions actor id target messageId clock) := by
  refine outward_read fun view => ?_
  split
  · exact .fail
  · split_ifs
    · exact .fail
    · exact .fail
    · exact outward_removal
    · exact .fail
    · refine outward_read fun view' => ?_
      split_ifs
      · exact outward_removal
      · exact .fail

end Requests

/-- Requests that found a group or change how many are in it. -/
inductive SizeRequest (permissions : Database → Uuid → Uuid → ℕ) : Program → Prop
  | create (id actor messageId : Uuid) (input : CreateInput) (initiable : Uuid → Bool)
      (clock : Time) : SizeRequest permissions (create id actor messageId input initiable clock)
  | addMembers (actor id messageId : Uuid) (userIds : List Uuid) (initiable : Uuid → Bool)
      (clock : Time) : SizeRequest permissions
        (addMembers permissions actor id messageId userIds initiable clock)
  | joinInvite (actor messageId : Uuid) (code : String) (clock : Time) :
      SizeRequest permissions (joinInvite actor messageId code clock)
  | joinPublic (actor id messageId : Uuid) (clock : Time) :
      SizeRequest permissions (joinPublic actor id messageId clock)
  | removeMember (actor id target messageId : Uuid) (clock : Time) :
      SizeRequest permissions (removeMember permissions actor id target messageId clock)

section Size
variable {permissions : Database → Uuid → Uuid → ℕ} {g : Uuid} {rows : Database} {p : Program}

lemma SizeRequest.start (h : SizeRequest permissions p) : SizeStands g rows ⟨.empty, p⟩ := by
  cases h with
  | create id actor messageId input initiable clock =>
    unfold Tables.create
    dsimp only
    split_ifs with hmax
    · exact .thinning thinning_empty (.outward .fail)
    · by_cases hid : id = g
      · subst hid
        refine .creating rfl rfl ?_
        have := List.length_filter_le initiable (input.memberIds.filter (· ≠ actor)).dedup
        omega
      · refine .thinning thinning_empty (.statement (fun view => ?_) fun view => ?_)
        · split_ifs
          · exact thinning_empty
          · exact thinning_put (by simp) (by simp [hid])
        · split_ifs
          · exact .outward .fail
          · exact admitting_insertMembers (fun he => absurd he hid) (.outward (outward_announce .done))
  | addMembers => exact .thinning thinning_empty admitting_addMembers
  | joinInvite => exact .thinning thinning_empty admitting_joinInvite
  | joinPublic => exact .thinning thinning_empty admitting_joinPublic
  | removeMember => exact .thinning thinning_empty (.outward outward_removeMember)

end Size

/-! ## A join by itself -/

/-- Run by itself a program gets to its next commit through statements that meet `fits`, and leaves
rows that satisfy `post`. -/
inductive Commits (fits : Database → Program → Prop) (post : Database → Prop) :
    Program → Database → Prop
  | commit {next : Program} {view : Database} (h : post view) : Commits fits post (.commit next) view
  | statement {writes : Database → Changes} {next : Database → Program} {view : Database}
      (hf : fits view (.statement writes next))
      (h : Commits fits post (next view) (overlay (writes view) view)) :
      Commits fits post (.statement writes next) view

section Alone
variable {fits : Database → Program → Prop} {post : Database → Prop} {p : Program}
  {accepted : Program → Prop} {ok : Server Row → Event Row → Prop} {rows view : Database}
  {g actor messageId : Uuid} {clock : Time} {users : List Uuid}

lemma set_set (s : Server Row) (id : RequestId) (r r' : Request Row) :
    (s.set id r).set id r' = s.set id r' := by
  unfold Server.set
  rw [Function.update_idem]

lemma Commits.run (h : Commits fits post p view) {changes : Changes}
    (hv : view = overlay changes rows)
    (hok : ∀ changes p, fits (overlay changes rows) p →
      ok ((Server.idle rows).set 0 ⟨changes, p⟩) (.statement 0))
    (hok' : ∀ changes p, ok ((Server.idle rows).set 0 ⟨changes, p⟩) (.commit 0)) :
    ∃ s, RunWhere (Step accepted) ok ((Server.idle rows).set 0 ⟨changes, p⟩) s ∧ post s.rows := by
  induction h generalizing changes with
  | @commit next view h =>
    subst hv
    exact ⟨_, .head (i := .commit 0) (hok' _ _) (.commit (set_requests_self ..)) (.refl _), h⟩
  | @statement writes next view hf h ih =>
    subst hv
    obtain ⟨s, hs, hpost⟩ := @ih (andThen changes (writes (overlay changes rows)))
      (overlay_andThen ..).symm
    refine ⟨s, .head (i := .statement 0) (hok _ _ hf) (.statement (set_requests_self ..) ?_) ?_, hpost⟩
    · intro other r hne hr
      rw [set_requests_of_ne _ hne] at hr
      cases hr
    · rw [set_set]
      exact hs

end Alone

namespace Sample

end Sample

end Yappy.Tables
