import Yappy.MembershipRequests

/-!
# One owner

As long as a conversation has an active member exactly one of them is its owner, and the owner of
record. A transaction that changes who is in it holds the conversation's row from then on, so what
it found is so when it commits.
-/
namespace Yappy.Tables
open Permissions (MemberRole Time Uuid)
open ReadCommitted
open Statement

def Member.standing (m : Member) : Option Bool :=
  if m.leftAt.isNone then some (m.role = .owner) else none

def standing (rows : Database) (g user : Uuid) : Option Bool :=
  (rows (.member g user)).bind Member.standing

def ownerOf (rows : Database) (g : Uuid) : Option Uuid :=
  (rows (.conversation g)).bind Conversation.ownerId

def OneOwner (g : Uuid) (rows : Database) : Prop :=
  (∃ user, standing rows g user ≠ none) →
    ∃ o, ownerOf rows g = some o ∧ ∀ user, standing rows g user = some true ↔ user = o

structure Kept (g : Uuid) (rows : Database) : Prop where
  founded : rows (.conversation g) ≠ none
  one : OneOwner g rows

structure Calm (g : Uuid) (except : List Uuid) (view : Database) (changes : Changes) : Prop where
  member : ∀ user x, user ∉ except → changes (.member g user) = some x →
    x.bind Member.standing = standing view g user
  conversation : ∀ x, changes (.conversation g) = some x → ∃ c c' : Conversation,
    view (.conversation g) = some c ∧ x = some c' ∧ c'.ownerId = c.ownerId

section Standings
variable {g user : Uuid} {except except' : List Uuid} {rows rows' view : Database}
  {changes other w : Changes}

lemma standing_congr (h : rows' (.member g user) = rows (.member g user)) :
    standing rows' g user = standing rows g user := by
  unfold standing
  rw [h]

lemma ownerOf_congr (h : rows' (.conversation g) = rows (.conversation g)) :
    ownerOf rows' g = ownerOf rows g := by
  unfold ownerOf
  rw [h]

lemma standing_of_some {x : Option Member} (h : changes (.member g user) = some x) :
    standing (overlay changes view) g user = x.bind Member.standing := by
  unfold standing
  rw [overlay_of_some h]

lemma OneOwner.congr (h : OneOwner g rows) (hs : ∀ user, standing rows' g user = standing rows g user)
    (ho : ownerOf rows' g = ownerOf rows g) : OneOwner g rows' := by
  unfold OneOwner
  simp only [hs, ho]
  exact h

lemma OneOwner.eq (h : OneOwner g rows) {o : Uuid} (ho : standing rows g o = some true) :
    ownerOf rows g = some o ∧ ∀ user, standing rows g user = some true ↔ user = o := by
  obtain ⟨o', hrecord, hall⟩ := h ⟨o, by simp [ho]⟩
  obtain rfl := (hall o).mp ho
  exact ⟨hrecord, hall⟩

lemma calm_empty : Calm g except view .empty where
  member _ _ _ hx := by cases hx
  conversation _ hx := by cases hx

lemma calm_of_apart (hm : ∀ user, changes (.member g user) = none)
    (hc : changes (.conversation g) = none) : Calm g except view changes where
  member user x _ hx := by
    rw [hm user] at hx
    cases hx
  conversation x hx := by
    rw [hc] at hx
    cases hx

lemma Calm.standing (h : Calm g except view changes) (hu : user ∉ except) :
    Tables.standing (overlay changes view) g user = Tables.standing view g user := by
  cases hx : changes (.member g user) with
  | none => exact standing_congr (overlay_of_none hx)
  | some x => exact (standing_of_some hx).trans (h.member user x hu hx)

lemma Calm.ownerOf (h : Calm g except view changes) :
    ownerOf (overlay changes view) g = Tables.ownerOf view g := by
  cases hx : changes (.conversation g) with
  | none => exact ownerOf_congr (overlay_of_none hx)
  | some x =>
    obtain ⟨c, c', hc, rfl, he⟩ := h.conversation x hx
    unfold Tables.ownerOf
    rw [overlay_of_some hx, hc]
    exact he

lemma Calm.founded (h : Calm g except view changes) (hf : view (.conversation g) ≠ none) :
    overlay changes view (.conversation g) ≠ none := by
  cases hx : changes (.conversation g) with
  | none => rwa [overlay_of_none hx]
  | some x =>
    obtain ⟨c, c', -, rfl, -⟩ := h.conversation x hx
    rw [overlay_of_some hx]
    simp

lemma Calm.kept (h : Calm g [] view changes) (hk : Kept g view) : Kept g (overlay changes view) :=
  ⟨h.founded hk.founded, hk.one.congr (fun _ => h.standing List.not_mem_nil) h.ownerOf⟩

lemma Calm.andThen (h : Calm g except rows changes) (hw : Calm g except' (overlay changes rows) w)
    (hsub : except ⊆ except') : Calm g except' rows (andThen changes w) where
  member user x hu hx := by
    rw [andThen_apply, Option.or_eq_some_iff] at hx
    rcases hx with hx | ⟨-, hx⟩
    · exact (hw.member user x hu hx).trans (h.standing fun hin => hu (hsub hin))
    · exact h.member user x (fun hin => hu (hsub hin)) hx
  conversation x hx := by
    rw [andThen_apply, Option.or_eq_some_iff] at hx
    rcases hx with hx | ⟨-, hx⟩
    · obtain ⟨c, c', hc, rfl, he⟩ := hw.conversation x hx
      cases hold : changes (.conversation g) with
      | none =>
        rw [overlay_of_none hold] at hc
        exact ⟨c, c', hc, rfl, he⟩
      | some y =>
        obtain ⟨c₀, c₁, hc₀, rfl, he₁⟩ := h.conversation y hold
        rw [overlay_of_some hold] at hc
        obtain rfl := Option.some.inj hc
        exact ⟨c₀, c', hc₀, rfl, he.trans he₁⟩
    · exact h.conversation x hx

lemma Calm.stable (h : Calm g except rows changes) (hd : ∀ k, changes k = none ∨ other k = none) :
    Calm g except (overlay other rows) changes where
  member user x hu hx := by
    rw [h.member user x hu hx]
    exact (standing_congr (overlay_of_none ((hd _).resolve_left (by simp [hx])))).symm
  conversation x hx := by
    rw [overlay_of_none ((hd _).resolve_left (by simp [hx]))]
    exact h.conversation x hx

end Standings

/-! ## Requests -/

/-- What keeps each statement from doing harm, seen from what its request sees then. -/
structure Mindful (g : Uuid) (view : Database) (p : Program) : Prop where
  /-- Someone brought back is not the active owner, and there is one. -/
  rejoin : ∀ users actor rest,
    p = updateMembers g users (fun _ => true) (Member.readmitted actor) rest →
    ∃ o, standing view g o = some true ∧ o ∉ users
  enter : ∀ users m rest, p = insertMembers g users m rest → ∃ o, standing view g o = some true
  /-- One who comes back as owner finds nobody and is the owner of record; any other finds the
  owner. -/
  back : ∀ user rest, p = updateMembers g [user] (fun _ => true) Member.back rest →
    (∃ o, standing view g o = some true) ∧ (∀ m : Member, view (.member g user) = some m →
      m.leftAt.isSome → m.role ≠ .owner) ∨
    (∀ o, standing view g o = none) ∧ ownerOf view g = some user ∧
      (view (.member g user)).all fun m : Member => m.role = .owner
  leave : ∀ target clock rest,
    p = updateMembers g [target] (fun m => m.leftAt.isNone) (Member.gone clock) rest →
    standing view g target = some true → ∀ user, user ≠ target → standing view g user = none
  patch : ∀ target (body : UpdateMemberBody) rest,
    p = update (.member g target) body.apply rest → body.role.isSome →
    standing view g target ≠ some true
  transfer : ∀ actor rest, p = update (.member g actor) (Member.withRole .admin) rest →
    standing view g actor = some true
  succeed : ∀ target rest, p = update (.member g target) (Member.withRole .owner) rest →
    standing view g target ≠ none

def handOver (g target : Uuid) (rest : Program) : Program :=
  update (.member g target) (Member.withRole .owner) fun _ => setOwner g target rest

/-- Requests about `g`, and about other conversations. Only one that has not changed who is in `g`,
which `calm` says, transfers its ownership. -/
inductive Conducted (g : Uuid) : Bool → Program → Prop
  | done {calm : Bool} : Conducted g calm .done
  | fail {calm : Bool} : Conducted g calm .fail
  | commit {calm : Bool} {next : Program} (h : Conducted g true next) :
      Conducted g calm (.commit next)
  | statement {calm : Bool} {writes : Database → Changes} {next : Database → Program}
      (hw : ∀ view, view (.conversation g) ≠ none → Calm g [] view (writes view))
      (h : ∀ view, Conducted g calm (next view)) : Conducted g calm (.statement writes next)
  | rejoin {calm : Bool} {users : List Uuid} {actor : Uuid} {next : List Uuid → Program}
      (h : ∀ changed, Conducted g false (next changed)) :
      Conducted g calm (updateMembers g users (fun _ => true) (Member.readmitted actor) next)
  | enter {calm : Bool} {users : List Uuid} {m : Uuid → Member} {next : Program}
      (hm : ∀ user, (m user).standing = some false) (h : Conducted g false next) :
      Conducted g calm (insertMembers g users m next)
  | back {calm : Bool} {user : Uuid} {next : List Uuid → Program}
      (h : ∀ changed, Conducted g false (next changed)) :
      Conducted g calm (updateMembers g [user] (fun _ => true) Member.back next)
  | leave {calm : Bool} {target : Uuid} {clock : Time} {next : List Uuid → Program}
      (h : ∀ changed, Conducted g false (next changed)) :
      Conducted g calm
        (updateMembers g [target] (fun m => m.leftAt.isNone) (Member.gone clock) next)
  | patch {calm : Bool} {target : Uuid} {body : UpdateMemberBody} {next : Option Member → Program}
      (hbody : body.role ≠ some .owner) (h : ∀ r, Conducted g calm (next r)) :
      Conducted g calm (update (.member g target) body.apply next)
  | transfer {actor target : Uuid} {rest : Program} (h : Conducted g false rest) :
      Conducted g true
        (update (.member g actor) (Member.withRole .admin) fun _ => handOver g target rest)

/-! ## One statement -/

section Statements
variable {g user o : Uuid} {users : List Uuid} {p : Member → Bool} {f : Member → Member}
  {m : Uuid → Member} {view view' : Database}

lemma standing_updated : standing (overlay (updatedMembers g users p f view) view) g user =
    if user ∈ matching view g users p then ((view (.member g user)).map f).bind Member.standing
    else standing view g user := by
  unfold updatedMembers
  by_cases hnil : matching view g users p = []
  · rw [if_pos hnil, hnil, overlay_empty, if_neg List.not_mem_nil]
  · rw [if_neg hnil]
    split_ifs with hu
    · obtain ⟨-, r, hr, -⟩ := mem_matching.mp hu
      rw [standing_of_some (x := some (f r))]
      · rw [hr]
        rfl
      · rw [counted_of_ne (by simp), replaced_member, if_pos hu, hr]
        rfl
    · refine standing_congr (overlay_of_none ?_)
      rw [counted_of_ne (by simp), replaced_member, if_neg hu]

lemma standing_inserted (h : anyRow view g users = false) :
    standing (overlay (insertedMembers g users m view) view) g user =
      if user ∈ users then (m user).standing else standing view g user := by
  unfold insertedMembers
  rw [if_neg (by simp [h])]
  split_ifs with hu
  · rw [standing_of_some (x := some (m user))]
    · rfl
    · rw [counted_of_ne (by simp), newRows_member, if_pos hu]
  · refine standing_congr (overlay_of_none ?_)
    rw [counted_of_ne (by simp), newRows_member, if_neg hu]

lemma counted_record {writes : Database → Changes} (hf : view (.conversation g) ≠ none) :
    overlay (counted g writes view) view (.conversation g) ≠ none ∧
      ownerOf (overlay (counted g writes view) view) g = ownerOf view g := by
  obtain ⟨conv, hconv⟩ := Option.ne_none_iff_exists'.mp hf
  obtain ⟨n, hn⟩ := @counted_conversation g view writes conv hconv
  unfold ownerOf
  rw [overlay_of_some hn, hconv]
  exact ⟨by simp, rfl⟩

lemma updated_record (hf : view (.conversation g) ≠ none) :
    overlay (updatedMembers g users p f view) view (.conversation g) ≠ none ∧
      ownerOf (overlay (updatedMembers g users p f view) view) g = ownerOf view g := by
  unfold updatedMembers
  split_ifs
  · exact ⟨hf, rfl⟩
  · exact counted_record hf

lemma inserted_record (hf : view (.conversation g) ≠ none) :
    overlay (insertedMembers g users m view) view (.conversation g) ≠ none ∧
      ownerOf (overlay (insertedMembers g users m view) view) g = ownerOf view g := by
  unfold insertedMembers
  split_ifs
  · exact ⟨hf, rfl⟩
  · exact counted_record hf

lemma OneOwner.turnover (h : OneOwner g view) (ho : standing view g o = some true)
    (hrecord : ownerOf view' g = ownerOf view g)
    (hs : ∀ user, standing view' g user = standing view g user ∨
      user ≠ o ∧ standing view' g user ≠ some true) : OneOwner g view' := by
  obtain ⟨hof, hall⟩ := h.eq ho
  refine fun _ => ⟨o, hrecord.trans hof, fun user => ?_⟩
  rcases hs user with he | ⟨hne, he⟩
  · rw [he]
    exact hall user
  · exact ⟨fun hu => absurd hu he, fun hu => absurd hu hne⟩

lemma readmitted_standing (actor : Uuid) (r : Member) :
    (r.readmitted actor).standing = some false := rfl

lemma back_standing (r : Member) : r.back.standing = some (decide (r.role = .owner)) := rfl

lemma Kept.rejoin {actor : Uuid} (hk : Kept g view) (ho : standing view g o = some true)
    (hout : o ∉ users) :
    Kept g (overlay (updatedMembers g users p (Member.readmitted actor) view) view) where
  founded := (updated_record hk.founded).1
  one := by
    refine hk.one.turnover ho (updated_record hk.founded).2 fun user => ?_
    rw [standing_updated]
    split_ifs with hu
    · obtain ⟨hin, r, hr, -⟩ := mem_matching.mp hu
      refine Or.inr ⟨fun he => hout (he ▸ hin), ?_⟩
      rw [hr, Option.map_some, Option.bind_some, readmitted_standing]
      simp
    · exact Or.inl rfl

lemma Kept.enter (hk : Kept g view) (ho : standing view g o = some true)
    (hm : ∀ user, (m user).standing = some false) (hrow : anyRow view g users = false) :
    Kept g (overlay (insertedMembers g users m view) view) where
  founded := (inserted_record hk.founded).1
  one := by
    refine hk.one.turnover ho (inserted_record hk.founded).2 fun user => ?_
    rw [standing_inserted hrow]
    split_ifs with hu
    · refine Or.inr ⟨?_, by simp [hm]⟩
      rintro rfl
      have hnone : view (.member g user) = none := by
        simpa using List.any_eq_false.mp hrow user hu
      rw [standing, hnone] at ho
      cases ho
    · exact Or.inl rfl

lemma Kept.back (hk : Kept g view)
    (h : (∃ o, standing view g o = some true) ∧ (∀ r : Member, view (.member g user) = some r →
        r.leftAt.isSome → r.role ≠ .owner) ∨
      (∀ o, standing view g o = none) ∧ ownerOf view g = some user ∧
        (view (.member g user)).all fun r : Member => r.role = .owner) :
    Kept g (overlay (updatedMembers g [user] (fun _ => true) Member.back view) view) where
  founded := (updated_record hk.founded).1
  one := by
    rcases h with ⟨⟨o, ho⟩, hrole⟩ | ⟨hnobody, hof, hrole⟩
    · refine hk.one.turnover ho (updated_record hk.founded).2 fun u => ?_
      rw [standing_updated]
      split_ifs with hu
      · obtain ⟨hin, r, hr, -⟩ := mem_matching.mp hu
        obtain rfl := List.mem_singleton.mp hin
        rw [hr, Option.map_some, Option.bind_some, back_standing]
        cases hl : r.leftAt with
        | none =>
          left
          rw [standing, hr]
          simp [Member.standing, hl]
        | some t =>
          refine Or.inr ⟨?_, by simp [hrole r hr (by simp [hl])]⟩
          rintro rfl
          rw [standing, hr] at ho
          simp [Member.standing, hl] at ho
      · exact Or.inl rfl
    · rintro ⟨v, hv⟩
      refine ⟨user, (updated_record hk.founded).2.trans hof, fun u => ?_⟩
      have hin : v ∈ matching view g [user] fun _ => true := by
        by_contra hout
        rw [standing_updated, if_neg hout] at hv
        exact hv (hnobody v)
      obtain ⟨hv, r, hr, -⟩ := mem_matching.mp hin
      obtain rfl := List.mem_singleton.mp hv
      rw [standing_updated]
      split_ifs with hu
      · obtain ⟨hmem, -⟩ := mem_matching.mp hu
        obtain rfl := List.mem_singleton.mp hmem
        rw [hr, Option.all_some, decide_eq_true_eq] at hrole
        simp [hr, back_standing, hrole]
      · rw [hnobody u]
        simp only [reduceCtorEq, false_iff]
        rintro rfl
        exact hu hin

lemma Kept.leave {target : Uuid} {clock : Time} (hk : Kept g view)
    (h : standing view g target = some true → ∀ user, user ≠ target → standing view g user = none) :
    Kept g (overlay (updatedMembers g [target] (fun r => r.leftAt.isNone) (Member.gone clock) view)
      view) where
  founded := (updated_record hk.founded).1
  one := by
    have hs : ∀ u, standing (overlay (updatedMembers g [target] (fun r => r.leftAt.isNone)
        (Member.gone clock) view) view) g u = if u = target then none else standing view g u := by
      intro u
      rw [standing_updated]
      by_cases hu : u = target
      · subst hu
        rw [if_pos rfl]
        split_ifs with hin
        · obtain ⟨-, r, hr, -⟩ := mem_matching.mp hin
          rw [hr]
          rfl
        · unfold standing
          cases hr : view (.member g u) with
          | none => rfl
          | some r =>
            have hl : ¬ r.leftAt.isNone = true := fun hl =>
              hin (mem_matching.mpr ⟨List.mem_singleton_self u, r, hr, hl⟩)
            simp [Member.standing, hl]
      · rw [if_neg hu, if_neg]
        intro hin
        exact hu (List.mem_singleton.mp (mem_matching.mp hin).1)
    rintro ⟨v, hv⟩
    rw [hs] at hv
    split_ifs at hv with hvt
    · exact absurd rfl hv
    · obtain ⟨o, hof, hall⟩ := hk.one ⟨v, hv⟩
      have hne : o ≠ target := by
        rintro rfl
        exact hv (h ((hall o).mpr rfl) v hvt)
      refine ⟨o, (updated_record hk.founded).2.trans hof, fun u => ?_⟩
      rw [hs]
      split_ifs with hu
      · subst hu
        simp [Ne.symm hne]
      · exact hall u

lemma updated_locks (hf : view (.conversation g) ≠ none) (hne : matching view g users p ≠ []) :
    updatedMembers g users p f view (.conversation g) ≠ none := by
  obtain ⟨conv, hconv⟩ := Option.ne_none_iff_exists'.mp hf
  unfold updatedMembers
  rw [if_neg hne]
  obtain ⟨n, hn⟩ := @counted_conversation g view (replaced g (matching view g users p) f) conv hconv
  simp [hn]

lemma inserted_locks (hf : view (.conversation g) ≠ none) (hrow : anyRow view g users = false) :
    insertedMembers g users m view (.conversation g) ≠ none := by
  obtain ⟨conv, hconv⟩ := Option.ne_none_iff_exists'.mp hf
  unfold insertedMembers
  rw [if_neg (by simp [hrow])]
  obtain ⟨n, hn⟩ := @counted_conversation g view (fun _ => newRows g users m) conv hconv
  simp [hn]

lemma calm_patch {body : UpdateMemberBody} (hbody : body.role ≠ some .owner)
    (h : body.role.isSome → standing view g user ≠ some true) {r : Member}
    (hr : view (.member g user) = some r) :
    Calm g [] view (@put Key Row _ (.member g user) (body.apply r)) where
  member u x _ hx := by
    by_cases hu : u = user
    · subst hu
      rw [put_self] at hx
      obtain rfl := Option.some.inj hx
      rw [standing, hr] at h ⊢
      cases hb : body.role with
      | none =>
        change (body.apply r).standing = r.standing
        simp [Member.standing, UpdateMemberBody.apply, hb]
      | some role =>
        have hrole : role ≠ .owner := fun he => hbody (by rw [hb, he])
        have hnot := h (by simp [hb])
        change (body.apply r).standing = r.standing
        unfold Member.standing at hnot ⊢
        cases hl : r.leftAt with
        | none => simpa [UpdateMemberBody.apply, hb, hl, hrole] using hnot
        | some t => simp [UpdateMemberBody.apply, hl]
    · rw [@put_of_ne _ Row _ _ _ _ (by simp [hu])] at hx
      cases hx
  conversation x hx := by
    rw [@put_of_ne _ Row _ _ _ _ (by simp)] at hx
    cases hx

end Statements

/-! ## Among others -/

inductive OwnerStands (g : Uuid) (rows : Database) (r : Request Row) : Prop
  | calm (hc : Calm g [] rows r.changes) (hp : Conducted g true r.program)
  | locked (hl : r.changes (.conversation g) ≠ none) (hk : Kept g (overlay r.changes rows))
      (hp : Conducted g false r.program)
  | stepped {actor target : Uuid} {rest : Program} (ho : standing rows g actor = some true)
      (ha : ∃ m : Member, r.changes (.member g actor) = some (some m) ∧ m.standing = some false)
      (hc : Calm g [actor] rows r.changes) (hp : r.program = handOver g target rest)
      (h : Conducted g false rest)
  | handed {actor target : Uuid} {rest : Program} (ho : standing rows g actor = some true)
      (ha : ∃ m : Member, r.changes (.member g actor) = some (some m) ∧
        (actor ≠ target → m.standing = some false))
      (ht : ∃ m : Member, r.changes (.member g target) = some (some m) ∧ m.standing = some true)
      (hc : Calm g [actor, target] rows r.changes) (hp : r.program = setOwner g target rest)
      (h : Conducted g false rest)
  | failing (hp : r.program = .fail)

def Careful (g : Uuid) (s : Server Row) : Event Row → Prop
  | .statement id => ∀ r, s.requests id = some r → Mindful g (overlay r.changes s.rows) r.program
  | _ => True

section Upholding
variable {g : Uuid} {rows view : Database} {calm : Bool} {p : Program}

lemma Conducted.weaken (h : Conducted g false p) : Conducted g calm p := by
  generalize hb : false = b at h
  induction h with
  | done => exact .done
  | fail => exact .fail
  | commit h => exact .commit h
  | statement hw _ ih => exact .statement hw fun view => ih view hb
  | rejoin h => exact .rejoin h
  | enter hm h => exact .enter hm h
  | back h => exact .back h
  | leave h => exact .leave h
  | patch hbody _ ih => exact .patch hbody fun r => ih r hb
  | transfer => cases hb

lemma Conducted.commit_inv {next : Program} (h : Conducted g calm (.commit next)) :
    Conducted g true next := by
  generalize hp : ReadCommitted.Program.commit next = p at h
  cases h with
  | commit h =>
    cases hp
    exact h
  | done | fail | statement | rejoin | enter | back | leave | patch | transfer => cases hp

/-- What one statement does: nobody's standing changes, or the conversation's row is held from here
and there is one owner still, or the request throws, or the owner steps down. -/
theorem Conducted.statement_cases {writes : Database → Changes} {next : Database → Program}
    (h : Conducted g calm (.statement writes next)) (hk : Kept g view)
    (hm : Mindful g view (.statement writes next)) :
    (Calm g [] view (writes view) ∧ Conducted g calm (next view)) ∨
    (writes view (.conversation g) ≠ none ∧ Kept g (overlay (writes view) view) ∧
      Conducted g false (next view)) ∨
    next view = .fail ∨
    (calm = true ∧ ∃ actor target rest, .statement writes next =
      update (.member g actor) (Member.withRole .admin) (fun _ => handOver g target rest) ∧
      Conducted g false rest ∧ standing view g actor = some true) := by
  have hupdate : ∀ {users p f} {rest : List Uuid → Program},
      (∀ changed, Conducted g false (rest changed)) →
      Kept g (overlay (updatedMembers g users p f view) view) →
      (Calm g [] view (updatedMembers g users p f view) ∧
        Conducted g calm (rest (matching view g users p))) ∨
      (updatedMembers g users p f view (.conversation g) ≠ none ∧
        Kept g (overlay (updatedMembers g users p f view) view) ∧
        Conducted g false (rest (matching view g users p))) := by
    intro users p f rest hrest hkept
    by_cases hne : matching view g users p = []
    · refine Or.inl ⟨?_, (hrest _).weaken⟩
      unfold updatedMembers
      rw [if_pos hne]
      exact calm_empty
    · exact Or.inr ⟨updated_locks hk.founded hne, hkept, hrest _⟩
  generalize hp : ReadCommitted.Program.statement writes next = p at h hm
  cases h with
  | done | fail | commit => cases hp
  | statement hw h =>
    cases hp
    exact Or.inl ⟨hw view hk.founded, h view⟩
  | rejoin h =>
    cases hp
    obtain ⟨o, ho, hout⟩ := hm.rejoin _ _ _ rfl
    rcases hupdate h (hk.rejoin ho hout) with h | h
    · exact Or.inl h
    · exact Or.inr (Or.inl h)
  | enter hrole h =>
    cases hp
    obtain ⟨o, ho⟩ := hm.enter _ _ _ rfl
    beta_reduce
    split_ifs with hrow
    · exact Or.inr (Or.inr (Or.inl rfl))
    · have hrow := Bool.eq_false_iff.mpr hrow
      exact Or.inr (Or.inl ⟨inserted_locks hk.founded hrow, hk.enter ho hrole hrow, h⟩)
  | back h =>
    cases hp
    rcases hupdate h (hk.back (hm.back _ _ rfl)) with h | h
    · exact Or.inl h
    · exact Or.inr (Or.inl h)
  | leave h =>
    cases hp
    rcases hupdate h (hk.leave (hm.leave _ _ _ rfl)) with h | h
    · exact Or.inl h
    · exact Or.inr (Or.inl h)
  | @patch _ target body rest hbody h =>
    cases hp
    have hpatch := hm.patch _ _ _ rfl
    refine Or.inl ⟨?_, h _⟩
    beta_reduce
    cases hr : view (.member g target) with
    | none => exact calm_empty
    | some r => exact calm_patch hbody hpatch hr
  | transfer h => exact Or.inr (Or.inr (Or.inr ⟨rfl, _, _, _, rfl, h, hm.transfer _ _ rfl⟩))

lemma calm_step {user : Uuid} {except : List Uuid} {r : Member} (hin : user ∈ except) :
    Calm g except view (@put Key Row _ (.member g user) r) where
  member u x hu hx := by
    rw [@put_of_ne _ Row _ _ _ _ (by rintro ⟨⟩; exact hu hin)] at hx
    cases hx
  conversation x hx := by
    rw [@put_of_ne _ Row _ _ _ _ (by simp)] at hx
    cases hx

lemma exists_row {user : Uuid} {st : Bool} (h : standing view g user = some st) :
    ∃ r : Member, view (.member g user) = some r ∧ r.leftAt = none ∧ decide (r.role = .owner) = st := by
  obtain ⟨r, hr, hs⟩ := Option.bind_eq_some_iff.mp h
  unfold Member.standing at hs
  split_ifs at hs with hl
  exact ⟨r, hr, Option.isNone_iff_eq_none.mp hl, Option.some.inj hs⟩

lemma OwnerStands.commits {changes : Changes} {next : Program} (hk : Kept g rows)
    (h : OwnerStands g rows ⟨changes, .commit next⟩) :
    Kept g (overlay changes rows) ∧ Conducted g true next ∧
      (Calm g [] rows changes ∨ changes (.conversation g) ≠ none) := by
  cases h with
  | calm hc hp => exact ⟨hc.kept hk, hp.commit_inv, Or.inl hc⟩
  | locked hl hk hp => exact ⟨hk, hp.commit_inv, Or.inr hl⟩
  | stepped _ _ _ hp => cases hp
  | handed _ _ _ _ hp => cases hp
  | failing hp => cases hp

lemma step_up {changes : Changes} {actor target : Uuid} {rest : Program}
    {writes : Database → Changes} {next : Database → Program}
    (ho : standing rows g actor = some true)
    (ha : ∃ m : Member, changes (.member g actor) = some (some m) ∧ m.standing = some false)
    (hc : Calm g [actor] rows changes) (hp : .statement writes next = handOver g target rest)
    (hm : Mindful g (overlay changes rows) (.statement writes next)) (h : Conducted g false rest) :
    OwnerStands g rows
      ⟨andThen changes (writes (overlay changes rows)), next (overlay changes rows)⟩ := by
  unfold handOver at hp
  obtain ⟨b, hb⟩ := Option.ne_none_iff_exists'.mp (hm.succeed _ _ hp)
  obtain ⟨t, ht, hl, -⟩ := exists_row hb
  cases hp
  beta_reduce
  rw [ht, Option.filter_some, if_pos rfl]
  refine .handed ho ?_ ⟨t.withRole .owner, ?_, ?_⟩
    (hc.andThen (calm_step (by simp)) (by simp)) rfl h
  · by_cases hne : actor = target
    · subst hne
      refine ⟨t.withRole .owner, ?_, fun hne => absurd rfl hne⟩
      rw [andThen_apply, put_self, Option.some_or]
    · obtain ⟨m, hm, hs⟩ := ha
      refine ⟨m, ?_, fun _ => hs⟩
      rw [andThen_apply, @put_of_ne _ Row _ _ _ _ (by simp [hne]), Option.none_or, hm]
  · rw [andThen_apply, put_self, Option.some_or]
  · simp [Member.standing, Member.withRole, hl]

lemma name_owner {changes : Changes} {actor target : Uuid} {rest : Program}
    {writes : Database → Changes} {next : Database → Program} (hk : Kept g rows)
    (ho : standing rows g actor = some true)
    (ha : ∃ m : Member, changes (.member g actor) = some (some m) ∧
      (actor ≠ target → m.standing = some false))
    (ht : ∃ m : Member, changes (.member g target) = some (some m) ∧ m.standing = some true)
    (hc : Calm g [actor, target] rows changes)
    (hp : .statement writes next = setOwner g target rest) (h : Conducted g false rest) :
    OwnerStands g rows
      ⟨andThen changes (writes (overlay changes rows)), next (overlay changes rows)⟩ := by
  obtain ⟨c, hconv⟩ := Option.ne_none_iff_exists'.mp (hc.founded hk.founded)
  have hs : ∀ user, standing (overlay changes rows) g user = some true ↔ user = target := by
    intro user
    by_cases hut : user = target
    · subst hut
      obtain ⟨m, hm, hst⟩ := ht
      rw [standing_of_some hm]
      simp [hst]
    · by_cases hua : user = actor
      · subst hua
        obtain ⟨m, hm, hst⟩ := ha
        rw [standing_of_some hm]
        simp [hst hut, hut]
      · rw [hc.standing (by simp [hua, hut]), (hk.one.eq ho).2 user]
        simp [hua, hut]
  cases hp
  beta_reduce
  rw [hconv]
  dsimp only
  by_cases huser : (overlay changes rows (.user target)).isSome
  · rw [if_pos huser, if_neg (by simp [Option.isNone_iff_eq_none, Option.isSome_iff_ne_none.mp huser])]
    refine .locked ?_ ⟨?_, fun _ => ⟨target, ?_, fun user => ?_⟩⟩ h
    · rw [andThen_apply, put_self]
      simp
    · rw [overlay_andThen, overlay_of_some (put_self _ _)]
      simp
    · unfold ownerOf
      rw [overlay_andThen, overlay_of_some (put_self _ _)]
      rfl
    · rw [overlay_andThen, standing_congr (overlay_of_none (put_of_ne _ (by simp)))]
      exact hs user
  · exact .failing (if_pos ⟨rfl, by simpa using huser⟩)

lemma OwnerStands.statement {changes : Changes} {writes : Database → Changes}
    {next : Database → Program} (hk : Kept g rows)
    (h : OwnerStands g rows ⟨changes, .statement writes next⟩)
    (hm : Mindful g (overlay changes rows) (.statement writes next)) :
    OwnerStands g rows
      ⟨andThen changes (writes (overlay changes rows)), next (overlay changes rows)⟩ := by
  cases h with
  | calm hc hp =>
    change Calm g [] rows changes at hc
    rcases hp.statement_cases (hc.kept hk) hm with ⟨hw, hn⟩ | ⟨hl, hkept, hn⟩ | hf | ⟨-, actor, target,
      rest, hp, hrest, ho⟩
    · exact .calm (hc.andThen hw (List.Subset.refl _)) hn
    · refine .locked ?_ ?_ hn
      · rw [andThen_apply]
        simp [hl]
      · rw [overlay_andThen]
        exact hkept
    · exact .failing hf
    · obtain ⟨r, hr, hleft, -⟩ := exists_row ho
      rw [hc.standing List.not_mem_nil] at ho
      cases hp
      beta_reduce
      rw [hr, Option.filter_some, if_pos rfl]
      refine .stepped ho ⟨r.withRole .admin, ?_, ?_⟩
        (hc.andThen (calm_step (by simp)) (List.nil_subset _)) rfl hrest
      · rw [andThen_apply, put_self, Option.some_or]
      · simp [Member.standing, Member.withRole, hleft]
  | locked hl hkept hp =>
    change changes (.conversation g) ≠ none at hl
    have hl' : ∀ w : Changes, andThen changes w (.conversation g) ≠ none := fun w => by
      rw [andThen_apply]
      simp [hl]
    rcases hp.statement_cases hkept hm with ⟨hw, hn⟩ | ⟨-, hkept', hn⟩ | hf | ⟨hcalm, -⟩
    · refine .locked (hl' _) ?_ hn
      rw [overlay_andThen]
      exact hw.kept hkept
    · refine .locked (hl' _) ?_ hn
      rw [overlay_andThen]
      exact hkept'
    · exact .failing hf
    · cases hcalm
  | stepped ho ha hc hp h => exact step_up ho ha hc hp hm h
  | handed ho ha ht hc hp h => exact name_owner hk ho ha ht hc hp h
  | failing hp => cases hp

lemma OwnerStands.stable {changes : Changes} {next : Program} {r : Request Row} (hk : Kept g rows)
    (hother : OwnerStands g rows ⟨changes, .commit next⟩) (h : OwnerStands g rows r)
    (hd : ∀ k, r.changes k = none ∨ changes k = none) : OwnerStands g (overlay changes rows) r := by
  have hsame : ∀ user, r.changes (.member g user) ≠ none →
      standing (overlay changes rows) g user = standing rows g user := fun user hu =>
    standing_congr (overlay_of_none ((hd _).resolve_left hu))
  obtain ⟨-, -, hcommit⟩ := hother.commits hk
  cases h with
  | calm hc hp => exact .calm (hc.stable hd) hp
  | locked hl hkept hp =>
    have hcalm := hcommit.resolve_right fun hc => hc ((hd _).resolve_left hl)
    obtain ⟨x, hx⟩ := Option.ne_none_iff_exists'.mp hl
    have hconv : overlay r.changes (overlay changes rows) (.conversation g) =
        overlay r.changes rows (.conversation g) := by
      rw [overlay_of_some hx, overlay_of_some hx]
    refine .locked hl ⟨?_, hkept.one.congr (fun user => ?_) (ownerOf_congr hconv)⟩ hp
    · rw [hconv]
      exact hkept.founded
    · cases hu : r.changes (.member g user) with
      | some y => rw [standing_of_some hu, standing_of_some hu]
      | none =>
        rw [standing_congr (overlay_of_none hu), hcalm.standing List.not_mem_nil]
        exact (standing_congr (overlay_of_none hu)).symm
  | stepped ho ha hc hp h =>
    obtain ⟨m, hm, hs⟩ := ha
    exact .stepped ((hsame _ (by simp [hm])).trans ho) ⟨m, hm, hs⟩ (hc.stable hd) hp h
  | handed ho ha ht hc hp h =>
    obtain ⟨m, hm, hs⟩ := ha
    exact .handed ((hsame _ (by simp [hm])).trans ho) ⟨m, hm, hs⟩ ht (hc.stable hd) hp h
  | failing hp => exact .failing hp

end Upholding

/-! ## The requests -/

section Requests
variable {permissions : Database → Uuid → Uuid → ℕ} {g id : Uuid} {calm : Bool}

lemma conducted_updateMembers {users : List Uuid} {p : Member → Bool} {f : Member → Member}
    {next : List Uuid → Program} (hid : id ≠ g) (h : ∀ changed, Conducted g calm (next changed)) :
    Conducted g calm (updateMembers id users p f next) := by
  refine .statement (fun view _ => calm_of_apart (fun user => ?_) ?_) fun view => h _
  · exact updatedMembers_of_ne (by simp [Ne.symm hid]) (by simp)
  · exact updatedMembers_of_ne (by simp) (by simp [Ne.symm hid])

lemma conducted_insertMembers {users : List Uuid} {m : Uuid → Member} {next : Program}
    (hid : id ≠ g) (h : Conducted g calm next) :
    Conducted g calm (insertMembers id users m next) := by
  refine .statement (fun view _ => calm_of_apart (fun user => ?_) ?_) fun view => ?_
  · exact insertedMembers_of_ne (by simp [Ne.symm hid]) (by simp)
  · exact insertedMembers_of_ne (by simp) (by simp [Ne.symm hid])
  · split_ifs
    · exact .fail
    · exact h

lemma conducted_update {k : Key} {f : Row k → Row k} {next : Option (Row k) → Program}
    (hc : ∀ view : Database, ∀ r, view k = some r → Calm g [] view (put k (f r)))
    (h : ∀ r, Conducted g calm (next r)) : Conducted g calm (update k f next) := by
  refine .statement (fun view _ => ?_) fun view => h _
  cases hr : view k with
  | none => exact calm_empty
  | some r => exact hc view r hr

lemma calm_put {k : Key} {r : Row k} {view : Database} (hm : ∀ user, k ≠ .member g user)
    (hc : k ≠ .conversation g) : Calm g [] view (put k r) :=
  calm_of_apart (fun user => put_of_ne r (Ne.symm (hm user))) (put_of_ne r (Ne.symm hc))

lemma calm_describe {f : Conversation → Conversation} {c : Conversation} {view : Database}
    (hf : (f c).ownerId = c.ownerId) (hc : view (.conversation g) = some c) :
    Calm g [] view (@put Key Row _ (.conversation g) (f c)) where
  member user x _ hx := by
    rw [@put_of_ne _ Row _ _ _ _ (by simp)] at hx
    cases hx
  conversation x hx := by
    rw [put_self] at hx
    exact ⟨c, f c, hc, (Option.some.inj hx).symm, hf⟩

lemma Composed.conducted {p : Program} (h : Composed calm p) : Conducted g calm p := by
  induction h with
  | done => exact .done
  | fail => exact .fail
  | commit _ ih => exact .commit ih
  | elsewhere hw _ ih =>
    refine .statement (fun view _ => calm_of_apart (fun user => ?_) ?_) ih
    · by_contra hx
      obtain ⟨x, hx⟩ := Option.ne_none_iff_exists'.mp hx
      exact hw view _ x hx
    · by_contra hx
      obtain ⟨x, hx⟩ := Option.ne_none_iff_exists'.mp hx
      exact hw view _ x hx
  | @describe _ id f _ hf _ ih =>
    refine conducted_update (fun view c hc => ?_) ih
    by_cases hid : id = g
    · subst hid
      exact calm_describe (hf c) hc
    · exact calm_put (by simp) (by simp [hid])
  | @rejoin _ id _ _ _ _ ih =>
    by_cases hid : id = g
    · subst hid
      exact .rejoin ih
    · exact conducted_updateMembers hid fun changed => (ih changed).weaken
  | @enter _ id _ _ _ _ _ _ ih =>
    by_cases hid : id = g
    · subst hid
      exact .enter (fun user => rfl) ih
    · exact conducted_insertMembers hid ih.weaken
  | @back _ id _ _ _ ih =>
    by_cases hid : id = g
    · subst hid
      exact .back ih
    · exact conducted_updateMembers hid fun changed => (ih changed).weaken
  | @leave _ id _ _ _ _ ih =>
    by_cases hid : id = g
    · subst hid
      exact .leave ih
    · exact conducted_updateMembers hid fun changed => (ih changed).weaken
  | @patch _ id _ _ _ hbody _ ih =>
    by_cases hid : id = g
    · subst hid
      exact .patch hbody ih
    · exact conducted_update (fun view r _ => calm_put (by simp [hid]) (by simp)) ih
  | @transfer _ id target _ _ ih =>
    by_cases hid : id = g
    · subst hid
      exact .transfer ih
    · refine conducted_update (fun view r _ => calm_put (by simp [hid]) (by simp))
        fun _ => conducted_update
          (fun view r _ => calm_put (by simp [hid]) (by simp)) fun _ => ?_
      refine .statement (fun view _ => ?_) fun view => ?_
      · split
        · split_ifs
          · exact calm_put (by simp) (by simp [hid])
          · exact calm_empty
        · exact calm_empty
      · split_ifs
        · exact .fail
        · exact ih.weaken

lemma conducted_insertBan {target : Uuid} {ban : Ban} {next : Program} (h : Conducted g calm next) :
    Conducted g calm (insertBan id target ban next) := by
  refine .statement (fun view _ => calm_of_apart (fun user => ?_) ?_) fun view => ?_
  · exact insertedBan_of_ne (by simp)
  · exact insertedBan_of_ne (by simp)
  · split_ifs
    · exact .fail
    · exact h

lemma conducted_banMember {actor target messageId : Uuid} {reason : Option String}
    {expiresAt : Option Time} {clock : Time} :
    Conducted g true (banMember permissions actor id target messageId reason expiresAt clock) := by
  have hread : ∀ {next : Database → Program}, (∀ view, Conducted g true (next view)) →
      Conducted g true (read next) := fun h => .statement (fun _ _ => calm_empty) h
  refine hread fun view => ?_
  split
  · exact .fail
  · split_ifs
    · exact .fail
    · refine hread fun view' => ?_
      split_ifs
      · exact .fail
      · exact conducted_insertBan (.commit composed_removeMember.conducted)
      · exact conducted_insertBan (.commit .done)

lemma conducted_unbanMember {actor target : Uuid} :
    Conducted g true (unbanMember permissions actor id target) := by
  refine .statement (fun _ _ => calm_empty) fun view => ?_
  split_ifs
  · exact .fail
  · exact .fail
  · exact .statement (fun v _ => calm_of_apart (fun user => delete_of_ne (by simp))
      (delete_of_ne (by simp))) fun v => .commit .done

lemma MembershipRequest.conducted {p : Program} (h : MembershipRequest permissions p) :
    Conducted g true p := by
  cases h with
  | addMembers => exact composed_addMembers.conducted
  | joinInvite => exact composed_joinInvite.conducted
  | joinPublic => exact composed_joinPublic.conducted
  | removeMember => exact composed_removeMember.conducted
  | patchMember => exact composed_patchMember.conducted
  | transferOwnership => exact composed_transferOwnership.conducted
  | banMember => exact conducted_banMember
  | unbanMember => exact conducted_unbanMember

end Requests

/-! ## Founding -/

section Founding
variable {g actor messageId : Uuid} {clock : Time} {view : Database} {next : Program}
  {post : Database → Program → Prop}

end Founding

namespace Sample

def people : Database :=
  Rows.on [.user 7, .user 8, .user 9] fun
    | .user _ => some ⟨none, none⟩
    | _ => none

def everything (_ : Database) (_ _ : Uuid) : ℕ := Permissions.allPermissions

def club : Database :=
  ((Server.idle people).play (.start 0 (create 1 7 100 ⟨.group, [8], none, 0, none⟩ (fun _ => true) 3) ::
    List.replicate 6 (.go 0))).rows

end Sample

section Mindful
variable {g o target : Uuid} {view : Database} {writes : Database → Changes}
  {next : Database → Program} {rest : List Uuid → Program}

end Mindful

namespace Sample

def leaving : Server Row :=
  (Server.idle club).set 0 ⟨.empty, removeMember everything 8 1 8 200 5⟩

end Sample

end Yappy.Tables
