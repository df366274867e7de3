import Yappy.PermissionFastPath
import Yappy.PermissionBots
import Yappy.Runs

/-!
# What a session hears

One session of one user, from its IDENTIFY on: the conversations it is on its way into, those whose
topic it is in, what `dropConversation` knows of them, and the events that evict. The API writes
between any two of its steps. Evictions are `member.remove`, which commits with the removal, and
`conversation.delete`, which is published after it.
-/
namespace Yappy.Access
open Permissions (Uuid Time Database Conversation ConversationMember Request)
open Permissions.Sql (conversationViewers memberships)

/-- An event that the gateway takes a subscription away for. -/
inductive Notice
  | memberRemove (conversationId userId : Uuid)
  | conversationDelete (userId id : Uuid)
  deriving DecidableEq

structure World where
  db : Database
  bus : List Notice
  /-- Removals whose `conversation.delete` is still to be published. -/
  owed : List (Uuid × Uuid)
  identified : Bool
  /-- Answers of the membership query, with the parent, that `add` has not resolved for. -/
  pending : List (Uuid × Option Uuid)
  /-- Those for which it has, before `addConversations` goes on. -/
  entering : List (Uuid × Option Uuid)
  topics : Finset Uuid
  conversations : Finset Uuid
  parentOf : Uuid → Option (Option Uuid)

def isActive (db : Database) (id userId : Uuid) : Bool :=
  (db.memberRow id userId).any fun m => m.leftAt.isNone

def removed (db : Database) (r : Request) : List (Uuid × Uuid) :=
  match r.operation with
  | .removeMember id userId | .banMember id userId .. =>
    if isActive db id userId && !isActive (r.run db).1 id userId then [(id, userId)] else []
  | _ => []

/-- `coalesce(parent_id, id)`. -/
def scopeOf (db : Database) (id : Uuid) : Uuid :=
  ((db.conversations.find id).bind Conversation.parentId).getD id

namespace World
variable (user : Uuid) (w : World)

/-- The membership query of `handleIdentify`, once the session is in its user topic. -/
def identify : World := { w with identified := true, pending := w.pending ++ memberships w.db user }

def subscribe (id : Uuid) : World :=
  { w with pending := w.pending ++ ((memberships w.db user).find? fun m => m.1 = id).toList }

/-- `sessions.add` in `add`. At most 32 are on their way at a time, in any order. -/
def enter (m : Uuid × Option Uuid) : World :=
  { w with
    pending := w.pending.erase m
    entering := w.entering ++ [m]
    topics := insert m.1 w.topics }

def record (m : Uuid × Option Uuid) : World :=
  { w with
    entering := w.entering.erase m
    conversations := insert m.1 w.conversations
    parentOf := Function.update w.parentOf m.1 (some m.2) }

def unsubscribe (id : Uuid) : World :=
  { w with
    topics := w.topics.erase id
    conversations := w.conversations.erase id
    parentOf := Function.update w.parentOf id none }

def request (r : Request) : World :=
  { w with
    db := (r.run w.db).1
    bus := w.bus ++ (removed w.db r).map fun e => .memberRemove e.1 e.2
    owed := w.owed ++ removed w.db r }

def publish (e : Uuid × Uuid) : World :=
  { w with owed := w.owed.erase e, bus := w.bus ++ [.conversationDelete e.2 e.1] }

/-- What `dropConversation` takes: the conversation, and every channel of it that is on record. -/
def gone (id : Uuid) : Finset Uuid :=
  w.conversations.filter fun c => c = id ∨ w.parentOf c = some (some id)

def dropConversation (id : Uuid) : World :=
  { w with
    topics := w.topics \ w.gone id
    conversations := w.conversations \ w.gone id
    parentOf := fun c => if c ∈ w.gone id then none else w.parentOf c }

def handle (n : Notice) : World :=
  match n with
  | .memberRemove conversationId userId =>
    if conversationId ∈ w.topics ∧ userId = user then w.dropConversation conversationId else w
  | .conversationDelete userId id => if userId = user then w.dropConversation id else w

def lose (n : Notice) : World := { w with bus := w.bus.erase n }

def deliver (n : Notice) : World := (w.lose n).handle user n

end World

inductive Event
  | identify
  | subscribe (id : Uuid)
  | enter (m : Uuid × Option Uuid)
  | record (m : Uuid × Option Uuid)
  | unsubscribe (id : Uuid)
  | request (r : Request)
  | publish (e : Uuid × Uuid)
  | deliver (n : Notice)
  | lose (n : Notice)

inductive Step (user : Uuid) : World → Event → World → Prop
  | identify {w : World} (h : w.identified = false) : Step user w .identify (w.identify user)
  | subscribe {w : World} {id : Uuid} (h : w.identified = true) :
      Step user w (.subscribe id) (w.subscribe user id)
  | enter {w : World} {m : Uuid × Option Uuid} (h : m ∈ w.pending) :
      Step user w (.enter m) (w.enter m)
  | record {w : World} {m : Uuid × Option Uuid} (h : m ∈ w.entering) :
      Step user w (.record m) (w.record m)
  | unsubscribe {w : World} {id : Uuid} : Step user w (.unsubscribe id) (w.unsubscribe id)
  | request {w : World} {r : Request} : Step user w (.request r) (w.request r)
  | publish {w : World} {e : Uuid × Uuid} (h : e ∈ w.owed) : Step user w (.publish e) (w.publish e)
  | deliver {w : World} {n : Notice} (h : n ∈ w.bus) : Step user w (.deliver n) (w.deliver user n)
  | lose {w : World} {n : Notice} (h : n ∈ w.bus) : Step user w (.lose n) (w.lose n)

def World.start (db : Database) : World := ⟨db, [], [], false, [], [], ∅, ∅, fun _ => none⟩

/-- A `conversation.delete` of `g` is on its way to the user. -/
def Due (user : Uuid) (w : World) (g : Uuid) : Prop :=
  .conversationDelete user g ∈ w.bus ∨ (g, user) ∈ w.owed

def OnTheWay (w : World) (id : Uuid) : Prop := ∃ p, (id, p) ∈ w.pending

def IsRemoval (r : Request) : Prop :=
  match r.operation with
  | .removeMember .. | .banMember .. => True
  | _ => False

/-- No write but a removal hides a conversation that the session is in or on its way into; and when
an eviction is handled, whatever it evicts from is on record, so that none is left behind, or the
user may be there again, or another eviction is to come. -/
def Covered (user : Uuid) (w : World) : Event → Prop
  | .request r => IsRemoval r ∨ ∀ id, id ∈ w.topics ∨ OnTheWay w id →
      user ∈ conversationViewers w.db id → user ∈ conversationViewers (r.run w.db).1 id
  | .deliver n => ∀ g, n = .conversationDelete user g → ∀ id, scopeOf w.db id = g →
      OnTheWay w id ∨ (∃ p, (id, p) ∈ w.entering) →
      user ∈ conversationViewers w.db id ∨ Due user (w.lose n) g
  | .lose n => ∀ g, n = .conversationDelete user g → ∀ id, scopeOf w.db id = g →
      OnTheWay w id ∨ id ∈ w.topics → user ∈ conversationViewers w.db id ∨ Due user (w.lose n) g
  | .identify | .subscribe _ | .enter _ | .record _ | .unsubscribe _ | .publish _ => True

/-! ### Reads and writes of the database -/

section Tables
variable {db db' : Database} {user id g : Uuid} {r : Request}

lemma membership_viewer {p : Option Uuid} (h : (id, p) ∈ memberships db user) :
    user ∈ conversationViewers db id ∧ p.getD id = scopeOf db id := by
  obtain ⟨c, hc, he⟩ := List.mem_map.mp h
  obtain ⟨rfl, rfl⟩ := Prod.mk.inj he
  obtain ⟨hrow, hc⟩ := List.mem_filter.mp hc
  simp only [Bool.and_eq_true, Bool.or_eq_true, decide_eq_true_eq, Bool.not_eq_true'] at hc
  obtain ⟨⟨hlive, hmember⟩, hview⟩ := hc
  have hfind : db.conversations.find c.id = some c := KeyedTable.find_eq_some.mpr ⟨hrow, rfl⟩
  refine ⟨?_, by rw [scopeOf, hfind, Option.bind_some]⟩
  rcases hview with hopen | hview
  · rw [Permissions.Sql.ungated_viewers hfind hlive hopen, Permissions.Sql.isActiveMember_iff]
    obtain ⟨m, hm, hkey⟩ := List.any_eq_true.mp hmember
    simp only [Bool.and_eq_true, decide_eq_true_eq, and_assoc] at hkey
    exact ⟨m, hm, hkey⟩
  · obtain ⟨v, hv, he⟩ := List.any_eq_true.mp hview
    rwa [decide_eq_true_eq.mp he] at hv

lemma scopeOf_congr (h : db'.conversations = db.conversations) : scopeOf db' id = scopeOf db id := by
  rw [scopeOf, h, scopeOf]

lemma scopeOf_update {p : Conversation → Bool} {f : Conversation → Conversation}
    {hf : ∀ c, (f c).id = c.id} (h : db'.conversations = db.conversations.update p f hf)
    (hparent : ∀ c, (f c).parentId = c.parentId) : scopeOf db' id = scopeOf db id := by
  rw [scopeOf, h, KeyedTable.find_update, scopeOf]
  cases db.conversations.find id with
  | none => rfl
  | some c =>
    simp only [Option.map_some, Option.bind_some]
    split_ifs
    · rw [hparent]
    · rfl

lemma scopeOf_run (db : Database) (r : Request) : scopeOf (r.run db).1 id = scopeOf db id := by
  obtain ⟨actor, clock, operation⟩ := r
  have hsame : ∀ {x : Except Permissions.AppError Database},
      (∀ db', x = .ok db' → scopeOf db' id = scopeOf db id) →
      scopeOf (Request.attempt db x).1 id = scopeOf db id := by
    intro x h
    cases x with
    | error => rfl
    | ok db' => exact h db' rfl
  cases operation with
  | createRole =>
    refine hsame fun db' h => ?_
    obtain ⟨-, -, -, -, -, -, hc, -⟩ := Database.createRole_ok h
    exact scopeOf_congr hc
  | patchRole =>
    refine hsame fun db' h => ?_
    obtain ⟨-, -, -, -, -, -, -, hc, -⟩ := Database.patchRole_ok h
    exact scopeOf_congr hc
  | deleteRole =>
    refine hsame fun db' h => ?_
    obtain ⟨-, -, -, -, -, -, -, -, hc, -⟩ := Database.deleteRole_ok h
    exact scopeOf_congr hc
  | setMemberRoles =>
    refine hsame fun db' h => ?_
    obtain ⟨-, -, -, -, -, hc, -⟩ := Database.setMemberRoles_ok h
    exact scopeOf_congr hc
  | setOverwrite =>
    refine hsame fun db' h => ?_
    obtain ⟨-, -, -, -, -, -, hc, -⟩ := Database.setOverwrite_ok h
    exact scopeOf_congr hc
  | deleteOverwrite =>
    refine hsame fun db' h => ?_
    obtain ⟨-, -, -, -, hc, -⟩ := Database.deleteOverwrite_ok h
    exact scopeOf_congr hc
  | patchMember =>
    refine hsame fun db' h => ?_
    obtain ⟨-, -, -, -, -, -, -, -, -, -, -, -, -, hc, -⟩ := Database.patchMember_ok h
    exact scopeOf_congr hc
  | patchConversation =>
    refine hsame fun db' h => ?_
    obtain ⟨-, base, -, -, -, hc, -⟩ := Database.patchConversation_ok h
    exact scopeOf_update hc fun _ => rfl
  | transferOwnership =>
    refine hsame fun db' h => ?_
    obtain ⟨-, -, -, -, hc, -⟩ := Database.transferOwnership_ok h
    exact scopeOf_update hc fun _ => rfl
  | joinInvite =>
    refine hsame fun db' h => ?_
    rcases Database.joinInvite_ok h with rfl | ⟨-, -, -, -, -, -, -, hc, -⟩
    · rfl
    · exact scopeOf_congr hc
  | removeMember =>
    refine hsame fun db' h => ?_
    obtain ⟨-, -, -, rfl⟩ := Database.removeMember_ok h
    rfl
  | banMember id' userId reason expiresAt =>
    obtain ⟨-, hc, -⟩ := Database.banMember_spec
      (rfl : db.banMember actor id' userId reason expiresAt clock = (_, _))
    exact scopeOf_congr hc

lemma permissionInput_withLeft {target : Uuid} {t : Time}
    (hm : db'.conversationMembers = Database.withLeft db g target t)
    (hroles : db'.conversationRoles = db.conversationRoles)
    (hmr : db'.memberRoles = db.memberRoles)
    (ho : db'.conversationRoleOverwrites = db.conversationRoleOverwrites) (c : Conversation)
    (a : ConversationMember) : db'.permissionInput c user a = db.permissionInput c user a := by
  have hrow : db'.memberRow c.id user = (db.memberRow c.id user).map fun m =>
      if decide (m.key = (g, target) ∧ m.leftAt = none) = true then m.gone t else m := by
    rw [Database.memberRow, hm]
    exact KeyedTable.find_update ..
  simp only [Database.permissionInput, Database.roleAllow, Database.roleDeny,
    Database.roleOverwrites_congr ho hmr, Database.rolePermissions_congr hroles hmr, hrow]
  cases db.memberRow c.id user with
  | none => rfl
  | some m =>
    simp only [Option.map_some, Option.elim_some, Option.bind_some]
    split_ifs <;> rfl

structure Removes (db db' : Database) (g target : Uuid) : Prop where
  members : db'.conversationMembers = db.conversationMembers ∨
    ∃ t, db'.conversationMembers = Database.withLeft db g target t
  conversations : db'.conversations = db.conversations
  roles : db'.conversationRoles = db.conversationRoles
  memberRoles : db'.memberRoles = db.memberRoles
  overwrites : db'.conversationRoleOverwrites = db.conversationRoleOverwrites

lemma removal_spec (hr : IsRemoval r) : ∃ g target, Removes db (r.run db).1 g target ∧
    removed db r =
      if isActive db g target && !isActive (r.run db).1 g target then [(g, target)] else [] := by
  obtain ⟨actor, clock, operation⟩ := r
  cases operation with
  | removeMember g target =>
    refine ⟨g, target, ?_, rfl⟩
    change Removes db (Request.attempt db (db.removeMember actor g target clock)).1 g target
    cases h : db.removeMember actor g target clock with
    | error => exact ⟨Or.inl rfl, rfl, rfl, rfl, rfl⟩
    | ok db' =>
      obtain ⟨-, -, -, rfl⟩ := Database.removeMember_ok h
      exact ⟨Or.inr ⟨clock, rfl⟩, rfl, rfl, rfl, rfl⟩
  | banMember g target reason expiresAt =>
    obtain ⟨hm, hc, hroles, hmr, ho, -⟩ := Database.banMember_spec
      (rfl : db.banMember actor g target reason expiresAt clock = (_, _))
    exact ⟨g, target, ⟨hm.imp_right fun h => ⟨clock, h⟩, hc, hroles, hmr, ho⟩, rfl⟩
  | createRole | patchRole | deleteRole | setMemberRoles | setOverwrite | deleteOverwrite
  | patchMember | patchConversation | transferOwnership | joinInvite => exact hr.elim

lemma Removes.viewer {target : Uuid} (h : Removes db db' g target)
    (hview : user ∈ conversationViewers db id)
    (hkept : db'.memberRow (scopeOf db id) user = db.memberRow (scopeOf db id) user) :
    user ∈ conversationViewers db' id := by
  obtain ⟨c, a, hc, hlive, ha, hin, hp⟩ := (Permissions.Sql.mem_conversationViewers 0).mp hview
  have hscope : scopeOf db id = c.scope := by
    rw [scopeOf, hc, Option.bind_some, ← KeyedTable.find_key hc]
    rfl
  refine (Permissions.Sql.mem_conversationViewers 0).mpr ⟨c, a, h.conversations ▸ hc, hlive, ?_, hin, ?_⟩
  · rw [Database.authority_eq_memberRow] at ha ⊢
    rw [← hscope, hkept, hscope, ha]
  · rcases h.members with hm | ⟨t, hm⟩
    · rwa [show db'.permissionInput c user a = db.permissionInput c user a by
        simp only [Database.permissionInput, Database.roleAllow, Database.roleDeny,
          Database.roleOverwrites_congr h.overwrites h.memberRoles,
          Database.rolePermissions_congr h.roles h.memberRoles, Database.memberRow, hm]]
    · rwa [permissionInput_withLeft hm h.roles h.memberRoles h.overwrites]

lemma removal_hides (hr : IsRemoval r) (h : user ∈ conversationViewers db id)
    (h' : user ∉ conversationViewers (r.run db).1 id) : (scopeOf db id, user) ∈ removed db r := by
  obtain ⟨g, target, hremoves, hremoved⟩ := @removal_spec db r hr
  have hrow : ∀ k, db.memberRow k user ≠ (r.run db).1.memberRow k user → k = g ∧ user = target ∧
      ∃ m t, db.memberRow k user = some m ∧ m.leftAt = none ∧
        (r.run db).1.memberRow k user = some (m.gone t) := by
    intro k hne
    rcases hremoves.members with hm | ⟨t, hm⟩
    · exact absurd (by rw [Database.memberRow, Database.memberRow, hm]) hne
    · have hfind : (r.run db).1.memberRow k user = (db.memberRow k user).map fun m =>
          if decide (m.key = (g, target) ∧ m.leftAt = none) = true then m.gone t else m := by
        rw [Database.memberRow, hm]
        exact KeyedTable.find_update ..
      rw [hfind] at hne ⊢
      cases hdb : db.memberRow k user with
      | none =>
        rw [hdb] at hne
        exact absurd rfl hne
      | some m =>
        rw [hdb] at hne
        by_cases hgone : m.key = (g, target) ∧ m.leftAt = none
        · have hkey : m.key = (k, user) := KeyedTable.find_key hdb
          rw [hkey] at hgone
          obtain ⟨hk, hin⟩ := hgone
          obtain ⟨rfl, rfl⟩ := Prod.mk.inj hk
          exact ⟨rfl, rfl, m, t, rfl, hin, by simp [hkey, hin]⟩
        · exact absurd (by simp [hgone]) hne
  by_cases hkept : (r.run db).1.memberRow (scopeOf db id) user = db.memberRow (scopeOf db id) user
  · exact absurd (hremoves.viewer h hkept) h'
  · obtain ⟨hg, hu, m, t, hm, hin, hgone⟩ := hrow _ (Ne.symm hkept)
    have hwas : isActive db g target = true := by
      rw [← hg, ← hu, isActive, hm]
      simp [hin]
    have hnow : isActive (r.run db).1 g target = false := by
      rw [← hg, ← hu, isActive, hgone]
      rfl
    rw [hremoved, hwas, hnow, hg, hu]
    exact List.mem_singleton_self _

end Tables

/-! ### Runs -/

structure Guarded (user : Uuid) (w : World) : Prop where
  viewed : ∀ id, id ∈ w.topics ∨ OnTheWay w id →
    user ∈ conversationViewers w.db id ∨ Due user w (scopeOf w.db id)
  placed : ∀ id p, (id, p) ∈ w.pending ∨ (id, p) ∈ w.entering → p.getD id = scopeOf w.db id
  recorded : ∀ id ∈ w.conversations, ∃ p, w.parentOf id = some p ∧ p.getD id = scopeOf w.db id
  entered : ∀ id ∈ w.topics, id ∈ w.conversations ∨ ∃ p, (id, p) ∈ w.entering

section Steps
variable {user id g : Uuid} {w w' : World} {m : Uuid × Option Uuid} {n : Notice} {event : Event}
  {r : Request}

lemma Guarded.asked (h : Guarded user w) {ms : List (Uuid × Option Uuid)}
    (hms : ∀ m ∈ ms, m ∈ memberships w.db user) (b : Bool) :
    Guarded user { w with identified := b, pending := w.pending ++ ms } := by
  refine ⟨fun id hid => ?_, fun id p hp => ?_, h.recorded, h.entered⟩
  · rcases hid with hid | ⟨p, hp⟩
    · exact h.viewed id (Or.inl hid)
    · rcases List.mem_append.mp hp with hp | hp
      · exact h.viewed id (Or.inr ⟨p, hp⟩)
      · exact Or.inl (membership_viewer (hms _ hp)).1
  · rcases hp with hp | hp
    · rcases List.mem_append.mp hp with hp | hp
      · exact h.placed id p (Or.inl hp)
      · exact (membership_viewer (hms _ hp)).2
    · exact h.placed id p (Or.inr hp)

lemma Guarded.enter (h : Guarded user w) (hm : m ∈ w.pending) : Guarded user (w.enter m) := by
  refine ⟨fun id hid => ?_, fun id p hp => ?_, h.recorded, fun id hid => ?_⟩
  · rcases hid with hid | ⟨p, hp⟩
    · rcases Finset.mem_insert.mp hid with rfl | hid
      · exact h.viewed _ (Or.inr ⟨m.2, hm⟩)
      · exact h.viewed id (Or.inl hid)
    · exact h.viewed id (Or.inr ⟨p, List.mem_of_mem_erase hp⟩)
  · rcases hp with hp | hp
    · exact h.placed id p (Or.inl (List.mem_of_mem_erase hp))
    · rcases List.mem_append.mp hp with hp | hp
      · exact h.placed id p (Or.inr hp)
      · obtain rfl := List.mem_singleton.mp hp
        exact h.placed id p (Or.inl hm)
  · rcases Finset.mem_insert.mp hid with rfl | hid
    · exact Or.inr ⟨m.2, List.mem_append_right _ (List.mem_singleton_self _)⟩
    · exact (h.entered id hid).imp_right fun ⟨p, hp⟩ => ⟨p, List.mem_append_left _ hp⟩

lemma Guarded.record (h : Guarded user w) (hm : m ∈ w.entering) : Guarded user (w.record m) := by
  refine ⟨h.viewed, fun id p hp => ?_, fun id hid => ?_, fun id hid => ?_⟩
  · exact h.placed id p (hp.imp_right List.mem_of_mem_erase)
  · by_cases he : id = m.1
    · subst he
      exact ⟨m.2, Function.update_self .., h.placed m.1 m.2 (Or.inr hm)⟩
    · obtain ⟨p, hp, hscope⟩ := h.recorded id ((Finset.mem_insert.mp hid).resolve_left he)
      exact ⟨p, (Function.update_of_ne he ..).trans hp, hscope⟩
  · by_cases he : id = m.1
    · exact Or.inl (Finset.mem_insert.mpr (Or.inl he))
    · refine (h.entered id hid).imp (fun hc => Finset.mem_insert_of_mem hc) fun ⟨p, hp⟩ => ⟨p, ?_⟩
      exact (List.mem_erase_of_ne fun hpm => he (congrArg Prod.fst hpm)).mpr hp

lemma Guarded.unsubscribe (h : Guarded user w) : Guarded user (w.unsubscribe id) := by
  refine ⟨fun k hk => h.viewed k (hk.imp_left Finset.mem_of_mem_erase), h.placed, fun k hk => ?_,
    fun k hk => ?_⟩
  · obtain ⟨hne, hk⟩ := Finset.mem_erase.mp hk
    obtain ⟨p, hp, hscope⟩ := h.recorded k hk
    exact ⟨p, (Function.update_of_ne hne ..).trans hp, hscope⟩
  · obtain ⟨hne, hk⟩ := Finset.mem_erase.mp hk
    exact (h.entered k hk).imp_left fun hc => Finset.mem_erase.mpr ⟨hne, hc⟩

lemma Guarded.request (h : Guarded user w) (hok : Covered user w (.request r)) :
    Guarded user (w.request r) := by
  refine ⟨fun id hid => ?_, fun id p hp => ?_, fun id hid => ?_, h.entered⟩
  · change user ∈ conversationViewers (r.run w.db).1 id ∨ Due user (w.request r)
      (scopeOf (r.run w.db).1 id)
    rw [scopeOf_run]
    rcases h.viewed id hid with hview | hdue | hdue
    · rcases hok with hr | hkept
      · by_cases hview' : user ∈ conversationViewers (r.run w.db).1 id
        · exact Or.inl hview'
        · exact Or.inr (Or.inr (List.mem_append_right _ (removal_hides hr hview hview')))
      · exact Or.inl (hkept id hid hview)
    · exact Or.inr (Or.inl (List.mem_append_left _ hdue))
    · exact Or.inr (Or.inr (List.mem_append_left _ hdue))
  · exact (h.placed id p hp).trans (scopeOf_run w.db r).symm
  · obtain ⟨p, hp, hscope⟩ := h.recorded id hid
    exact ⟨p, hp, hscope.trans (scopeOf_run w.db r).symm⟩

lemma Guarded.publish (h : Guarded user w) (e : Uuid × Uuid) : Guarded user (w.publish e) := by
  refine ⟨fun id hid => (h.viewed id hid).imp_right fun hdue => ?_, h.placed, h.recorded, h.entered⟩
  rcases hdue with hdue | hdue
  · exact Or.inl (List.mem_append_left _ hdue)
  · by_cases he : (scopeOf w.db id, user) = e
    · subst he
      exact Or.inl (List.mem_append_right _ (List.mem_singleton_self _))
    · exact Or.inr ((List.mem_erase_of_ne he).mpr hdue)

lemma due_lose (h : Due user w g) (hne : n ≠ .conversationDelete user g) : Due user (w.lose n) g :=
  h.imp_left fun hb => (List.mem_erase_of_ne (Ne.symm hne)).mpr hb

lemma Guarded.lose (h : Guarded user w) (hok : Covered user w (.lose n)) :
    Guarded user (w.lose n) := by
  refine ⟨fun id hid => ?_, h.placed, h.recorded, h.entered⟩
  rcases h.viewed id hid with hview | hdue
  · exact Or.inl hview
  · by_cases hn : n = .conversationDelete user (scopeOf w.db id)
    · exact hok _ hn id rfl hid.symm
    · exact Or.inr (due_lose hdue hn)

lemma mem_gone (h : Guarded user w) (hid : id ∈ w.conversations) (hg : scopeOf w.db id = g) :
    id ∈ w.gone g := by
  obtain ⟨p, hp, hscope⟩ := h.recorded id hid
  refine Finset.mem_filter.mpr ⟨hid, ?_⟩
  rw [hg] at hscope
  cases p with
  | none => exact Or.inl hscope
  | some parent =>
    obtain rfl : parent = g := hscope
    exact Or.inr hp

lemma Guarded.dropped {v : World} (h : Guarded user w) (hdb : v.db = w.db)
    (hpending : v.pending = w.pending) (hentering : v.entering = w.entering)
    (htopics : v.topics = w.topics \ w.gone g)
    (hconversations : v.conversations = w.conversations \ w.gone g)
    (hparent : ∀ id, id ∉ w.gone g → v.parentOf id = w.parentOf id)
    (hviewed : ∀ id, (id ∈ w.topics ∧ id ∉ w.gone g) ∨ OnTheWay w id →
      user ∈ conversationViewers w.db id ∨ Due user v (scopeOf w.db id)) : Guarded user v := by
  refine ⟨fun id hid => ?_, fun id p hp => ?_, fun id hid => ?_, fun id hid => ?_⟩
  · rw [hdb]
    refine hviewed id (hid.imp (fun ht => ?_) fun ⟨p, hp⟩ => ⟨p, hpending ▸ hp⟩)
    rw [htopics] at ht
    exact Finset.mem_sdiff.mp ht
  · rw [hdb]
    rw [hpending, hentering] at hp
    exact h.placed id p hp
  · rw [hconversations] at hid
    obtain ⟨hid, hkept⟩ := Finset.mem_sdiff.mp hid
    rw [hparent id hkept, hdb]
    exact h.recorded id hid
  · rw [htopics] at hid
    obtain ⟨hid, hkept⟩ := Finset.mem_sdiff.mp hid
    rw [hconversations, hentering]
    exact (h.entered id hid).imp_left fun hc => Finset.mem_sdiff.mpr ⟨hc, hkept⟩

lemma Guarded.deliver (h : Guarded user w) (hok : Covered user w (.deliver n)) :
    Guarded user (w.deliver user n) := by
  cases n with
  | memberRemove conversationId userId =>
    have hlost : Guarded user (w.lose (.memberRemove conversationId userId)) :=
      h.lose fun g hg => by cases hg
    unfold World.deliver World.handle
    dsimp only
    split_ifs
    · exact hlost.dropped rfl rfl rfl rfl rfl (fun id hid => if_neg hid) fun id hid =>
        hlost.viewed id (hid.imp_left And.left)
    · exact hlost
  | conversationDelete userId g =>
    unfold World.deliver World.handle
    dsimp only
    split_ifs with hu
    · subst hu
      refine h.dropped rfl rfl rfl rfl rfl (fun id hid => if_neg hid) fun id hid => ?_
      rcases h.viewed id (hid.imp_left And.left) with hview | hdue
      · exact Or.inl hview
      · by_cases hg : scopeOf w.db id = g
        · -- of `g`, and still here: it is not on record
          refine (hok g rfl id hg ?_).imp_right fun hdue => ?_
          · rcases hid with ⟨ht, hkept⟩ | hway
            · exact Or.inr ((h.entered id ht).resolve_left fun hc => hkept (mem_gone h hc hg))
            · exact Or.inl hway
          · rw [hg]
            exact hdue
        · have hne : Notice.conversationDelete userId g ≠ .conversationDelete userId
              (scopeOf w.db id) := fun he => hg (Notice.conversationDelete.inj he).2.symm
          exact Or.inr (due_lose hdue hne)
    · exact h.lose fun g' hg' => absurd (Notice.conversationDelete.inj hg').1 hu

lemma Guarded.step (h : Guarded user w) (hok : Covered user w event) (hs : Step user w event w') :
    Guarded user w' := by
  cases hs with
  | identify => exact h.asked (fun m hm => hm) true
  | subscribe =>
    exact h.asked (fun m hm => List.mem_of_find?_eq_some (Option.mem_toList.mp hm)) w.identified
  | enter hm => exact h.enter hm
  | record hm => exact h.record hm
  | unsubscribe => exact h.unsubscribe
  | request => exact h.request hok
  | publish => exact h.publish _
  | deliver => exact h.deliver hok
  | lose => exact h.lose hok

lemma start_guarded (db : Database) : Guarded user (World.start db) where
  viewed id hid := by simp [World.start, OnTheWay] at hid
  placed id p hp := by simp [World.start] at hp
  recorded id hid := by simp [World.start] at hid
  entered id hid := by simp [World.start] at hid

/-- When everything that was published has been handled, and everything that is owed was published,
a session is in no topic that its user may not see. -/
theorem run_access {db : Database} (hrun : RunWhere (Step user) (Covered user) (.start db) w)
    (hbus : w.bus = []) (howed : w.owed = []) :
    ∀ id ∈ w.topics, user ∈ conversationViewers w.db id := by
  intro id hid
  have hguarded : Guarded user w :=
    hrun.invariant (start_guarded db) fun _ _ _ h hok hs => h.step hok hs
  rcases hguarded.viewed id (Or.inl hid) with hview | hdue | hdue
  · exact hview
  · rw [hbus] at hdue
    cases hdue
  · rw [howed] at hdue
    cases hdue

end Steps

namespace Sample
open Permissions.Sample (database)

def asked : World := (World.start database).identify 12

def settled (w : World) : World :=
  (((w.enter (1, none)).record (1, none)).enter (2, some 1)).record (2, some 1)

def kick : Request := ⟨10, 6, .removeMember 1 12⟩

def kicked (w : World) : World :=
  (((w.request kick).publish (1, 12)).deliver 12 (.memberRemove 1 12)).deliver 12
    (.conversationDelete 12 1)

def hide : Request := ⟨11, 7, .setOverwrite 2 20 ⟨none, some Permissions.Permission.viewConversation⟩⟩

variable {ok : World → Event → Prop}

lemma run_asked (hok : ∀ w, ok w .identify) : RunWhere (Step 12) ok (.start database) asked :=
  .head (hok _) (.identify rfl) (.refl _)

lemma run_settled {w : World} (hok : ∀ w m, ok w (.enter m) ∧ ok w (.record m))
    (hrun : RunWhere (Step 12) ok (.start database) w)
    (h₁ : (1, none) ∈ w.pending) (h₂ : (2, some 1) ∈ w.pending) :
    RunWhere (Step 12) ok (.start database) (settled w) := by
  have hin : RunWhere (Step 12) ok _ _ := hrun.tail (hok _ (1, none)).1 (.enter h₁)
  have hrecorded := hin.tail (hok _ (1, none)).2
    (.record (List.mem_append_right _ (List.mem_singleton_self _)))
  have h₂' : (2, some 1) ∈ ((w.enter (1, none)).record (1, none)).pending :=
    (List.mem_erase_of_ne (by decide)).mpr h₂
  have hchannel := hrecorded.tail (hok _ (2, some 1)).1 (.enter h₂')
  exact hchannel.tail (hok _ (2, some 1)).2
    (.record (List.mem_append_right _ (List.mem_singleton_self _)))

lemma run_kicked {w : World} (hrun : RunWhere (Step 12) (fun _ _ => True) (.start database) w)
    (howed : (1, 12) ∈ (w.request kick).owed)
    (hbus : .memberRemove 1 12 ∈ ((w.request kick).publish (1, 12)).bus)
    (hbus' : .conversationDelete 12 1 ∈
      (((w.request kick).publish (1, 12)).deliver 12 (.memberRemove 1 12)).bus) :
    RunWhere (Step 12) (fun _ _ => True) (.start database) (kicked w) := by
  have hrequest := hrun.tail trivial (@Step.request 12 w kick)
  have hpublish := hrequest.tail trivial (.publish howed)
  exact (hpublish.tail trivial (.deliver hbus)).tail trivial (.deliver hbus')

end Sample

open Sample in
/-- 12 hears the space and its channel, and may see both. -/
theorem run_access_settled : (settled asked).topics = {1, 2} ∧
    ∀ id ∈ (settled asked).topics, 12 ∈ conversationViewers (settled asked).db id :=
  ⟨by decide, run_access (run_settled (fun _ _ => ⟨trivial, trivial⟩) (run_asked fun _ => trivial)
    (by decide) (by decide)) rfl rfl⟩

open Sample in
/-- Nothing evicts a session from a channel that is hidden from its user; and a kick that is handled
between the query and the sets evicts it from nothing. -/
theorem hidden_and_kicked_still_hear :
    (∃ w, RunWhere (Step 12) (fun _ _ => True) (.start Permissions.Sample.database) w ∧
      w.bus = [] ∧ w.owed = [] ∧ 2 ∈ w.topics ∧ 12 ∉ conversationViewers w.db 2) ∧
    ∃ w, RunWhere (Step 12) (fun _ _ => True) (.start Permissions.Sample.database) w ∧
      w.bus = [] ∧ w.owed = [] ∧ 2 ∈ w.topics ∧ 12 ∉ conversationViewers w.db 2 := by
  constructor
  · refine ⟨(settled asked).request hide, ?_, rfl, rfl, by decide, by decide⟩
    exact (run_settled (fun _ _ => ⟨trivial, trivial⟩) (run_asked fun _ => trivial) (by decide)
      (by decide)).tail trivial .request
  · refine ⟨settled (kicked asked), ?_, rfl, rfl, by decide, by decide⟩
    have hkicked : RunWhere (Step 12) (fun _ _ => True) (.start Permissions.Sample.database)
        (kicked asked) :=
      run_kicked (run_asked fun _ => trivial) (by decide) (by decide) (by decide)
    exact run_settled (fun _ _ => ⟨trivial, trivial⟩) hkicked (by decide) (by decide)

end Yappy.Access
