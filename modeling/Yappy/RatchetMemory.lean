import Yappy.RatchetSession

/-!
# What decrypting costs the web client

`skipTo`, `turn` and `ratchetDecrypt` of `apps/webapp/src/lib/ratchet.ts` once more, as they run in memory: a
session is an object whose table of skipped keys is an object of its own, and that table is the only thing they
write to. Every step of a chain is counted.
-/
namespace Yappy.Ratchet

/-- The tables of skipped keys that there are, and the chain steps made so far. -/
structure Memory (P : Primitives) where
  tables : List (OrderedMap String P.Key)
  steps : ℕ

structure Object (P : Primitives) where
  deviceId : String
  rootKey : P.Key
  myRatchetPrivate : P.Secret
  myRatchetPublic : String
  theirRatchet : Option String
  sendChain : Option P.Key
  recvChain : Option P.Key
  sendCount : ℤ
  recvCount : ℤ
  previousSendCount : ℤ
  skipped : ℕ
  pending : Option PreKeyHeader

abbrev Op (P : Primitives) (α : Type) := Memory P → Option α × Memory P

namespace Op
variable {P : Primitives} {α β : Type}

def pure (a : α) : Op P α := fun m => (some a, m)

def null : Op P α := fun m => (none, m)

def bind (x : Op P α) (f : α → Op P β) : Op P β := fun m =>
  match x m with
  | (some a, m') => f a m'
  | (none, m') => (none, m')

instance : Monad (Op P) where
  pure := pure
  bind := bind

def lift : Option α → Op P α
  | some a => pure a
  | none => null

end Op

namespace Memory
variable {P : Primitives}

def chainStep (chainKey : P.Key) : Op P (P.Key × P.Key) := fun m =>
  (some (Ratchet.chainStep P chainKey), { m with steps := m.steps + 1 })

def copy (table : ℕ) : Op P ℕ := fun m =>
  (some m.tables.length, { m with tables := m.tables ++ [m.tables[table]?.getD ∅] })

def keys (table : ℕ) : Op P (List String) := fun m => (some (m.tables[table]?.elim [] OrderedMap.oldest), m)

def get (table : ℕ) (key : String) : Op P (Option P.Key) := fun m =>
  (some (m.tables[table]?.bind fun t => t.lookup key), m)

def set (table : ℕ) (key : String) (value : P.Key) : Op P Unit := fun m =>
  (some (), { m with tables := m.tables.modify table fun t => OrderedMap.set t key value })

def delete (table : ℕ) (key : String) : Op P Unit := fun m =>
  (some (), { m with tables := m.tables.modify table fun t => t.erase key })

end Memory

namespace Object
variable {P : Primitives} (C : Codec P)

/-- The `while` loop of `skipTo`. -/
def walk (table : ℕ) (theirs : String) : ℕ → P.Key → ℤ → Op P (P.Key × ℤ)
  | 0, chain, n => pure (chain, n)
  | k + 1, chain, n => do
    let step ← Memory.chainStep chain
    Memory.set table (skippedKey theirs n) step.1
    walk table theirs k step.2 (n + 1)

def deleteAll (table : ℕ) : List String → Op P Unit
  | [] => pure ()
  | key :: keys => do
    Memory.delete table key
    deleteAll table keys

def skipTo (o : Object P) (limit : ℤ) : Op P (Object P) :=
  match o.recvChain, o.theirRatchet with
  | some chain, some theirs =>
    if limit - o.recvCount > maxSkip then Op.null
    else do
      let skipped ← Memory.copy o.skipped
      let walked ← walk skipped theirs (limit - o.recvCount).toNat chain o.recvCount
      let keys ← Memory.keys skipped
      deleteAll skipped (keys.take (keys.length - maxSkippedKept))
      return { o with skipped := skipped, recvChain := some walked.1, recvCount := walked.2 }
  | _, _ => pure o

def turn (o : Object P) (theirRatchet : String) (myRatchet : P.Secret) : Option (Object P) := do
  let theirKey ← C.publicOf theirRatchet
  let dhReceive ← P.getSharedSecret o.myRatchetPrivate theirKey
  let afterReceive := rootStep P o.rootKey dhReceive
  let dhSend ← P.getSharedSecret myRatchet theirKey
  let afterSend := rootStep P afterReceive.1 dhSend
  some { o with
    previousSendCount := o.sendCount
    sendCount := 0
    recvCount := 0
    theirRatchet := some theirRatchet
    rootKey := afterSend.1
    myRatchetPrivate := myRatchet
    myRatchetPublic := P.keyText (P.getPublicKey myRatchet)
    recvChain := some afterReceive.2
    sendChain := some afterSend.2 }

def follow (o : Object P) (header : RatchetHeader) (myRatchet : P.Secret) : Op P (Object P) :=
  if some header.dh ≠ o.theirRatchet then do
    let closed ← skipTo o header.pn
    Op.lift (turn C closed header.dh myRatchet)
  else pure o

def ratchetDecrypt (o : Object P) (header : RatchetHeader) (ciphertext : P.Text) (aad : P.Bytes)
    (myRatchet : P.Secret) : Op P (Object P × String) := do
  let stored ← Memory.get o.skipped (skippedKey header.dh header.n)
  match stored with
  | some stored =>
    let plaintext ← Op.lift (openWith C stored aad ciphertext)
    let skipped ← Memory.copy o.skipped
    Memory.delete skipped (skippedKey header.dh header.n)
    return ({ o with skipped := skipped }, plaintext)
  | none =>
    let next ← follow C o header myRatchet
    let caughtUp ← skipTo next header.n
    let recvChain ← Op.lift caughtUp.recvChain
    let step ← Memory.chainStep recvChain
    let plaintext ← Op.lift (openWith C step.1 aad ciphertext)
    return ({ caughtUp with
      recvChain := some step.2
      recvCount := caughtUp.recvCount + 1
      pending := none }, plaintext)

end Object

/-! ## Objects and sessions -/

section Refinement
variable {P : Primitives} {C : Codec P} {α β γ δ : Type} {m m' : Memory P} {k : ℕ}

/-- The session that an object is, with this table. -/
def Object.session (o : Object P) (skipped : OrderedMap String P.Key) : Session P where
  deviceId := o.deviceId
  rootKey := o.rootKey
  myRatchetPrivate := o.myRatchetPrivate
  myRatchetPublic := o.myRatchetPublic
  theirRatchet := o.theirRatchet
  sendChain := o.sendChain
  recvChain := o.recvChain
  sendCount := o.sendCount
  recvCount := o.recvCount
  previousSendCount := o.previousSendCount
  skipped := skipped
  pending := o.pending

def Object.Reads (m : Memory P) (o : Object P) (session : Session P) : Prop :=
  ∃ t, m.tables[o.skipped]? = some t ∧ session = o.session t

/-- Every table is as it was, and this many chain steps more have been made. -/
structure Memory.Extends (m m' : Memory P) (k : ℕ) : Prop where
  tables : m.tables <+: m'.tables
  steps : m'.steps = m.steps + k

lemma Memory.Extends.refl (m : Memory P) : m.Extends m 0 := ⟨List.prefix_rfl, rfl⟩

lemma Memory.Extends.trans {m'' : Memory P} {k' : ℕ} (h : m.Extends m' k) (h' : m'.Extends m'' k') :
    m.Extends m'' (k + k') := ⟨h.tables.trans h'.tables, by rw [h'.steps, h.steps, Nat.add_assoc]⟩

lemma Object.Reads.extends {o : Object P} {session : Session P} (h : o.Reads m session)
    (hm : m.Extends m' k) : o.Reads m' session := by
  obtain ⟨t, ht, rfl⟩ := h
  obtain ⟨more, hmore⟩ := hm.tables
  exact ⟨t, hmore ▸ (List.getElem?_append_left (List.getElem?_eq_some_iff.mp ht).1).trans ht, rfl⟩

/-- From a memory an operation leaves every table as it was, makes this many chain steps, and ends as the
function without memory does. -/
structure Op.Ends (x : Op P α) (m : Memory P) (k : ℕ) (r : Option β) (R : Memory P → α → β → Prop) : Prop where
  extends_ : m.Extends (x m).2 k
  result : Option.Rel (R (x m).2) (x m).1 r

lemma Op.bind_some {x : Op P α} {f : α → Op P γ} {a : α} (h : x m = (some a, m')) :
    (x >>= f) m = f a m' := by
  change Op.bind x f m = _
  rw [Op.bind, h]

lemma Op.bind_none {x : Op P α} {f : α → Op P γ} (h : x m = (none, m')) : (x >>= f) m = (none, m') := by
  change Op.bind x f m = _
  rw [Op.bind, h]

namespace Op.Ends
variable {x : Op P α} {r : Option β} {R : Memory P → α → β → Prop} {S : Memory P → γ → δ → Prop}

lemma pure {a : α} {b : β} (h : R m a b) : Ends (Op.pure a) m 0 (some b) R := ⟨.refl m, .some h⟩

lemma null : Ends (Op.null : Op P α) m 0 (none : Option β) R := ⟨.refl m, .none⟩

lemma lift {a : Option α} (h : Option.Rel (R m) a r) : Ends (Op.lift a) m 0 r R := by
  cases h with
  | some h => exact pure h
  | none => exact null

lemma bind {f : α → Op P γ} {g : β → Option δ} {k' : β → ℕ} (hx : Ends x m k r R)
    (hf : ∀ a b m', m.Extends m' k → R m' a b → r = some b → Ends (f a) m' (k' b) (g b) S) :
    Ends (x >>= f) m (k + r.elim 0 k') (r.bind g) S := by
  obtain ⟨hm, hr⟩ := hx
  obtain ⟨out, m', hxm⟩ : ∃ out m', x m = (out, m') := ⟨_, _, rfl⟩
  rw [hxm] at hm hr
  cases hr with
  | @some a b hab =>
    have hfa := hf a b m' hm hab rfl
    have hrun := @Op.bind_some P α γ m m' x f a hxm
    exact ⟨hrun ▸ hm.trans hfa.extends_, hrun ▸ hfa.result⟩
  | none =>
    have hrun := @Op.bind_none P α γ m m' x f hxm
    exact ⟨hrun ▸ hm, hrun ▸ .none⟩

lemma congr {y : Op P α} (h : x m = y m) (hy : Ends y m k r R) : Ends x m k r R :=
  ⟨h ▸ hy.extends_, h ▸ hy.result⟩

lemma of_eq {a : α} {b : β} (h : x m = (some a, m')) (hm : m.Extends m' k) (hab : R m' a b) :
    Ends x m k (some b) R := ⟨h ▸ hm, h ▸ .some hab⟩

end Op.Ends

/-! ## Each operation -/

lemma modify_last {ι : Type} (ts : List ι) (t : ι) (f : ι → ι) :
    (ts ++ [t]).modify ts.length f = ts ++ [f t] := by
  induction ts with
  | nil => rfl
  | cons u ts ih => exact congrArg (u :: ·) ih

section Binds
variable {table : ℕ} {key : String}

lemma lift_bind {a : α} (f : α → Op P γ) : (Op.lift (some a) >>= f) m = f a m := rfl

lemma chainStep_bind {chain : P.Key} (f : P.Key × P.Key → Op P γ) :
    (Memory.chainStep chain >>= f) m = f (chainStep P chain) { m with steps := m.steps + 1 } := rfl

lemma copy_bind (f : ℕ → Op P γ) : (Memory.copy table >>= f) m =
    f m.tables.length { m with tables := m.tables ++ [m.tables[table]?.getD ∅] } := rfl

lemma keys_bind (f : List String → Op P γ) :
    (Memory.keys table >>= f) m = f (m.tables[table]?.elim [] OrderedMap.oldest) m := rfl

lemma get_bind (f : Option P.Key → Op P γ) :
    (Memory.get table key >>= f) m = f (m.tables[table]?.bind fun t => t.lookup key) m := rfl

lemma set_bind {value : P.Key} (f : Unit → Op P γ) : (Memory.set table key value >>= f) m =
    f () { m with tables := m.tables.modify table fun t => OrderedMap.set t key value } := rfl

lemma delete_bind (f : Unit → Op P γ) : (Memory.delete table key >>= f) m =
    f () { m with tables := m.tables.modify table fun t => t.erase key } := rfl

end Binds

lemma Object.walk_run (theirs : String) (k : ℕ) (ts : List (OrderedMap String P.Key))
    (t : OrderedMap String P.Key) (steps : ℕ) (chain : P.Key) (n : ℤ) :
    Object.walk ts.length theirs k chain n ⟨ts ++ [t], steps⟩ =
      (some (skipLoop theirs k t chain n).2, ⟨ts ++ [(skipLoop theirs k t chain n).1], steps + k⟩) := by
  induction k generalizing t chain n steps with
  | zero => rfl
  | succ k ih =>
    unfold Object.walk
    simp only [chainStep_bind, set_bind, modify_last]
    rw [ih, Nat.add_right_comm]
    rfl

lemma Object.deleteAll_run (keys : List String) (ts : List (OrderedMap String P.Key))
    (t : OrderedMap String P.Key) (steps : ℕ) :
    Object.deleteAll ts.length keys ⟨ts ++ [t], steps⟩ =
      (some (), ⟨ts ++ [OrderedMap.eraseAll t keys], steps⟩) := by
  induction keys generalizing t with
  | nil => rfl
  | cons key keys ih =>
    unfold Object.deleteAll
    simp only [delete_bind, modify_last]
    exact ih _

def skipSteps (session : Session P) (limit : ℤ) : ℕ :=
  match session.recvChain, session.theirRatchet with
  | some _, some _ => if limit - session.recvCount > maxSkip then 0 else (limit - session.recvCount).toNat
  | _, _ => 0

lemma skipSteps_le (session : Session P) (limit : ℤ) : (skipSteps session limit : ℤ) ≤ maxSkip := by
  unfold skipSteps maxSkip
  split
  · split_ifs <;> omega
  · omega

lemma Object.skipTo_run {o : Object P} {t : OrderedMap String P.Key} {limit : ℤ} {chain : P.Key}
    {theirs : String} (ht : m.tables[o.skipped]? = some t) (hchain : o.recvChain = some chain)
    (htheirs : o.theirRatchet = some theirs) (hgap : ¬ limit - o.recvCount > maxSkip) :
    let walked := skipLoop theirs (limit - o.recvCount).toNat t chain o.recvCount
    o.skipTo limit m = (some { o with
        skipped := m.tables.length, recvChain := some walked.2.1, recvCount := walked.2.2 },
      ⟨m.tables ++ [OrderedMap.dropFirst (OrderedMap.oldest walked.1) maxSkippedKept walked.1],
        m.steps + (limit - o.recvCount).toNat⟩) := by
  intro walked
  have hkeys : ∀ t : OrderedMap String P.Key, (OrderedMap.oldest t).length = OrderedMap.size t :=
    fun t => List.length_reverse
  unfold Object.skipTo
  simp only [hchain, htheirs]
  rw [if_neg hgap, copy_bind, ht, Option.getD_some, Op.bind_some (Object.walk_run ..), keys_bind]
  dsimp only
  rw [List.getElem?_concat_length, Option.elim_some, Op.bind_some (Object.deleteAll_run ..), hkeys]
  rfl

lemma Object.skipTo_ends {o : Object P} {session : Session P} (h : o.Reads m session) (limit : ℤ) :
    (o.skipTo limit).Ends m (skipSteps session limit) (Ratchet.skipTo session limit) Object.Reads := by
  obtain ⟨t, ht, rfl⟩ := h
  cases hchain : o.recvChain with
  | none =>
    unfold Object.skipTo skipSteps Ratchet.skipTo
    simp only [Object.session, hchain]
    exact .pure ⟨t, ht, by simp only [Object.session, hchain]⟩
  | some chain =>
    cases htheirs : o.theirRatchet with
    | none =>
      unfold Object.skipTo skipSteps Ratchet.skipTo
      simp only [Object.session, hchain, htheirs]
      exact .pure ⟨t, ht, by simp only [Object.session, hchain, htheirs]⟩
    | some theirs =>
      by_cases hgap : limit - o.recvCount > maxSkip
      · unfold Object.skipTo skipSteps Ratchet.skipTo
        simp only [Object.session, hchain, htheirs, if_pos hgap]
        exact .null
      · have hrun := Object.skipTo_run ht hchain htheirs hgap
        unfold skipSteps Ratchet.skipTo
        simp only [Object.session, hchain, htheirs, if_neg hgap]
        exact .of_eq hrun ⟨List.prefix_append .., rfl⟩
          ⟨_, List.getElem?_concat_length .., by simp only [Object.session, htheirs]⟩

lemma Object.turn_reads {o : Object P} {session : Session P} (h : o.Reads m session) (dh : String)
    (rnd : P.Secret) : Option.Rel (Object.Reads m) (o.turn C dh rnd) (Ratchet.turn C session dh rnd) := by
  obtain ⟨t, ht, rfl⟩ := h
  have hmine : (o.session t).myRatchetPrivate = o.myRatchetPrivate := rfl
  unfold Object.turn Ratchet.turn
  rw [hmine]
  cases C.publicOf dh with
  | none => exact .none
  | some theirKey =>
    simp only [Option.bind_eq_bind, Option.bind_some]
    cases P.getSharedSecret o.myRatchetPrivate theirKey with
    | none => exact .none
    | some dhReceive =>
      simp only [Option.bind_some]
      cases P.getSharedSecret rnd theirKey with
      | none => exact .none
      | some dhSend => exact .some ⟨t, ht, rfl⟩

/-- How many steps `ratchetDecrypt` makes before it reads a message in a chain. -/
def followSteps (session : Session P) (header : RatchetHeader) : ℕ :=
  if some header.dh ≠ session.theirRatchet then skipSteps session header.pn else 0

lemma Object.follow_ends {o : Object P} {session : Session P} (h : o.Reads m session)
    (header : RatchetHeader) (rnd : P.Secret) :
    (o.follow C header rnd).Ends m (followSteps session header) (Ratchet.follow C session header rnd)
      Object.Reads := by
  have htheirs : o.theirRatchet = session.theirRatchet := by
    obtain ⟨t, -, rfl⟩ := h
    rfl
  unfold Object.follow followSteps Ratchet.follow
  rw [htheirs]
  split_ifs with hnew
  · have hbind : Op.Ends (o.skipTo header.pn >>= fun closed => Op.lift (closed.turn C header.dh rnd)) m
        (skipSteps session header.pn + (Ratchet.skipTo session header.pn).elim 0 fun _ => 0)
        ((Ratchet.skipTo session header.pn).bind fun closed => Ratchet.turn C closed header.dh rnd)
        Object.Reads := (Object.skipTo_ends h header.pn).bind fun closed closed' m' _ hclosed _ =>
      Op.Ends.lift (Object.turn_reads hclosed header.dh rnd)
    have hzero : ∀ r : Option (Session P), (r.elim 0 fun _ => 0) = 0 := fun r => by cases r <;> rfl
    rw [hzero, Nat.add_zero] at hbind
    exact hbind
  · exact .pure h

def decryptSteps (C : Codec P) (session : Session P) (header : RatchetHeader) (rnd : P.Secret) : ℕ :=
  match session.skipped.lookup (skippedKey header.dh header.n) with
  | some _ => 0
  | none => followSteps session header + (Ratchet.follow C session header rnd).elim 0 fun next =>
      skipSteps next header.n + (Ratchet.skipTo next header.n).elim 0 fun caughtUp =>
        caughtUp.recvChain.elim 0 fun _ => 1

lemma decryptSteps_le (session : Session P) (header : RatchetHeader) (rnd : P.Secret) :
    (decryptSteps C session header rnd : ℤ) ≤ 2 * maxSkip + 1 := by
  have hfollow : (followSteps session header : ℤ) ≤ maxSkip := by
    unfold followSteps
    split_ifs
    · exact skipSteps_le ..
    · exact (by decide : (0 : ℤ) ≤ maxSkip)
  unfold decryptSteps
  split
  · exact (by decide : (0 : ℤ) ≤ 2 * maxSkip + 1)
  · cases Ratchet.follow C session header rnd with
    | none =>
      have hzero : (0 : ℤ) ≤ maxSkip := by decide
      simp only [Option.elim_none]
      omega
    | some next =>
      have hskip := skipSteps_le next header.n
      have hone : ((Ratchet.skipTo next header.n).elim 0 fun caughtUp =>
          caughtUp.recvChain.elim 0 fun _ => 1) ≤ 1 := by
        cases Ratchet.skipTo next header.n with
        | none => exact Nat.zero_le 1
        | some caughtUp => cases hc : caughtUp.recvChain <;> simp [hc]
      simp only [Option.elim_some]
      push_cast
      omega

def ReadsText (m : Memory P) (r : Object P × String) (r' : Session P × String) : Prop :=
  r.1.Reads m r'.1 ∧ r.2 = r'.2

lemma Object.open_ends {o : Object P} {session : Session P} (h : o.Reads m session)
    (ciphertext : P.Text) (aad : P.Bytes) :
    (Op.lift o.recvChain >>= fun recvChain => Memory.chainStep recvChain >>= fun step =>
      Op.lift (openWith C step.1 aad ciphertext) >>= fun plaintext => (Pure.pure ({ o with
        recvChain := some step.2, recvCount := o.recvCount + 1, pending := none }, plaintext) :
          Op P (Object P × String))).Ends m (session.recvChain.elim 0 fun _ => 1)
      (session.recvChain.bind fun recvChain =>
        (openWith C (chainStep P recvChain).1 aad ciphertext).bind fun plaintext =>
          some ({ session with
            recvChain := some (chainStep P recvChain).2
            recvCount := session.recvCount + 1
            pending := none }, plaintext)) ReadsText := by
  obtain ⟨t, ht, rfl⟩ := h
  have hsame : (o.session t).recvChain = o.recvChain := rfl
  rw [hsame]
  cases o.recvChain with
  | none => exact .null
  | some chain =>
    have hm : m.Extends { m with steps := m.steps + 1 } 1 := ⟨List.prefix_rfl, rfl⟩
    refine .congr (lift_bind _) ⟨?_, ?_⟩
    · rw [chainStep_bind]
      cases openWith C (chainStep P chain).1 aad ciphertext with
      | none => exact hm
      | some plaintext => exact hm
    · rw [chainStep_bind]
      dsimp only [Option.bind_some]
      cases openWith C (chainStep P chain).1 aad ciphertext with
      | none => exact .none
      | some plaintext => exact .some ⟨⟨t, ht, rfl⟩, rfl⟩

lemma Object.ratchetDecrypt_ends {o : Object P} {session : Session P} (h : o.Reads m session)
    (header : RatchetHeader) (ciphertext : P.Text) (aad : P.Bytes) (rnd : P.Secret) :
    (o.ratchetDecrypt C header ciphertext aad rnd).Ends m (decryptSteps C session header rnd)
      (Ratchet.ratchetDecrypt C session header ciphertext aad rnd) ReadsText := by
  have hreads := h
  obtain ⟨t, ht, rfl⟩ := h
  unfold Object.ratchetDecrypt decryptSteps Ratchet.ratchetDecrypt
  refine .congr (get_bind _) ?_
  rw [ht, Option.bind_some]
  change Op.Ends _ m (match t.lookup (skippedKey header.dh header.n) with
    | some _ => _
    | none => _) (match t.lookup (skippedKey header.dh header.n) with
    | some _ => _
    | none => _) _
  cases t.lookup (skippedKey header.dh header.n) with
  | some stored =>
    dsimp only
    cases openWith C stored aad ciphertext with
    | none => exact .null
    | some plaintext =>
      let shorter := t.erase (skippedKey header.dh header.n)
      have hm : m.Extends ⟨m.tables ++ [shorter], m.steps⟩ 0 := ⟨List.prefix_append .., rfl⟩
      have hr : ReadsText ⟨m.tables ++ [shorter], m.steps⟩ ({ o with skipped := m.tables.length }, plaintext)
          ({ o.session t with skipped := shorter }, plaintext) :=
        ⟨⟨_, List.getElem?_concat_length .., rfl⟩, rfl⟩
      refine .of_eq ?_ hm hr
      refine (lift_bind _).trans ((copy_bind _).trans ((delete_bind _).trans ?_))
      rw [ht, Option.getD_some, modify_last]
      rfl
  | none =>
    refine (Object.follow_ends hreads header rnd).bind fun next next' m' _ hnext _ => ?_
    refine (Object.skipTo_ends hnext header.n).bind fun caughtUp caughtUp' m'' _ hcaught _ => ?_
    exact Object.open_ends hcaught ciphertext aad

end Refinement

end Yappy.Ratchet
