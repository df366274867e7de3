import Mathlib

/-!
# The channels of a space

The routes of `apps/api/src/routes/spaces.ts` that create and delete a channel, for one space. Each counts the
channels in one statement and writes in a later one, and any number of requests are under way.
-/
namespace Yappy.SpaceChannels

/-- A row of `conversations` under the space. -/
structure Channel where
  id : ℕ
  deletedAt : Option ℕ
  deriving DecidableEq

def channelsPerSpace : ℕ := 100

/-- Where a request is. It remembers how many channels had been created, or deleted, when it first looked. -/
inductive Stage
  | waiting
  | counted (created : ℕ)
  | inserted (id created : ℕ)
  | found (channelId deleted : ℕ)
  | chosen (channelId deleted : ℕ)
  | updated (channelId : ℕ)
  | ended
  deriving DecidableEq

structure Space where
  channels : List Channel
  /-- The targets of the entries of `channel.delete`. -/
  audit : List ℕ
  requests : ℕ → Stage
  created : ℕ
  deleted : ℕ

def live (channels : List Channel) : ℕ := channels.countP (·.deletedAt = none)

def Space.move (s : Space) (k : ℕ) (stage : Stage) : Space :=
  { s with requests := Function.update s.requests k stage }

def Channel.delete (id now : ℕ) (c : Channel) : Channel :=
  if c.id = id then { c with deletedAt := some now } else c

inductive Event
  | createCount (k : ℕ)
  | insert (k id : ℕ)
  | commit (k : ℕ)
  | deleteRead (k channelId : ℕ)
  | deleteCount (k : ℕ)
  | update (k now : ℕ)
  | audit (k : ℕ)
  | fail (k : ℕ)

/-- One statement. A refusal and a statement that fails end the request; what is inserted is seen by others once
it is committed, and an id that exists is not inserted. -/
def Space.step (s : Space) : Event → Space
  | .createCount k =>
    if s.requests k = .waiting then
      s.move k (if channelsPerSpace ≤ live s.channels then .ended else .counted s.created)
    else s
  | .insert k id =>
    match s.requests k with
    | .counted created => s.move k (.inserted id created)
    | _ => s
  | .commit k =>
    match s.requests k with
    | .inserted id _ =>
      if id ∈ s.channels.map Channel.id then s.move k .ended
      else { s.move k .ended with channels := s.channels ++ [⟨id, none⟩], created := s.created + 1 }
    | _ => s
  | .deleteRead k channelId =>
    if s.requests k = .waiting then
      s.move k (if ⟨channelId, none⟩ ∈ s.channels then .found channelId s.deleted else .ended)
    else s
  | .deleteCount k =>
    match s.requests k with
    | .found channelId deleted => s.move k (if live s.channels ≤ 1 then .ended else .chosen channelId deleted)
    | _ => s
  | .update k now =>
    match s.requests k with
    | .chosen channelId _ =>
      { s.move k (.updated channelId) with
        channels := s.channels.map (Channel.delete channelId now), deleted := s.deleted + 1 }
    | _ => s
  | .audit k =>
    match s.requests k with
    | .updated channelId => { s.move k .ended with audit := s.audit ++ [channelId] }
    | _ => s
  | .fail k => s.move k .ended

def run (s : Space) (events : List Event) : Space := events.foldl Space.step s

def start (ids : List ℕ) : Space :=
  { channels := ids.map (⟨·, none⟩), audit := [], requests := fun _ => .waiting, created := 0, deleted := 0 }

/-- No other channel is created between the count of a creation and its commit, none is deleted between what a
deletion reads and its update, and the statement that writes the audit entry does not fail. -/
def Orderly (s : Space) : Event → Prop
  | .commit k => ∀ id created, s.requests k = .inserted id created → s.created = created
  | .update k _ => ∀ channelId deleted, s.requests k = .chosen channelId deleted → s.deleted = deleted
  | .fail k => ∀ channelId, s.requests k ≠ .updated channelId
  | _ => True

def OrderlyRun : Space → List Event → Prop
  | _, [] => True
  | s, e :: events => Orderly s e ∧ OrderlyRun (s.step e) events

def Space.Relies (s : Space) : Stage → Prop
  | .counted created | .inserted _ created =>
    created ≤ s.created ∧ (s.created = created → live s.channels < channelsPerSpace)
  | .found channelId deleted => deleted ≤ s.deleted ∧ (s.deleted = deleted → ⟨channelId, none⟩ ∈ s.channels)
  | .chosen channelId deleted =>
    deleted ≤ s.deleted ∧ (s.deleted = deleted → ⟨channelId, none⟩ ∈ s.channels ∧ 1 < live s.channels)
  | .updated channelId => (∃ c ∈ s.channels, c.id = channelId ∧ c.deletedAt ≠ none) ∧ channelId ∉ s.audit
  | _ => True

structure Space.Kept (s : Space) : Prop where
  distinct : (s.channels.map Channel.id).Nodup
  bounds : 1 ≤ live s.channels ∧ live s.channels ≤ channelsPerSpace
  relies : ∀ k, s.Relies (s.requests k)
  alone : ∀ k k' c, s.requests k = .updated c → s.requests k' = .updated c → k = k'
  audited : ∀ c ∈ s.channels, if c.deletedAt = none then c.id ∉ s.audit
    else s.audit.count c.id = 1 ∨ ∃ k, s.requests k = .updated c.id
  entries : s.audit.Nodup ∧ ∀ id ∈ s.audit, ∃ c ∈ s.channels, c.id = id

lemma relies_move (s : Space) (k : ℕ) (stage st : Stage) : (s.move k stage).Relies st ↔ s.Relies st := by
  cases st <;> rfl

lemma delete_id (id now : ℕ) (c : Channel) : (c.delete id now).id = c.id := by
  unfold Channel.delete
  split <;> rfl

lemma map_delete_id (id now : ℕ) (l : List Channel) :
    (l.map (Channel.delete id now)).map Channel.id = l.map Channel.id := by
  simp [Function.comp_def, delete_id]

lemma live_delete {id now : ℕ} {l : List Channel} (hl : (l.map Channel.id).Nodup) (hid : ⟨id, none⟩ ∈ l) :
    live (l.map (Channel.delete id now)) + 1 = live l := by
  induction l with
  | nil => nomatch hid
  | cons c l ih =>
    obtain ⟨hc, hl⟩ := List.nodup_cons.mp hl
    rcases List.mem_cons.mp hid with rfl | hid
    · have hrest : l.map (Channel.delete id now) = l :=
        (List.map_congr_left fun c hc' => if_neg fun he => hc (List.mem_map.mpr ⟨c, hc', he⟩)).trans
          (List.map_id l)
      simp [hrest, live, Channel.delete]
    · have hne : c.id ≠ id := fun he => hc (he ▸ List.mem_map_of_mem (f := Channel.id) hid)
      have := ih hl hid
      rw [List.map_cons, Channel.delete, if_neg hne, live, live, List.countP_cons, List.countP_cons]
      unfold live at this
      omega

namespace Space.Kept
variable {s : Space} {k : ℕ}

lemma inj (h : s.Kept) {c c' : Channel} (hc : c ∈ s.channels) (hc' : c' ∈ s.channels) (hid : c.id = c'.id) :
    c = c' :=
  List.inj_on_of_nodup_map h.distinct hc hc' hid

lemma move (h : s.Kept) {stage : Stage} (hnot : ∀ c, s.requests k ≠ .updated c)
    (hno : ∀ c, stage ≠ .updated c)
    (hr : s.Relies stage) : (s.move k stage).Kept where
  distinct := h.distinct
  bounds := h.bounds
  relies k' := by
    rw [relies_move]
    simp only [Space.move, Function.update_apply]
    split_ifs
    · exact hr
    · exact h.relies k'
  alone i j c hi hj := by
    simp only [Space.move, Function.update_apply] at hi hj
    split_ifs at hi hj
    · exact absurd hi (hno c)
    · exact absurd hi (hno c)
    · exact absurd hj (hno c)
    · exact h.alone i j c hi hj
  audited c hc := by
    have := h.audited c hc
    split_ifs at this ⊢
    · exact this
    · refine this.imp_right fun ⟨j, hj⟩ => ⟨j, ?_⟩
      have hne : j ≠ k := fun he => hnot c.id (he ▸ hj)
      simpa [Space.move, hne] using hj
  entries := h.entries

lemma commit (h : s.Kept) {id created : ℕ} (hk : s.requests k = .inserted id created)
    (hnew : id ∉ s.channels.map Channel.id)
    (hok : s.created = created) :
    Space.Kept { s.move k .ended with channels := s.channels ++ [⟨id, none⟩], created := s.created + 1 } := by
  have hat : (s.move k .ended).Kept := h.move (by simp [hk]) nofun trivial
  have hlt : live s.channels < channelsPerSpace := by
    have := h.relies k
    rw [hk] at this
    exact this.2 hok
  have hcount : live (s.channels ++ [⟨id, none⟩]) = live s.channels + 1 := by
    simp [live]
  have hbounds : 1 ≤ live (s.channels ++ [⟨id, none⟩]) ∧
    live (s.channels ++ [⟨id, none⟩]) ≤ channelsPerSpace := by
    omega
  refine ⟨?_, hbounds, fun k' => ?_, hat.alone, fun c hc => ?_, h.entries.1, fun i hi => ?_⟩
  · rw [List.map_append, List.nodup_append]
    exact ⟨h.distinct, by simp, fun a ha b hb he => hnew (by simp_all)⟩
  · have := hat.relies k'
    rw [relies_move] at this
    generalize (s.move k .ended).requests k' = stage at *
    cases stage <;> simp only [Space.Relies, hcount] at this ⊢ <;> grind [Space.move]
  · rcases List.mem_append.mp hc with hc | hc
    · exact hat.audited c hc
    · obtain rfl := List.mem_singleton.mp hc
      rw [if_pos rfl]
      intro hin
      obtain ⟨c, hc, hid⟩ := h.entries.2 id hin
      exact hnew (hid ▸ List.mem_map_of_mem hc)
  · obtain ⟨c, hc, hid⟩ := h.entries.2 i hi
    exact ⟨c, List.mem_append_left _ hc, hid⟩

lemma update (h : s.Kept) {id deleted : ℕ} (now : ℕ) (hk : s.requests k = .chosen id deleted)
    (hok : s.deleted = deleted) :
    Space.Kept { s.move k (.updated id) with
      channels := s.channels.map (Channel.delete id now), deleted := s.deleted + 1 } := by
  obtain ⟨hin, hmany⟩ : ⟨id, none⟩ ∈ s.channels ∧ 1 < live s.channels := by
    have := h.relies k
    rw [hk] at this
    exact this.2 hok
  have hcount : live (s.channels.map (Channel.delete id now)) + 1 = live s.channels :=
    live_delete h.distinct hin
  have hnone : ∀ k', s.requests k' ≠ .updated id := by
    intro k' hk'
    have := h.relies k'
    rw [hk'] at this
    obtain ⟨⟨c, hc, hid, hgone⟩, -⟩ := this
    exact hgone (congrArg Channel.deletedAt (h.inj hc hin hid))
  have hkept : ∀ c ∈ s.channels, c.deletedAt ≠ none → c.delete id now = c := by
    intro c hc hgone
    exact if_neg fun hid => hgone (congrArg Channel.deletedAt (h.inj hc hin hid))
  have hentry : id ∉ s.audit := by
    have := h.audited _ hin
    rwa [if_pos rfl] at this
  have hbounds : 1 ≤ live (s.channels.map (Channel.delete id now)) ∧
      live (s.channels.map (Channel.delete id now)) ≤ channelsPerSpace := by
    have := h.bounds
    omega
  refine ⟨by rw [map_delete_id]; exact h.distinct, hbounds, fun k' => ?_, fun i j c hi hj => ?_,
    fun c hc' => ?_,
    h.entries.1, fun i hi => ?_⟩
  · simp only [Space.move, Function.update_apply]
    split_ifs
    · exact ⟨⟨_, List.mem_map_of_mem hin, by simp [Channel.delete], by simp [Channel.delete]⟩, hentry⟩
    · have := h.relies k'
      generalize s.requests k' = stage at *
      cases stage with
      | updated c =>
        obtain ⟨⟨c, hc, hid, hgone⟩, hnot⟩ := this
        exact ⟨⟨c, List.mem_map.mpr ⟨c, hc, hkept c hc hgone⟩, hid, hgone⟩, hnot⟩
      | _ => simp only [Space.Relies] at this ⊢ <;> grind
  · simp only [Space.move, Function.update_apply] at hi hj
    split_ifs at hi hj
    · simp_all
    · obtain ⟨⟩ := hi
      exact absurd hj (hnone j)
    · obtain ⟨⟩ := hj
      exact absurd hi (hnone i)
    · exact h.alone i j c hi hj
  · obtain ⟨c, hc, rfl⟩ := List.mem_map.mp hc'
    have := h.audited c hc
    by_cases hid : c.id = id
    · obtain rfl := h.inj hc hin hid
      rw [if_neg (by simp [Channel.delete])]
      exact Or.inr ⟨k, by simp [Space.move, Channel.delete]⟩
    · rw [Channel.delete, if_neg hid]
      split_ifs at this ⊢
      · exact this
      · refine this.imp_right fun ⟨j, hj⟩ => ⟨j, ?_⟩
        have hne : j ≠ k := by
          rintro rfl
          simp [hk] at hj
        simpa [Space.move, hne] using hj
  · obtain ⟨c, hc, hid⟩ := h.entries.2 i hi
    exact ⟨_, List.mem_map_of_mem hc, by rw [delete_id, hid]⟩

lemma audit (h : s.Kept) {id : ℕ} (hk : s.requests k = .updated id) :
    Space.Kept { s.move k .ended with audit := s.audit ++ [id] } := by
  obtain ⟨⟨c₀, hc₀, hid₀, hgone⟩, hnot⟩ : (∃ c ∈ s.channels, c.id = id ∧ c.deletedAt ≠ none) ∧ id ∉ s.audit :=
    by
    have := h.relies k
    rwa [hk] at this
  refine ⟨h.distinct, h.bounds, fun k' => ?_, fun i j c hi hj => ?_, fun c hc => ?_, ?_, fun i hi => ?_⟩
  · simp only [Space.move, Function.update_apply]
    split_ifs with hne
    · trivial
    · have := h.relies k'
      cases hstage : s.requests k' with
      | updated c =>
        rw [hstage] at this
        have hother : c ≠ id := by
          rintro rfl
          exact hne (h.alone k' k c hstage hk)
        exact ⟨this.1, by simp [this.2, hother]⟩
      | _ => rw [hstage] at this; exact this
  · simp only [Space.move, Function.update_apply] at hi hj
    split_ifs at hi hj
    exact h.alone i j c hi hj
  · have := h.audited c hc
    by_cases hid : c.id = id
    · obtain rfl := h.inj hc hc₀ (hid.trans hid₀.symm)
      rw [if_neg hgone, hid]
      exact Or.inl (by simp [List.count_eq_zero.mpr hnot])
    · split_ifs at this ⊢
      · simp [this, hid]
      · rcases this with hcount | ⟨j, hj⟩
        · exact Or.inl (by simp [hcount, Ne.symm hid])
        · refine Or.inr ⟨j, ?_⟩
          have hne : j ≠ k := by
            rintro rfl
            exact hid (by simpa using hj.symm.trans hk)
          simpa [Space.move, hne] using hj
  · exact List.nodup_append.mpr ⟨h.entries.1, by simp, fun a ha b hb he => hnot (by simp_all)⟩
  · rcases List.mem_append.mp hi with hi | hi
    · exact h.entries.2 i hi
    · obtain rfl := List.mem_singleton.mp hi
      exact ⟨c₀, hc₀, hid₀⟩

lemma step (h : s.Kept) {e : Event} (hok : Orderly s e) : (s.step e).Kept := by
  cases e with
  | createCount k =>
    simp only [Space.step]
    split_ifs with hk hfull
    · exact h.move (by simp [hk]) nofun trivial
    · exact h.move (by simp [hk]) nofun ⟨le_rfl, fun _ => not_le.mp hfull⟩
    · exact h
  | insert k id =>
    simp only [Space.step]
    split
    · rename_i created hk
      have hrelies := h.relies k
      rw [hk] at hrelies
      exact h.move (by simp [hk]) nofun hrelies
    · exact h
  | commit k =>
    simp only [Space.step]
    split
    · rename_i id created hk
      split_ifs with hnew
      · exact h.move (by simp [hk]) nofun trivial
      · exact h.commit hk hnew (hok id created hk)
    · exact h
  | deleteRead k channelId =>
    simp only [Space.step]
    split_ifs with hk hin
    · exact h.move (by simp [hk]) nofun ⟨le_rfl, fun _ => hin⟩
    · exact h.move (by simp [hk]) nofun trivial
    · exact h
  | deleteCount k =>
    simp only [Space.step]
    split
    · rename_i channelId deleted hk
      have hrelies := h.relies k
      rw [hk] at hrelies
      split_ifs with hlast
      · exact h.move (by simp [hk]) nofun trivial
      · exact h.move (by simp [hk]) nofun ⟨hrelies.1, fun he => ⟨hrelies.2 he, not_le.mp hlast⟩⟩
    · exact h
  | update k now =>
    simp only [Space.step]
    split
    · rename_i channelId deleted hk
      exact h.update now hk (hok channelId deleted hk)
    · exact h
  | audit k =>
    simp only [Space.step]
    split
    · rename_i channelId hk
      exact h.audit hk
    · exact h
  | fail k => exact h.move hok nofun trivial

lemma run (h : s.Kept) {events : List Event} (hok : OrderlyRun s events) : (run s events).Kept := by
  induction events generalizing s with
  | nil => exact h
  | cons e events ih => exact ih (h.step hok.1) hok.2

end Space.Kept

lemma kept_start {ids : List ℕ} (hids : ids.Nodup) (hone : ids ≠ []) (hmany : ids.length ≤ channelsPerSpace) :
    (start ids).Kept := by
  have hlive : live (start ids).channels = ids.length := by
    simp [live, start, List.countP_map, Function.comp_def]
  refine ⟨by simpa [start, Function.comp_def] using hids, ?_, fun _ => trivial, nofun, fun c hc => ?_,
    by simp [start]⟩
  · rw [hlive]
    exact ⟨List.length_pos_iff.mpr hone, hmany⟩
  · obtain ⟨id, -, rfl⟩ := List.mem_map.mp hc
    simp [start]

/-- The space has a channel and not too many, and once no request is between its update and its entry there is
exactly one entry for each channel deleted, and none for another. -/
def Space.Bounded (s : Space) : Prop :=
  (1 ≤ live s.channels ∧ live s.channels ≤ channelsPerSpace) ∧
    ((∀ k, s.requests k = .waiting ∨ s.requests k = .ended) →
      ∀ c ∈ s.channels, s.audit.count c.id = if c.deletedAt = none then 0 else 1)

/-- Where no creation and no deletion is overtaken before its write, and every entry is written. -/
theorem channels_bounded {ids : List ℕ} (hids : ids.Nodup) (hone : ids ≠ [])
    (hmany : ids.length ≤ channelsPerSpace)
    {events : List Event} (hok : OrderlyRun (start ids) events) : (run (start ids) events).Bounded := by
  have h := (kept_start hids hone hmany).run hok
  refine ⟨h.bounds, fun hdone c hc => ?_⟩
  have hentry := h.audited c hc
  split_ifs at hentry ⊢
  · exact List.count_eq_zero.mpr hentry
  · refine hentry.resolve_right ?_
    rintro ⟨k, hk⟩
    rcases hdone k with hstage | hstage <;> rw [hk] at hstage <;> nomatch hstage

theorem channels_bounded_one : (run (start [1, 2]) [.deleteRead 0 1, .deleteCount 0, .update 0 9, .audit 0,
    .deleteRead 1 2, .deleteCount 1]).Bounded ∧ (run (start [1, 2]) [.deleteRead 0 1, .deleteCount 0,
      .update 0 9,
      .audit 0, .deleteRead 1 2, .deleteCount 1]).requests 1 = .ended :=
  ⟨channels_bounded (by decide) (by decide) (by decide)
    (by simp [OrderlyRun, Orderly, Space.step, start, Space.move, live]), by decide⟩

/-- Two deletions that overlap leave no channel, and two of one channel leave two entries. -/
theorem channels_unbounded :
    ¬ (run (start [1, 2]) [.deleteRead 0 1, .deleteRead 1 2, .deleteCount 0, .deleteCount 1, .update 0 9,
      .update 1 9, .audit 0, .audit 1]).Bounded ∧
    (run (start [1, 2]) [.deleteRead 0 1, .deleteRead 1 1, .deleteCount 0, .deleteCount 1, .update 0 9,
      .update 1 9,
      .audit 0, .audit 1]).audit = [1, 1] :=
  ⟨fun h => absurd h.1.1 (by decide), by decide⟩

end Yappy.SpaceChannels
