import Yappy.MessageMarkdown

/-!
# What markdown is made of

`parseMarkdown` takes a text apart into plain code units, stretches between markers and links, one after the
other and nothing left over. What it returns is what these show, and the spans over them.
-/
namespace Yappy.Markdown

inductive Piece
  | plain (u : CodeUnit)
  | styled (marker : Marker) (body : Text)
  | link (label url : Text)

namespace Piece

def source : Piece → Text
  | plain u => [u]
  | styled marker body => marker.fence ++ (body ++ marker.fence)
  | link label url => unit '[' :: (label ++ (text [']', '('] ++ (url ++ [unit ')'])))

def shown : Piece → Text
  | plain u => [u]
  | styled _ body => body
  | link label _ => label

def kind : Piece → Option Kind
  | plain _ => none
  | styled marker _ => some marker.kind
  | link _ url => some (.link url)

/-- Markers of the table, and never around nothing. -/
def Fine : Piece → Prop
  | plain _ => True
  | styled marker body => marker ∈ inlineMarkers ∧ body ≠ []
  | link label _ => label ≠ []

lemma shown_sublist (p : Piece) : p.shown.Sublist p.source := by
  cases p with
  | plain u => exact List.Sublist.refl _
  | styled marker body => exact (List.sublist_append_left body _).trans (List.sublist_append_right ..)
  | link label url => exact (List.sublist_append_left label _).cons _

end Piece

def spans (offset : ℕ) : List Piece → List Entity
  | [] => []
  | p :: pieces =>
    (p.kind.map fun kind => Entity.span kind offset p.shown.length).toList ++
      spans (offset + p.shown.length) pieces

def shown (pieces : List Piece) : Text := pieces.flatMap Piece.shown

def source (pieces : List Piece) : Text := pieces.flatMap Piece.source

/-! ## Slices -/

section Slices
variable {input pattern : Text} {i j : ℕ}

lemma drop_eq_slice (h : i ≤ j) : input.drop i = slice input i j ++ input.drop j := by
  conv_lhs => rw [← List.take_append_drop j input, List.drop_append]
  rw [slice, List.drop_drop, List.length_take]
  rcases Nat.le_total j input.length with hj | hj
  · rw [Nat.min_eq_left hj, Nat.sub_eq_zero_of_le h, Nat.add_zero]
  · rw [List.drop_of_length_le (by omega : input.length ≤ j + _), List.drop_of_length_le hj]

lemma drop_of_startsAt (h : startsAt input pattern i = true) :
    input.drop i = pattern ++ input.drop (i + pattern.length) := by
  obtain ⟨rest, hrest⟩ := List.isPrefixOf_iff_prefix.mp h
  rw [← List.drop_drop, ← hrest, List.drop_left]

end Slices

section Inline
variable {wordish : CodeUnit → Bool} {input : Text}

lemma styledAt_eq {i next : ℕ} {marker : Marker} {kind : Kind} {body : Text}
    (h : styledAt wordish input i marker = some (kind, body, next)) :
    kind = marker.kind ∧ body ≠ [] ∧
      input.drop i = (Piece.styled marker body).source ++ input.drop next := by
  unfold styledAt at h
  split_ifs at h with hopen
  split at h
  · cases h
  · rename_i close hclose
    obtain ⟨hle, -, hcloses⟩ := find_bounds hclose
    rw [Bool.and_eq_true, Bool.and_eq_true] at hcloses
    rw [Bool.and_eq_true] at hopen
    dsimp only at h
    split_ifs at h with hbody
    obtain ⟨rfl, rfl, rfl⟩ := Prod.mk.inj (Option.some.inj h) |>.imp id Prod.mk.inj
    refine ⟨rfl, hbody, ?_⟩
    rw [drop_of_startsAt hopen.1, drop_eq_slice hle, drop_of_startsAt hcloses.1.1]
    simp only [Piece.source, List.append_assoc]

lemma prefix_of_scheme {rest http : Text} (h : scheme rest = some http) : http <+: rest := by
  unfold scheme at h
  have hstarts := List.find?_some h
  exact List.isPrefixOf_iff_prefix.mp hstarts

lemma prefix_append_of_drop {a b t : Text} (ha : a <+: t) (hb : b <+: t.drop a.length) : a ++ b <+: t := by
  obtain ⟨s, rfl⟩ := ha
  rw [List.drop_left] at hb
  exact (List.prefix_append_right_inj a).mpr hb

lemma length_source_link (label url : Text) :
    (Piece.link label url).source.length = label.length + url.length + 4 := by
  simp only [Piece.source, List.length_cons, List.length_append, text, List.length_map, List.length_nil]
  omega

lemma matchLink_eq {rest : Text} {l : Link} (h : matchLink rest = some l) :
    rest = (Piece.link l.label l.url).source ++ rest.drop l.size := by
  suffices hsource : (Piece.link l.label l.url).source <+: rest by
    have hdrop := List.prefix_append_drop hsource
    rw [length_source_link] at hdrop
    exact hdrop
  unfold matchLink at h
  cases rest with
  | nil => cases h
  | cons u rest =>
    dsimp only at h
    split_ifs at h with hlabel
    simp only [not_or, not_not, Bool.not_eq_true] at hlabel
    obtain ⟨rfl, -, hbracket⟩ := hlabel
    split at h
    · cases h
    · rename_i http hhttp
      split_ifs at h with haddress
      obtain rfl := Option.some.inj h
      simp only [not_or, not_not] at haddress
      obtain ⟨-, hclose⟩ := haddress
      have hlab := List.takeWhile_prefix (fun u => u ≠ unit ']' ∧ u ≠ unit '\n') (l := rest)
      generalize rest.takeWhile (fun u => u ≠ unit ']' ∧ u ≠ unit '\n') = label at *
      have haddr := List.takeWhile_prefix (fun u => !isSpace u ∧ u ≠ unit ')')
        (l := (rest.drop label.length).drop (2 + http.length))
      generalize ((rest.drop label.length).drop (2 + http.length)).takeWhile
        (fun u => !isSpace u ∧ u ≠ unit ')') = address at *
      have hparen : text [']', '('] <+: rest.drop label.length :=
        List.isPrefixOf_iff_prefix.mp (by simpa using hbracket)
      have hend : [unit ')'] <+: ((rest.drop label.length).drop (2 + http.length)).drop address.length :=
        List.singleton_prefix_iff_head?_eq_some.mpr hclose
      rw [← List.drop_drop] at haddr hend
      have hurl := prefix_append_of_drop (prefix_of_scheme hhttp) haddr
      have hwhole : (http ++ address) ++ [unit ')'] <+: (rest.drop label.length).drop 2 := by
        refine prefix_append_of_drop hurl ?_
        rwa [List.length_append, ← List.drop_drop]
      exact List.cons_prefix_cons.mpr ⟨rfl, prefix_append_of_drop hlab (prefix_append_of_drop hparen hwhole)⟩

lemma parseFrom_pieces {fuel i : ℕ} (hf : input.length ≤ i + fuel) (text : Text)
    (entities : List Entity) :
    ∃ pieces : List Piece, (∀ p ∈ pieces, p.Fine) ∧ source pieces = input.drop i ∧
      parseFrom wordish input fuel i text entities =
        (text ++ shown pieces, entities ++ spans text.length pieces) := by
  induction fuel generalizing i text entities with
  | zero =>
    refine ⟨[], by simp, ?_, ?_⟩
    · rw [List.drop_of_length_le (by omega)]
      rfl
    · rw [parseFrom, shown, List.flatMap_nil, spans, List.append_nil, List.append_nil]
  | succ fuel ih =>
    -- what a piece adds, before the pieces after it
    have hcons : ∀ (p : Piece) (next : ℕ), p.Fine →
        input.drop i = p.source ++ input.drop next → i < next →
        ∃ pieces : List Piece, (∀ p ∈ pieces, p.Fine) ∧ source pieces = input.drop i ∧
          parseFrom wordish input fuel next (text ++ p.shown)
            (entities ++ (p.kind.map fun kind => Entity.span kind text.length p.shown.length).toList) =
              (text ++ shown pieces, entities ++ spans text.length pieces) := by
      intro p next hp hsource hnext
      have hf : input.length ≤ next + fuel := by omega
      obtain ⟨pieces, hfine, hrest, hparse⟩ := ih hf (text ++ p.shown)
        (entities ++ (p.kind.map fun kind => Entity.span kind text.length p.shown.length).toList)
      refine ⟨p :: pieces, List.forall_mem_cons.mpr ⟨hp, hfine⟩, ?_, ?_⟩
      · rw [source, List.flatMap_cons, ← source, hrest, hsource]
      · rw [hparse, shown, shown, List.flatMap_cons, spans, List.length_append, List.append_assoc,
          List.append_assoc]
    rw [parseFrom]
    split_ifs with hlt
    · split
      · rename_i l hl
        have hsource := matchLink_eq hl
        rw [List.drop_drop] at hsource
        exact hcons (.link l.label l.url) _ (matchLink_label hl) hsource (by rw [Link.size]; omega)
      · split
        · rename_i kind body next hs
          obtain ⟨marker, hm, hs⟩ := List.exists_of_findSome?_eq_some hs
          obtain ⟨rfl, hbody, hsource⟩ := styledAt_eq hs
          have hnext := (styledAt_bounds hm hs).2.1
          exact hcons (.styled marker body) next ⟨hm, hbody⟩ hsource (by omega)
        · have hsource : input.drop i = [input[i]] ++ input.drop (i + 1) := List.drop_eq_getElem_cons hlt
          have hone := hcons (.plain input[i]) (i + 1) trivial hsource (Nat.lt_succ_self i)
          rw [List.getElem?_eq_getElem hlt, Option.toList_some]
          simpa only [Piece.kind, Piece.shown, Option.map_none, Option.toList_none, List.append_nil] using hone
    · refine ⟨[], by simp, ?_, ?_⟩
      · rw [List.drop_of_length_le (by omega)]
        rfl
      · rw [shown, List.flatMap_nil, spans, List.append_nil, List.append_nil]

end Inline

/-! ## What is returned -/

/-- A text and the spans over it are what the pieces of the input show. -/
structure ReadOff (input text : Text) (entities : List Entity) (pieces : List Piece) : Prop where
  fine : ∀ p ∈ pieces, p.Fine
  source_eq : source pieces = input
  text_eq : shown pieces = text
  entities_eq : spans 0 pieces = entities
  /-- An entity is over one piece, and over all that stood between its markers, or over its label. -/
  covers : ∀ e ∈ entities, ∃ before p after, pieces = before ++ p :: after ∧ p.kind = some e.kind ∧
    e.start = (shown before).length ∧ slice text e.start.toNat e.stop.toNat = p.shown

lemma shown_cons (p : Piece) (pieces : List Piece) : shown (p :: pieces) = p.shown ++ shown pieces :=
  List.flatMap_cons

lemma shown_append (before after : List Piece) : shown (before ++ after) = shown before ++ shown after :=
  List.flatMap_append

lemma shown_sublist_source (pieces : List Piece) : (shown pieces).Sublist (source pieces) := by
  induction pieces with
  | nil => exact .slnil
  | cons p pieces ih =>
    rw [shown_cons, source, List.flatMap_cons]
    exact p.shown_sublist.append ih

lemma mem_spans {pieces : List Piece} {offset : ℕ} {e : Entity} (h : e ∈ spans offset pieces) :
    ∃ before p after, pieces = before ++ p :: after ∧ p.kind = some e.kind ∧
      e = .span e.kind (offset + (shown before).length) p.shown.length := by
  induction pieces generalizing offset with
  | nil => cases h
  | cons p pieces ih =>
    rw [spans] at h
    rcases List.mem_append.mp h with h | h
    · rw [Option.mem_toList, Option.map_eq_some_iff] at h
      obtain ⟨kind, hkind, rfl⟩ := h
      exact ⟨[], p, pieces, rfl, hkind, rfl⟩
    · obtain ⟨before, q, after, rfl, hkind, he⟩ := ih h
      refine ⟨p :: before, q, after, rfl, hkind, ?_⟩
      rwa [shown_cons, List.length_append, ← Nat.add_assoc]

lemma slice_middle (before middle after : Text) :
    slice (before ++ (middle ++ after)) before.length (before.length + middle.length) = middle := by
  rw [slice, ← List.append_assoc, ← List.length_append, List.take_left, List.drop_left]

lemma readOff {input : Text} {pieces : List Piece} (hfine : ∀ p ∈ pieces, p.Fine)
    (hsource : source pieces = input) : ReadOff input (shown pieces) (spans 0 pieces) pieces where
  fine := hfine
  source_eq := hsource
  text_eq := rfl
  entities_eq := rfl
  covers e he := by
    obtain ⟨before, p, after, hsplit, hkind, hspan⟩ := mem_spans he
    rw [Nat.zero_add] at hspan
    have hstart : e.start = (shown before).length := congrArg Entity.start hspan
    have hstop : e.stop = ((shown before).length + p.shown.length : ℕ) := congrArg Entity.stop hspan
    refine ⟨before, p, after, hsplit, hkind, hstart, ?_⟩
    rw [hstart, hstop, Int.toNat_natCast, Int.toNat_natCast, hsplit, shown_append, shown_cons]
    exact slice_middle ..

namespace Describes
variable {text : Text} {entities : List Entity}

lemma increasing (h : Describes text entities) : entities.Pairwise fun a b => a.start < b.start :=
  h.ordered.imp_of_mem fun {a b} ha _ hab => by
    have hlt := (h.nonempty a ha).2.2
    omega

end Describes

section Inline
variable (wordish : CodeUnit → Bool) (input : Text)

lemma parseFrom_enough {fuel : ℕ} (hf : input.length ≤ fuel) :
    parseFrom wordish input fuel 0 [] [] = parseMarkdown wordish input := by
  induction fuel, hf using Nat.le_induction with
  | base => rfl
  | succ fuel hf ih => rw [parseFrom_fuel [] [] (by omega), ih]

/-- Every input is read to its end, and taken apart into pieces the text and its entities are read off. -/
theorem parseMarkdown_readOff :
    (∀ fuel, input.length ≤ fuel → parseFrom wordish input fuel 0 [] [] = parseMarkdown wordish input) ∧
    Describes (parseMarkdown wordish input).1 (parseMarkdown wordish input).2 ∧
    ((parseMarkdown wordish input).2.Pairwise fun a b => a.start < b.start) ∧
    (parseMarkdown wordish input).1.Sublist input ∧
    ∃ pieces, ReadOff input (parseMarkdown wordish input).1 (parseMarkdown wordish input).2 pieces := by
  obtain ⟨pieces, hfine, hsource, hparse⟩ :=
    @parseFrom_pieces wordish input input.length 0 (Nat.le_add_left ..) [] []
  have hresult : parseMarkdown wordish input = (shown pieces, spans 0 pieces) := hparse
  have hdescribes := (@parseMarkdown_stripped wordish input).describes
  refine ⟨fun fuel => parseFrom_enough wordish input, hdescribes, hdescribes.increasing, ?_, pieces, ?_⟩
  · have hsub := shown_sublist_source pieces
    rw [hsource] at hsub
    rw [hresult]
    exact hsub
  · rw [hresult]
    exact readOff hfine hsource

end Inline

end Yappy.Markdown
