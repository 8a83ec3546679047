import Mathlib.Data.List.Pairwise
import Playthrough.Divert

/-!
# A divert leads along the nearest definitions

A divert is followed by two searches from the token before it, one in each direction, and each of
them stops at the first token that it finds. In a list whose rows never go back, the tokens between
two tokens are in the rows between theirs, so of the tokens on one side the first one that is found
is the nearest. What the two searches give is therefore the nearest definition in the whole list,
and the tokens that a path leads to are the longest chain of nearest definitions.

The chain is described here without the searches: by what is nearest in the list.

## Main definitions

* `Text.IsSplit` — a text is made of some parts with a separator between them.
* `Divert.Defines` — an indexed token of a list defines a name.
* `Divert.IsNearest` — a definition is the nearest one to a token.
* `Divert.IsChain` — tokens are nearest definitions of the first names of a path, one after another.
* `Divert.IsLongestChain` — tokens of which all chains along a path are beginnings.
* `Divert.IsFirstAt` — an indexed token is the first one at a position.

## Main results

* `Text.isSplit_iff` — the parts that a text is made of are those it is cut into.
* `Divert.behind_eq_some_iff`, `Divert.upTo_eq_some_iff` — what the two searches find.
* `Divert.nearest_eq_some_iff` — the two searches together find the nearest definition.
* `Divert.isChain_iff` — the chain that is followed is the longest one.
* `Divert.divert_leads_along_nearest_definitions` — where a click leads.
-/

namespace Playthrough

/-! ### Parts of a text -/

namespace Text

variable {sep : Char} {cs : List Char} {parts : List (List Char)}

/-- A text is made of at least one part. The separator stands between any two parts and in none of
them. -/
structure IsSplit (sep : Char) (cs : List Char) (parts : List (List Char)) : Prop where
  nonempty : parts ≠ []
  separated : ∀ part ∈ parts, sep ∉ part
  joined : [sep].intercalate parts = cs

theorem splitAt_of_notMem (h : sep ∉ cs) : splitAt sep cs = [cs] := by
  induction cs with
  | nil => rfl
  | cons c cs ih =>
    rw [List.mem_cons, not_or] at h
    rw [splitAt, if_neg (Ne.symm h.1), ih h.2]
    rfl

theorem splitAt_append_cons {part : List Char} (h : sep ∉ part) (cs : List Char) :
    splitAt sep (part ++ sep :: cs) = part :: splitAt sep cs := by
  induction part with
  | nil => rw [List.nil_append, splitAt, if_pos rfl]
  | cons c part ih =>
    rw [List.mem_cons, not_or] at h
    rw [List.cons_append, splitAt, if_neg (Ne.symm h.1), ih h.2]
    rfl

theorem IsSplit.splitAt_eq (h : IsSplit sep cs parts) : splitAt sep cs = parts := by
  obtain ⟨hne, hsep, rfl⟩ := h
  induction parts with
  | nil => contradiction
  | cons part parts ih =>
    rw [List.forall_mem_cons] at hsep
    cases parts with
    | nil => simpa using splitAt_of_notMem hsep.1
    | cons part' parts =>
      have hjoined : [sep].intercalate (part :: part' :: parts) =
          part ++ sep :: [sep].intercalate (part' :: parts) := by simp [List.intercalate]
      rw [hjoined, splitAt_append_cons hsep.1, ih (by simp) hsep.2]

/-- Every text is made of parts: the first one goes up to the first separator. -/
theorem isSplit_splitAt (sep : Char) (cs : List Char) : IsSplit sep cs (splitAt sep cs) := by
  by_cases hsep : sep ∈ cs
  · obtain ⟨part, rest, hcs, hpart⟩ := List.eq_append_cons_of_mem hsep
    have hshorter : rest.length < cs.length := by simp [hcs]; omega
    obtain ⟨hne, hseparated, hjoined⟩ := isSplit_splitAt sep rest
    rw [hcs, splitAt_append_cons hpart]
    refine ⟨by simp, List.forall_mem_cons.mpr ⟨hpart, hseparated⟩, ?_⟩
    obtain ⟨part', parts, hparts⟩ := List.exists_cons_of_ne_nil hne
    rw [hparts] at hjoined ⊢
    simpa [List.intercalate] using hjoined
  · rw [splitAt_of_notMem hsep]
    exact ⟨by simp, by simpa using hsep, by simp⟩
termination_by cs.length

/-- The parts that a text is made of are those it is cut into. -/
theorem isSplit_iff : IsSplit sep cs parts ↔ parts = splitAt sep cs :=
  ⟨fun h => h.splitAt_eq.symm, fun h => h ▸ isSplit_splitAt sep cs⟩

end Text

/-- If an order is strict along a list, the element that is found is the one that no other with the
property comes before. -/
theorem find?_eq_some_iff_of_pairwise {α : Type} {r : α → α → Prop} {p : α → Bool} {l : List α}
    {a : α} (hl : l.Pairwise r) (hr : ∀ b c, r b c → ¬ r c b) :
    l.find? p = some a ↔ a ∈ l ∧ p a = true ∧ ∀ b ∈ l, p b = true → ¬ r b a := by
  rw [List.find?_eq_some_iff_append]
  constructor
  · rintro ⟨ha, front, back, rfl, hfront⟩
    rw [List.pairwise_append, List.pairwise_cons] at hl
    refine ⟨by simp, ha, fun b hb hpb => ?_⟩
    rcases List.mem_append.mp hb with hb | hb
    · simpa [hpb] using hfront b hb
    · rcases List.mem_cons.mp hb with rfl | hb
      · exact fun hbb => hr b b hbb hbb
      · exact hr a b (hl.2.1.1 b hb)
  · rintro ⟨hmem, ha, hfirst⟩
    obtain ⟨front, back, rfl⟩ := List.append_of_mem hmem
    rw [List.pairwise_append] at hl
    refine ⟨ha, front, back, rfl, fun b hb => ?_⟩
    have hba : r b a := hl.2.2 b hb a List.mem_cons_self
    have hpb : ¬ p b = true := fun hpb => hfirst b (List.mem_append_left _ hb) hpb hba
    simpa using hpb

namespace Divert

open Text

variable {tokens : List StoryToken} {origin x y : Indexed} {name : String} {index : Nat}

/-! ### The two searches -/

/-- A token stands in a list at its index, and defines a name. -/
def Defines (tokens : List StoryToken) (name : String) (x : Indexed) : Prop :=
  tokens[x.2]? = some x.1 ∧ x.1.defines name = true

/-- Two definitions at one index are one. -/
theorem Defines.eq_of_index_eq (hx : Defines tokens name x) (hy : Defines tokens name y)
    (h : x.2 = y.2) : x = y := by
  have htoken : some x.1 = some y.1 := by rw [← hx.1, ← hy.1, h]
  exact Prod.ext (Option.some.inj htoken) h

theorem mem_drop_zipIdx :
    x ∈ tokens.zipIdx.drop index ↔ tokens[x.2]? = some x.1 ∧ index ≤ x.2 := by
  rw [← List.mem_zipIdx_iff_getElem?]
  constructor
  · intro hx
    obtain ⟨k, hk, rfl⟩ := List.mem_drop_iff_getElem.mp hx
    exact ⟨List.mem_of_mem_drop hx, by simp⟩
  · rintro ⟨hx, hindex⟩
    obtain ⟨k, hk, rfl⟩ := List.mem_iff_getElem.mp hx
    have hindex : index ≤ k := by simpa using hindex
    exact List.mem_drop_iff_getElem.mpr ⟨k - index, by omega, by simp [hindex]⟩

theorem mem_take_zipIdx :
    x ∈ tokens.zipIdx.take index ↔ tokens[x.2]? = some x.1 ∧ x.2 < index := by
  rw [← List.mem_zipIdx_iff_getElem?]
  constructor
  · intro hx
    obtain ⟨k, hk, rfl⟩ := List.mem_take_iff_getElem.mp hx
    exact ⟨List.mem_of_mem_take hx, by simp; omega⟩
  · rintro ⟨hx, hindex⟩
    obtain ⟨k, hk, rfl⟩ := List.mem_iff_getElem.mp hx
    have hindex : k < index := by simpa using hindex
    exact List.mem_take_iff_getElem.mpr ⟨k, by omega, rfl⟩

theorem pairwise_zipIdx (tokens : List StoryToken) :
    tokens.zipIdx.Pairwise fun x y => x.2 < y.2 := by
  rw [← List.pairwise_map, List.zipIdx_map_snd]
  exact List.pairwise_lt_range'

/-- The search forward finds the first definition from an index on. -/
theorem behind_eq_some_iff :
    behind tokens index name = some x ↔ Defines tokens name x ∧ index ≤ x.2 ∧
      ∀ y, Defines tokens name y → index ≤ y.2 → x.2 ≤ y.2 := by
  have hordered := (pairwise_zipIdx tokens).sublist (List.drop_sublist index _)
  rw [behind, find?_eq_some_iff_of_pairwise hordered fun _ _ => Nat.lt_asymm]
  simp only [mem_drop_zipIdx, Nat.not_lt]
  constructor
  · rintro ⟨⟨hx, hindex⟩, hname, hfirst⟩
    exact ⟨⟨hx, hname⟩, hindex, fun y hy hle => hfirst y ⟨hy.1, hle⟩ hy.2⟩
  · rintro ⟨⟨hx, hname⟩, hindex, hfirst⟩
    exact ⟨⟨hx, hindex⟩, hname, fun y hy hle => hfirst y ⟨hy.1, hle⟩ hy.2⟩

/-- The search backward finds the last definition up to an index. -/
theorem upTo_eq_some_iff :
    upTo tokens index name = some x ↔ Defines tokens name x ∧ x.2 ≤ index ∧
      ∀ y, Defines tokens name y → y.2 ≤ index → y.2 ≤ x.2 := by
  have hordered := (pairwise_zipIdx tokens).sublist (List.take_sublist (index + 1) _)
  rw [upTo, find?_eq_some_iff_of_pairwise (List.pairwise_reverse.mpr hordered)
    fun _ _ => Nat.lt_asymm]
  simp only [List.mem_reverse, mem_take_zipIdx, Nat.not_lt, Nat.lt_succ_iff]
  constructor
  · rintro ⟨⟨hx, hindex⟩, hname, hlast⟩
    exact ⟨⟨hx, hname⟩, hindex, fun y hy hle => hlast y ⟨hy.1, hle⟩ hy.2⟩
  · rintro ⟨⟨hx, hname⟩, hindex, hlast⟩
    exact ⟨⟨hx, hindex⟩, hname, fun y hy hname => hlast y ⟨hy.1, hname⟩ hy.2⟩

theorem behind_eq_none_iff :
    behind tokens index name = none ↔ ∀ y, Defines tokens name y → y.2 < index := by
  simp only [behind, List.find?_eq_none, mem_drop_zipIdx]
  constructor
  · exact fun h y hy => Nat.lt_of_not_le fun hle => h y ⟨hy.1, hle⟩ hy.2
  · exact fun h y hy hname => Nat.not_lt_of_le hy.2 (h y ⟨hy.1, hname⟩)

theorem upTo_eq_none_iff :
    upTo tokens index name = none ↔ ∀ y, Defines tokens name y → index < y.2 := by
  simp only [upTo, List.find?_eq_none, List.mem_reverse, mem_take_zipIdx, Nat.lt_succ_iff]
  constructor
  · exact fun h y hy => Nat.lt_of_not_le fun hle => h y ⟨hy.1, hle⟩ hy.2
  · exact fun h y hy hname => Nat.not_lt_of_le hy.2 (h y ⟨hy.1, hname⟩)

/-! ### The nearest definition -/

/-- No definition of a name in the list is fewer rows away from the origin. If there are equally
near ones up to the origin, `x` is the last of those, and otherwise it is the first one behind. -/
structure IsNearest (tokens : List StoryToken) (origin : Indexed) (name : String) (x : Indexed) :
    Prop where
  defines : Defines tokens name x
  closest : ∀ y, Defines tokens name y → rowDistance x.1 origin.1 ≤ rowDistance y.1 origin.1
  last : ∀ y, Defines tokens name y → rowDistance y.1 origin.1 = rowDistance x.1 origin.1 →
    y.2 ≤ origin.2 → y.2 ≤ x.2 ∧ x.2 ≤ origin.2
  first : origin.2 < x.2 → ∀ y, Defines tokens name y → origin.2 < y.2 → x.2 ≤ y.2

theorem IsNearest.index_le (hx : IsNearest tokens origin name x)
    (hy : IsNearest tokens origin name y) : x.2 ≤ y.2 := by
  have hdistance : rowDistance x.1 origin.1 = rowDistance y.1 origin.1 :=
    Nat.le_antisymm (hx.closest y hy.defines) (hy.closest x hx.defines)
  rcases Nat.lt_or_ge origin.2 x.2 with hbehind | hupTo
  · rcases Nat.lt_or_ge origin.2 y.2 with hbehind' | hupTo'
    · exact hx.first hbehind y hy.defines hbehind'
    · exact absurd (hx.last y hy.defines hdistance.symm hupTo').2 (Nat.not_le_of_lt hbehind)
  · exact (hy.last x hx.defines hdistance hupTo).1

/-- There is only one nearest definition. -/
theorem IsNearest.unique (hx : IsNearest tokens origin name x)
    (hy : IsNearest tokens origin name y) : x = y :=
  hx.defines.eq_of_index_eq hy.defines (Nat.le_antisymm (hx.index_le hy) (hy.index_le hx))

/-- Nothing is found if and only if the list has no definition at all. -/
theorem nearest_eq_none_iff :
    nearest tokens origin name = none ↔ ∀ y, ¬ Defines tokens name y := by
  have hnone : nearest tokens origin name = none ↔
      behind tokens origin.2 name = none ∧ upTo tokens origin.2 name = none := by
    unfold nearest
    split <;> simp_all
    split <;> simp
  rw [hnone, behind_eq_none_iff, upTo_eq_none_iff]
  constructor
  · exact fun h y hy => Nat.lt_asymm (h.1 y hy) (h.2 y hy)
  · exact fun h => ⟨fun y hy => absurd hy (h y), fun y hy => absurd hy (h y)⟩

/-- In a list whose rows never go back, a token further on is in the same row or a later one. -/
theorem row_le (hrows : tokens.Pairwise fun s t => s.row ≤ t.row)
    (hx : tokens[x.2]? = some x.1) (hy : tokens[y.2]? = some y.1) (hle : x.2 ≤ y.2) :
    x.1.row ≤ y.1.row := by
  obtain ⟨hxlt, hx⟩ := List.getElem?_eq_some_iff.mp hx
  obtain ⟨hylt, hy⟩ := List.getElem?_eq_some_iff.mp hy
  rcases Nat.lt_or_eq_of_le hle with hlt | heq
  · rw [← hx, ← hy]
    exact List.pairwise_iff_getElem.mp hrows _ _ hxlt hylt hlt
  · simp only [← hx, ← hy, heq, Nat.le_refl]

section Rows

variable (hrows : tokens.Pairwise fun s t => s.row ≤ t.row)
  (horigin : tokens[origin.2]? = some origin.1)

include hrows horigin

/-- Of the definitions from the origin on, the first one is the nearest. -/
theorem rowDistance_le_of_behind (hx : behind tokens origin.2 name = some x)
    (hy : Defines tokens name y) (hle : origin.2 ≤ y.2) :
    rowDistance x.1 origin.1 ≤ rowDistance y.1 origin.1 := by
  obtain ⟨hx, hbehind, hfirst⟩ := behind_eq_some_iff.mp hx
  have hxorigin := row_le hrows horigin hx.1 hbehind
  have hxy := row_le hrows hx.1 hy.1 (hfirst y hy hle)
  unfold rowDistance
  omega

/-- Of the definitions up to the origin, the last one is the nearest. -/
theorem rowDistance_le_of_upTo (hx : upTo tokens origin.2 name = some x)
    (hy : Defines tokens name y) (hle : y.2 ≤ origin.2) :
    rowDistance x.1 origin.1 ≤ rowDistance y.1 origin.1 := by
  obtain ⟨hx, hupTo, hlast⟩ := upTo_eq_some_iff.mp hx
  have hxorigin := row_le hrows hx.1 horigin hupTo
  have hxy := row_le hrows hy.1 hx.1 (hlast y hy hle)
  unfold rowDistance
  omega

/-- A definition behind the origin that is nearer than all those up to it. -/
theorem isNearest_of_behind (hx : behind tokens origin.2 name = some x)
    (hnearer : ∀ y, Defines tokens name y → y.2 ≤ origin.2 →
      rowDistance x.1 origin.1 < rowDistance y.1 origin.1) : IsNearest tokens origin name x where
  defines := (behind_eq_some_iff.mp hx).1
  closest y hy := by
    rcases Nat.le_total origin.2 y.2 with hle | hle
    · exact rowDistance_le_of_behind hrows horigin hx hy hle
    · exact Nat.le_of_lt (hnearer y hy hle)
  last y hy hequal hle := absurd hequal.symm (Nat.ne_of_lt (hnearer y hy hle))
  first _ y hy hlt := (behind_eq_some_iff.mp hx).2.2 y hy (Nat.le_of_lt hlt)

/-- A definition up to the origin that is as near as all those behind it. -/
theorem isNearest_of_upTo (hx : upTo tokens origin.2 name = some x)
    (hnear : ∀ y, Defines tokens name y → origin.2 ≤ y.2 →
      rowDistance x.1 origin.1 ≤ rowDistance y.1 origin.1) : IsNearest tokens origin name x where
  defines := (upTo_eq_some_iff.mp hx).1
  closest y hy := by
    rcases Nat.le_total origin.2 y.2 with hle | hle
    · exact hnear y hy hle
    · exact rowDistance_le_of_upTo hrows horigin hx hy hle
  last y hy _ hle := ⟨(upTo_eq_some_iff.mp hx).2.2 y hy hle, (upTo_eq_some_iff.mp hx).2.1⟩
  first hlt := absurd (upTo_eq_some_iff.mp hx).2.1 (Nat.not_le_of_lt hlt)

theorem isNearest_of_nearest (hx : nearest tokens origin name = some x) :
    IsNearest tokens origin name x := by
  unfold nearest at hx
  split at hx
  case h_1 after before hafter hbefore =>
    split at hx <;> rename_i hcloser <;> obtain rfl := Option.some.inj hx
    · refine isNearest_of_behind hrows horigin hafter fun y hy hle => ?_
      exact Nat.lt_of_lt_of_le hcloser (rowDistance_le_of_upTo hrows horigin hbefore hy hle)
    · refine isNearest_of_upTo hrows horigin hbefore fun y hy hle => ?_
      exact Nat.le_trans (Nat.le_of_not_lt hcloser)
        (rowDistance_le_of_behind hrows horigin hafter hy hle)
  case h_2 after hafter hbefore =>
    obtain rfl := Option.some.inj hx
    refine isNearest_of_behind hrows horigin hafter fun y hy hle => ?_
    exact absurd (upTo_eq_none_iff.mp hbefore y hy) (Nat.not_lt_of_le hle)
  case h_3 hafter =>
    refine isNearest_of_upTo hrows horigin hx fun y hy hle => ?_
    exact absurd (behind_eq_none_iff.mp hafter y hy) (Nat.not_lt_of_le hle)

/-- The two searches together find the nearest definition. -/
theorem nearest_eq_some_iff :
    nearest tokens origin name = some x ↔ IsNearest tokens origin name x := by
  refine ⟨isNearest_of_nearest hrows horigin, fun hx => ?_⟩
  cases hfound : nearest tokens origin name with
  | none => exact absurd hx.defines (nearest_eq_none_iff.mp hfound x)
  | some y => rw [(isNearest_of_nearest hrows horigin hfound).unique hx]

end Rows

/-! ### Chains of definitions -/

/-- Each of some tokens is the nearest definition of the next name of a path, seen from the token
before it. Not all names of the path need to have a token. -/
inductive IsChain (tokens : List StoryToken) : Indexed → List String → List Indexed → Prop where
  | stop (origin : Indexed) (names : List String) : IsChain tokens origin names []
  | next {origin x : Indexed} {name : String} {names : List String} {xs : List Indexed}
      (nearest : IsNearest tokens origin name x) (others : IsChain tokens x names xs) :
      IsChain tokens origin (name :: names) (x :: xs)

theorem IsChain.mem_tokens {names : List String} {xs : List Indexed}
    (h : IsChain tokens origin names xs) : ∀ y ∈ xs, tokens[y.2]? = some y.1 := by
  induction h with
  | stop => simp
  | next nearest _ ih => exact List.forall_mem_cons.mpr ⟨nearest.defines.1, ih⟩

/-- The tokens that are followed are the longest chain: all others break off earlier. -/
theorem isChain_iff (hrows : tokens.Pairwise fun s t => s.row ≤ t.row)
    (horigin : tokens[origin.2]? = some origin.1) {names : List String} {xs : List Indexed} :
    IsChain tokens origin names xs ↔ xs <+: chain tokens origin names := by
  induction names generalizing origin xs with
  | nil =>
    rw [chain, List.prefix_nil]
    constructor
    · rintro ⟨⟩
      rfl
    · rintro rfl
      exact .stop origin []
  | cons name names ih =>
    cases xs with
    | nil => exact iff_of_true (.stop origin _) List.nil_prefix
    | cons x xs =>
      have hhead : IsChain tokens origin (name :: names) (x :: xs) ↔
          IsNearest tokens origin name x ∧ IsChain tokens x names xs := by
        constructor
        · rintro ⟨⟩
          exact ⟨‹_›, ‹_›⟩
        · exact fun h => .next h.1 h.2
      rw [hhead, chain, ← nearest_eq_some_iff hrows horigin]
      cases hfound : nearest tokens origin name with
      | none => simp
      | some y =>
        have hy := (nearest_eq_some_iff hrows horigin).mp hfound
        simp only [Option.some.injEq, List.cons_prefix_cons]
        constructor
        · rintro ⟨rfl, hxs⟩
          exact ⟨rfl, (ih hy.defines.1).mp hxs⟩
        · rintro ⟨rfl, hxs⟩
          exact ⟨rfl, (ih hy.defines.1).mpr hxs⟩

/-- A chain that is followed breaks off only at a name without definition. -/
theorem not_defines_of_chain {names : List String} {name : String}
    (hname : names[(chain tokens origin names).length]? = some name) :
    ∀ y, ¬ Defines tokens name y := by
  induction names generalizing origin with
  | nil => simp at hname
  | cons head names ih =>
    rw [chain] at hname
    cases hfound : nearest tokens origin head with
    | none =>
      simp only [hfound, List.length_nil, List.getElem?_cons_zero, Option.some.injEq] at hname
      exact hname ▸ nearest_eq_none_iff.mp hfound
    | some x =>
      simp only [hfound, List.length_cons, List.getElem?_cons_succ] at hname
      exact ih hname

theorem chain_eq_nil_iff {names : List String} :
    chain tokens origin (name :: names) = [] ↔ ∀ y, ¬ Defines tokens name y := by
  rw [← nearest_eq_none_iff, chain]
  cases nearest tokens origin name <;> simp

/-- All chains along a path are beginnings of some tokens of the list, which break off only at a
name without definition. -/
structure IsLongestChain (tokens : List StoryToken) (origin : Indexed) (names : List String)
    (xs : List Indexed) : Prop where
  chains : ∀ ys, IsChain tokens origin names ys ↔ ys <+: xs
  stops : ∀ name, names[xs.length]? = some name → ∀ y, ¬ Defines tokens name y
  inside : ∀ y ∈ xs, tokens[y.2]? = some y.1

theorem isLongestChain_chain (hrows : tokens.Pairwise fun s t => s.row ≤ t.row)
    (horigin : tokens[origin.2]? = some origin.1) (names : List String) :
    IsLongestChain tokens origin names (chain tokens origin names) where
  chains _ := isChain_iff hrows horigin
  stops _ := not_defines_of_chain
  inside := ((isChain_iff hrows horigin).mpr List.prefix_rfl).mem_tokens

/-! ### Clicks -/

/-- A token of the list is at the position, and no token before it is. -/
structure IsFirstAt (tokens : List StoryToken) (p : Position) (x : Indexed) : Prop where
  stands : tokens[x.2]? = some x.1
  covers : x.1.covers p = true
  first : ∀ y : Indexed, tokens[y.2]? = some y.1 → y.1.covers p = true → x.2 ≤ y.2

variable {p : Position}

theorem find?_covers_eq_some_iff :
    (tokens.zipIdx.find? fun t => t.1.covers p) = some x ↔ IsFirstAt tokens p x := by
  rw [find?_eq_some_iff_of_pairwise (pairwise_zipIdx tokens) fun _ _ => Nat.lt_asymm]
  simp only [List.mem_zipIdx_iff_getElem?, Nat.not_lt]
  exact ⟨fun h => ⟨h.1, h.2.1, h.2.2⟩, fun h => ⟨h.stands, h.covers, h.first⟩⟩

/-- Where a click leads depends on the first token at the position only. -/
theorem resolve_of_isFirstAt (hx : IsFirstAt tokens p x) :
    resolve tokens p = if x.1.kind = StoryToken.includeKind then .otherFile
      else if x.1.kind = StoryToken.divertKind then follow tokens x else .nowhere := by
  rw [resolve, find?_covers_eq_some_iff.mpr hx]

/-- The destination at the end of some tokens that were followed. -/
def destination (xs : List Indexed) : Destination :=
  match xs.getLast? with
  | some last => .definition last.1.position
  | none => .unknown

theorem destination_of_getLast? {xs : List Indexed} {last : Indexed} (h : xs.getLast? = some last) :
    destination xs = .definition last.1.position := by
  rw [destination, h]

theorem destination_eq_unknown_iff {xs : List Indexed} : destination xs = .unknown ↔ xs = [] := by
  rw [destination, ← List.getLast?_eq_none_iff]
  cases xs.getLast? <;> simp

/-- A click on a divert leads to the end of the chain along its path. -/
theorem resolve_of_divert (hx : IsFirstAt tokens p x) (hkind : x.1.kind = StoryToken.divertKind) :
    resolve tokens p = destination (chain tokens x (path x.1.text)) := by
  have hinclude : x.1.kind ≠ StoryToken.includeKind := by rw [hkind]; decide
  rw [resolve_of_isFirstAt hx, if_neg hinclude, if_pos hkind]
  rfl

theorem resolve_of_uncovered (h : ∀ t ∈ tokens, t.covers p = false) :
    resolve tokens p = .nowhere := by
  have hnone : (tokens.zipIdx.find? fun t => t.1.covers p) = none := by
    rw [List.find?_eq_none]
    intro y hy
    rw [List.mem_zipIdx_iff_getElem?] at hy
    simp [h y.1 (List.mem_of_getElem? hy)]
  rw [resolve, hnone]

/-- **A divert leads along the nearest definitions.** Let the rows of the tokens never go back. A
click where no token is leads nowhere. Otherwise only the first token at the position counts: it
may name another file or be no link, and if it is a divert, its text is made of parts with dots
between them in just one way, which gives the names of its path. From the clicked token on there is
a longest chain of nearest definitions. The destination is unknown if and only if the first name has
no definition, and otherwise it is the last token of this chain. -/
theorem divert_leads_along_nearest_definitions (tokens : List StoryToken)
    (hrows : tokens.Pairwise fun s t => s.row ≤ t.row) (p : Position) :
    ((∀ t ∈ tokens, t.covers p = false) → resolve tokens p = .nowhere) ∧
      ∀ x, IsFirstAt tokens p x →
        (x.1.kind = StoryToken.includeKind → resolve tokens p = .otherFile) ∧
        (x.1.isLink = false → resolve tokens p = .nowhere) ∧
        (x.1.kind = StoryToken.divertKind → ∃ part parts xs,
          (∀ others, IsSplit '.' x.1.text.toList others ↔ others = part :: parts) ∧
          IsLongestChain tokens x ((part :: parts).map nameOf) xs ∧
          (resolve tokens p = .unknown ↔ ∀ y, ¬ Defines tokens (nameOf part) y) ∧
          ((∃ y, Defines tokens (nameOf part) y) →
            ∃ last, xs.getLast? = some last ∧ resolve tokens p = .definition last.1.position)) := by
  refine ⟨resolve_of_uncovered, fun x hx => ⟨fun hkind => ?_, fun hlink => ?_, fun hkind => ?_⟩⟩
  · rw [resolve_of_isFirstAt hx, if_pos hkind]
  · have hkinds : ¬ x.1.kind = StoryToken.divertKind ∧ ¬ x.1.kind = StoryToken.includeKind := by
      simpa [StoryToken.isLink] using hlink
    rw [resolve_of_isFirstAt hx, if_neg hkinds.2, if_neg hkinds.1]
  · obtain ⟨part, parts, hparts⟩ :=
      List.exists_cons_of_ne_nil (splitAt_ne_nil '.' x.1.text.toList)
    let xs := chain tokens x ((part :: parts).map nameOf)
    have hresolve : resolve tokens p = destination xs := by
      rw [resolve_of_divert hx hkind, path, hparts]
    have hnil : xs = [] ↔ ∀ y, ¬ Defines tokens (nameOf part) y := chain_eq_nil_iff
    refine ⟨part, parts, xs, fun others => by rw [isSplit_iff, hparts],
      isLongestChain_chain hrows hx.stands _, ?_, fun hdefined => ?_⟩
    · rw [hresolve, destination_eq_unknown_iff, hnil]
    · obtain ⟨y, hy⟩ := hdefined
      have hne : xs ≠ [] := fun h => hnil.mp h y hy
      have hlast := List.getLast?_eq_some_getLast hne
      exact ⟨xs.getLast hne, hlast, by rw [hresolve, destination_of_getLast? hlast]⟩

/-- A divert stands between two definitions of its first name that are equally near. The one before
it is taken, and the second name is found there. -/
theorem divert_leads_back_to_door :
    let tokens : List StoryToken :=
      [⟨"knot.declaration.name", "hub", 0, 4⟩, ⟨"stitch.declaration.name", "door", 1, 2⟩,
        ⟨"divert.target", "hub.door", 5, 3⟩, ⟨"knot.declaration.name", "hub", 10, 4⟩,
        ⟨"stitch.declaration.name", "door", 10, 9⟩]
    let divert : Indexed := (⟨"divert.target", "hub.door", 5, 3⟩, 2)
    (tokens.Pairwise fun s t => s.row ≤ t.row) ∧ IsFirstAt tokens ⟨5, 4⟩ divert ∧
      ∃ xs, IsLongestChain tokens divert ["hub", "door"] xs ∧
        ∃ last, xs.getLast? = some last ∧ last.1.position = ⟨1, 2⟩ := by
  intro tokens divert
  have hrows : tokens.Pairwise fun s t => s.row ≤ t.row := by decide
  have hfirst : IsFirstAt tokens ⟨5, 4⟩ divert := find?_covers_eq_some_iff.mp (by decide)
  obtain ⟨part, parts, xs, hsplit, hchain, -, hlast⟩ :=
    ((divert_leads_along_nearest_definitions tokens hrows ⟨5, 4⟩).2 divert hfirst).2.2 rfl
  obtain ⟨rfl, rfl⟩ : ['h', 'u', 'b'] = part ∧ [['d', 'o', 'o', 'r']] = parts :=
    List.cons.inj ((hsplit _).mp (isSplit_iff.mpr (by decide)))
  have hhub : Defines tokens "hub" (⟨"knot.declaration.name", "hub", 0, 4⟩, 0) := by
    constructor <;> decide
  obtain ⟨last, hlast, hresolve⟩ := hlast ⟨_, hhub⟩
  have hdoor : resolve tokens ⟨5, 4⟩ = .definition ⟨1, 2⟩ := by decide
  rw [hdoor, Destination.definition.injEq] at hresolve
  exact ⟨hrows, hfirst, xs, hchain, last, hlast, hresolve.symm⟩

end Divert

end Playthrough
