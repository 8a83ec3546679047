import Mathlib.Data.List.Infix
import Mathlib.Data.List.TakeWhile
import Playthrough.Proofs.NearestDefinitions

/-!
# Arguments of a divert

The text of a divert may end with a list of arguments in parentheses. The text is first cut at its
dots, and from each of the parts everything is dropped that stands between a parenthesis and the
next one that is closed. If the arguments have neither dots nor parentheses in them, what is left is
the name in front of them, and the divert leads where the name alone leads.

Otherwise one of the parts keeps a closing parenthesis: the last part if the arguments have a dot,
since more is closed behind it than is opened there, and the only part if a parenthesis is opened in
them, since the list is dropped up to the first one that is closed. A name with a parenthesis is
another one than the name in front of the arguments, so that definitions can be placed around the
divert in such a way that it leads elsewhere. Arguments are thus ignored for these two reasons only.

## Main definitions

* `Divert.Balanced` — what is opened in a text is closed in it.
* `Divert.withArguments` — a name with a list of arguments.
* `Divert.crossing` — definitions around a divert that tell two paths apart.

## Main results

* `Divert.count_dropArguments` — how many parentheses are left when argument lists are dropped.
* `Divert.exists_name_with_close` — dots and parentheses among the arguments spoil a name.
* `Divert.resolve_set` — where a divert leads with another text.
* `Divert.exists_crossing` — paths with different names lead to different places somewhere.
* `Divert.arguments_are_ignored_iff_plain` — which arguments are ignored.
-/

namespace Playthrough

/-! ### Texts -/

namespace Text

theorem splitAt_concat {sep : Char} {part : List Char} (h : sep ∉ part) (cs : List Char) :
    splitAt sep (cs ++ sep :: part) = splitAt sep cs ++ [part] := by
  induction cs with
  | nil =>
    rw [List.nil_append, splitAt.eq_2, if_pos rfl, splitAt_of_notMem h]
    rfl
  | cons c cs ih =>
    obtain ⟨head, tail, hcs⟩ := List.exists_cons_of_ne_nil (splitAt_ne_nil sep cs)
    rw [List.cons_append, splitAt, splitAt.eq_2, ih, hcs]
    split <;> rfl

theorem mem_trimStart {c : Char} (hc : isBlank c = false) (cs : List Char) :
    c ∈ trimStart cs ↔ c ∈ cs := by
  have hblank : c ∉ cs.takeWhile isBlank := by
    intro h
    simpa [hc] using List.mem_takeWhile_imp h
  have hparts : c ∈ cs ↔ c ∈ cs.takeWhile isBlank ++ cs.dropWhile isBlank := by
    rw [List.takeWhile_append_dropWhile]
  rw [hparts, List.mem_append, or_iff_right hblank, trimStart]

/-- Trimming takes away blanks only. -/
theorem mem_trim {c : Char} (hc : isBlank c = false) (cs : List Char) :
    c ∈ trim cs ↔ c ∈ cs := by
  rw [trim, trimEnd, List.mem_reverse, ← trimStart, mem_trimStart hc, List.mem_reverse,
    mem_trimStart hc]

end Text

namespace Divert

open Text

/-! ### Argument lists -/

/-- Every parenthesis that is closed was opened before, and all that are opened are closed. -/
structure Balanced (cs : List Char) : Prop where
  opened : ∀ front, front <+: cs → front.count ')' ≤ front.count '('
  closed : cs.count '(' = cs.count ')'

instance (cs : List Char) : Decidable (Balanced cs) :=
  decidable_of_iff ((∀ front ∈ cs.inits, front.count ')' ≤ front.count '(') ∧
      cs.count '(' = cs.count ')') <| by
    simp only [List.mem_inits]
    exact ⟨fun h => ⟨h.1, h.2⟩, fun h => ⟨h.opened, h.closed⟩⟩

theorem dropArguments_true_cons (c : Char) (cs : List Char) :
    dropArguments true (c :: cs) = dropArguments (c != ')') cs := by
  rw [dropArguments, if_pos rfl]

theorem dropArguments_open {cs : List Char} (h : ')' ∈ cs) :
    dropArguments false ('(' :: cs) = dropArguments true cs := by
  simp [dropArguments, h]

theorem dropArguments_keep {c : Char} {cs : List Char} (h : ¬(c = '(' ∧ ')' ∈ cs)) :
    dropArguments false (c :: cs) = c :: dropArguments false cs := by
  rw [dropArguments, if_neg Bool.false_ne_true, if_neg h]

theorem dropArguments_append {front : List Char} (h : '(' ∉ front) (cs : List Char) :
    dropArguments false (front ++ cs) = front ++ dropArguments false cs := by
  induction front with
  | nil => rfl
  | cons c front ih =>
    rw [List.mem_cons, not_or] at h
    rw [List.cons_append, dropArguments_keep fun hc => h.1 hc.1.symm, ih h.2, List.cons_append]

theorem dropArguments_of_notMem {cs : List Char} (h : '(' ∉ cs) : dropArguments false cs = cs := by
  have happend := dropArguments_append h []
  rwa [dropArguments, List.append_nil] at happend

theorem dropArguments_true_append {front : List Char} (h : ')' ∉ front) (cs : List Char) :
    dropArguments true (front ++ cs) = dropArguments true cs := by
  induction front with
  | nil => rfl
  | cons c front ih =>
    rw [List.mem_cons, not_or] at h
    have hc : (c != ')') = true := bne_iff_ne.mpr (Ne.symm h.1)
    rw [List.cons_append, dropArguments_true_cons, hc, ih h.2]

/-- Dropping argument lists takes away at least as many opening parentheses as closing ones, if the
one that opened the list it begins in is counted. -/
theorem count_dropArguments (inside : Bool) (cs : List Char) :
    cs.count ')' + (dropArguments inside cs).count '(' ≤
      (dropArguments inside cs).count ')' + cs.count '(' + inside.toNat := by
  induction cs generalizing inside with
  | nil => simp [dropArguments]
  | cons c cs ih =>
    have hinside := ih true
    have houtside := ih false
    simp only [Bool.toNat_true, Bool.toNat_false] at hinside houtside
    cases inside with
    | true =>
      by_cases hclose : c = ')'
      · simp [dropArguments_true_cons, hclose]
        omega
      · have hc : (c != ')') = true := bne_iff_ne.mpr hclose
        simp only [dropArguments_true_cons, hc, List.count_cons_of_ne hclose, List.count_cons,
          Bool.toNat_true]
        omega
    | false =>
      by_cases hopen : c = '(' ∧ ')' ∈ cs
      · obtain ⟨rfl, hmem⟩ := hopen
        simp [dropArguments_open hmem]
        omega
      · simp only [dropArguments_keep hopen, List.count_cons, Bool.toNat_false]
        omega

/-- What closes more than it opens still closes something without its argument lists. -/
theorem close_mem_dropArguments {inside : Bool} {cs : List Char}
    (h : cs.count '(' + inside.toNat < cs.count ')') : ')' ∈ dropArguments inside cs := by
  have hcount := count_dropArguments inside cs
  rw [← List.count_pos_iff]
  omega

variable {n a : List Char}

/-- Arguments without parentheses are dropped altogether. -/
theorem dropArguments_of_plain (hn : '(' ∉ n) (ha : ')' ∉ a) :
    dropArguments false (n ++ '(' :: (a ++ [')'])) = n := by
  rw [dropArguments_append hn, dropArguments_open (by simp), dropArguments_true_append ha]
  simp [dropArguments]

/-- If a parenthesis is opened in the arguments, the first one that is closed in them ends the list,
and the last one is left over. -/
theorem close_mem_of_open_mem (hn : '(' ∉ n) (ha : Balanced a) (hopen : '(' ∈ a) :
    ')' ∈ dropArguments false (n ++ '(' :: (a ++ [')'])) := by
  obtain ⟨front, back, rfl, hfront⟩ := List.eq_append_cons_of_mem hopen
  have hclose : ')' ∉ front := by
    have h := ha.opened front (List.prefix_append _ _)
    rw [List.count_eq_zero_of_not_mem hfront, Nat.le_zero, List.count_eq_zero] at h
    exact h
  have hclosed := ha.closed
  rw [dropArguments_append hn, dropArguments_open (by simp), List.append_assoc,
    dropArguments_true_append hclose, List.cons_append, dropArguments_true_cons]
  refine List.mem_append_right _ (close_mem_dropArguments ?_)
  simp [List.count_eq_zero_of_not_mem hfront, List.count_eq_zero_of_not_mem hclose] at hclosed ⊢
  omega

/-- What stands behind the last dot of the arguments closes more than it opens. -/
theorem close_mem_of_dot_mem (ha : Balanced a) {front back : List Char}
    (hdot : a = front ++ '.' :: back) : ')' ∈ dropArguments false (back ++ [')']) := by
  have hopened := ha.opened front (hdot ▸ List.prefix_append _ _)
  have hclosed := ha.closed
  refine close_mem_dropArguments ?_
  simp [hdot] at hclosed ⊢
  omega

/-! ### Paths -/

theorem mem_toList_nameOf {part : List Char} :
    ')' ∈ (nameOf part).toList ↔ ')' ∈ dropArguments false part := by
  rw [nameOf, String.toList_ofList, mem_trim (by decide)]

theorem path_of_plain {text : String} (h : '.' ∉ text.toList) :
    path text = [nameOf text.toList] := by
  rw [path, splitAt_of_notMem h]
  rfl

/-- The text of a divert with a list of arguments. -/
def withArguments (n a : String) : String :=
  n ++ "(" ++ a ++ ")"

theorem toList_withArguments (n a : String) :
    (withArguments n a).toList = n.toList ++ '(' :: (a.toList ++ [')']) := by
  simp [withArguments, String.toList_append]

section Names

variable {n a : String} (hn : '.' ∉ n.toList ∧ '(' ∉ n.toList ∧ ')' ∉ n.toList)

include hn

/-- Arguments without dots and parentheses leave the path as it is. -/
theorem path_withArguments (hdot : '.' ∉ a.toList) (hclose : ')' ∉ a.toList) :
    path (withArguments n a) = path n := by
  have hplain : '.' ∉ (withArguments n a).toList := by
    simp [toList_withArguments, hn.1, hdot]
  have hname : nameOf (withArguments n a).toList = nameOf n.toList := by
    rw [nameOf, nameOf, toList_withArguments, dropArguments_of_plain hn.2.1 hclose,
      dropArguments_of_notMem hn.2.1]
  rw [path_of_plain hplain, path_of_plain hn.1, hname]

/-- Other arguments leave a name behind that no plain text has. -/
theorem exists_name_with_close (ha : Balanced a.toList) (h : '.' ∈ a.toList ∨ '(' ∈ a.toList) :
    ∃ name ∈ path (withArguments n a), ')' ∈ name.toList := by
  by_cases hdot : '.' ∈ a.toList
  · obtain ⟨back, front, hback, hmem⟩ :=
      List.eq_append_cons_of_mem (List.mem_reverse.mpr hdot)
    have hparts : a.toList = front.reverse ++ '.' :: back.reverse := by
      simpa using congrArg List.reverse hback
    have hclose := close_mem_of_dot_mem ha hparts
    have hlast : '.' ∉ back.reverse ++ [')'] := by simpa using hmem
    have hsplit : splitAt '.' (withArguments n a).toList =
        splitAt '.' (n.toList ++ '(' :: front.reverse) ++ [back.reverse ++ [')']] := by
      rw [← splitAt_concat hlast, toList_withArguments, hparts]
      simp
    refine ⟨nameOf (back.reverse ++ [')']), ?_, mem_toList_nameOf.mpr hclose⟩
    simp [path, hsplit]
  · have hopen : '(' ∈ a.toList := h.resolve_left hdot
    have hplain : '.' ∉ (withArguments n a).toList := by
      simp [toList_withArguments, hn.1, hdot]
    refine ⟨nameOf (withArguments n a).toList, by simp [path_of_plain hplain], ?_⟩
    rw [mem_toList_nameOf, toList_withArguments]
    exact close_mem_of_open_mem hn.2.1 ha hopen

end Names

/-! ### Tokens that define nothing -/

variable {tokens : List StoryToken} {t t' : StoryToken} {i : Nat} {name : String}

/-- A token that defines no name may be replaced by another such token. -/
theorem defines_set (ht : tokens[i]? = some t) (hname : t.isName = false)
    (hname' : t'.isName = false) (x : Indexed) :
    Defines (tokens.set i t') name x ↔ Defines tokens name x := by
  have hnot (u : StoryToken) (hu : u.isName = false) : ¬ u.defines name = true := by
    simp [StoryToken.defines, hu]
  unfold Defines
  by_cases hi : i = x.2
  · obtain ⟨hlt, -⟩ := List.getElem?_eq_some_iff.mp ht
    rw [← hi, List.getElem?_set_self hlt, ht]
    refine iff_of_false ?_ ?_
    · rintro ⟨hx, hdefines⟩
      exact hnot t' hname' (Option.some.inj hx ▸ hdefines)
    · rintro ⟨hx, hdefines⟩
      exact hnot t hname (Option.some.inj hx ▸ hdefines)
  · rw [List.getElem?_set_ne hi]

theorem nearest_set (ht : tokens[i]? = some t) (hname : t.isName = false)
    (hname' : t'.isName = false) {origin origin' : Indexed} (hindex : origin'.2 = origin.2)
    (hrow : origin'.1.row = origin.1.row) :
    nearest (tokens.set i t') origin' name = nearest tokens origin name := by
  have hbehind : behind (tokens.set i t') origin.2 name = behind tokens origin.2 name := by
    refine Option.ext fun x => ?_
    simp only [behind_eq_some_iff, defines_set ht hname hname']
  have hupTo : upTo (tokens.set i t') origin.2 name = upTo tokens origin.2 name := by
    refine Option.ext fun x => ?_
    simp only [upTo_eq_some_iff, defines_set ht hname hname']
  simp only [nearest, hindex, hbehind, hupTo, rowDistance, hrow]
  rfl

theorem chain_set (ht : tokens[i]? = some t) (hname : t.isName = false)
    (hname' : t'.isName = false) {origin origin' : Indexed} (hindex : origin'.2 = origin.2)
    (hrow : origin'.1.row = origin.1.row) (names : List String) :
    chain (tokens.set i t') origin' names = chain tokens origin names := by
  induction names generalizing origin origin' with
  | nil => rfl
  | cons head names ih =>
    rw [chain, chain, nearest_set ht hname hname' hindex hrow]
    cases nearest tokens origin head with
    | none => rfl
    | some x => simp only [ih rfl rfl]

/-! ### Replacing the text of a divert -/

theorem isName_of_divert (ht : t.kind = StoryToken.divertKind) : t.isName = false := by
  rw [StoryToken.isName, ht]
  decide

/-- The first character of a token is on it, unless it has none. -/
theorem covers_position (h : t.text ≠ "") : t.covers t.position = true := by
  have hpos : 0 < t.text.length := by
    rw [Nat.pos_iff_ne_zero, Ne, String.length_eq_zero_iff]
    exact h
  simpa [StoryToken.covers, StoryToken.position] using hpos

/-- A click at the first character of a divert is on it whatever its text is, unless that is
empty. -/
theorem isFirstAt_set {text : String} (hx : IsFirstAt tokens t.position (t, i))
    (htext : text ≠ "") :
    IsFirstAt (tokens.set i { t with text }) t.position ({ t with text }, i) where
  stands := by
    obtain ⟨hlt, -⟩ := List.getElem?_eq_some_iff.mp hx.stands
    exact List.getElem?_set_self hlt
  covers := covers_position htext
  first y hy hcovers := by
    by_cases hi : i = y.2
    · exact Nat.le_of_eq hi
    · rw [List.getElem?_set_ne hi] at hy
      exact hx.first y hy hcovers

/-- With another text, a divert leads along the path of that text in the list as it was. -/
theorem resolve_set {text : String} (hx : IsFirstAt tokens t.position (t, i))
    (hkind : t.kind = StoryToken.divertKind) (htext : text ≠ "") :
    resolve (tokens.set i { t with text }) t.position =
      destination (chain tokens (t, i) (path text)) := by
  have hstands : tokens[i]? = some t := hx.stands
  have hname : t.isName = false := isName_of_divert hkind
  have hname' : { t with text }.isName = false := isName_of_divert hkind
  have hchain : chain (tokens.set i { t with text }) ({ t with text }, i) (path text) =
      chain tokens (t, i) (path text) := by
    apply chain_set hstands hname hname' <;> rfl
  rw [resolve_of_divert (isFirstAt_set hx htext) hkind]
  exact congrArg destination hchain

/-! ### Where arguments do matter -/

/-- The declaration of a name at the beginning of a row. -/
def declaration (name : String) (row : Nat) : StoryToken :=
  ⟨"knot.declaration.name", name, row, 0⟩

@[simp] theorem defines_declaration (name name' : String) (row : Nat) :
    (declaration name row).defines name' = decide (name = name') := by
  have hname : (declaration name row).isName = true := by
    change Text.occursIn _ "knot.declaration.name".toList = true
    decide
  rw [StoryToken.defines, hname]
  rfl

@[simp] theorem row_declaration (name : String) (row : Nat) :
    (declaration name row).row = row := rfl

/-- A divert at the beginning of a row. -/
def divertAt (text : String) (row : Nat) : StoryToken :=
  ⟨StoryToken.divertKind, text, row, 0⟩

@[simp] theorem defines_divertAt (text name : String) (row : Nat) :
    (divertAt text row).defines name = false := by
  rw [StoryToken.defines, isName_of_divert rfl]
  rfl

@[simp] theorem row_divertAt (text : String) (row : Nat) : (divertAt text row).row = row := rfl

/-- A divert between two declarations of `near`. Beyond it, `far` is declared as well. -/
def crossing (near far text : String) : List StoryToken :=
  [declaration near 0, divertAt text 1, declaration far 3, declaration near 4]

/-- The tokens of the crossing up to the divert. -/
def OnNearSide (near text : String) (x : Indexed) : Prop :=
  x = (declaration near 0, 0) ∨ x = (divertAt text 1, 1)

/-- The tokens of the crossing beyond the divert. -/
def OnFarSide (near far : String) (x : Indexed) : Prop :=
  x = (declaration far 3, 2) ∨ x = (declaration near 4, 3)

section Crossing

variable {near far text : String} {origin x : Indexed} (hne : far ≠ near)

include hne

theorem nearest_near_of_onNearSide (h : OnNearSide near text origin) :
    nearest (crossing near far text) origin near = some (declaration near 0, 0) := by
  rcases h with rfl | rfl <;> simp [nearest, behind, upTo, crossing, rowDistance, hne]

theorem nearest_far_of_onNearSide (h : OnNearSide near text origin) :
    nearest (crossing near far text) origin far = some (declaration far 3, 2) := by
  rcases h with rfl | rfl <;> simp [nearest, behind, upTo, crossing, hne.symm]

/-- On the far side, both names are declared nearer than they are on the near side. -/
theorem onFarSide_of_nearest {name : String} (h : OnFarSide near far origin)
    (hx : nearest (crossing near far text) origin name = some x) : OnFarSide near far x := by
  by_cases hnear : name = near
  · refine .inr (Option.some.inj (hx.symm.trans ?_))
    rcases h with rfl | rfl <;> simp [nearest, behind, upTo, crossing, rowDistance, hne, hnear]
  · by_cases hfar : name = far
    · refine .inl (Option.some.inj (hx.symm.trans ?_))
      rcases h with rfl | rfl <;>
        simp [nearest, behind, upTo, crossing, rowDistance, hne.symm, hfar]
    · rcases h with rfl | rfl <;>
        simp [nearest, behind, upTo, crossing, Ne.symm hnear, Ne.symm hfar] at hx

theorem onFarSide_of_mem_chain {names : List String} (h : OnFarSide near far origin) :
    ∀ x ∈ chain (crossing near far text) origin names, OnFarSide near far x := by
  induction names generalizing origin with
  | nil => simp [chain]
  | cons name names ih =>
    rw [chain]
    cases hx : nearest (crossing near far text) origin name with
    | none => simp
    | some x =>
      have hfar := onFarSide_of_nearest hne h hx
      exact List.forall_mem_cons.mpr ⟨hfar, ih hfar⟩

/-- A path that names `far` crosses the divert, and does not come back. -/
theorem exists_getLast?_chain {front back : List String} (hfront : ∀ name ∈ front, name = near)
    (h : OnNearSide near text origin) :
    ∃ last, (chain (crossing near far text) origin (front ++ far :: back)).getLast? = some last ∧
      OnFarSide near far last := by
  induction front generalizing origin with
  | nil =>
    let others := chain (crossing near far text) (declaration far 3, 2) back
    have hchain : chain (crossing near far text) origin ([] ++ far :: back) =
        (declaration far 3, 2) :: others := by
      rw [List.nil_append, chain, nearest_far_of_onNearSide hne h]
    refine ⟨_, by rw [hchain, List.getLast?_cons], ?_⟩
    cases hlast : others.getLast? with
    | none => exact .inl rfl
    | some last =>
      exact onFarSide_of_mem_chain hne (.inl rfl) last (List.mem_of_getLast? hlast)
  | cons name front ih =>
    rw [List.forall_mem_cons] at hfront
    obtain ⟨last, hlast, hfar⟩ := ih hfront.2 (.inl rfl)
    refine ⟨last, ?_, hfar⟩
    rw [hfront.1, List.cons_append, chain, nearest_near_of_onNearSide hne h]
    simp only [List.getLast?_cons, hlast, Option.getD_some]

end Crossing

theorem isFirstAt_crossing (near far : String) {text : String} (htext : text ≠ "") :
    IsFirstAt (crossing near far text) (divertAt text 1).position (divertAt text 1, 1) where
  stands := rfl
  covers := covers_position htext
  first y hy hcovers := by
    rw [Nat.one_le_iff_ne_zero]
    intro hzero
    rw [hzero] at hy
    have hdeclaration : declaration near 0 = y.1 := Option.some.inj hy
    simp [← hdeclaration, StoryToken.covers, StoryToken.position] at hcovers

/-- If a path has a name other than `near`, it leads to another place than `near` alone from the
divert of some crossing. -/
theorem exists_crossing {text near : String} (htext : text ≠ "")
    (h : ∃ name ∈ path text, name ≠ near) :
    ∃ tokens, IsFirstAt tokens (divertAt text 1).position (divertAt text 1, 1) ∧
      destination (chain tokens (divertAt text 1, 1) (path text)) ≠
        destination (chain tokens (divertAt text 1, 1) [near]) := by
  -- the first name other than `near` is the one that crosses
  have hsome : ((path text).find? (· ≠ near)).isSome := by simpa using h
  obtain ⟨far, hfound⟩ := Option.isSome_iff_exists.mp hsome
  obtain ⟨hfar, front, back, hpath, hfront⟩ := List.find?_eq_some_iff_append.mp hfound
  have hne : far ≠ near := by simpa using hfar
  have hfront : ∀ name ∈ front, name = near := by simpa using hfront
  have hcrosses : ∃ last,
      (chain (crossing near far text) (divertAt text 1, 1) (front ++ far :: back)).getLast? =
        some last ∧ OnFarSide near far last := exists_getLast?_chain hne hfront (.inr rfl)
  obtain ⟨last, hlast, hside⟩ := hcrosses
  refine ⟨crossing near far text, isFirstAt_crossing near far htext, ?_⟩
  rw [hpath, destination_of_getLast? hlast, chain, nearest_near_of_onNearSide hne (.inr rfl)]
  rcases hside with rfl | rfl <;> simp [destination, chain, StoryToken.position]

/-- **The arguments of a divert are ignored just if they are plain.** Take a name without dots and
parentheses, followed by a list of arguments in which the parentheses are balanced. In every list of
tokens, a click at the first character of a divert with this text leads where it leads with the name
alone, if and only if the arguments have neither dots nor parentheses in them. -/
theorem arguments_are_ignored_iff_plain (n a : String) (hempty : n ≠ "")
    (hn : '.' ∉ n.toList ∧ '(' ∉ n.toList ∧ ')' ∉ n.toList) (ha : Balanced a.toList) :
    (∀ (tokens : List StoryToken) (t : StoryToken) (i : Nat), IsFirstAt tokens t.position (t, i) →
      t.kind = StoryToken.divertKind → t.text = withArguments n a →
      resolve tokens t.position = resolve (tokens.set i { t with text := n }) t.position) ↔
    '.' ∉ a.toList ∧ '(' ∉ a.toList := by
  constructor
  · intro hignored
    by_contra hplain
    rw [not_and_or, not_not, not_not] at hplain
    obtain ⟨name, hmem, hclose⟩ := exists_name_with_close hn ha hplain
    have hne : name ≠ nameOf n.toList := by
      rintro rfl
      rw [mem_toList_nameOf, dropArguments_of_notMem hn.2.1] at hclose
      exact hn.2.2 hclose
    have htext : withArguments n a ≠ "" := by
      intro h
      simpa [toList_withArguments] using congrArg String.toList h
    obtain ⟨tokens, hx, hdiffer⟩ := exists_crossing htext ⟨name, hmem, hne⟩
    have h := hignored tokens (divertAt (withArguments n a) 1) 1 hx rfl rfl
    rw [resolve_of_divert hx rfl, resolve_set hx rfl hempty, path_of_plain hn.1] at h
    exact hdiffer h
  · rintro ⟨hdot, hopen⟩ tokens t i hx hkind htext
    have hclose : ')' ∉ a.toList := by
      rw [← List.count_eq_zero, ← ha.closed, List.count_eq_zero]
      exact hopen
    rw [resolve_set hx hkind hempty, resolve_of_divert hx hkind]
    change destination (chain tokens (t, i) (path t.text)) = _
    rw [htext, path_withArguments hn hdot hclose]

/-- A list of two plain arguments does not influence where a divert leads. -/
theorem arguments_of_greet_are_ignored :
    let tokens := [declaration "greet" 0, divertAt (withArguments "greet" "name, 2") 3]
    Balanced "name, 2".toList ∧
      IsFirstAt tokens ⟨3, 0⟩ (divertAt (withArguments "greet" "name, 2") 3, 1) ∧
      resolve tokens ⟨3, 0⟩ = resolve (tokens.set 1 (divertAt "greet" 3)) ⟨3, 0⟩ := by
  intro tokens
  have hbalanced : Balanced "name, 2".toList := by decide
  have hx : IsFirstAt tokens ⟨3, 0⟩ (divertAt (withArguments "greet" "name, 2") 3, 1) :=
    find?_covers_eq_some_iff.mp (by decide)
  have hignored := (arguments_are_ignored_iff_plain "greet" "name, 2" (by decide) (by decide)
    hbalanced).mpr (by decide)
  exact ⟨hbalanced, hx, hignored tokens (divertAt _ 3) 1 hx rfl rfl⟩

/-- The same divert leads nowhere if one of its arguments is a call or has a decimal point. -/
theorem arguments_of_greet_lose_definition :
    let tokens := [declaration "greet" 0, divertAt (withArguments "greet" "max(x, y)") 3,
      divertAt (withArguments "greet" "2.5") 4]
    Balanced "max(x, y)".toList ∧ Balanced "2.5".toList ∧
      resolve tokens ⟨3, 0⟩ = .unknown ∧
      resolve (tokens.set 1 (divertAt "greet" 3)) ⟨3, 0⟩ = .definition ⟨0, 0⟩ ∧
      resolve tokens ⟨4, 0⟩ = .unknown ∧
      resolve (tokens.set 2 (divertAt "greet" 4)) ⟨4, 0⟩ = .definition ⟨0, 0⟩ := by
  decide

end Divert

end Playthrough
