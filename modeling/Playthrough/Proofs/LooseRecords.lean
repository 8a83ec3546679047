import Mathlib.Data.List.Nodup
import Playthrough.Proofs.SpelledValues
import Playthrough.Wire.Codec

/-!
# Records with their fields in any order

The values of a message are written with their members in one order. They are read from *looser*
values too, in which the members of every object stand in any order, among others with names of
their own.

A record is read member by member into a draft. As no field is repeated, the draft after some
members is determined by the names among them, in whatever order they stood. A tagged record is read
as a value first, and it does not matter where the tag stood in it.

## Main definitions

* `Wire.IsLoose` — the values that a value is also read from.
* `Wire.Offers` — the sources of some members, each once, in any order.
* `Wire.Field.Fills` — a field fills a draft that is determined by the names seen.

## Main results

* `Wire.Offers.foldlM_eq` — the draft of a record, whatever the order of its fields.
* `Wire.Node.exists_tagged` — a tagged record is read wherever its tag stands.
-/

namespace Playthrough

namespace Wire

variable {ν π α β : Type}

/-! ### Loose values -/

/-- The values that the value of a field is also read from. The members of an object may stand in
any order, and there may be any others with other names. A severity of two words may be joined by an
underscore. -/
inductive IsLoose : String → Value → Value → Prop where
  | text (field s : String) : IsLoose field (.text s) (.text s)
  | number (field : String) (n : Numeral) : IsLoose field (.number n) (.number n)
  | underscore : IsLoose "type" (.text "RUNTIME ERROR") (.text "RUNTIME_ERROR")
  | object {field : String} {parts : List (String × (Value × Value))}
      {others ms : List (String × Value)} (loose : ∀ p ∈ parts, IsLoose p.1 p.2.1 p.2.2)
      (foreign : ∀ m ∈ others, m.1 ∉ parts.map Prod.fst)
      (perm : ms.Perm (parts.map (fun p => (p.1, p.2.2)) ++ others)) :
      IsLoose field (.object (parts.map fun p => (p.1, p.2.1))) (.object ms)

namespace IsLoose

variable {field s : String} {v : Value}

theorem text_eq (h : IsLoose field (.text s) v) (hfield : field ≠ "type") : v = .text s := by
  cases h with
  | text => rfl
  | underscore => exact absurd rfl hfield

theorem natural_eq {k : Nat} (h : IsLoose field (.natural k) v) : v = .natural k := by
  cases h with
  | number => rfl

/-- A severity is found by all of its names. -/
theorem exists_severity {l : Severity} (h : IsLoose field (.text l.label) v) :
    ∃ name, v = .text name ∧ severity? name = some l := by
  generalize hlabel : l.label = label at h
  cases h with
  | text => exact ⟨_, rfl, by subst hlabel; cases l <;> rfl⟩
  | underscore =>
    cases l with
    | runtimeError => exact ⟨_, rfl, rfl⟩
    | _ => exact absurd hlabel (by decide)

end IsLoose

/-! ### Members in any order -/

/-- The sources `ns` stand for looser values of the members `ms`, each of them once, in any order
and among others. These values keep within the limits. -/
structure Offers (stands : ν → Value → Prop) (height : Nat) (ns : List (String × ν))
    (ms : List (String × Value)) : Prop where
  once : ∀ m ∈ ms, (ns.map Prod.fst).count m.1 = 1
  loose : ∀ m ∈ ms, ∀ n ∈ ns, n.1 = m.1 →
    ∃ v, stands n.2 v ∧ IsLoose m.1 m.2 v ∧ v.Within height

/-- A value that is looser than an object is an object that offers its members. -/
theorem IsLoose.exists_members {field : String} {ms : List (String × Value)} {u : Value}
    {height : Nat} (h : IsLoose field (.object ms) u) (hnames : (ms.map Prod.fst).Nodup)
    (hwithin : u.Within height) :
    ∃ (height' : Nat) (us : List (String × Value)), height = height' + 1 ∧ u = .object us ∧
      Offers Eq height' us ms ∧ ∀ u ∈ us, u.2.Within height' := by
  cases h with
  | @object _ parts others us loose foreign perm =>
    have hfst : (parts.map fun p => (p.1, p.2.1)).map Prod.fst = parts.map Prod.fst := by
      rw [List.map_map]
      rfl
    have hfst' : (parts.map fun p => (p.1, p.2.2)).map Prod.fst = parts.map Prod.fst := by
      rw [List.map_map]
      rfl
    rw [hfst] at hnames
    cases hwithin with
    | @object height' _ within =>
      refine ⟨height', us, rfl, rfl, ⟨fun m hm => ?_, fun m hm n hn hname => ?_⟩, within⟩
      · obtain ⟨p, hp, rfl⟩ := List.mem_map.mp hm
        have hforeign : p.1 ∉ others.map Prod.fst := fun hmem => by
          obtain ⟨m, hm, heq⟩ := List.mem_map.mp hmem
          exact foreign m hm (heq ▸ List.mem_map_of_mem hp)
        rw [(perm.map Prod.fst).count_eq, List.map_append, hfst', List.count_append,
          List.count_eq_zero.mpr hforeign, hnames.count, if_pos (List.mem_map_of_mem hp)]
      · obtain ⟨p, hp, rfl⟩ := List.mem_map.mp hm
        refine ⟨n.2, rfl, ?_, within n hn⟩
        rcases List.mem_append.mp (perm.mem_iff.mp hn) with hn | hn
        · obtain ⟨q, hq, rfl⟩ := List.mem_map.mp hn
          obtain rfl : q = p := List.inj_on_of_nodup_map hnames hq hp hname
          exact loose q hq
        · exact absurd (hname ▸ List.mem_map_of_mem hp) (foreign n hn)

/-- Sources with the same names that stand for the sources offer the same members. -/
theorem Offers.of_stands {stands : ν → Value → Prop} {height : Nat} {ns : List (String × ν)}
    {us ms : List (String × Value)} (h : Offers Eq height us ms)
    (hnames : ns.map Prod.fst = us.map Prod.fst)
    (hstands : ∀ n ∈ ns, ∃ u ∈ us, n.1 = u.1 ∧ stands n.2 u.2) : Offers stands height ns ms := by
  refine ⟨fun m hm => hnames ▸ h.once m hm, fun m hm n hn hname => ?_⟩
  obtain ⟨u, hu, heq, hn⟩ := hstands n hn
  obtain ⟨v, rfl, hv⟩ := h.loose m hm u hu (heq ▸ hname)
  exact ⟨u.2, hn, hv⟩

/-- Without its first member, an object is offered by what has other names. -/
theorem Offers.tail {height : Nat} {us ms : List (String × Value)} {m : String × Value}
    (h : Offers Eq height us (m :: ms)) (hm : m.1 ∉ ms.map Prod.fst) :
    Offers Eq height (us.filter fun u => u.1 ≠ m.1) ms := by
  refine ⟨fun m' hm' => ?_, fun m' hm' n hn => ?_⟩
  · have hne : m'.1 ≠ m.1 := fun heq => hm (heq ▸ List.mem_map_of_mem hm')
    have hmap : (us.filter fun u => u.1 ≠ m.1).map Prod.fst =
        (us.map Prod.fst).filter fun name => name ≠ m.1 := by
      rw [List.filter_map]
      rfl
    rw [hmap, List.count_filter (by simpa using hne)]
    exact h.once m' (List.mem_cons_of_mem _ hm')
  · exact h.loose m' (List.mem_cons_of_mem _ hm') n (List.mem_filter.mp hn).1

/-! ### Drafts -/

/-- The draft with one more member. -/
def addMember (fields : List (Field ν π)) (p : π) (m : String × ν) : Except Fault π :=
  match fields.find? fun f => f.name = m.1 with
  | none => .ok p
  | some f => if f.isSet p then .error .mismatched else f.read m.2 p

/-- What a field holds once its name has been seen. -/
def given (seen : List String) (name : String) (b : β) : Option β :=
  if name ∈ seen then some b else none

theorem given_eq_none {seen : List String} {name : String} (h : name ∉ seen) (b : β) :
    given seen name b = none :=
  if_neg h

/-- A field fills the drafts that are determined by the names seen, from some sources. -/
structure Field.Fills (f : Field ν π) (draft : List String → π) (ns : List (String × ν)) :
    Prop where
  unset : ∀ seen, f.name ∉ seen → f.isSet (draft seen) = false
  read_eq : ∀ n ∈ ns, n.1 = f.name → ∀ seen,
    f.read n.2 (draft seen) = .ok (draft (f.name :: seen))

theorem Field.fills_of {name : String} {get : π → Option β} {put : β → π → π}
    {read : ν → Except Fault β} {draft : List String → π} {ns : List (String × ν)} {b : β}
    (hget : ∀ seen, get (draft seen) = given seen name b)
    (hput : ∀ seen, put b (draft seen) = draft (name :: seen))
    (hread : ∀ n ∈ ns, n.1 = name → read n.2 = .ok b) :
    (Field.of name get put read).Fills draft ns where
  unset seen h := by
    have hnone : given seen name b = none := given_eq_none h b
    change (get (draft seen)).isSome = false
    rw [hget, hnone]
    rfl
  read_eq n hn hname seen := by
    change (read n.2).map (fun b => put b (draft seen)) = .ok (draft (name :: seen))
    rw [hread n hn hname, ← hput]
    rfl

/-- The drafts depend on no other names than those of the fields. -/
def Reflects (fields : List (Field ν π)) (draft : List String → π) : Prop :=
  ∀ seen seen' : List String, (∀ f ∈ fields, f.name ∈ seen ↔ f.name ∈ seen') →
    draft seen = draft seen'

section Drafts

variable {fields : List (Field ν π)} {draft : List String → π} {ns : List (String × ν)}

/-- A member whose field has not been seen yet counts as seen afterwards. -/
theorem addMember_eq (hreflects : Reflects fields draft) (hfills : ∀ f ∈ fields, f.Fills draft ns)
    {n : String × ν} (hn : n ∈ ns) {seen : List String}
    (hseen : n.1 ∈ fields.map Field.name → n.1 ∉ seen) :
    addMember fields (draft seen) n = .ok (draft (n.1 :: seen)) := by
  unfold addMember
  split
  · next hnone =>
    rw [List.find?_eq_none] at hnone
    refine congrArg Except.ok (hreflects _ _ fun f hf => ?_)
    have hname : f.name ≠ n.1 := by simpa using hnone f hf
    rw [List.mem_cons, or_iff_right hname]
  · next f hsome =>
    have hf : f ∈ fields := List.mem_of_find?_eq_some hsome
    have hname : f.name = n.1 := by simpa using List.find?_some hsome
    have hunseen : f.name ∉ seen := hname ▸ hseen (hname ▸ List.mem_map_of_mem hf)
    rw [(hfills f hf).unset seen hunseen, if_neg Bool.false_ne_true,
      (hfills f hf).read_eq n hn hname.symm, hname]

/-- The draft after some members is determined by the names seen. -/
theorem foldlM_addMember (hreflects : Reflects fields draft)
    (hfills : ∀ f ∈ fields, f.Fills draft ns)
    (honce : ∀ f ∈ fields, (ns.map Prod.fst).count f.name ≤ 1) (seen : List String)
    (hseen : ∀ f ∈ fields, f.name ∈ seen → f.name ∉ ns.map Prod.fst) :
    ns.foldlM (addMember fields) (draft seen) =
      .ok (draft ((ns.map Prod.fst).reverse ++ seen)) := by
  induction ns generalizing seen with
  | nil => rfl
  | cons n ns ih =>
    have hunseen : n.1 ∈ fields.map Field.name → n.1 ∉ seen := fun hmem hmem' => by
      obtain ⟨f, hf, hname⟩ := List.mem_map.mp hmem
      exact hseen f hf (hname ▸ hmem') (hname ▸ List.mem_map_of_mem List.mem_cons_self)
    have hcount : ∀ f ∈ fields, (ns.map Prod.fst).count f.name ≤ 1 := fun f hf =>
      (List.count_le_count_cons).trans (honce f hf)
    have hfills' : ∀ f ∈ fields, f.Fills draft ns := fun f hf =>
      ⟨(hfills f hf).unset, fun m hm => (hfills f hf).read_eq m (List.mem_cons_of_mem _ hm)⟩
    rw [List.foldlM_cons, addMember_eq hreflects hfills List.mem_cons_self hunseen]
    refine (ih hfills' hcount (n.1 :: seen) fun f hf hmem => ?_).trans ?_
    · rcases List.mem_cons.mp hmem with heq | hmem
      · have hfirst := honce f hf
        rw [heq, List.map_cons, List.count_cons_self] at hfirst
        rw [heq, ← List.count_eq_zero]
        omega
      · exact fun h => hseen f hf hmem (List.mem_cons_of_mem _ h)
    · rw [List.map_cons, List.reverse_cons, List.append_assoc, List.singleton_append]

/-- The draft of a record whose members are offered, in whatever order. -/
theorem Offers.foldlM_eq {stands : ν → Value → Prop} {height : Nat} {ms : List (String × Value)}
    (h : Offers stands height ns ms) (hnames : fields.map Field.name = ms.map Prod.fst)
    (hreflects : Reflects fields draft) (hfills : ∀ f ∈ fields, f.Fills draft ns) :
    ns.foldlM (addMember fields) (draft []) = .ok (draft (ms.map Prod.fst)) := by
  have honce : ∀ f ∈ fields, (ns.map Prod.fst).count f.name = 1 := fun f hf => by
    have hmem : f.name ∈ ms.map Prod.fst := hnames ▸ List.mem_map_of_mem hf
    obtain ⟨m, hm, hname⟩ := List.mem_map.mp hmem
    exact hname ▸ h.once m hm
  rw [foldlM_addMember hreflects hfills (fun f hf => (honce f hf).le) [] (by simp)]
  refine congrArg Except.ok (hreflects _ _ fun f hf => ?_)
  rw [List.append_nil, List.mem_reverse, ← List.one_le_count_iff, honce f hf]
  exact iff_of_true le_rfl (hnames ▸ List.mem_map_of_mem hf)

end Drafts

/-! ### Readers -/

theorem Body.readMembers_eq (fields : List (Field Value π)) (p : π) (ms : List (String × Value)) :
    readMembers fields p ms = ms.foldlM (addMember fields) p := by
  induction ms generalizing p with
  | nil => rfl
  | cons m ms ih =>
    rw [List.foldlM_cons, addMember, readMembers]
    cases fields.find? fun f => f.name = m.1 with
    | none => exact ih p
    | some f =>
      dsimp only
      split
      · rfl
      · cases f.read m.2 p with
        | error => rfl
        | ok p => exact ih p

namespace Node

/-- The members of an object that means a value are read by their names. -/
theorem readMembers_eq {members : List ((Quotation × Node) × (String × Value))}
    (hnames : ∀ p ∈ members, Means (.leaf (.text p.1.1)) (.text p.2.1))
    (hmeans : ∀ p ∈ members, p.1.2.Means p.2.2) (fields : List (Field Node π)) (p : π) :
    readMembers fields p (members.map Prod.fst) =
      (members.map fun m => (m.2.1, m.1.2)).foldlM (addMember fields) p := by
  induction members generalizing p with
  | nil => rfl
  | cons m members ih =>
    rw [List.forall_mem_cons] at hnames hmeans
    rw [List.map_cons, List.map_cons, List.foldlM_cons, addMember, readMembers, hnames.1.read_eq]
    simp only [bind, Except.bind, String.ofList_toList]
    cases fields.find? fun f => f.name = m.2.1 with
    | none =>
      rw [hmeans.1.skip_eq]
      exact ih hnames.2 hmeans.2 p
    | some f =>
      dsimp only
      split
      · rfl
      · cases f.read m.1.2 p with
        | error => rfl
        | ok p => exact ih hnames.2 hmeans.2 p

/-- A record is read from a tree that means an object. -/
theorem exists_record {n : Node} {height : Nat} {us ms : List (String × Value)}
    (h : n.Means (.object us)) (hoffers : Offers Eq height us ms) :
    ∃ ns : List (String × Node), Offers Means height ns ms ∧
      ∀ {π : Type} (depth : Nat) (fields : List (Field Node π)) (p : π), depth < depthLimit →
        n.record depth fields p = ns.foldlM (addMember fields) p := by
  cases h with
  | @object members hnames hmeans =>
    refine ⟨members.map fun m => (m.2.1, m.1.2), hoffers.of_stands ?_ fun n hn => ?_,
      fun depth fields p hdepth => ?_⟩
    · rw [List.map_map, List.map_map]
      rfl
    · obtain ⟨m, hm, rfl⟩ := List.mem_map.mp hn
      exact ⟨m.2, List.mem_map_of_mem hm, rfl, hmeans m hm⟩
    · have henter : enter depth = .ok () := if_pos hdepth
      rw [record, henter]
      change (readMembers fields p (members.map Prod.fst)).bind _ = _
      rw [readMembers_eq hnames hmeans]
      cases (members.map fun m => (m.2.1, m.1.2)).foldlM (addMember fields) p <;> rfl

/-! ### Tagged records -/

theorem Means.named_eq {n : Node} {s : String} (h : n.Means (.text s))
    (lookup : String → Option α) : n.named lookup = required (lookup s) := by
  cases h with
  | text joined =>
    rw [named, Quotation.read, joined]
    rfl

/-- The tag is found wherever it stands, and the other members are kept as values. -/
theorem readTagged_eq {tag name : String} {lookup : String → Option α} {shape : α} {depth : Nat}
    {members : List ((Quotation × Node) × (String × Value))} (hshape : lookup name = some shape)
    (hnames : ∀ p ∈ members, Means (.leaf (.text p.1.1)) (.text p.2.1))
    (hmeans : ∀ p ∈ members, p.1.2.Means p.2.2)
    (hvalue : ∀ p ∈ members, p.1.2.value depth = .ok p.2.2)
    (htag : ∀ p ∈ members, p.2.1 = tag → p.2.2 = .text name) (found : Option α)
    (before : List (String × Value))
    (honce : (members.map fun p => p.2.1).count tag + found.toList.length ≤ 1) :
    readTagged tag lookup depth found before (members.map Prod.fst) =
      .ok (if tag ∈ members.map fun p => p.2.1 then some shape else found,
        before.reverse ++ (members.map Prod.snd).filter fun m => m.1 ≠ tag) := by
  induction members generalizing found before with
  | nil => simp [readTagged]
  | cons m members ih =>
    rw [List.forall_mem_cons] at hnames hmeans hvalue htag
    have ih := ih hnames.2 hmeans.2 hvalue.2 htag.2
    rw [List.map_cons, readTagged.eq_def]
    simp only [hnames.1.read_eq, bind, Except.bind, String.ofList_toList]
    by_cases hname : m.2.1 = tag
    · -- a tag that stands here has not been found before, and stands nowhere behind
      rw [List.map_cons, hname, List.count_cons_self] at honce
      obtain rfl : found = none := by
        cases found with
        | none => rfl
        | some a => simp at honce
      have hnamed : m.1.2.named lookup = .ok shape := by
        have hmeans := hmeans.1
        rw [htag.1 hname] at hmeans
        rw [hmeans.named_eq, hshape]
        rfl
      rw [if_pos hname, hnamed]
      refine (ih (some shape) before (by simpa using honce)).trans ?_
      rw [ite_self, List.map_cons, List.map_cons, if_pos (hname ▸ List.mem_cons_self),
        List.filter_cons_of_neg (by simpa using hname)]
    · rw [List.map_cons, List.count_cons_of_ne hname] at honce
      rw [if_neg hname, hvalue.1]
      refine (ih found ((m.2.1, m.2.2) :: before) honce).trans ?_
      rw [List.map_cons, List.map_cons, List.filter_cons_of_pos (by simpa using hname),
        List.reverse_cons, List.append_assoc, List.singleton_append]
      simp only [List.mem_cons, Ne.symm hname, false_or]

/-- A tagged record is read from the members behind its tag, wherever the tag stands. -/
theorem exists_tagged {n : Node} {tag name : String} {height : Nat} {us ms : List (String × Value)}
    (h : n.Means (.object us)) (hoffers : Offers Eq height us ((tag, .text name) :: ms))
    (hwithin : ∀ u ∈ us, u.2.Within height) (htag : tag ≠ "type") (hms : tag ∉ ms.map Prod.fst) :
    ∃ rest : List (String × Value), Offers Eq height rest ms ∧
      ∀ {α : Type} (lookup : String → Option (Body → Except Fault α))
        (shape : Body → Except Fault α) (depth : Nat), lookup name = some shape →
        depth + height < depthLimit → n.tagged tag lookup depth = shape (.members rest) := by
  refine ⟨_, hoffers.tail hms, fun lookup shape depth hshape hdepth => ?_⟩
  cases h with
  | @object members hnames hmeans =>
    have henter : enter depth = .ok () := if_pos (by omega)
    have hvalue : ∀ p ∈ members, p.1.2.value (depth + 1) = .ok p.2.2 := fun p hp =>
      (hmeans p hp).value_eq (hwithin p.2 (List.mem_map_of_mem hp)) (by omega)
    have hname : ∀ p ∈ members, p.2.1 = tag → p.2.2 = .text name := fun p hp heq => by
      obtain ⟨v, hv, hloose, -⟩ :=
        hoffers.loose _ List.mem_cons_self p.2 (List.mem_map_of_mem hp) heq
      exact hv.trans (hloose.text_eq htag)
    have honce : (members.map fun p => p.2.1).count tag = 1 := by
      have h := hoffers.once _ List.mem_cons_self
      rwa [List.map_map] at h
    have hmem : tag ∈ members.map fun p => p.2.1 := List.one_le_count_iff.mp honce.ge
    have hmembers := readTagged_eq hshape hnames hmeans hvalue hname none []
      (by simpa using honce.le)
    rw [if_pos hmem] at hmembers
    rw [tagged, henter]
    simp only [bind, Except.bind, hmembers]
    rfl

end Node

end Wire

end Playthrough
