import Playthrough.Proofs.ClosedTrees
import Playthrough.Proofs.SpelledScalars
import Playthrough.Proofs.Words
import Playthrough.Wire.Value

/-!
# All spellings of a value

A value has many spellings: those of its scalars, and white space between the tokens. The tokens of
each of them are those of one closed tree, and this tree *means* the value. A tree that means a
value can be skipped, and it is read as this value as long as the value keeps within the limits on
numbers and on nesting.

## Main definitions

* `Wire.SpellsValue` — the spellings of a value.
* `Wire.Node.Means` — the closed trees that mean a value.
* `Wire.Value.Within` — the values within the limits.

## Main results

* `Wire.SpellsValue.exists_node` — the tokens of a spelling are those of a tree that means the
  value.
* `Wire.SpellsValue.exists_core` — a spelling is trimmed by taking away white space between tokens.
* `Wire.Node.Means.value_eq` — a tree is read as the value that it means.
-/

namespace Playthrough

namespace Wire

open Text

/-- White space between tokens. -/
def IsGapText (cs : List Char) : Prop :=
  ∀ c ∈ cs, isGap c = true

/-- The spellings of a value, in the grammar of the format. -/
inductive SpellsValue : Value → List Char → Prop where
  | literal (l : Literal) : SpellsValue l.value l.word
  | number {n : Numeral} {ts : List Char} (spelled : n.IsSpelled ts) : SpellsValue (.number n) ts
  | text {cs ts : List Char} (spelled : SpellsText cs ts) :
      SpellsValue (.text (String.ofList cs)) ('"' :: (ts ++ ['"']))
  /-- An array of items, each of them with a spelling. -/
  | array {gap : List Char} {items : List (Value × List Char)} (isGap : IsGapText gap)
      (spelled : ∀ p ∈ items, SpellsValue p.1 p.2) :
      SpellsValue (.array (items.map Prod.fst))
        ('[' :: (gap ++ (commaSeparated (items.map Prod.snd) ++ [']'])))
  /-- An object of members, each of them with a spelling of its name and one of its value. -/
  | object {gap : List Char} {members : List ((String × Value) × (List Char × List Char))}
      (isGap : IsGapText gap) (names : ∀ p ∈ members, SpellsValue (.text p.1.1) p.2.1)
      (spelled : ∀ p ∈ members, SpellsValue p.1.2 p.2.2) :
      SpellsValue (.object (members.map Prod.fst))
        ('{' :: (gap ++ (commaSeparated (members.map fun p => p.2.1 ++ ':' :: p.2.2) ++ ['}'])))
  /-- White space may stand around any value. -/
  | spaced {v : Value} {before ts after : List Char} (isGap : IsGapText before)
      (isGap' : IsGapText after) (spelled : SpellsValue v ts) :
      SpellsValue v (before ++ (ts ++ after))

/-- The closed trees that mean a value. -/
inductive Node.Means : Node → Value → Prop where
  | null : Means (.leaf (.literal .null)) .null
  | flag (b : Bool) : Means (.leaf (.literal (.flag b))) (.flag b)
  | number (n : Numeral) : Means (.leaf (.number n)) (.number n)
  | text {us : List TextUnit} {cs : List Char} (joined : Quotation.join us none = .ok cs) :
      Means (.leaf (.text ⟨us, none⟩)) (.text (String.ofList cs))
  | array {items : List (Node × Value)} (means : ∀ p ∈ items, Means p.1 p.2) :
      Means (.array (items.map Prod.fst) .closed) (.array (items.map Prod.snd))
  | object {members : List ((Quotation × Node) × (String × Value))}
      (names : ∀ p ∈ members, Means (.leaf (.text p.1.1)) (.text p.2.1))
      (means : ∀ p ∈ members, Means p.1.2 p.2.2) :
      Means (.object (members.map Prod.fst) .closed) (.object (members.map Prod.snd))

/-- The values of at most `height` levels of arrays and objects, with numbers that a double
precision number can hold. -/
inductive Value.Within : Nat → Value → Prop where
  | null (height : Nat) : Within height .null
  | flag (height : Nat) (b : Bool) : Within height (.flag b)
  | number {height : Nat} {n : Numeral} (inRange : n.inRange = true) : Within height (.number n)
  | text (height : Nat) (s : String) : Within height (.text s)
  | array {height : Nat} {items : List Value} (within : ∀ v ∈ items, Within height v) :
      Within (height + 1) (.array items)
  | object {height : Nat} {ms : List (String × Value)} (within : ∀ m ∈ ms, Within height m.2) :
      Within (height + 1) (.object ms)

/-! ### Tokens -/

theorem tokens_gap {gap : List Char} (h : IsGapText gap) (cs : List Char) :
    tokens (gap ++ cs) = tokens cs := by
  induction gap with
  | nil => rfl
  | cons c gap ih =>
    rw [List.cons_append, tokens, if_pos (h c List.mem_cons_self)]
    exact ih fun d hd => h d (List.mem_cons_of_mem _ hd)

/-- A numeral does not go on with white space. -/
theorem Numeral.ends_gap {gap rest : List Char} (h : IsGapText gap) (hrest : Numeral.Ends rest) :
    Numeral.Ends (gap ++ rest) := by
  cases gap with
  | nil => exact hrest
  | cons c gap =>
    rintro d ⟨⟩
    have hc := h c List.mem_cons_self
    simp only [isGap, Bool.or_eq_true, decide_eq_true_eq] at hc
    rcases hc with ((rfl | rfl) | rfl) | rfl <;> decide

theorem dropWord_append (ws rest : List Char) : dropWord ws (ws ++ rest) = .ok rest := by
  induction ws with
  | nil => rfl
  | cons w ws ih => exact (if_pos rfl).trans ih

theorem Node.Means.literal : (l : Literal) → Means (.leaf (.literal l)) l.value
  | .null => .null
  | .flag b => .flag b

theorem tokens_literal (l : Literal) (rest : List Char) :
    tokens (l.word ++ rest) = .scalar (.literal l) :: tokens rest := by
  have hscan (c : Char) (word : List Char) :
      Token.scanLiteral l word (word ++ rest) = (.scalar (.literal l), rest) := by
    rw [Token.scanLiteral, dropWord_append]
  match l with
  | .null => exact tokens_cons (by decide) (hscan 'n' ['u', 'l', 'l']) rfl
  | .flag true => exact tokens_cons (by decide) (hscan 't' ['r', 'u', 'e']) rfl
  | .flag false => exact tokens_cons (by decide) (hscan 'f' ['a', 'l', 's', 'e']) rfl

/-- The tokens of a text are those of a tree, unless the text goes on as a numeral does. -/
def Node.HasTokens (n : Node) (ts : List Char) : Prop :=
  ∀ rest, Numeral.Ends rest → Wire.tokens (ts ++ rest) = n.tokens ++ Wire.tokens rest

theorem ends_of_punctuation {c : Char} {t : Token} (h : Token.punctuation? c = some t)
    (rest : List Char) : Numeral.Ends (c :: rest) := by
  rintro d ⟨⟩
  unfold Token.punctuation? at h
  split at h <;> cases h <;> decide

theorem commaSeparated_cons (t : List Char) (ts : List (List Char)) :
    commaSeparated (t :: ts) = t ++ ts.flatMap (',' :: ·) := by
  induction ts generalizing t with
  | nil => exact (List.append_nil t).symm
  | cons u ts ih => rw [commaSeparated, ih]; rfl

/-- Without the comma in front of the first part, the first token is missing. -/
theorem tokens_commaSeparated {ts : List (List Char)} {parts : List Token} {c : Char} {t : Token}
    {rest : List Char} (hc : Token.punctuation? c = some t) (hempty : ts = [] ↔ parts = [])
    (h : tokens (ts.flatMap (',' :: ·) ++ c :: rest) = parts ++ t :: tokens rest) :
    tokens (commaSeparated ts ++ c :: rest) = parts.tail ++ t :: tokens rest := by
  cases ts with
  | nil =>
    rw [hempty.mp rfl]
    exact tokens_punctuation hc rest
  | cons u ts =>
    rw [List.flatMap_cons, List.cons_append, List.cons_append, tokens_punctuation rfl] at h
    obtain ⟨p, parts, rfl⟩ := List.exists_cons_of_ne_nil (hempty.not.mp (List.cons_ne_nil u ts))
    rw [commaSeparated_cons]
    exact (List.cons.inj h).2

/-- The trees of some spelled items. -/
theorem exists_items {items : List (Value × List Char)}
    (h : ∀ p ∈ items, ∃ n : Node, n.Means p.1 ∧ n.HasTokens p.2) :
    ∃ nodes : List (Node × Value), nodes.map Prod.snd = items.map Prod.fst ∧
      (∀ p ∈ nodes, p.1.Means p.2) ∧
      ∀ rest, tokens ((items.map Prod.snd).flatMap (',' :: ·) ++ ']' :: rest) =
        Node.itemTokens (nodes.map Prod.fst) ++ .closeArray :: tokens rest := by
  induction items with
  | nil => exact ⟨[], rfl, by simp, fun rest => tokens_punctuation rfl rest⟩
  | cons p items ih =>
    obtain ⟨n, hmeans, htokens⟩ := h p List.mem_cons_self
    obtain ⟨nodes, hnodes, hall, hrest⟩ := ih fun q hq => h q (List.mem_cons_of_mem _ hq)
    refine ⟨(n, p.1) :: nodes, by rw [List.map_cons, List.map_cons, hnodes],
      List.forall_mem_cons.mpr ⟨hmeans, hall⟩, fun rest => ?_⟩
    have hends : Numeral.Ends ((items.map Prod.snd).flatMap (',' :: ·) ++ ']' :: rest) := by
      cases items with
      | nil => exact ends_of_punctuation rfl rest
      | cons q items => exact ends_of_punctuation rfl _
    rw [List.map_cons, List.flatMap_cons, List.append_assoc, List.cons_append,
      tokens_punctuation rfl, htokens _ hends, hrest, List.map_cons, Node.itemTokens,
      List.cons_append, List.append_assoc]

/-- The trees of some spelled members. -/
theorem exists_members {members : List ((String × Value) × (List Char × List Char))}
    (hnames : ∀ p ∈ members, ∃ n : Node, n.Means (.text p.1.1) ∧ n.HasTokens p.2.1)
    (h : ∀ p ∈ members, ∃ n : Node, n.Means p.1.2 ∧ n.HasTokens p.2.2) :
    ∃ nodes : List ((Quotation × Node) × (String × Value)),
      nodes.map Prod.snd = members.map Prod.fst ∧
      (∀ p ∈ nodes, Node.Means (.leaf (.text p.1.1)) (.text p.2.1)) ∧
      (∀ p ∈ nodes, Node.Means p.1.2 p.2.2) ∧
      ∀ rest, tokens ((members.map fun p => p.2.1 ++ ':' :: p.2.2).flatMap (',' :: ·) ++
          '}' :: rest) =
        Node.memberTokens (nodes.map Prod.fst) ++ .closeObject :: tokens rest := by
  induction members with
  | nil => exact ⟨[], rfl, by simp, by simp, fun rest => tokens_punctuation rfl rest⟩
  | cons p members ih =>
    obtain ⟨k, hkey, hkeyTokens⟩ := hnames p List.mem_cons_self
    obtain ⟨n, hmeans, htokens⟩ := h p List.mem_cons_self
    obtain ⟨nodes, hnodes, hkeys, hall, hrest⟩ := ih
      (fun q hq => hnames q (List.mem_cons_of_mem _ hq)) fun q hq => h q (List.mem_cons_of_mem _ hq)
    -- the tree that means the name is a quotation
    obtain ⟨q, rfl⟩ : ∃ q, k = .leaf (.text q) := by
      generalize hv : Value.text p.1.1 = v at hkey
      cases hkey with
      | text => exact ⟨_, rfl⟩
      | _ => cases hv
    refine ⟨((q, n), p.1) :: nodes, by rw [List.map_cons, List.map_cons, hnodes],
      List.forall_mem_cons.mpr ⟨hkey, hkeys⟩, List.forall_mem_cons.mpr ⟨hmeans, hall⟩,
      fun rest => ?_⟩
    have hends : Numeral.Ends ((members.map fun p => p.2.1 ++ ':' :: p.2.2).flatMap (',' :: ·) ++
        '}' :: rest) := by
      cases members with
      | nil => exact ends_of_punctuation rfl rest
      | cons q members => exact ends_of_punctuation rfl _
    simp only [List.map_cons, List.flatMap_cons, List.append_assoc, List.cons_append]
    rw [tokens_punctuation rfl, hkeyTokens _ (ends_of_punctuation rfl _), tokens_punctuation rfl,
      htokens _ hends, hrest, Node.memberTokens]
    simp only [Node.tokens, List.cons_append, List.append_assoc, List.nil_append]

/-- The tokens of a spelling are those of a tree that means the value. -/
theorem SpellsValue.exists_node {v : Value} {ts : List Char} (h : SpellsValue v ts) :
    ∃ n : Node, n.Means v ∧ n.HasTokens ts := by
  induction h with
  | literal l => exact ⟨_, .literal l, fun rest _ => tokens_literal l rest⟩
  | @number n ts spelled =>
    refine ⟨_, .number n, fun rest hrest => ?_⟩
    have hscan := spelled.scan_eq hrest
    obtain ⟨d, ds, rfl, hd⟩ := spelled.exists_cons
    exact tokens_numeral hd hscan
  | text spelled =>
    obtain ⟨us, hscan, hjoin⟩ := spelled.exists_units
    refine ⟨_, .text hjoin, fun rest _ => ?_⟩
    rw [List.cons_append, List.append_assoc]
    exact tokens_quotation (hscan rest) rfl
  | @array gap items isGap _ ih =>
    obtain ⟨nodes, hnodes, hmeans, htokens⟩ := exists_items ih
    rw [← hnodes]
    refine ⟨_, .array hmeans, fun rest _ => ?_⟩
    rw [List.cons_append, List.append_assoc, List.append_assoc, tokens_punctuation rfl,
      tokens_gap isGap, List.singleton_append, tokens_commaSeparated rfl ?_ (htokens rest)]
    · simp only [Node.tokens, List.cons_append, List.append_assoc, List.nil_append]
    · have hlength := congrArg List.length hnodes
      cases items <;> cases nodes <;> simp_all [Node.itemTokens]
  | @object gap members isGap _ _ ihNames ih =>
    obtain ⟨nodes, hnodes, hnames, hmeans, htokens⟩ := exists_members ihNames ih
    rw [← hnodes]
    refine ⟨_, .object hnames hmeans, fun rest _ => ?_⟩
    rw [List.cons_append, List.append_assoc, List.append_assoc, tokens_punctuation rfl,
      tokens_gap isGap, List.singleton_append, tokens_commaSeparated rfl ?_ (htokens rest)]
    · simp only [Node.tokens, List.cons_append, List.append_assoc, List.nil_append]
    · have hlength := congrArg List.length hnodes
      cases members <;> cases nodes <;> simp_all [Node.memberTokens]
  | @spaced v before ts after isGap isGap' _ ih =>
    obtain ⟨n, hmeans, htokens⟩ := ih
    refine ⟨n, hmeans, fun rest hrest => ?_⟩
    rw [List.append_assoc, List.append_assoc, tokens_gap isGap,
      htokens _ (Numeral.ends_gap isGap' hrest), tokens_gap isGap']

/-! ### The end of a spelling -/

theorem isBlank_of_isGap {c : Char} (h : isGap c = true) : isBlank c = true := by
  simp only [isGap, Bool.or_eq_true, decide_eq_true_eq] at h
  rcases h with ((rfl | rfl) | rfl) | rfl <;> rfl

/-- A spelling of a value without white space behind it. -/
structure IsCore (v : Value) (core : List Char) : Prop where
  spelled : SpellsValue v core
  last : ∃ c, core.getLast? = some c ∧ isBlank c = false

theorem IsCore.of_concat {v : Value} {ts : List Char} {c : Char} (h : SpellsValue v (ts ++ [c]))
    (hc : isBlank c = false) : IsCore v (ts ++ [c]) :=
  ⟨h, c, List.getLast?_concat, hc⟩

/-- A spelling is one that does not end with a blank, with white space behind it. -/
theorem SpellsValue.exists_core {v : Value} {ts : List Char} (h : SpellsValue v ts) :
    ∃ core after, ts = core ++ after ∧ IsGapText after ∧ IsCore v core := by
  have hwhole {v : Value} {ts : List Char} (h : IsCore v ts) :
      ∃ core after, ts = core ++ after ∧ IsGapText after ∧ IsCore v core :=
    ⟨ts, [], (List.append_nil ts).symm, by simp [IsGapText], h⟩
  induction h with
  | literal l =>
    refine hwhole ⟨.literal l, ?_⟩
    match l with
    | .null => exact ⟨'l', rfl, rfl⟩
    | .flag true => exact ⟨'e', rfl, rfl⟩
    | .flag false => exact ⟨'e', rfl, rfl⟩
  | number spelled =>
    obtain ⟨d, hlast, hd⟩ := spelled.getLast?_eq
    exact hwhole ⟨.number spelled, d, hlast, isBlank_of_isDigit hd⟩
  | @text cs ts spelled =>
    have h := SpellsValue.text spelled
    rw [← List.cons_append] at h ⊢
    exact hwhole (.of_concat h rfl)
  | @array gap items isGap spelled =>
    have h := SpellsValue.array isGap spelled
    rw [← List.append_assoc, ← List.cons_append] at h ⊢
    exact hwhole (.of_concat h rfl)
  | @object gap members isGap names spelled =>
    have h := SpellsValue.object isGap names spelled
    rw [← List.append_assoc, ← List.cons_append] at h ⊢
    exact hwhole (.of_concat h rfl)
  | @spaced v before ts after isGap isGap' _ ih =>
    obtain ⟨core, after', rfl, hafter', hcore, c, hlast, hc⟩ := ih
    refine ⟨before ++ core, after' ++ after, by simp only [List.append_assoc], ?_, ?_, c, ?_, hc⟩
    · exact fun c hc => (List.mem_append.mp hc).elim (hafter' c) (isGap' c)
    · have h : SpellsValue v (before ++ (core ++ [])) :=
        .spaced isGap (by simp [IsGapText]) hcore
      rwa [List.append_nil] at h
    · rw [List.getLast?_append, hlast, Option.some_or]

/-! ### Trees -/

namespace Node

theorem skipItems_eq {ns : List Node} (h : ∀ n ∈ ns, n.skip = .ok ()) :
    skipItems ns = .ok () := by
  induction ns with
  | nil => rfl
  | cons n ns ih =>
    rw [List.forall_mem_cons] at h
    rw [skipItems, h.1]
    exact ih h.2

theorem skipMembers_eq {ms : List (Quotation × Node)} (hnames : ∀ m ∈ ms, m.1.skip = .ok ())
    (h : ∀ m ∈ ms, m.2.skip = .ok ()) : skipMembers ms = .ok () := by
  induction ms with
  | nil => rfl
  | cons m ms ih =>
    rw [List.forall_mem_cons] at hnames h
    rw [skipMembers, hnames.1, h.1]
    exact ih hnames.2 h.2

theorem values_eq {depth : Nat} {items : List (Node × Value)}
    (h : ∀ p ∈ items, p.1.value depth = .ok p.2) :
    values depth (items.map Prod.fst) = .ok (items.map Prod.snd) := by
  induction items with
  | nil => rfl
  | cons p items ih =>
    rw [List.forall_mem_cons] at h
    rw [List.map_cons, values, h.1, ih h.2]
    rfl

theorem memberValues_eq {depth : Nat} {members : List ((Quotation × Node) × (String × Value))}
    (hnames : ∀ p ∈ members, p.1.1.read = .ok p.2.1.toList)
    (h : ∀ p ∈ members, p.1.2.value depth = .ok p.2.2) :
    memberValues depth (members.map Prod.fst) = .ok (members.map Prod.snd) := by
  induction members with
  | nil => rfl
  | cons p members ih =>
    rw [List.forall_mem_cons] at hnames h
    rw [List.map_cons, memberValues, hnames.1, h.1, ih hnames.2 h.2]
    simp only [bind, Except.bind, String.ofList_toList]
    rfl

namespace Means

variable {n : Node} {v : Value}

theorem isClosed (h : n.Means v) : n.IsClosed := by
  induction h with
  | null => exact .leaf _
  | flag b => exact .leaf _
  | number n => exact .leaf _
  | text joined => exact .leaf _
  | array means ih =>
    refine .array fun m hm => ?_
    obtain ⟨p, hp, rfl⟩ := List.mem_map.mp hm
    exact ih p hp
  | object names means _ ih =>
    refine .object fun m hm => ?_
    obtain ⟨p, hp, rfl⟩ := List.mem_map.mp hm
    exact ih p hp

/-- A name is read. -/
theorem read_eq {q : Quotation} {s : String} (h : Means (.leaf (.text q)) (.text s)) :
    q.read = .ok s.toList := by
  cases h with
  | text joined =>
    rw [Quotation.read, joined, String.toList_ofList]

theorem skip_name {q : Quotation} {s : String} (h : Means (.leaf (.text q)) (.text s)) :
    q.skip = .ok () := by
  cases h with
  | text joined => rfl

/-- A tree that means a value can be skipped. -/
theorem skip_eq (h : n.Means v) : n.skip = .ok () := by
  induction h with
  | null => rfl
  | flag b => rfl
  | number n => rfl
  | text joined => rfl
  | array means ih =>
    rw [skip, skipItems_eq (List.forall_mem_map.mpr ih)]
    rfl
  | object names means _ ih =>
    rw [skip, skipMembers_eq (List.forall_mem_map.mpr fun p hp => skip_name (names p hp))
      (List.forall_mem_map.mpr ih)]
    rfl

/-- A tree is read as the value that it means, if the value keeps within the limits. -/
theorem value_eq (h : n.Means v) {height depth : Nat} (hwithin : v.Within height)
    (hdepth : depth + height ≤ depthLimit) : n.value depth = .ok v := by
  induction h generalizing height depth with
  | null => rfl
  | flag b => rfl
  | number n =>
    cases hwithin with
    | number inRange => exact if_pos inRange
  | text joined =>
    change (Quotation.join _ none).map _ = _
    rw [joined]
    rfl
  | array means ih =>
    cases hwithin with
    | @array height _ within =>
      have henter : enter depth = .ok () := if_pos (by omega)
      rw [value, henter, values_eq fun p hp =>
        ih p hp (within p.2 (List.mem_map_of_mem hp)) (by omega)]
      rfl
  | object names means _ ih =>
    cases hwithin with
    | @object height _ within =>
      have henter : enter depth = .ok () := if_pos (by omega)
      rw [value, henter, memberValues_eq (fun p hp => read_eq (names p hp)) fun p hp =>
        ih p hp (within p.2 (List.mem_map_of_mem hp)) (by omega)]
      rfl

end Means

end Node

/-- The tree behind a spelling with any white space at its end means the value. -/
theorem SpellsValue.exists_tree {v : Value} {ts tail : List Char} (h : SpellsValue v ts)
    (htail : ∀ c ∈ tail, isBlank c = true) :
    ∃ n : Node, n.Means v ∧ Node.ofTokens (tokens (trimEnd (ts ++ tail))) = (n, []) := by
  obtain ⟨core, after, rfl, hafter, hcore, c, hlast, hc⟩ := h.exists_core
  obtain ⟨n, hmeans, htokens⟩ := hcore.exists_node
  have hblank : ∀ c ∈ after ++ tail, isBlank c = true := fun c hc =>
    (List.mem_append.mp hc).elim (fun hc => isBlank_of_isGap (hafter c hc)) (htail c)
  have htrim : trimEnd (core ++ after ++ tail) = core := by
    rw [List.append_assoc, trimEnd_append_gap hblank]
    refine trimEnd_of_getLast? fun d hd => ?_
    rw [hlast] at hd
    exact Option.some.inj hd ▸ hc
  have hcoreTokens := htokens [] (by simp [Numeral.Ends])
  rw [List.append_nil, tokens.eq_1] at hcoreTokens
  refine ⟨n, hmeans, ?_⟩
  rw [htrim, hcoreTokens]
  exact Node.ofTokens_tokens hmeans.isClosed []

end Wire

end Playthrough
