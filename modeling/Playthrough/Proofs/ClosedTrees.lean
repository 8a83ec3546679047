import Playthrough.Wire.Node

/-!
# Trees from their tokens

The tokens of a tree that is closed everywhere lead back to this tree, whatever token follows them.
Such tokens are taken one by one from the front of a line.

## Main definitions

* `Wire.Node.IsClosed`, `Wire.Node.tokens` — the trees that are closed, and their tokens.

## Main results

* `Wire.Node.ofTokens_tokens` — a closed tree comes back from its tokens.
* `Wire.tokens_punctuation`, `Wire.tokens_quotation`, `Wire.tokens_numeral` — the first token of a
  line.
-/

namespace Playthrough

namespace Wire

/-! ### Trees -/

namespace Node

/-- A tree of whole scalars in containers that are closed. -/
inductive IsClosed : Node → Prop where
  | leaf (s : Scalar) : IsClosed (.leaf s)
  | array {items : List Node} (h : ∀ n ∈ items, IsClosed n) : IsClosed (.array items .closed)
  | object {members : List (Quotation × Node)} (h : ∀ m ∈ members, IsClosed m.2) :
      IsClosed (.object members .closed)

mutual

/-- The tokens of a closed tree. -/
def tokens : Node → List Token
  | .leaf s => [.scalar s]
  | .missing found => found.toList
  | .array items _ => .openArray :: ((itemTokens items).tail ++ [.closeArray])
  | .object members _ => .openObject :: ((memberTokens members).tail ++ [.closeObject])

/-- The tokens of some items, with a comma in front of each. -/
def itemTokens : List Node → List Token
  | [] => []
  | n :: ns => .comma :: (tokens n ++ itemTokens ns)

/-- The tokens of some members, with a comma in front of each. -/
def memberTokens : List (Quotation × Node) → List Token
  | [] => []
  | (q, n) :: ms => .comma :: .scalar (.text q) :: .colon :: (tokens n ++ memberTokens ms)

end

/-- What is built behind a complete tree. -/
def built (n : Node) : List Place → List Token → Node × List Token
  | [], ts => (n, ts)
  | p :: places, ts => build (p.put n) places ts

theorem build_done {due : Due} {places places' : List Place} {t : Token} {n : Node}
    (h : step due places t = .done n places') (ts : List Token) :
    build due places (t :: ts) = built n places' ts := by
  rw [build, h]
  cases places' <;> rfl

/-- A tree is built from its tokens, in whatever place it stands. -/
def IsBuilt (n : Node) : Prop :=
  ∀ places ts, build .value places (n.tokens ++ ts) = built n places ts

theorem build_itemTokens {items : List Node} (h : ∀ n ∈ items, n.IsBuilt) (before : List Node)
    (places : List Place) (ts : List Token) :
    build (.itemEnd before) places (itemTokens items ++ .closeArray :: ts) =
      built (.array (before.reverse ++ items) .closed) places ts := by
  induction items generalizing before with
  | nil =>
    rw [List.append_nil]
    exact build_done rfl ts
  | cons n ns ih =>
    rw [itemTokens, List.cons_append, List.append_assoc, build]
    -- behind a comma the next item is due, and the items before it wait in its place
    change build .value (.item before true :: places) _ = _
    rw [h n List.mem_cons_self, built, Place.put, ih fun m hm => h m (List.mem_cons_of_mem _ hm),
      List.reverse_cons, List.append_assoc]
    rfl

theorem build_memberTokens {members : List (Quotation × Node)} (h : ∀ m ∈ members, m.2.IsBuilt)
    (before : List (Quotation × Node)) (places : List Place) (ts : List Token) :
    build (.memberEnd before) places (memberTokens members ++ .closeObject :: ts) =
      built (.object (before.reverse ++ members) .closed) places ts := by
  induction members generalizing before with
  | nil =>
    rw [List.append_nil]
    exact build_done rfl ts
  | cons m ms ih =>
    rw [memberTokens, List.cons_append, List.cons_append, List.cons_append, List.append_assoc]
    change build .value (.member before m.1 :: places) (m.2.tokens ++ _) = _
    rw [h m List.mem_cons_self, built, Place.put, ih fun m hm => h m (List.mem_cons_of_mem _ hm),
      List.reverse_cons, List.append_assoc]
    rfl

/-- A closed tree is built from its tokens. -/
theorem IsClosed.isBuilt {n : Node} (h : n.IsClosed) : n.IsBuilt := by
  induction h with
  | leaf s => exact fun places ts => build_done rfl ts
  | @array items _ ih =>
    intro places ts
    cases items with
    | nil => exact build_done rfl ts
    | cons n ns =>
      rw [tokens, itemTokens, List.tail_cons, List.cons_append, List.append_assoc,
        List.append_assoc]
      change build .value (.item [] false :: places) _ = _
      rw [ih n List.mem_cons_self, built, Place.put]
      exact build_itemTokens (fun m hm => ih m (List.mem_cons_of_mem _ hm)) [n] places ts
  | @object members _ ih =>
    intro places ts
    cases members with
    | nil => exact build_done rfl ts
    | cons m ms =>
      simp only [tokens, memberTokens, List.tail_cons, List.cons_append, List.append_assoc]
      change build .value (.member [] m.1 :: places) (m.2.tokens ++ _) = _
      rw [ih m List.mem_cons_self, built, Place.put]
      exact build_memberTokens (fun m hm => ih m (List.mem_cons_of_mem _ hm)) [m] places ts

/-- A closed tree comes back from its tokens. -/
theorem ofTokens_tokens {n : Node} (h : n.IsClosed) (ts : List Token) :
    ofTokens (n.tokens ++ ts) = (n, ts) :=
  h.isBuilt [] ts

end Node

/-! ### Tokens -/

/-- A whole token is taken from the front of a line. -/
theorem tokens_cons {c : Char} {cs rest : List Char} {t : Token} (hgap : isGap c = false)
    (hscan : Token.scan c cs = (t, rest)) (hwhole : t.isWhole = true) :
    tokens (c :: cs) = t :: tokens rest := by
  rw [tokens, if_neg (by simp [hgap]), hscan]
  exact if_pos hwhole

theorem tokens_punctuation {c : Char} {t : Token} (h : Token.punctuation? c = some t)
    (cs : List Char) : tokens (c :: cs) = t :: tokens cs := by
  have hscan : Token.scan c cs = (t, cs) := by rw [Token.scan, h]
  unfold Token.punctuation? at h
  split at h <;> cases h <;> exact tokens_cons (by decide) hscan rfl

theorem tokens_quotation {cs rest : List Char} {q : Quotation}
    (hscan : Quotation.scan cs = (q, rest)) (hclosed : q.fault = none) :
    tokens ('"' :: cs) = .scalar (.text q) :: tokens rest := by
  have hscalar : Token.scan '"' cs = (.scalar (.text q), rest) := by
    change (Token.scalar (.text (Quotation.scan cs).1), (Quotation.scan cs).2) = _
    rw [hscan]
  exact tokens_cons (by decide) hscalar (by rw [Token.isWhole, Scalar.isWhole, hclosed]; rfl)

theorem Token.scan_numeral {c : Char} (h : c = '-' ∨ c.isDigit = true) (cs : List Char) :
    Token.scan c cs = Token.scanNumber (c :: cs) := by
  have hne (d : Char) (hd : d ≠ '-' ∧ d.isDigit = false) : c ≠ d := by
    rintro rfl
    rcases h with rfl | h
    · exact hd.1 rfl
    · exact absurd (hd.2.symm.trans h) (by decide)
  have hnone : Token.punctuation? c = none := by
    unfold Token.punctuation?
    split
    iterate 6
      · next heq => exact absurd rfl (hne _ (by decide))
    · rfl
  rw [Token.scan, hnone]
  change Token.scanScalar c cs = _
  unfold Token.scanScalar
  iterate 4
    rw [if_neg (hne _ (by decide))]
  exact if_pos h

theorem tokens_numeral {d : Char} {ds rest : List Char} {n : Numeral}
    (hd : d = '-' ∨ d.isDigit = true) (hscan : Numeral.scan (d :: ds) = .ok (n, rest)) :
    tokens (d :: ds) = .scalar (.number n) :: tokens rest := by
  have hgap : isGap d = false := by
    refine Bool.eq_false_iff.mpr fun hgap => ?_
    simp only [isGap, Bool.or_eq_true, decide_eq_true_eq] at hgap
    rcases hgap with ((rfl | rfl) | rfl) | rfl <;> revert hd <;> decide
  refine tokens_cons hgap ?_ rfl
  rw [Token.scan_numeral hd, Token.scanNumber, hscan]

end Wire

end Playthrough
