import Playthrough.Proofs.SpelledValues
import Playthrough.Proofs.WrittenScalars

/-!
# Values as they are written

Messages are *plain* values, which consist of texts, machine words and objects only. What is written
for a plain value is a spelling of it, and has no control character. It keeps within the limits on
numbers, and on nesting as far as its height goes.

## Main definitions

* `Wire.Value.IsPlain` — the values that are written in messages.

## Main results

* `Wire.Value.IsPlain.spellsValue_render` — a plain value is spelled as it is written.
* `Wire.Value.IsPlain.within` — a plain value keeps within the limits.
* `Wire.Value.IsPlain.le_of_mem_render` — nothing written is a control character.
-/

namespace Playthrough

namespace Wire

open Text

theorem spellsValue_quote (s : String) : SpellsValue (.text s) (quote s.toList) := by
  have h := SpellsValue.text (spellsText_flatMap_quoteChar s.toList)
  rwa [String.ofList_toList] at h

namespace Value

/-- A value of texts, machine words and at most `height` levels of objects. -/
inductive IsPlain : Nat → Value → Prop where
  | text (height : Nat) (s : String) : IsPlain height (.text s)
  | natural (height : Nat) {k : Nat} (h : k < wordLimit) : IsPlain height (.natural k)
  | object {height : Nat} {ms : List (String × Value)} (h : ∀ m ∈ ms, IsPlain height m.2) :
      IsPlain (height + 1) (.object ms)

variable {height : Nat} {v : Value}

theorem renderMembers_eq_map (ms : List (String × Value)) :
    renderMembers ms = ms.map fun m => quote m.1.toList ++ ':' :: m.2.render := by
  induction ms with
  | nil => rfl
  | cons m ms ih => exact congrArg (_ :: ·) ih

/-- A plain value is spelled as it is written. -/
theorem IsPlain.spellsValue_render (h : v.IsPlain height) : SpellsValue v v.render := by
  induction h with
  | text height s => exact spellsValue_quote s
  | @natural height k h => exact .number (Numeral.isSpelled_ofNat k)
  | @object height ms _ ih =>
    let members := ms.map fun m => (m, (quote m.1.toList, m.2.render))
    have hobject : SpellsValue (.object (members.map Prod.fst)) ('{' :: ([] ++
        (commaSeparated (members.map fun p => p.2.1 ++ ':' :: p.2.2) ++ ['}']))) :=
      .object (by simp [IsGapText]) (List.forall_mem_map.mpr fun m _ => spellsValue_quote m.1)
        (List.forall_mem_map.mpr ih)
    have hms : members.map Prod.fst = ms := by
      rw [List.map_map]
      exact List.map_id ms
    have hrender : members.map (fun p => p.2.1 ++ ':' :: p.2.2) = renderMembers ms := by
      rw [renderMembers_eq_map, List.map_map]
      rfl
    rw [hms, hrender] at hobject
    exact hobject

/-- A plain value keeps within the limits. -/
theorem IsPlain.within (h : v.IsPlain height) {limit : Nat} (hlimit : height ≤ limit) :
    v.Within limit := by
  induction h generalizing limit with
  | text height s => exact .text limit s
  | natural height h => exact .number (Numeral.inRange_ofNat h)
  | @object height _ _ ih =>
    cases limit with
    | zero => contradiction
    | succ limit => exact .object fun m hm => ih m hm (Nat.le_of_succ_le_succ hlimit)

/-! ### The characters of a spelling -/

theorem mem_commaSeparated {ts : List (List Char)} {c : Char} (h : c ∈ commaSeparated ts) :
    c = ',' ∨ ∃ t ∈ ts, c ∈ t := by
  cases ts with
  | nil => cases h
  | cons t ts =>
    rw [commaSeparated_cons, List.mem_append, List.mem_flatMap] at h
    rcases h with h | ⟨u, hu, h⟩
    · exact .inr ⟨t, List.mem_cons_self, h⟩
    · exact (List.mem_cons.mp h).imp_right fun h => ⟨u, List.mem_cons_of_mem t hu, h⟩

/-- No character of the spelling of a plain value is a control character. -/
theorem IsPlain.le_of_mem_render (h : v.IsPlain height) : ∀ c ∈ v.render, 0x20 ≤ c.toNat := by
  induction h with
  | text height s => exact fun c hc => le_of_mem_quote hc
  | natural height h => exact fun c hc => Numeral.le_of_mem_render hc
  | @object height ms h ih =>
    intro c hc
    rw [render, List.mem_cons, List.mem_append, List.mem_singleton] at hc
    rcases hc with rfl | hc | rfl
    · decide
    · rcases mem_commaSeparated hc with rfl | ⟨t, ht, hc⟩
      · decide
      · rw [renderMembers_eq_map] at ht
        obtain ⟨m, hm, rfl⟩ := List.mem_map.mp ht
        rw [List.mem_append, List.mem_cons] at hc
        rcases hc with hc | rfl | hc
        · exact le_of_mem_quote hc
        · decide
        · exact ih m hm c hc
    · decide

end Value

end Wire

end Playthrough
