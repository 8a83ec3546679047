import Mathlib.Data.Prod.Lex
import Playthrough.Issues.Basic

/-!
# The order of issues

Issues are shown by severity and line, and equal ones in the order of their arrival. This fixes the
shown list completely: it is the stable rearrangement of the arrived issues by these two.

## Main definitions

* `Diagnostic.key` — the severity and the line, as a place in the order.
* `StablySorted` — a list is the stable rearrangement of another one by the keys.

## Main results

* `IssueList.stablySorted_iff` — the shown issues are the stable rearrangement of the arrived ones.
* `IssueTally.total_ofList` — every issue is counted once.
* `eraseDups_append_singleton` — what arrives again is left out.
-/

namespace Playthrough

/-- The place of a diagnostic in the order of issues: the severity first, and then the line. -/
def Diagnostic.key (x : Diagnostic) : ℕ ×ₗ ℕ :=
  toLex (x.severity.rank, x.line)

theorem Diagnostic.precedes_iff (x y : Diagnostic) : x.precedes y = true ↔ x.key ≤ y.key := by
  simp [precedes, key, Prod.Lex.toLex_le_toLex]

theorem Diagnostic.precedes_trans (x y z : Diagnostic) :
    x.precedes y = true → y.precedes z = true → x.precedes z = true := by
  simp only [precedes_iff]
  exact le_trans

theorem Diagnostic.precedes_total (x y : Diagnostic) :
    (x.precedes y || y.precedes x) = true := by
  simp only [Bool.or_eq_true, precedes_iff]
  exact le_total x.key y.key

/-- The list `ys` has the diagnostics of `xs` in the order of their keys, and those with the same
key in the order in which `xs` has them. -/
structure StablySorted (xs ys : List Diagnostic) : Prop where
  perm : ys.Perm xs
  ordered : ys.Pairwise fun x y => x.key ≤ y.key
  stable : ∀ k, ys.filter (·.key = k) = xs.filter (·.key = k)

namespace StablySorted

variable {xs ys zs : List Diagnostic}

theorem mergeSort (xs : List Diagnostic) : StablySorted xs (xs.mergeSort Diagnostic.precedes) where
  perm := List.mergeSort_perm _ _
  ordered := by
    have h := List.pairwise_mergeSort Diagnostic.precedes_trans Diagnostic.precedes_total xs
    exact h.imp fun hxy => (Diagnostic.precedes_iff _ _).mp hxy
  stable k := by
    -- diagnostics with the key `k` are in order already, and sorting keeps what is in order
    have hordered : (xs.filter (·.key = k)).Pairwise fun x y => x.precedes y = true := by
      refine List.pairwise_of_forall_mem_list fun x hx y hy => ?_
      have hxk : x.key = k := by simpa using (List.mem_filter.mp hx).2
      have hyk : y.key = k := by simpa using (List.mem_filter.mp hy).2
      exact (Diagnostic.precedes_iff x y).mpr (le_of_eq (hxk.trans hyk.symm))
    have hsub : (xs.filter (·.key = k)).Sublist (xs.mergeSort Diagnostic.precedes) :=
      List.sublist_mergeSort Diagnostic.precedes_trans Diagnostic.precedes_total hordered
        List.filter_sublist
    have hkept := hsub.filter (·.key = k)
    simp only [List.filter_filter, Bool.and_self] at hkept
    exact (hkept.eq_of_length ((List.mergeSort_perm xs _).filter _).length_eq.symm).symm

/-- A list has one stable rearrangement only. -/
theorem unique (hy : StablySorted xs ys) (hz : StablySorted xs zs) : ys = zs := by
  have hperm : ys.Perm zs := hy.perm.trans hz.perm.symm
  have hstable : ∀ k, ys.filter (·.key = k) = zs.filter (·.key = k) := fun k =>
    (hy.stable k).trans (hz.stable k).symm
  have hys := hy.ordered
  have hzs := hz.ordered
  clear hy hz
  induction ys generalizing zs with
  | nil => exact hperm.nil_eq
  | cons y ys ih =>
    cases zs with
    | nil => exact absurd hperm.length_eq (by simp)
    | cons z zs =>
      rw [List.pairwise_cons] at hys hzs
      have hzy : z.key ≤ y.key := by
        rcases List.mem_cons.mp (hperm.subset List.mem_cons_self) with rfl | hmem
        · exact le_rfl
        · exact hzs.1 y hmem
      have hyz : y.key ≤ z.key := by
        rcases List.mem_cons.mp (hperm.symm.subset List.mem_cons_self) with rfl | hmem
        · exact le_rfl
        · exact hys.1 z hmem
      have hkey : z.key = y.key := le_antisymm hzy hyz
      obtain rfl : y = z := by
        have h := hstable y.key
        simp only [List.filter_cons, hkey, decide_true, if_true, List.cons.injEq] at h
        exact h.1
      rw [ih ((List.perm_cons y).mp hperm) (fun k => ?_) hys.2 hzs.2]
      have h := hstable k
      simp only [List.filter_cons] at h
      split at h
      · exact (List.cons.inj h).2
      · exact h

end StablySorted

/-- The shown issues are the one stable rearrangement of the arrived ones. -/
theorem IssueList.stablySorted_iff (l : IssueList) (ds : List Diagnostic) :
    StablySorted l.arrived ds ↔ ds = l.shown := by
  have h : StablySorted l.arrived l.shown := .mergeSort l.arrived
  constructor
  · intro hds
    exact hds.unique h
  · rintro rfl
    exact h

/-- Every issue is of one of the sorts that are counted. -/
theorem IssueTally.total_ofList (ds : List Diagnostic) : (ofList ds).total = ds.length := by
  induction ds with
  | nil => rfl
  | cons x ds ih =>
    simp only [total, ofList] at ih
    cases hx : x.severity <;> simp [total, ofList, hx] <;> omega

theorem IssueList.tally_eq (l : IssueList) : l.tally = .ofList l.shown := by
  simp only [tally, IssueTally.ofList, l.shown_perm.countP_eq]

/-- Repetitions are left out one at a time. -/
theorem eraseDups_append_singleton (xs : List Diagnostic) (x : Diagnostic) :
    (xs ++ [x]).eraseDups = if x ∈ xs.eraseDups then xs.eraseDups else xs.eraseDups ++ [x] := by
  have hremove : [x].removeAll xs = if x ∈ xs then [] else [x] := by
    by_cases hx : x ∈ xs <;> simp [List.removeAll, hx]
  rw [List.eraseDups_append, hremove]
  by_cases hx : x ∈ xs <;> simp [hx, List.mem_eraseDups, List.eraseDups_cons]

end Playthrough
