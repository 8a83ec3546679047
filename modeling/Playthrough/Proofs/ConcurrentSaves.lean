import Mathlib.Order.Monotone.Basic
import Playthrough.Watcher

/-!
# Saves while a file is watched

A file may be saved at any moment while it is watched, also between the two observations of a look.
A look that observes the modification time first is safe: after a save behind that, the next look
finds another time. The first look observes the content first. A save between its observations
leaves the watcher with the old content and the new time, and nothing tells until the next save.

## Main definitions

* `SavedFile` — a file with versions that come later and later, and the one each observation finds.
* `SavedFile.watch`, `Watch.look` — a first look at the file and some more.
* `Watch.Stands` — the versions whose modification time and content a watcher has.

## Main results

* `Watch.Stands.look` — what a look finds, and where it leaves the watcher.
* `SavedFile.stands_watch` — all looks succeed.
* `saves_are_noticed` — a look that hands nothing out misses at most a save during the first look.
-/

namespace Playthrough

/-- A version of a file. -/
structure Version where
  modified : Nat
  content : String
  deriving DecidableEq, Repr, Inhabited

/-- A file that is saved while it is watched. Its versions are numbered, and each was modified later
than those before it. Observations are numbered as well; one of the versions is there at each, and
never an older one than before. -/
structure SavedFile where
  version : Nat → Version
  /-- The number of the version that is there at an observation. -/
  current : Nat → Nat
  later : StrictMono fun k => (version k).modified
  onwards : Monotone current

/-- How far a file has been watched. -/
structure Watch where
  watcher : Watcher
  /-- The content that was handed out last. -/
  content : String
  /-- Whether a look after the first has handed it out. -/
  renewed : Bool
  /-- The number of observations that have been made. -/
  observed : Nat
  deriving DecidableEq, Repr, Inhabited

namespace SavedFile

variable (f : SavedFile)

/-- The version that an observation finds. -/
def found (n : Nat) : Version :=
  f.version (f.current n)

/-- Observations of the file, which all succeed, and which are counted. -/
def observations : Observations (StateM Nat) where
  modified := fun n => (.ok (some (f.found n).modified), n + 1)
  content := fun n => (.ok (f.found n).content, n + 1)

/-- The first look at the file. -/
def start : Except FileError Watch :=
  let (seen, observed) := f.observations.first.run 0
  (Watcher.start seen).map fun (watcher, content) => ⟨watcher, content, false, observed⟩

end SavedFile

/-- Another look at a file. -/
def Watch.look (s : Watch) (f : SavedFile) : Watch × Except FileError (Option String) :=
  let (seen, observed) := (f.observations.next s.watcher).run s.observed
  match s.watcher.look seen with
  | (watcher, .ok (some content)) => (⟨watcher, content, true, observed⟩, .ok (some content))
  | (watcher, result) => ({ s with watcher, observed }, result)

/-- The file is watched by a first look and a number of others. -/
def SavedFile.watch (f : SavedFile) : Nat → Except FileError Watch
  | 0 => f.start
  | looks + 1 => (f.watch looks).map fun s => (s.look f).1

namespace SavedFile

variable (f : SavedFile)

/-- What another look observes, and how many observations it has made. -/
theorem run_next (w : Watcher) (n : Nat) :
    (f.observations.next w).run n =
      if some (f.found n).modified = w.modified then
        (⟨.ok (some (f.found n).modified), .ok ""⟩, n + 1)
      else (⟨.ok (some (f.found n).modified), .ok (f.found (n + 1)).content⟩, n + 2) := by
  have hrun : (f.observations.next w).run n =
      (if some (f.found n).modified = w.modified then
        pure ⟨.ok (some (f.found n).modified), .ok ""⟩
      else (⟨.ok (some (f.found n).modified), ·⟩) <$> f.observations.content :
        StateM Nat Sighting).run (n + 1) := rfl
  rw [hrun]
  split <;> rfl

end SavedFile

namespace Watch

variable {s : Watch} {f : SavedFile}

/-! ### A look -/

/-- A look that observes the known time hands nothing out. -/
theorem look_of_same (h : some (f.found s.observed).modified = s.watcher.modified) :
    s.look f = ({ s with observed := s.observed + 1 }, .ok none) := by
  simp only [look, f.run_next, Watcher.look, if_pos h]

/-- A look that observes another time hands out what it observes next. -/
theorem look_of_other (h : some (f.found s.observed).modified ≠ s.watcher.modified) :
    s.look f = (⟨⟨some (f.found s.observed).modified⟩, (f.found (s.observed + 1)).content, true,
      s.observed + 2⟩, .ok (some (f.found (s.observed + 1)).content)) := by
  simp only [look, f.run_next, Watcher.look, if_neg h]
  rfl

/-! ### Where looks leave a watcher -/

/-- A watcher has the modification time of one version and the content of another. Once a look has
handed something out, the content is no older than the time. Up to then both are from the first
look, which observed the content first. -/
structure Stands (s : Watch) (f : SavedFile) (timed read : Nat) : Prop where
  watcher : s.watcher = ⟨some (f.version timed).modified⟩
  content : s.content = (f.version read).content
  reached : read ≤ f.current s.observed
  since : if s.renewed then timed ≤ read else timed = f.current 1 ∧ read = f.current 0

namespace Stands

variable {timed read : Nat}

/-- A look notices nothing just if the version it finds is the one whose time is known. -/
theorem same_iff (h : s.Stands f timed read) :
    some (f.found s.observed).modified = s.watcher.modified ↔ f.current s.observed = timed := by
  rw [h.watcher, Option.some_inj]
  exact f.later.injective.eq_iff

/-- What a look finds, and where it leaves the watcher. -/
theorem look (h : s.Stands f timed read) :
    (f.current s.observed = timed ∧ (s.look f).2 = .ok none ∧
        (s.look f).1.Stands f timed read) ∨
      (f.current s.observed ≠ timed ∧
        (s.look f).2 = .ok (some (f.found (s.observed + 1)).content) ∧
        (s.look f).1.Stands f (f.current s.observed) (f.current (s.observed + 1))) := by
  by_cases hsame : f.current s.observed = timed
  · rw [look_of_same (h.same_iff.mpr hsame)]
    have hreached : read ≤ f.current (s.observed + 1) :=
      h.reached.trans (f.onwards (Nat.le_succ _))
    exact .inl ⟨hsame, rfl, h.watcher, h.content, hreached, h.since⟩
  · rw [look_of_other (mt h.same_iff.mp hsame)]
    have hread : f.current s.observed ≤ f.current (s.observed + 1) := f.onwards (Nat.le_succ _)
    exact .inr ⟨hsame, rfl, rfl, rfl, f.onwards (Nat.le_succ _), hread⟩

/-- If a look hands nothing out, the content is that of the version it finds, or the file was saved
during the first look and is still as it was then. -/
theorem content_of_same (h : s.Stands f timed read) (hsame : f.current s.observed = timed) :
    s.content = (f.found s.observed).content ∨
      s.renewed = false ∧ f.current 0 < f.current 1 ∧ f.current s.observed = f.current 1 := by
  obtain ⟨-, hcontent, hreached, hsince⟩ := h
  cases hrenewed : s.renewed <;> simp only [hrenewed] at hsince
  case true =>
    have hread : read = f.current s.observed := Nat.le_antisymm hreached (hsame ▸ hsince)
    exact .inl (by rw [hcontent, hread]; rfl)
  case false =>
    obtain ⟨rfl, rfl⟩ := hsince
    rcases (f.onwards (Nat.zero_le 1)).lt_or_eq with hsaved | hunsaved
    · exact .inr ⟨rfl, hsaved, hsame⟩
    · refine .inl ?_
      rw [hcontent, hunsaved, ← hsame]
      rfl

end Stands

end Watch

/-- Every look succeeds, and the watcher has a time and a content. -/
theorem SavedFile.stands_watch (f : SavedFile) (looks : Nat) :
    ∃ s timed read, f.watch looks = .ok s ∧ s.Stands f timed read := by
  induction looks with
  | zero =>
    have hreached : f.current 0 ≤ f.current 2 := f.onwards (Nat.zero_le 2)
    exact ⟨_, f.current 1, f.current 0, rfl, rfl, rfl, hreached, rfl, rfl⟩
  | succ looks ih =>
    obtain ⟨s, timed, read, hwatch, hstands⟩ := ih
    have hnext : f.watch (looks + 1) = .ok (s.look f).1 := by rw [watch, hwatch]; rfl
    rcases hstands.look with ⟨-, -, hlook⟩ | ⟨-, -, hlook⟩
    · exact ⟨_, _, _, hnext, hlook⟩
    · exact ⟨_, _, _, hnext, hlook⟩

/-- **Saves are noticed.** Take a file that is saved at any moments, also between the observations
of one look, and watched by a first look and any number of others. All of them succeed. If a further
look hands nothing out, the content that was handed out last is that of the version whose time this
look observed. There is one exception: the file was saved between the two observations of the first
look, nothing has been handed out since, and the file is still as it was then. If the look hands a
content out, it is the one that is there at its second observation. -/
theorem saves_are_noticed (f : SavedFile) (looks : Nat) :
    ∃ s result, f.watch looks = .ok s ∧ (s.look f).2 = .ok result ∧
      (result = none → s.content = (f.found s.observed).content ∨
        s.renewed = false ∧ f.current 0 < f.current 1 ∧ f.current s.observed = f.current 1) ∧
      ∀ content, result = some content → content = (f.found (s.observed + 1)).content := by
  obtain ⟨s, timed, read, hwatch, hstands⟩ := f.stands_watch looks
  rcases hstands.look with ⟨hsame, hnone, -⟩ | ⟨-, hsome, -⟩
  · exact ⟨s, none, hwatch, hnone, fun _ => hstands.content_of_same hsame, by simp⟩
  · exact ⟨s, _, hwatch, hsome, by simp, fun content h => (Option.some.inj h).symm⟩

/-- A save between the observations of the first look is not noticed. -/
theorem save_during_first_look_is_missed :
    let f : SavedFile :=
      { version := fun k => ⟨k, if k = 0 then "Once" else "Twice"⟩
        current := fun n => min n 1
        later := fun _ _ h => h
        onwards := fun m n (h : m ≤ n) => show min m 1 ≤ min n 1 by omega }
    let s : Watch := ⟨⟨some 1⟩, "Once", false, 2⟩
    f.watch 0 = .ok s ∧ (s.look f).2 = .ok none ∧ (f.found s.observed).content = "Twice" :=
  ⟨rfl, rfl, rfl⟩

end Playthrough
