import Mathlib.Data.List.Infix
import Playthrough.Proofs.Tale

/-!
# The grammar of a storyteller

The events of a session that is played from a script follow one grammar. First come the diagnostics
of the compile. If there is an error among them, the session is over with the next event. Otherwise
*blocks* follow, one for each passage that is played: texts, diagnostics, and then either the
choices of a decision point with a request for input, or the end of the story. A block follows
another one only if that has asked for input.

## Main definitions

* `IsBlock`, `IsStory` — the grammar.
* `Halt.last` — the last event of a scene.

## Main results

* `IsStory.eq_nil_of_isFinal` — the end of a story is its last event.
* `Script.isBlock_scene`, `Source.isStory_opening` — scenes are blocks, and begin a story.
* `map_todoNotes` — which lines of a story are reported.
-/

namespace Playthrough

/-! ### The grammar -/

/-- The events of a passage: texts, then diagnostics, and then the choices of a decision point with
a request for input, or the end of the story. -/
inductive IsBlock : List Event → Prop where
  | point (texts : List String) (diagnostics : List Diagnostic) (choices : List Choice)
      (offered : choices ≠ [])
      (numbered : choices.map Choice.number = List.range' 1 choices.length) :
      IsBlock (texts.map .text ++ diagnostics.map .diagnostic ++
        (choices.map .choice ++ [.inputRequired]))
  | ending (texts : List String) (diagnostics : List Diagnostic) (e : Event)
      (final : e.isFinal = true) :
      IsBlock (texts.map .text ++ diagnostics.map .diagnostic ++ [e])

/-- The events of a session whose compile reported some diagnostics. -/
inductive IsStory (diagnostics : List Diagnostic) : List Event → Prop where
  /-- There is an error among the diagnostics. -/
  | rejected (error : ∃ x ∈ diagnostics, x.severity = .error) :
      IsStory diagnostics (diagnostics.map .diagnostic ++ [.unexpectedExit])
  /-- There is none, and the first passage was played. -/
  | opened {block : List Event} (fine : ∀ x ∈ diagnostics, x.severity ≠ .error)
      (isBlock : IsBlock block) : IsStory diagnostics (diagnostics.map .diagnostic ++ block)
  /-- Input was asked for, and another passage was played. -/
  | next {es block : List Event} (before : IsStory diagnostics es)
      (asked : es.getLast? = some .inputRequired) (isBlock : IsBlock block) :
      IsStory diagnostics (es ++ block)

/-- An event that is final comes last, if at all. -/
def FinalIsLast (es : List Event) : Prop :=
  ∀ e ∈ es.dropLast, e.isFinal = false

theorem finalIsLast_concat {es : List Event} (e : Event) (h : ∀ x ∈ es, x.isFinal = false) :
    FinalIsLast (es ++ [e]) := by
  rw [FinalIsLast, List.dropLast_concat]
  exact h

theorem FinalIsLast.append {es es' : List Event} (h : FinalIsLast es) (h' : FinalIsLast es')
    (asked : es.getLast? = some .inputRequired) : FinalIsLast (es ++ es') := by
  obtain ⟨es₀, rfl⟩ := List.getLast?_eq_some_iff.mp asked
  rw [FinalIsLast, List.dropLast_concat] at h
  intro e he
  rcases List.eq_nil_or_concat es' with rfl | ⟨es₁, e₁, rfl⟩
  · rw [List.append_nil, List.dropLast_concat] at he
    exact h e he
  · rw [List.concat_eq_append] at he h'
    rw [← List.append_assoc, List.dropLast_concat, List.mem_append, List.mem_append] at he
    rw [FinalIsLast, List.dropLast_concat] at h'
    rcases he with (he | he) | he
    · exact h e he
    · rw [List.mem_singleton.mp he]
      rfl
    · exact h' e he

theorem isFinal_of_mem_diagnostics {diagnostics : List Diagnostic} {e : Event}
    (h : e ∈ diagnostics.map Event.diagnostic) : e.isFinal = false := by
  obtain ⟨x, -, rfl⟩ := List.mem_map.mp h
  rfl

theorem isFinal_of_mem_remarks {texts : List String} {diagnostics : List Diagnostic} {e : Event}
    (h : e ∈ texts.map Event.text ++ diagnostics.map Event.diagnostic) : e.isFinal = false := by
  rcases List.mem_append.mp h with h | h
  · obtain ⟨t, -, rfl⟩ := List.mem_map.mp h
    rfl
  · exact isFinal_of_mem_diagnostics h

theorem IsBlock.finalIsLast {block : List Event} (h : IsBlock block) : FinalIsLast block := by
  cases h with
  | point texts diagnostics choices offered numbered =>
    rw [← List.append_assoc]
    refine finalIsLast_concat _ fun e he => ?_
    rcases List.mem_append.mp he with he | he
    · exact isFinal_of_mem_remarks he
    · obtain ⟨c, -, rfl⟩ := List.mem_map.mp he
      rfl
  | ending texts diagnostics e final => exact finalIsLast_concat e fun x => isFinal_of_mem_remarks

theorem IsStory.finalIsLast {diagnostics : List Diagnostic} {es : List Event}
    (h : IsStory diagnostics es) : FinalIsLast es := by
  induction h with
  | rejected error =>
    exact finalIsLast_concat _ fun e => isFinal_of_mem_diagnostics
  | opened fine isBlock =>
    rename_i block
    intro e he
    rw [List.dropLast_append] at he
    split at he
    · exact isFinal_of_mem_diagnostics ((List.dropLast_sublist _).subset he)
    · rcases List.mem_append.mp he with he | he
      · exact isFinal_of_mem_diagnostics he
      · exact isBlock.finalIsLast e he
  | next before asked isBlock ih => exact ih.append isBlock.finalIsLast asked

/-- The end of a story is its last event. -/
theorem IsStory.eq_nil_of_isFinal {diagnostics : List Diagnostic} {es es' : List Event} {e : Event}
    (h : IsStory diagnostics (es ++ e :: es')) (he : e.isFinal = true) : es' = [] := by
  rcases List.eq_nil_or_concat es' with hnil | ⟨es₁, e₁, rfl⟩
  · exact hnil
  · have hlast := h.finalIsLast e (by
      rw [List.concat_eq_append, ← List.cons_append, ← List.append_assoc, List.dropLast_concat]
      simp)
    rw [he] at hlast
    contradiction

/-! ### Scenes are blocks -/

theorem isBlock_events (p : Passage) : IsBlock p.events := by
  by_cases h : p.branches = []
  · have hclosing : p.closing = [p.ending.event] := by simp [Passage.closing, h]
    rw [Passage.events, hclosing]
    exact .ending _ _ _ (by cases p.ending <;> rfl)
  · have hclosing : p.closing = p.choices.map .choice ++ [.inputRequired] := by
      simp [Passage.closing, h]
    rw [Passage.events, hclosing]
    refine .point _ _ _ (p.choices_ne_nil h) (List.ext_getElem ?_ fun i h₁ h₂ => ?_)
    · simp
    · simp [Passage.choices, Nat.add_comm]

theorem isBlock_crash (message : String) : IsBlock (Scene.crash message).events :=
  .ending [] [⟨.runtimeError, 1, message⟩] .unexpectedExit rfl

namespace Script

variable (s : Script)

theorem isBlock_scene (index : Nat) : IsBlock (s.scene index).events := by
  rw [scene]
  split
  · exact isBlock_crash _
  · rw [Storyteller.events_scene]
    exact isBlock_events _

theorem isBlock_sceneAfter (index n : Nat) : IsBlock (s.sceneAfter index n).events := by
  rw [sceneAfter]
  split
  · exact s.isBlock_scene _
  · exact isBlock_crash _

end Script

theorem Source.isStory_opening (source : Source) :
    IsStory source.diagnostics source.opening.events := by
  have hevents : (source.diagnostics.map Remark.diagnostic).map Remark.event =
      source.diagnostics.map Event.diagnostic := by
    rw [List.map_map]
    rfl
  rw [opening]
  split
  · rename_i herror
    rw [Scene.events, hevents]
    exact .rejected (by simpa using herror)
  · rename_i hfine
    rw [Scene.events, List.map_append, hevents, List.append_assoc]
    exact .opened (by simpa using hfine) (source.script.isBlock_scene 0)

/-- What a halt says last. -/
def Halt.last : Halt → Event
  | .point _ _ _ => .inputRequired
  | .ended ending => ending.event

theorem Halt.last_eq_inputRequired_iff (halt : Halt) :
    halt.last = .inputRequired ↔ halt.position?.isSome = true := by
  cases halt with
  | point index choices offered => simp [last, position?]
  | ended ending => cases ending <;> simp [last, position?, Ending.event]

namespace Scene

variable (scene : Scene)

theorem getLast?_events : scene.events.getLast? = some scene.halt.last := by
  rw [events, List.getLast?_append]
  cases scene.halt <;> simp [Halt.events, Halt.last]

theorem ne_stopAcknowledged_of_mem {e : Event} (h : e ∈ scene.events) : e ≠ .stopAcknowledged := by
  rcases List.mem_append.mp h with h | h
  · obtain ⟨x, -, rfl⟩ := List.mem_map.mp h
    cases x <;> simp [Remark.event]
  · cases hhalt : scene.halt with
    | point index choices offered =>
      rw [hhalt, Halt.events, List.mem_append] at h
      rcases h with h | h
      · obtain ⟨c, -, rfl⟩ := List.mem_map.mp h
        simp
      · rw [List.mem_singleton.mp h]
        simp
    | ended ending =>
      rw [hhalt, Halt.events, List.mem_singleton] at h
      cases ending <;> simp [h, Ending.event]

end Scene

/-! ### Notes -/

theorem Text.isSome_afterFirst?_iff (word cs : List Char) :
    (Text.afterFirst? word cs).isSome = true ↔ word <:+: cs := by
  induction cs with
  | nil => cases word <;> simp [Text.afterFirst?]
  | cons c cs ih =>
    rw [Text.afterFirst?, List.infix_cons_iff, ← List.isPrefixOf_iff_prefix]
    split
    · simp [*]
    · simp [*]

/-- There is one note for each line of the content with a `TODO` in it, in the order of the
lines. -/
theorem map_todoNotes (content : String) :
    (todoNotes content).map (fun x => (x.severity, x.line)) =
      ((Text.lines content.toList).zipIdx.filter fun p => ['T', 'O', 'D', 'O'] <:+: p.1).map
        fun p => (.todo, p.2 + 1) := by
  rw [todoNotes]
  induction (Text.lines content.toList).zipIdx with
  | nil => rfl
  | cons p ps ih =>
    have hnote : (todoNote? p.1).isSome = true ↔ ['T', 'O', 'D', 'O'] <:+: p.1 := by
      rw [todoNote?, Option.isSome_map, Text.isSome_afterFirst?_iff]
    cases hp : todoNote? p.1 with
    | none =>
      rw [hp] at hnote
      rw [List.filterMap_cons_none (by simp [hp]), ih, List.filter_cons_of_neg (by simp [← hnote])]
    | some note =>
      rw [hp] at hnote
      rw [List.filterMap_cons_some (by simp only [hp]; rfl), List.map_cons, ih,
        List.filter_cons_of_pos (by simp [← hnote])]
      rfl

end Playthrough
