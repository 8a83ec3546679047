import Playthrough.Proofs.LooseMessages
import Playthrough.Text.Lines

/-!
# Messages come back from their lines

Every message is written as one line, and reading this line gives the message back, provided that
its numbers are machine words. A line neither holds a line feed nor a carriage return. So several
messages can be written one after the other, each with either of the two line ends behind it, and
the lines of what was written are those of the messages.

## Main definitions

* `Wire.LineEnd`, `Wire.writeLines`, `Wire.readLines` — lines with their ends.
* `Wire.RoundTrip` — the messages of a type come back from their lines.

## Main results

* `Text.splitLines_append` — the first line of a text.
* `Wire.RoundTrip.of_tolerates` — it suffices that messages are read from all spellings of them.
* `messages_round_trip` — all kinds of messages come back from their lines.
-/

namespace Playthrough

open Text

/-! ### Lines of a text -/

namespace Text

/-- A line is the first line of a text that goes on with a line end. It has no line feed inside, and
no carriage return at its end that would belong to that line end. -/
theorem splitLines_append {β : Type} [DecidableEq β] {cr lf : β} {line tail : List β}
    {lines : List (List β)} (hlf : lf ∉ line)
    (hcr : line.getLast? = some cr → tail.head? ≠ some lf)
    (htail : splitLines cr lf tail = [] :: lines) :
    splitLines cr lf (line ++ tail) = line :: lines := by
  induction line with
  | nil => exact htail
  | cons a line ih =>
    rw [List.mem_cons, not_or] at hlf
    have hinside : ¬(a = cr ∧ (line ++ tail).head? = some lf) := by
      rintro ⟨rfl, hhead⟩
      cases line with
      | nil => exact hcr rfl hhead
      | cons b line => exact hlf.2 (by simp_all)
    have hcr' : line.getLast? = some cr → tail.head? ≠ some lf := fun hlast =>
      hcr (by rw [List.getLast?_cons, hlast]; rfl)
    rw [List.cons_append, splitLines, if_neg (Ne.symm hlf.1), if_neg hinside, ih hlf.2 hcr']
    rfl

end Text

namespace Wire

/-! ### Messages as plain values -/

/-- A plain value is a loose value of its own. -/
theorem Value.IsPlain.isLoose {height : Nat} {v : Value} (h : v.IsPlain height) (field : String) :
    IsLoose field v v := by
  induction h generalizing field with
  | text height s => exact .text field s
  | natural height h => exact .number field _
  | @object height ms _ ih =>
    let parts := ms.map fun m => (m.1, (m.2, m.2))
    have hparts : (parts.map fun p => (p.1, p.2.1)) = ms := by
      rw [List.map_map]
      exact List.map_id ms
    have hobject : IsLoose field (.object (parts.map fun p => (p.1, p.2.1))) (.object ms) := by
      refine .object (List.forall_mem_map.mpr fun m hm => ih m hm m.1) (List.forall_mem_nil _) ?_
      rw [List.append_nil, List.map_map]
      exact .of_eq (List.map_id ms).symm
    rwa [hparts] at hobject

theorem isPlain_diagnostic {d : Diagnostic} (h : d.Fits) : (Codec.toValue d).IsPlain 1 :=
  .object <| List.forall_mem_cons.mpr ⟨.text _ _, List.forall_mem_cons.mpr
    ⟨.natural _ h, List.forall_mem_singleton.mpr (.text _ _)⟩⟩

theorem isPlain_choice {c : Choice} (h : c.Fits) : (Codec.toValue c).IsPlain 1 :=
  .object <| List.forall_mem_cons.mpr ⟨.natural _ h, List.forall_mem_singleton.mpr (.text _ _)⟩

theorem isPlain_eventMembers {e : Event} (h : e.Fits) :
    ∀ m ∈ eventMembers e, m.2.IsPlain 1 := by
  cases e with
  | text t => exact List.forall_mem_singleton.mpr (.text _ _)
  | diagnostic d => exact List.forall_mem_singleton.mpr (isPlain_diagnostic h)
  | choice c => exact List.forall_mem_singleton.mpr (isPlain_choice h)
  | _ => exact List.forall_mem_nil _

theorem isPlain_event {e : Event} (h : e.Fits) : (Codec.toValue e).IsPlain 2 :=
  .object (List.forall_mem_cons.mpr ⟨.text _ _, isPlain_eventMembers h⟩)

theorem isPlain_reply {r : Reply} (h : r.Fits) : (Codec.toValue r).IsPlain 3 :=
  .object <| List.forall_mem_cons.mpr
    ⟨.natural _ h.1, List.forall_mem_singleton.mpr (isPlain_event h.2)⟩

theorem isPlain_requestMembers {r : Request} (h : r.Fits) :
    ∀ m ∈ requestMembers r, m.2.IsPlain 0 := by
  cases r with
  | run content session =>
    exact List.forall_mem_cons.mpr ⟨.text _ _, List.forall_mem_singleton.mpr (.natural _ h)⟩
  | stop session => exact List.forall_mem_singleton.mpr (.natural _ h)
  | continueWith choice session =>
    exact List.forall_mem_cons.mpr ⟨.natural _ h.1, List.forall_mem_singleton.mpr (.natural _ h.2)⟩

theorem isPlain_request {r : Request} (h : r.Fits) : (Codec.toValue r).IsPlain 1 := by
  rw [toValue_request]
  exact .object (List.forall_mem_cons.mpr ⟨.text _ _, isPlain_requestMembers h⟩)

/-! ### Lines -/

/-- How a line ends. -/
inductive LineEnd where
  | feed
  | returnFeed
  deriving DecidableEq, Repr

/-- The characters of a line end. -/
def LineEnd.chars : LineEnd → List Char
  | .feed => ['\n']
  | .returnFeed => ['\r', '\n']

theorem LineEnd.lines_append (e : LineEnd) (cs : List Char) :
    Text.lines (e.chars ++ cs) = [] :: Text.lines cs := by
  cases e with
  | feed => exact splitLines_lf _ _ cs
  | returnFeed =>
    change splitLines '\r' '\n' ('\r' :: '\n' :: cs) = _
    rw [splitLines, if_neg (by decide), if_pos (by simp), splitLines_lf]
    rfl

section RoundTrip

variable [Codec α]

/-- Some messages, one a line. -/
def writeLines (ms : List (α × LineEnd)) : List Char :=
  ms.flatMap fun m => (toLine m.1).toList ++ m.2.chars

/-- What is read from the lines of a text. -/
def readLines (cs : List Char) : List (Except LineError α) :=
  (Text.lines cs).map fun line => ofLine (String.ofList line)

/-- The messages of a type come back from their lines, as far as they fit. -/
structure RoundTrip (fits : α → Prop) : Prop where
  /-- The line of a message has no line end inside. -/
  oneLine : ∀ a, fits a → '\n' ∉ (toLine a).toList ∧ '\r' ∉ (toLine a).toList
  /-- A message comes back from its line. -/
  ofLine_toLine : ∀ a, fits a → ofLine (toLine a) = .ok a
  /-- Messages that are written one after the other come back in their order. -/
  readLines_writeLines : ∀ ms : List (α × LineEnd), (∀ m ∈ ms, fits m.1) →
    readLines (writeLines ms) = ms.map fun m => .ok m.1

/-- Messages that are written as plain values and read from all spellings of them come back. -/
theorem RoundTrip.of_tolerates {fits : α → Prop} {field : String} {height : Nat}
    (hheight : height ≤ Node.depthLimit)
    (hplain : ∀ a, fits a → (Codec.toValue a).IsPlain height)
    (hread : Tolerates field fits) : RoundTrip fits := by
  have hline (a : α) (ha : fits a) : '\n' ∉ (toLine a).toList ∧ '\r' ∉ (toLine a).toList := by
    rw [toLine, String.toList_ofList]
    have hcontrol := (hplain a ha).le_of_mem_render
    exact ⟨fun h => absurd (hcontrol _ h) (by decide), fun h => absurd (hcontrol _ h) (by decide)⟩
  have hback (a : α) (ha : fits a) : ofLine (toLine a) = .ok a := by
    have hvalue := hplain a ha
    have hspelling := hread a ha (hvalue.isLoose field) (hvalue.within hheight)
      hvalue.spellsValue_render (List.forall_mem_nil _)
    rwa [List.append_nil] at hspelling
  refine ⟨hline, hback, fun ms hms => ?_⟩
  induction ms with
  | nil => rfl
  | cons m ms ih =>
    obtain ⟨hfeed, hreturn⟩ := hline m.1 (hms m List.mem_cons_self)
    have hlines : Text.lines (writeLines (m :: ms)) =
        (toLine m.1).toList :: Text.lines (writeLines ms) := by
      rw [writeLines, List.flatMap_cons, List.append_assoc]
      exact splitLines_append hfeed (fun h => absurd (List.mem_of_getLast? h) hreturn)
        (m.2.lines_append _)
    rw [readLines, hlines, List.map_cons, String.ofList_toList,
      hback m.1 (hms m List.mem_cons_self)]
    exact congrArg _ (ih fun m hm => hms m (List.mem_cons_of_mem _ hm))

end RoundTrip

theorem reply_roundTrip : RoundTrip Reply.Fits :=
  .of_tolerates (by decide) (fun _ => isPlain_reply) (reply_readsLoosely "").tolerates

end Wire

open Wire in
/-- **Messages come back from their lines.** For all kinds of messages whose numbers are machine
words, the line of a message holds neither a line feed nor a carriage return, reading it gives the
message back, and several messages that are written one after the other, each with a line feed or a
carriage return and a line feed behind it, are read back from the lines of the text in their
order. -/
theorem messages_round_trip :
    RoundTrip Request.Fits ∧ RoundTrip Reply.Fits ∧ RoundTrip Event.Fits ∧
      RoundTrip Diagnostic.Fits ∧ RoundTrip Choice.Fits ∧ RoundTrip fun _ : Severity => True := by
  refine ⟨?_, reply_roundTrip, ?_, ?_, ?_, ?_⟩
  · exact .of_tolerates (by decide) (fun _ => isPlain_request) (request_readsLoosely "").tolerates
  · exact .of_tolerates (by decide) (fun _ => isPlain_event) (event_readsLoosely "").tolerates
  · exact .of_tolerates (by decide) (fun _ => isPlain_diagnostic)
      (diagnostic_readsLoosely "").tolerates
  · exact .of_tolerates (by decide) (fun _ => isPlain_choice) (choice_readsLoosely "").tolerates
  · exact .of_tolerates (Nat.zero_le _) (fun s _ => .text 0 s.label)
      severity_readsLoosely.tolerates

open Wire in
/-- Texts with quotes, backslashes and line ends, and the greatest machine word. -/
theorem quoted_replies_round_trip :
    let ms : List (Reply × LineEnd) :=
      [(⟨1, .text "\"\\\r\n\x01"⟩, .returnFeed),
       (⟨wordLimit - 1, .diagnostic ⟨.runtimeError, wordLimit - 1, "\t"⟩⟩, .feed)]
    (∀ m ∈ ms, m.1.Fits) ∧ readLines (writeLines ms) = ms.map fun m => .ok m.1 := by
  intro ms
  have hfits : ∀ m ∈ ms, m.1.Fits := by
    refine List.forall_mem_cons.mpr ⟨⟨by decide, trivial⟩, List.forall_mem_singleton.mpr ?_⟩
    exact ⟨by decide, show wordLimit - 1 < wordLimit by decide⟩
  exact ⟨hfits, messages_round_trip.2.1.readLines_writeLines ms hfits⟩

end Playthrough
