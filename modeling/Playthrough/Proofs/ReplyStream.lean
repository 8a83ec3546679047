import Mathlib.Data.List.TakeWhile
import Playthrough.Proofs.LineRoundTrip
import Playthrough.Proofs.Traffic

/-!
# The stream of replies

What a program writes need not be replies: there may be banners, blank lines, or octets that are no
text. The reader passes on the replies of the lines that can be decoded, in their order, and skips
every other line, as long as the line is a text. At the first line that is none it takes the output
to have ended.

The lines of an output are described here by how the output is made of them, without looking at how
they are cut.

## Main definitions

* `Text.HasLines` — a sequence is made of some lines.
* `Link.isText`, `Link.decoded?` — whether a line is a text, and the reply that it spells.

## Main results

* `Text.hasLines_iff` — the lines that a sequence is made of are those it is cut into.
* `Link.replyOfOctets?_eq` — the reader skips no line that can be decoded.
* `Traffic.exists_steps_readOutput` — the reader comes to the end on its own.
* `Traffic.replies_are_those_of_text_lines` — the replies of an output.
-/

namespace Playthrough

/-! ### Lines -/

namespace Text

variable {α : Type} {cr lf : α} {bs : List α} {lines : List (List α)}

/-- A sequence is made of lines: each is ended by a line feed, or by a carriage return and a line
feed, but the last one need not be ended unless it is empty. -/
inductive HasLines (cr lf : α) : List α → List (List α) → Prop where
  | nil : HasLines cr lf [] []
  | unended {line : List α} (nonempty : line ≠ []) (noFeed : lf ∉ line) :
      HasLines cr lf line [line]
  | feed {line rest : List α} {lines : List (List α)} (noFeed : lf ∉ line)
      (noReturn : line.getLast? ≠ some cr) (others : HasLines cr lf rest lines) :
      HasLines cr lf (line ++ lf :: rest) (line :: lines)
  | returnFeed {line rest : List α} {lines : List (List α)} (noFeed : lf ∉ line)
      (others : HasLines cr lf rest lines) :
      HasLines cr lf (line ++ cr :: lf :: rest) (line :: lines)

/-- Every sequence is made of lines: the first one goes up to the first line feed. -/
theorem exists_hasLines (hne : cr ≠ lf) (bs : List α) : ∃ lines, HasLines cr lf bs lines := by
  by_cases hfeed : lf ∈ bs
  · obtain ⟨line, rest, hbs, hline⟩ := List.eq_append_cons_of_mem hfeed
    have hshorter : rest.length < bs.length := by simp [hbs]; omega
    obtain ⟨lines, hlines⟩ := exists_hasLines hne rest
    by_cases hreturn : line.getLast? = some cr
    · obtain ⟨line, rfl⟩ := List.getLast?_eq_some_iff.mp hreturn
      rw [List.append_assoc] at hbs
      exact ⟨line :: lines, hbs ▸ .returnFeed (fun h => hline (List.mem_append_left _ h)) hlines⟩
    · exact ⟨line :: lines, hbs ▸ .feed hline hreturn hlines⟩
  · by_cases hbs : bs = []
    · exact ⟨[], hbs ▸ .nil⟩
    · exact ⟨[bs], .unended hbs hfeed⟩
termination_by bs.length

variable [DecidableEq α]

/-- What stands behind the last line feed is a line. -/
theorem splitLines_of_notMem (a : α) (hlf : lf ∉ a :: bs) :
    splitLines cr lf (a :: bs) = [a :: bs] := by
  induction bs generalizing a with
  | nil =>
    have hne : a ≠ lf := fun h => hlf (h ▸ List.mem_cons_self)
    simp [splitLines, hne, extendFirst]
  | cons b bs ih =>
    rw [List.mem_cons, not_or] at hlf
    have hinside : ¬(a = cr ∧ (b :: bs).head? = some lf) := by
      rintro ⟨-, hhead⟩
      exact hlf.2 (Option.some.inj hhead ▸ List.mem_cons_self)
    rw [splitLines, if_neg (Ne.symm hlf.1), if_neg hinside, ih b hlf.2]
    rfl

theorem HasLines.splitLines_eq (hne : cr ≠ lf) (h : HasLines cr lf bs lines) :
    splitLines cr lf bs = lines := by
  induction h with
  | nil => rfl
  | @unended line nonempty noFeed =>
    cases line with
    | nil => contradiction
    | cons a line => exact splitLines_of_notMem a noFeed
  | feed noFeed noReturn _ ih =>
    refine splitLines_append noFeed (fun h => absurd h noReturn) ?_
    rw [splitLines_lf, ih]
  | returnFeed noFeed _ ih =>
    refine splitLines_append noFeed (fun _ h => hne (Option.some.inj h)) ?_
    rw [splitLines, if_neg hne, if_pos ⟨rfl, rfl⟩, splitLines_lf, ih]

/-- The lines that a sequence is made of are those it is cut into. -/
theorem hasLines_iff (hne : cr ≠ lf) : HasLines cr lf bs lines ↔ splitLines cr lf bs = lines := by
  refine ⟨HasLines.splitLines_eq hne, fun h => ?_⟩
  obtain ⟨lines', hlines⟩ := exists_hasLines hne bs
  rwa [← h, hlines.splitLines_eq hne]

theorem trimEnd_of_isBlankText {cs : List Char} (h : isBlankText cs = true) : trimEnd cs = [] :=
  trimEnd_append_gap (List.all_eq_true.mp h) []

end Text

/-! ### The replies of lines -/

namespace Link

/-- Whether a line is a text. -/
def isText (line : List UInt8) : Bool :=
  (textOfOctets? line).isSome

/-- The reply that a line spells. -/
def decoded? (line : List UInt8) : Option Reply :=
  (textOfOctets? line).bind fun text => (Wire.ofLine text).toOption

/-- A blank line is no reply. -/
theorem ofLine_of_isBlankText {text : String} (h : Text.isBlankText text.toList = true) :
    (Wire.ofLine text : Except Wire.LineError Reply).toOption = none := by
  rw [Wire.ofLine, Wire.readChars, Text.trimEnd_of_isBlankText h, Wire.tokens]
  rfl

/-- The reader passes on the reply of every line that can be decoded. -/
theorem replyOfOctets?_eq (line : List UInt8) : replyOfOctets? line = decoded? line := by
  refine Option.bind_congr fun text _ => ?_
  rw [replyOfLine?]
  split
  · rename_i hblank
    rw [ofLine_of_isBlankText hblank]
  · rfl

/-- The octets of a text in UTF-8. -/
def octetsOf (text : String) : List UInt8 :=
  text.toUTF8.data.toList

theorem textOfOctets?_octetsOf (text : String) : textOfOctets? (octetsOf text) = some text := by
  rw [textOfOctets?, String.fromUTF8?]
  exact dif_pos text.isValidUTF8

/-- The line of a reply spells this reply. -/
theorem decoded?_toLine {r : Reply} (h : r.Fits) :
    decoded? (octetsOf (Wire.toLine r)) = some r := by
  rw [decoded?, textOfOctets?_octetsOf, Option.bind_some, Wire.reply_roundTrip.ofLine_toLine r h]
  rfl

/-- The texts of some lines, up to the first line that is none. -/
def textsOf (lines : List (List UInt8)) : List String :=
  ((lines.map textOfOctets?).takeWhile Option.isSome).filterMap id

theorem textsOf_cons_of_some {line : List UInt8} {text : String}
    (h : textOfOctets? line = some text) (lines : List (List UInt8)) :
    textsOf (line :: lines) = text :: textsOf lines := by
  simp [textsOf, h]

theorem textsOf_eq_nil {lines : List (List UInt8)}
    (h : ∀ line ∈ lines.head?, textOfOctets? line = none) : textsOf lines = [] := by
  cases lines with
  | nil => rfl
  | cons line lines => simp [textsOf, h line rfl]

end Link

/-! ### The reader -/

namespace Traffic

variable {output : List UInt8} {t : Traffic}

/-- A reader that has ended has read all lines before the first one that is no text. -/
theorem OutputKept.read_eq (h : t.OutputKept output) (ended : t.reader = .ended) :
    t.read = (Text.octetLines output).takeWhile Link.isText := by
  have htexts : ∀ line ∈ t.read, Link.isText line := h.texts
  rw [← h.lines, List.takeWhile_append_of_pos htexts]
  have hnone : t.unread.takeWhile Link.isText = [] := by
    cases hunread : t.unread with
    | nil => rfl
    | cons line lines =>
      have hline := h.ended ended line (by rw [hunread]; rfl)
      exact List.takeWhile_cons_of_neg (by simp [Link.isText, hline])
  rw [hnone, List.append_nil]

/-- The reader comes to the end of the output by its own steps. -/
theorem exists_steps_readOutput (reading : t.reader = .reading) :
    ∃ t', Steps t t' ∧ t'.reader = .ended ∧ t'.attempts = t.attempts ∧
      t'.link = ((Link.textsOf t.unread).foldl Link.readLine t.link).endOutput := by
  generalize hlines : t.unread = lines
  induction lines generalizing t with
  | nil =>
    exact ⟨_, .single (.endOutput reading (by simp [hlines])), rfl, rfl, rfl⟩
  | cons line lines ih =>
    cases htext : textOfOctets? line with
    | none =>
      have hend : ∀ line ∈ t.unread.head?, textOfOctets? line = none := by simp [hlines, htext]
      refine ⟨_, .single (.endOutput reading hend), rfl, rfl, ?_⟩
      rw [← hlines, Link.textsOf_eq_nil hend]
      rfl
    | some text =>
      obtain ⟨t', hsteps, hended, hattempts, hlink⟩ :=
        ih (t := { t.act .reader (Link.readLine · text) with
          unread := lines, read := t.read ++ [line] }) reading rfl
      refine ⟨t', .head (.read reading hlines htext) hsteps, hended, hattempts, ?_⟩
      rw [hlink, Link.textsOf_cons_of_some htext]
      rfl

/-- When the reader has ended, its replies are those of the lines before the first one that is no
text, and the end of the session that was started last. -/
theorem repliesOf_reader_of_ended {lines : List (List UInt8)}
    (made : Text.HasLines 13 10 output lines) (reached : Steps (opening output) t)
    (ended : t.reader = .ended) :
    t.repliesOf .reader = (lines.takeWhile Link.isText).filterMap Link.decoded? ++
      Link.exitBehind t.accepted := by
  obtain ⟨-, hreplies, houtput⟩ := reached.kept
  have hread := houtput.read_eq ended
  rw [Text.octetLines, made.splitLines_eq (by decide)] at hread
  rw [hreplies.reader, hread, ended, if_neg (by decide), funext Link.replyOfOctets?_eq]

/-- **The reader passes on what can be decoded.** Let the output of the program be made of some
lines, and let all steps be taken in any order. When the reader has ended, it has put into the
stream the replies of the lines that can be decoded, in their order, up to the first line that is no
text, and behind them the end of the session that was started last. When all lines are texts, these
are the replies of the whole output. A reader that is still reading comes to its end on its own, and
when it reads the whole output in one go, it does to the link what `Link.readOutput` does. -/
theorem replies_are_those_of_text_lines {lines : List (List UInt8)}
    (made : Text.HasLines 13 10 output lines) (reached : Steps (opening output) t) :
    (t.reader = .ended →
        t.repliesOf .reader = (lines.takeWhile Link.isText).filterMap Link.decoded? ++
          Link.exitBehind t.accepted ∧
        ((∀ line ∈ lines, Link.isText line) →
          t.repliesOf .reader = lines.filterMap Link.decoded? ++ Link.exitBehind t.accepted)) ∧
      (t.reader = .reading →
        ∃ t', Steps t t' ∧ t'.reader = .ended ∧ t'.attempts = t.attempts ∧
          (t.read = [] → t'.link = t.link.readOutput output)) := by
  refine ⟨fun ended => ?_, fun reading => ?_⟩
  · have hreplies := repliesOf_reader_of_ended made reached ended
    exact ⟨hreplies, fun texts => by rw [hreplies, List.takeWhile_eq_self_iff.mpr texts]⟩
  · obtain ⟨t', later, ended, hattempts, hlink⟩ := exists_steps_readOutput reading
    refine ⟨t', later, ended, hattempts, fun hnothing => ?_⟩
    have hlines := reached.kept.output.lines
    rw [hnothing, List.nil_append] at hlines
    rw [hlink, hlines]
    rfl

/-- A banner and a blank line are skipped wherever they stand. -/
theorem replies_are_those_of_text_lines_with_banner :
    let reply : Reply := ⟨1, .storyCompleted⟩
    let said := Link.octetsOf (Wire.toLine reply)
    let banner := Link.octetsOf "banner"
    let lines := [banner, said, [], said]
    let output := banner ++ 10 :: (said ++ 13 :: 10 :: ([] ++ 10 :: said))
    Text.HasLines 13 10 output lines ∧ (∀ line ∈ lines, Link.isText line) ∧
      ∃ t, Steps (opening output) t ∧ t.reader = .ended ∧ t.accepted = [.run "" 1] ∧
        t.repliesOf .reader = [reply, reply, ⟨1, .unexpectedExit⟩] := by
  intro reply said banner lines output
  have made : Text.HasLines 13 10 output lines :=
    .feed (by decide +kernel) (by decide +kernel) <| .returnFeed (by decide +kernel) <|
      .feed List.not_mem_nil nofun <| .unended (by decide +kernel) (by decide +kernel)
  have texts : ∀ line ∈ lines, Link.isText line :=
    List.all_eq_true.mp (show lines.all Link.isText = true by decide +kernel)
  have started : Steps (opening output) ((opening output).handIn 0 (.run "" 1)) :=
    .single (.handIn 0 (.run "" 1))
  obtain ⟨t, later, ended, hattempts, -⟩ := (replies_are_those_of_text_lines made started).2 rfl
  have reached := started.trans later
  obtain ⟨-, hall⟩ := (replies_are_those_of_text_lines made reached).1 ended
  have haccepted : t.accepted = [.run "" 1] := by rw [accepted, hattempts]; rfl
  have hsaid : Link.decoded? said = some reply := Link.decoded?_toLine ⟨by decide, trivial⟩
  have hbanner : Link.decoded? banner = none := by decide +kernel
  have hblank : Link.decoded? [] = none := by decide +kernel
  have hexit : Link.exitBehind t.accepted = [⟨1, .unexpectedExit⟩] := by rw [haccepted]; rfl
  refine ⟨made, texts, t, reached, ended, haccepted, ?_⟩
  rw [hall texts, hexit]
  simp [lines, hsaid, hbanner, hblank]

/-- A line that is no text hides the reply behind it, although the output goes on. -/
theorem unreadable_line_hides_reply :
    let before : Reply := ⟨1, .text "before"⟩
    let after : Reply := ⟨1, .text "after"⟩
    let first := Link.octetsOf (Wire.toLine before)
    let last := Link.octetsOf (Wire.toLine after)
    let lines := [first, [255, 254], last]
    let output := first ++ 10 :: ([255, 254] ++ 10 :: (last ++ 10 :: []))
    Text.HasLines 13 10 output lines ∧
      ∃ t, Steps (opening output) t ∧ t.reader = .ended ∧ t.accepted = [.run "" 1] ∧
        lines.filterMap Link.decoded? ++ Link.exitBehind t.accepted =
          [before, after, ⟨1, .unexpectedExit⟩] ∧
        t.repliesOf .reader = [before, ⟨1, .unexpectedExit⟩] := by
  intro before after first last lines output
  have made : Text.HasLines 13 10 output lines :=
    .feed (by decide +kernel) (by decide +kernel) <| .feed (by decide) (by decide) <|
      .feed (by decide +kernel) (by decide +kernel) .nil
  have started : Steps (opening output) ((opening output).handIn 0 (.run "" 1)) :=
    .single (.handIn 0 (.run "" 1))
  have reading : ((opening output).handIn 0 (.run "" 1)).reader = .reading := rfl
  obtain ⟨t, later, ended, hattempts, -⟩ := exists_steps_readOutput reading
  have reached := started.trans later
  have haccepted : t.accepted = [.run "" 1] := by rw [accepted, hattempts]; rfl
  have hexit : Link.exitBehind t.accepted = [⟨1, .unexpectedExit⟩] := by rw [haccepted]; rfl
  have hfirst : Link.decoded? first = some before := Link.decoded?_toLine ⟨by decide, trivial⟩
  have hlast : Link.decoded? last = some after := Link.decoded?_toLine ⟨by decide, trivial⟩
  have hbroken : textOfOctets? [255, 254] = none := by decide +kernel
  have hskipped : Link.decoded? [255, 254] = none := by rw [Link.decoded?, hbroken]; rfl
  have htexts : lines.takeWhile Link.isText = [first] := by
    simp [lines, Link.isText, hbroken, first, Link.textOfOctets?_octetsOf]
  refine ⟨made, t, reached, ended, haccepted, ?_, ?_⟩
  · simp [lines, hfirst, hskipped, hlast, hexit]
  · rw [repliesOf_reader_of_ended made reached ended, htexts, hexit]
    simp [hfirst]

end Traffic

end Playthrough
