import Playthrough.Proofs.LooseRecords
import Playthrough.Proofs.WrittenValues

/-!
# Messages with their fields in any order

A message is read from every line that spells a value looser than the one it is written as: in each
of its objects the fields stand in any order, the tag among them or at the end, there may be further
fields, and any white space around. Such a line is a tree that means the value, and each type of
message is read from the trees of its loose values.

## Main definitions

* `Diagnostic.Fits`, `Choice.Fits`, `Event.Fits`, `Reply.Fits`, `Request.Fits` — the numbers of a
  message are machine words.
* `Wire.IsFaithful` — sources are read as the values that they stand for.
* `Wire.Tolerates` — the messages of a type are read from all spellings of loose values.

## Main results

* `Wire.ReadsLoosely.tolerates` — it suffices that messages are read from the trees of loose values.
* `messages_read_loosely` — all kinds of messages are read from all spellings of loose values.
-/

namespace Playthrough

open Text

/-! ### Machine words -/

/-- The number of a diagnostic is a machine word. -/
def Diagnostic.Fits (d : Diagnostic) : Prop :=
  d.line < wordLimit

/-- The number of a choice is a machine word. -/
def Choice.Fits (c : Choice) : Prop :=
  c.number < wordLimit

/-- The numbers of an event are machine words. -/
def Event.Fits : Event → Prop
  | .diagnostic d => d.Fits
  | .choice c => c.Fits
  | _ => True

/-- The numbers of a reply are machine words. -/
def Reply.Fits (r : Reply) : Prop :=
  r.session < wordLimit ∧ r.event.Fits

/-- The numbers of a request are machine words. -/
def Request.Fits : Request → Prop
  | .run _ session => session < wordLimit
  | .stop session => session < wordLimit
  | .continueWith choice session => choice < wordLimit ∧ session < wordLimit

namespace Wire

/-! ### Sources -/

/-- Sources are read as the values that they stand for. -/
structure IsFaithful {ν : Type} [Source ν] (stands : ν → Value → Prop) : Prop where
  natural : ∀ {n : ν} {k : Nat}, stands n (.natural k) → k < wordLimit →
    Source.natural n = .ok k
  text : ∀ {n : ν} {s : String}, stands n (.text s) → Source.text n = .ok s
  severity : ∀ {n : ν} {name : String} {l : Severity}, stands n (.text name) →
    severity? name = some l → Source.severity n = .ok l

theorem Node.isFaithful_means : IsFaithful Node.Means where
  natural h hk := by
    cases h with
    | number =>
      change Node.natural (.leaf (.number (.ofNat _))) = _
      rw [Node.natural, Numeral.natural?_ofNat hk]
  text h := by
    cases h with
    | text joined =>
      change (Quotation.join _ none).map _ = _
      rw [joined]
      rfl
  severity {n name l} h hname := by
    have hnamed : n.named severity? = .ok l := by
      rw [h.named_eq, hname]
      rfl
    cases h with
    | text joined => exact hnamed

theorem Value.isFaithful_eq : IsFaithful (ν := Value) Eq where
  natural h hk := by
    subst h
    exact congrArg required (Numeral.natural?_ofNat hk)
  text h := by
    subst h
    rfl
  severity h hname := by
    subst h
    exact congrArg required hname

namespace Offers

variable {ν : Type} [Source ν] {stands : ν → Value → Prop} {height : Nat}
  {ns : List (String × ν)} {ms : List (String × Value)} {name : String}

theorem natural_eq (h : Offers stands height ns ms) (hfaithful : IsFaithful stands) {k : Nat}
    (hm : (name, .natural k) ∈ ms) (hk : k < wordLimit) :
    ∀ n ∈ ns, n.1 = name → Source.natural n.2 = .ok k := by
  intro n hn hname
  obtain ⟨v, hv, hloose, -⟩ := h.loose _ hm n hn hname
  exact hfaithful.natural (hloose.natural_eq ▸ hv) hk

theorem text_eq (h : Offers stands height ns ms) (hfaithful : IsFaithful stands) {s : String}
    (hm : (name, .text s) ∈ ms) (hname : name ≠ "type") :
    ∀ n ∈ ns, n.1 = name → Source.text n.2 = .ok s := by
  intro n hn heq
  obtain ⟨v, hv, hloose, -⟩ := h.loose _ hm n hn heq
  exact hfaithful.text (hloose.text_eq hname ▸ hv)

theorem severity_eq (h : Offers stands height ns ms) (hfaithful : IsFaithful stands) {l : Severity}
    (hm : (name, .text l.label) ∈ ms) :
    ∀ n ∈ ns, n.1 = name → Source.severity n.2 = .ok l := by
  intro n hn hname
  obtain ⟨v, hv, hloose, -⟩ := h.loose _ hm n hn hname
  obtain ⟨label, rfl, hlabel⟩ := hloose.exists_severity
  exact hfaithful.severity hv hlabel

end Offers

/-! ### Diagnostics and choices -/

section Records

variable {ν : Type} [Source ν] {stands : ν → Value → Prop} {height : Nat} {ns : List (String × ν)}

/-- The members of a diagnostic. -/
def diagnosticMembers (d : Diagnostic) : List (String × Value) :=
  [("type", .text d.severity.label), ("lineNumber", .natural d.line), ("message", .text d.message)]

/-- The draft of a diagnostic after some members. -/
def DiagnosticDraft.after (d : Diagnostic) (seen : List String) : DiagnosticDraft :=
  ⟨given seen "type" d.severity, given seen "lineNumber" d.line, given seen "message" d.message⟩

theorem foldlM_diagnosticFields (hfaithful : IsFaithful stands) {d : Diagnostic} (hfits : d.Fits)
    (h : Offers stands height ns (diagnosticMembers d)) :
    (ns.foldlM (addMember diagnosticFields) {}).bind DiagnosticDraft.finish = .ok d := by
  have hreflects : Reflects (ν := ν) diagnosticFields (DiagnosticDraft.after d) := by
    intro seen seen' hseen
    simp only [diagnosticFields, Field.of, List.forall_mem_cons] at hseen
    simp only [DiagnosticDraft.after, given, hseen]
  have hdraft : ns.foldlM (addMember diagnosticFields) (DiagnosticDraft.after d []) =
      .ok (DiagnosticDraft.after d ["type", "lineNumber", "message"]) := by
    refine h.foldlM_eq rfl hreflects (List.forall_mem_cons.mpr ⟨?_, List.forall_mem_cons.mpr
      ⟨?_, List.forall_mem_singleton.mpr ?_⟩⟩)
    · exact Field.fills_of (fun _ => rfl) (by simp [DiagnosticDraft.after, given])
        (h.severity_eq hfaithful (by simp [diagnosticMembers]))
    · exact Field.fills_of (fun _ => rfl) (by simp [DiagnosticDraft.after, given])
        (h.natural_eq hfaithful (by simp [diagnosticMembers]) hfits)
    · exact Field.fills_of (fun _ => rfl) (by simp [DiagnosticDraft.after, given])
        (h.text_eq hfaithful (by simp [diagnosticMembers]) (by decide))
  exact congrArg (Except.bind · DiagnosticDraft.finish) hdraft

/-- The members of a choice. -/
def choiceMembers (c : Choice) : List (String × Value) :=
  [("number", .natural c.number), ("text", .text c.text)]

/-- The draft of a choice after some members. -/
def ChoiceDraft.after (c : Choice) (seen : List String) : ChoiceDraft :=
  ⟨given seen "number" c.number, given seen "text" c.text⟩

theorem foldlM_choiceFields (hfaithful : IsFaithful stands) {c : Choice} (hfits : c.Fits)
    (h : Offers stands height ns (choiceMembers c)) :
    (ns.foldlM (addMember choiceFields) {}).bind ChoiceDraft.finish = .ok c := by
  have hreflects : Reflects (ν := ν) choiceFields (ChoiceDraft.after c) := by
    intro seen seen' hseen
    simp only [choiceFields, Field.of, List.forall_mem_cons] at hseen
    simp only [ChoiceDraft.after, given, hseen]
  have hdraft : ns.foldlM (addMember choiceFields) (ChoiceDraft.after c []) =
      .ok (ChoiceDraft.after c ["number", "text"]) := by
    refine h.foldlM_eq rfl hreflects (List.forall_mem_cons.mpr ⟨?_,
      List.forall_mem_singleton.mpr ?_⟩)
    · exact Field.fills_of (fun _ => rfl) (by simp [ChoiceDraft.after, given])
        (h.natural_eq hfaithful (by simp [choiceMembers]) hfits)
    · exact Field.fills_of (fun _ => rfl) (by simp [ChoiceDraft.after, given])
        (h.text_eq hfaithful (by simp [choiceMembers]) (by decide))
  exact congrArg (Except.bind · ChoiceDraft.finish) hdraft

end Records

section Loose

variable {field : String} {u : Value} {n : Node} {height depth : Nat}

theorem IsLoose.diagnosticOfValue_eq {d : Diagnostic} (h : IsLoose field (Codec.toValue d) u)
    (hfits : d.Fits) (hwithin : u.Within height) : diagnosticOfValue u = .ok d := by
  obtain ⟨_, us, rfl, rfl, hoffers, -⟩ := h.exists_members (by simp) hwithin
  have hmembers := foldlM_diagnosticFields Value.isFaithful_eq hfits hoffers
  rwa [← Body.readMembers_eq] at hmembers

theorem IsLoose.choiceOfValue_eq {c : Choice} (h : IsLoose field (Codec.toValue c) u)
    (hfits : c.Fits) (hwithin : u.Within height) : choiceOfValue u = .ok c := by
  obtain ⟨_, us, rfl, rfl, hoffers, -⟩ := h.exists_members (by simp) hwithin
  have hmembers := foldlM_choiceFields Value.isFaithful_eq hfits hoffers
  rwa [← Body.readMembers_eq] at hmembers

/-- The messages of a type are read from all trees that mean loose values within the limits. -/
def ReadsLoosely {α : Type} [Codec α] (field : String) (fits : α → Prop) : Prop :=
  ∀ a, fits a → ∀ {u : Value} {n : Node} {height depth : Nat}, IsLoose field (Codec.toValue a) u →
    n.Means u → u.Within height → depth + height ≤ Node.depthLimit → Codec.read depth n = .ok a

theorem severity_readsLoosely : ReadsLoosely "type" fun _ : Severity => True := by
  intro l _ u n height depth hloose hmeans _ _
  obtain ⟨name, rfl, hname⟩ := hloose.exists_severity
  exact Node.isFaithful_means.severity hmeans hname

theorem diagnostic_readsLoosely (field : String) : ReadsLoosely field Diagnostic.Fits := by
  intro d hfits u n height depth hloose hmeans hwithin hdepth
  obtain ⟨height, us, rfl, rfl, hoffers, -⟩ := hloose.exists_members (by simp) hwithin
  obtain ⟨ns, hns, hrecord⟩ := Node.exists_record hmeans hoffers
  change (n.record depth diagnosticFields {}).bind DiagnosticDraft.finish = _
  rw [hrecord depth _ _ (by omega)]
  exact foldlM_diagnosticFields Node.isFaithful_means hfits hns

theorem choice_readsLoosely (field : String) : ReadsLoosely field Choice.Fits := by
  intro c hfits u n height depth hloose hmeans hwithin hdepth
  obtain ⟨height, us, rfl, rfl, hoffers, -⟩ := hloose.exists_members (by simp) hwithin
  obtain ⟨ns, hns, hrecord⟩ := Node.exists_record hmeans hoffers
  change (n.record depth choiceFields {}).bind ChoiceDraft.finish = _
  rw [hrecord depth _ _ (by omega)]
  exact foldlM_choiceFields Node.isFaithful_means hfits hns

/-! ### Events and replies -/

/-- The draft of a record in values. -/
theorem Offers.record_eq {π : Type} {fields : List (Field Value π)} {draft : List String → π}
    {us ms : List (String × Value)} (h : Offers Eq height us ms)
    (hnames : fields.map Field.name = ms.map Prod.fst) (hreflects : Reflects fields draft)
    (hfills : ∀ f ∈ fields, f.Fills draft us) :
    (Body.members us).record fields (draft []) = .ok (draft (ms.map Prod.fst)) :=
  (Body.readMembers_eq fields _ us).trans (h.foldlM_eq hnames hreflects hfills)

/-- The only field of a record is read. -/
theorem Offers.single_eq {β : Type} {us : List (String × Value)} {name : String} {v : Value}
    {read : Value → Except Fault β} {b : β} (h : Offers Eq height us [(name, v)])
    (hread : ∀ u, IsLoose name v u → u.Within height → read u = .ok b) :
    (Body.members us).single name read = .ok b := by
  have hreflects : Reflects [Field.only name read] fun seen => given seen name b := by
    intro seen seen' hseen
    simp only [Field.only, Field.of, List.forall_mem_singleton] at hseen
    simp only [given, hseen]
  have hfills : (Field.only name read).Fills (fun seen => given seen name b) us := by
    refine Field.fills_of (fun _ => rfl) (by simp [given]) fun n hn hname => ?_
    obtain ⟨v', rfl, hloose, hwithin⟩ := h.loose _ List.mem_cons_self n hn hname
    exact hread _ hloose hwithin
  have hdraft := h.record_eq rfl hreflects (List.forall_mem_singleton.mpr hfills)
  refine (congrArg (Except.bind · required) hdraft).trans ?_
  simp [given, required, Except.bind]

/-- The shape with the name of an event reads its members. -/
theorem Offers.exists_eventShape {us : List (String × Value)} {e : Event}
    (h : Offers Eq height us (eventMembers e)) (hfits : e.Fits) :
    ∃ shape, eventShape? e.name = some shape ∧ shape (.members us) = .ok e := by
  cases e with
  | text t =>
    refine ⟨_, rfl, congrArg (Except.map Event.text) (h.single_eq fun u hloose _ => ?_)⟩
    rw [hloose.text_eq (by decide)]
    rfl
  | diagnostic d =>
    exact ⟨_, rfl, congrArg (Except.map Event.diagnostic)
      (h.single_eq fun u hloose hwithin => hloose.diagnosticOfValue_eq hfits hwithin)⟩
  | choice c =>
    exact ⟨_, rfl, congrArg (Except.map Event.choice)
      (h.single_eq fun u hloose hwithin => hloose.choiceOfValue_eq hfits hwithin)⟩
  | _ => exact ⟨_, rfl, rfl⟩

theorem event_readsLoosely (field : String) : ReadsLoosely field Event.Fits := by
  intro e hfits u n height depth hloose hmeans hwithin hdepth
  have hkind : "kind" ∉ (eventMembers e).map Prod.fst := by cases e <;> simp [eventMembers]
  have hnames : ((("kind", Value.text e.name) :: eventMembers e).map Prod.fst).Nodup := by
    refine List.nodup_cons.mpr ⟨hkind, ?_⟩
    cases e <;> simp [eventMembers]
  obtain ⟨height, us, rfl, rfl, hoffers, hus⟩ := hloose.exists_members hnames hwithin
  obtain ⟨rest, hrest, htagged⟩ := Node.exists_tagged hmeans hoffers hus (by decide) hkind
  obtain ⟨shape, hshape, hread⟩ := hrest.exists_eventShape hfits
  exact (htagged eventShape? shape depth hshape (by omega)).trans hread

/-- The draft of a reply after some members. -/
def ReplyDraft.after (r : Reply) (seen : List String) : ReplyDraft :=
  ⟨given seen "sessionId" r.session, given seen "event" r.event⟩

theorem reply_readsLoosely (field : String) : ReadsLoosely field Reply.Fits := by
  intro r hfits u n height depth hloose hmeans hwithin hdepth
  obtain ⟨height, us, rfl, rfl, hoffers, -⟩ := hloose.exists_members (by simp) hwithin
  obtain ⟨ns, hns, hrecord⟩ := Node.exists_record hmeans hoffers
  have hreflects : Reflects (replyFields depth) (ReplyDraft.after r) := by
    intro seen seen' hseen
    simp only [replyFields, Field.of, List.forall_mem_cons] at hseen
    simp only [ReplyDraft.after, given, hseen]
  have hevent : ∀ n ∈ ns, n.1 = "event" → Codec.read (depth + 1) n.2 = .ok r.event := by
    intro n hn hname
    obtain ⟨v, hv, hloose, hwithin⟩ :=
      hns.loose ("event", Codec.toValue r.event) (by simp) n hn hname
    exact event_readsLoosely _ r.event hfits.2 hloose hv hwithin (by omega)
  have hdraft : ns.foldlM (addMember (replyFields depth)) (ReplyDraft.after r []) =
      .ok (ReplyDraft.after r ["sessionId", "event"]) := by
    refine hns.foldlM_eq rfl hreflects (List.forall_mem_cons.mpr ⟨?_,
      List.forall_mem_singleton.mpr ?_⟩)
    · exact Field.fills_of (fun _ => rfl) (by simp [ReplyDraft.after, given])
        (hns.natural_eq Node.isFaithful_means (by simp) hfits.1)
    · exact Field.fills_of (fun _ => rfl) (by simp [ReplyDraft.after, given]) hevent
  change (n.record depth (replyFields depth) {}).bind ReplyDraft.finish = _
  rw [hrecord depth _ _ (by omega)]
  exact congrArg (Except.bind · ReplyDraft.finish) hdraft

/-! ### Requests -/

/-- The members of a request behind its name. -/
def requestMembers : Request → List (String × Value)
  | .run content session => [("content", .text content), ("sessionId", .natural session)]
  | .stop session => [("sessionId", .natural session)]
  | .continueWith choice session =>
    [("choiceNumber", .natural choice), ("sessionId", .natural session)]

/-- The draft of a request after some members. -/
def RequestDraft.after : Request → List String → RequestDraft
  | .run content session, seen =>
    ⟨given seen "content" content, none, given seen "sessionId" session⟩
  | .stop session, seen => ⟨none, none, given seen "sessionId" session⟩
  | .continueWith choice session, seen =>
    ⟨none, given seen "choiceNumber" choice, given seen "sessionId" session⟩

/-- The name of a request. -/
def requestName : Request → String
  | .run _ _ => "run"
  | .stop _ => "stop"
  | .continueWith _ _ => "continueWithChoice"

theorem toValue_request (r : Request) :
    Codec.toValue r = .object (("message", .text (requestName r)) :: requestMembers r) := by
  cases r <;> rfl

theorem reflects_request {r : Request} {fields : List (Field Value RequestDraft)}
    (h : fields.map Field.name = (requestMembers r).map Prod.fst) :
    Reflects fields (RequestDraft.after r) := by
  intro seen seen' hseen
  have hnames : ∀ name ∈ (requestMembers r).map Prod.fst, name ∈ seen ↔ name ∈ seen' := by
    rw [← h]
    exact List.forall_mem_map.mpr hseen
  cases r <;> simp_all [RequestDraft.after, given, requestMembers]

open RequestDraft in
/-- The shape with the name of a request reads its members. -/
theorem Offers.exists_requestShape {us : List (String × Value)} {r : Request}
    (h : Offers Eq height us (requestMembers r)) (hfits : r.Fits) :
    ∃ shape, requestShape? (requestName r) = some shape ∧ shape (.members us) = .ok r := by
  have hfaithful := Value.isFaithful_eq
  cases r with
  | run content session =>
    have hdraft : (Body.members us).record [contentField, sessionField] {} =
        .ok (RequestDraft.after (.run content session) ["content", "sessionId"]) := by
      refine h.record_eq rfl (reflects_request (r := .run content session) rfl)
        (List.forall_mem_cons.mpr ⟨?_, List.forall_mem_singleton.mpr ?_⟩)
      · exact Field.fills_of (fun _ => rfl) (by simp [RequestDraft.after, given])
          (h.text_eq hfaithful (by simp [requestMembers]) (by decide))
      · exact Field.fills_of (fun _ => rfl) (by simp [RequestDraft.after, given])
          (h.natural_eq hfaithful (by simp [requestMembers]) hfits)
    exact ⟨_, rfl, congrArg (Except.bind · _) hdraft⟩
  | stop session =>
    have hdraft : (Body.members us).record [sessionField] {} =
        .ok (RequestDraft.after (.stop session) ["sessionId"]) := by
      refine h.record_eq rfl (reflects_request (r := .stop session) rfl)
        (List.forall_mem_singleton.mpr ?_)
      exact Field.fills_of (fun _ => rfl) (by simp [RequestDraft.after, given])
        (h.natural_eq hfaithful (by simp [requestMembers]) hfits)
    exact ⟨_, rfl, congrArg (Except.bind · _) hdraft⟩
  | continueWith choice session =>
    have hdraft : (Body.members us).record [choiceField, sessionField] {} =
        .ok (RequestDraft.after (.continueWith choice session) ["choiceNumber", "sessionId"]) := by
      refine h.record_eq rfl (reflects_request (r := .continueWith choice session) rfl)
        (List.forall_mem_cons.mpr ⟨?_, List.forall_mem_singleton.mpr ?_⟩)
      · exact Field.fills_of (fun _ => rfl) (by simp [RequestDraft.after, given])
          (h.natural_eq hfaithful (by simp [requestMembers]) hfits.1)
      · exact Field.fills_of (fun _ => rfl) (by simp [RequestDraft.after, given])
          (h.natural_eq hfaithful (by simp [requestMembers]) hfits.2)
    exact ⟨_, rfl, congrArg (Except.bind · _) hdraft⟩

theorem request_readsLoosely (field : String) : ReadsLoosely field Request.Fits := by
  intro r hfits u n height depth hloose hmeans hwithin hdepth
  have hmessage : "message" ∉ (requestMembers r).map Prod.fst := by
    cases r <;> simp [requestMembers]
  have hnames : ((("message", Value.text (requestName r)) :: requestMembers r).map
      Prod.fst).Nodup := by
    refine List.nodup_cons.mpr ⟨hmessage, ?_⟩
    cases r <;> simp [requestMembers]
  rw [toValue_request] at hloose
  obtain ⟨height, us, rfl, rfl, hoffers, hus⟩ := hloose.exists_members hnames hwithin
  obtain ⟨rest, hrest, htagged⟩ := Node.exists_tagged hmeans hoffers hus (by decide) hmessage
  obtain ⟨shape, hshape, hread⟩ := hrest.exists_requestShape hfits
  exact (htagged requestShape? shape depth hshape (by omega)).trans hread

/-! ### Lines -/

/-- The messages of a type are read from all spellings of all loose values within the limits, with
any white space behind them. -/
def Tolerates {α : Type} [Codec α] (field : String) (fits : α → Prop) : Prop :=
  ∀ a, fits a → ∀ {u : Value} {ts tail : List Char}, IsLoose field (Codec.toValue a) u →
    u.Within Node.depthLimit → SpellsValue u ts → (∀ c ∈ tail, isBlank c = true) →
      ofLine (String.ofList (ts ++ tail)) = .ok a

theorem ReadsLoosely.tolerates {α : Type} [Codec α] {fits : α → Prop}
    (h : ReadsLoosely field fits) : Tolerates field fits := by
  intro a hfits u ts tail hloose hwithin hspells htail
  obtain ⟨n, hmeans, htree⟩ := hspells.exists_tree htail
  have hread : Codec.read 0 n = .ok a :=
    h a hfits hloose hmeans hwithin (Nat.zero_add _).le
  rw [ofLine, readChars, String.toList_ofList, htree, readTree, hread]
  rfl

end Loose

end Wire

open Wire in
/-- **Messages are read whatever the order of their fields.** For all kinds of messages whose
numbers are machine words, a message is read from every line that is made from the one it is written
as by putting the members of each object in any order, the tag among them, adding members with names
that the object does not have, and writing `RUNTIME_ERROR` for the severity of a runtime error, in
any spelling of the result and with any white space at the end, as long as numbers and nesting keep
within the limits. -/
theorem messages_read_loosely :
    (∀ field, Tolerates field Request.Fits ∧ Tolerates field Reply.Fits ∧
      Tolerates field Event.Fits ∧ Tolerates field Diagnostic.Fits ∧
      Tolerates field Choice.Fits) ∧
    Tolerates "type" fun _ : Severity => True :=
  ⟨fun field => ⟨(request_readsLoosely field).tolerates, (reply_readsLoosely field).tolerates,
    (event_readsLoosely field).tolerates, (diagnostic_readsLoosely field).tolerates,
    (choice_readsLoosely field).tolerates⟩, severity_readsLoosely.tolerates⟩

open Wire in
/-- The tag of the event comes last, the diagnostic has a further field, and the severity has an
underscore; there is white space in front, and white space behind that only texts have. -/
theorem reordered_reply_is_read :
    let r : Reply := ⟨4, .diagnostic ⟨.runtimeError, 12, "boom"⟩⟩
    let diagnostic : List (String × Value) :=
      [("message", .text "boom"), ("note", .text ""), ("type", .text "RUNTIME_ERROR"),
       ("lineNumber", .natural 12)]
    let event : List (String × Value) :=
      [("diagnostic", .object diagnostic), ("kind", .text "diagnosticProduced")]
    let u : Value := .object [("event", .object event), ("sessionId", .natural 4)]
    r.Fits ∧ IsLoose "" (Codec.toValue r) u ∧ u.Within Node.depthLimit ∧
      SpellsValue u (['\n', ' '] ++ (u.render ++ ['\t'])) ∧
      ofLine (String.ofList (['\n', ' '] ++ (u.render ++ ['\t']) ++ ['\u3000'])) = .ok r := by
  intro r diagnostic event u
  have hfits : r.Fits := ⟨by decide, show 12 < wordLimit by decide⟩
  have hdiagnostic : IsLoose "diagnostic" (Codec.toValue (⟨.runtimeError, 12, "boom"⟩ : Diagnostic))
      (.object diagnostic) :=
    @IsLoose.object "diagnostic"
      [("type", (.text "RUNTIME ERROR", .text "RUNTIME_ERROR")),
       ("lineNumber", (.natural 12, .natural 12)), ("message", (.text "boom", .text "boom"))]
      [("note", .text "")] diagnostic
      (List.forall_mem_cons.mpr ⟨.underscore, List.forall_mem_cons.mpr
        ⟨.number _ _, List.forall_mem_singleton.mpr (.text _ _)⟩⟩)
      (by simp)
      (@List.perm_append_comm _ [("message", Value.text "boom"), ("note", Value.text "")] _)
  have hevent : IsLoose "event" (Codec.toValue r.event) (.object event) :=
    @IsLoose.object "event"
      [("kind", (.text "diagnosticProduced", .text "diagnosticProduced")),
       ("diagnostic",
         (Codec.toValue (⟨.runtimeError, 12, "boom"⟩ : Diagnostic), .object diagnostic))]
      [] event
      (List.forall_mem_cons.mpr ⟨.text _ _, List.forall_mem_singleton.mpr hdiagnostic⟩)
      (by simp) (.swap _ _ _)
  have hreply : IsLoose "" (Codec.toValue r) u :=
    @IsLoose.object ""
      [("sessionId", (.natural 4, .natural 4)), ("event", (Codec.toValue r.event, .object event))]
      [] [("event", .object event), ("sessionId", .natural 4)]
      (List.forall_mem_cons.mpr ⟨.number _ _, List.forall_mem_singleton.mpr hevent⟩)
      (by simp) (.swap _ _ _)
  have hplain : u.IsPlain 3 := by
    have hdiagnostic : Value.IsPlain 1 (.object diagnostic) :=
      .object <| List.forall_mem_cons.mpr ⟨.text _ _, List.forall_mem_cons.mpr ⟨.text _ _,
        List.forall_mem_cons.mpr ⟨.text _ _, List.forall_mem_singleton.mpr
          (.natural _ (by decide))⟩⟩⟩
    have hevent : Value.IsPlain 2 (.object event) :=
      .object <| List.forall_mem_cons.mpr ⟨hdiagnostic, List.forall_mem_singleton.mpr (.text _ _)⟩
    exact .object <| List.forall_mem_cons.mpr ⟨hevent, List.forall_mem_singleton.mpr
      (.natural _ (by decide))⟩
  have hwithin : u.Within Node.depthLimit := hplain.within (by decide)
  have hspells : SpellsValue u (['\n', ' '] ++ (u.render ++ ['\t'])) :=
    .spaced (by simp [IsGapText]; decide) (by simp [IsGapText]; decide) hplain.spellsValue_render
  exact ⟨hfits, hreply, hwithin, hspells, (messages_read_loosely.1 "").2.1 r hfits hreply hwithin
    hspells (by simp; decide)⟩

end Playthrough
