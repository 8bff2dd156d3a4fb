import Mathlib.Data.List.Chain
import Mathlib.Tactic
import ProgramOutline.Watch

/-!
# A watcher and the session that it drives

A watcher leaves out texts that it has just passed on. `InStep` is the invariant that makes this
harmless: a session that gets only what is passed on and one that gets every event show the same
document, and a text that the watcher remembers is the one that both show.

Results:
* `InStep.step`, `InStep.run`: one input and a whole run keep the sessions in step.
* `events_noRepeat`: no text is passed on twice in a row.
* `filter_isClosed_events`: no close is left out.
* `events_coherent`: all of this together, for every run.
-/

namespace ProgramOutline.Watch

/-! ## Events before the filter -/

/-- The event that a notice and a look at the file lead to, before it is compared with the text
    passed on last. -/
def hostEvent? (target : String) (input : Option Notice × Sight) : Option Event :=
  (input.1.bind (fun n => classify n target)).bind (fun change => event? change input.2)

/-- All events of a run. -/
def hostEvents (target : String) (inputs : List (Option Notice × Sight)) : List Event :=
  inputs.filterMap (hostEvent? target)

/-- The paths in a notice that name the target are spelled as the target. -/
def Spelled (target : String) (input : Option Notice × Sight) : Prop :=
  ∀ notice ∈ input.1, ∀ path ∈ notice.paths, Files.samePath path target = true → path = target

instance (target : String) (input : Option Notice × Sight) : Decidable (Spelled target input) :=
  inferInstanceAs (Decidable (∀ notice ∈ input.1, ∀ path ∈ notice.paths,
    Files.samePath path target = true → path = target))

/-- The document that is left to show after a look at the file. -/
def Sight.document (target : String) : Sight → Option Document
  | content bytes => some ⟨Files.documentUri target, Text.decodeSource bytes⟩
  | _ => none

theorem classify_of_spelled {target : String} {notice : Notice} {sight : Sight} {change : Change}
    (h : Spelled target (some notice, sight)) (hc : classify notice target = some change) :
    change.path = target := by
  unfold classify at hc
  split at hc
  · cases hc
  · obtain ⟨path, hpath, rfl⟩ := Option.map_eq_some_iff.mp hc
    have hsame : Files.samePath path target = true := by
      simpa using List.find?_some hpath
    exact h notice rfl path (List.mem_of_find?_eq_some hpath) hsame

/-- An input leads to nothing, to the text that is seen, or to the end of the document. -/
theorem hostEvent?_cases {target : String} {input : Option Notice × Sight}
    (h : Spelled target input) :
    hostEvent? target input = none ∨
      (∃ bytes, input.2 = .content bytes ∧ hostEvent? target input =
        some (.textChanged ⟨Files.documentUri target, Text.decodeSource bytes⟩)) ∨
      (input.2 = .absent ∧
        hostEvent? target input = some (.closed (Files.documentUri target))) := by
  obtain ⟨notice, sight⟩ := input
  cases notice with
  | none => exact Or.inl rfl
  | some notice =>
    rcases hc : classify notice target with - | ⟨path, kind⟩
    · left
      rw [hostEvent?, Option.bind_some, hc, Option.bind_none]
    · obtain rfl : path = target := classify_of_spelled h hc
      rw [hostEvent?, Option.bind_some, hc, Option.bind_some]
      cases sight with
      | content bytes => exact Or.inr (Or.inl ⟨bytes, rfl, by cases kind <;> rfl⟩)
      | unreadable => exact Or.inl (by cases kind <;> rfl)
      | absent =>
        cases kind with
        | deleted => exact Or.inr (Or.inr ⟨rfl, rfl⟩)
        | created => exact Or.inl rfl
        | modified => exact Or.inl rfl

/-! ## Sessions -/

/-- The session after several events. -/
def feed (session : Session) (events : List Event) : Session := events.foldl Session.handle session

theorem feed_append (session : Session) (a b : List Event) :
    feed session (a ++ b) = feed (feed session a) b := List.foldl_append

/-- The active document, if there is one, is the target. -/
def Own (target : String) (active : Option Document) : Prop :=
  ∀ document ∈ active, document.uri = Files.documentUri target

theorem own_document (target : String) (sight : Sight) : Own target (sight.document target) := by
  intro document hdocument
  cases sight with
  | content bytes =>
    cases hdocument
    rfl
  | absent => cases hdocument
  | unreadable => cases hdocument

/-- If no other document is active, an event leaves what was seen. -/
theorem active_handle {target : String} {input : Option Notice × Sight} (h : Spelled target input)
    {event : Event} (he : hostEvent? target input = some event) {session : Session}
    (hown : Own target session.active) :
    (session.handle event).active = input.2.document target := by
  show Session.activeAfter session.active event = input.2.document target
  rcases hostEvent?_cases h with hnone | ⟨bytes, hsight, hsome⟩ | ⟨hsight, hsome⟩
  · rw [hnone] at he
    cases he
  · obtain rfl := Option.some.inj (hsome.symm.trans he)
    have hconcerns : Session.concerns session.active (Files.documentUri target) = true := by
      cases hactive : session.active with
      | none => rfl
      | some document =>
        have huri := hown document hactive
        simp [Session.concerns, huri]
    rw [hsight, Session.activeAfter, if_pos hconcerns]
    rfl
  · obtain rfl := Option.some.inj (hsome.symm.trans he)
    rw [hsight, Session.activeAfter]
    cases hactive : session.active with
    | none => rfl
    | some document =>
      have huri := hown document hactive
      simp [huri, Sight.document]

theorem functions_handle (session : Session) (event : Event) :
    (session.handle event).functions =
      session.extractor.runOptional ((session.handle event).active.map Document.text) := rfl

theorem extractor_handle (session : Session) (event : Event) :
    (session.handle event).extractor = session.extractor := rfl

/-! ## The sessions stay in step -/

/-- `passed` got the events that were passed on and `all` got every event. They show the same, and
    the text that the watcher remembers is what they show. -/
structure InStep (target : String) (last : Option (List Char)) (passed all : Session) : Prop where
  extractor : passed.extractor = all.extractor
  active : passed.active = all.active
  functions : passed.functions = all.functions
  own : Own target all.active
  remembered : ∀ text, last = some text →
    all.active = some ⟨Files.documentUri target, text⟩ ∧
      all.functions = all.extractor.runOptional (some text)

theorem inStep_start {target : String} {session : Session} (h : Own target session.active) :
    InStep target none session session :=
  ⟨rfl, rfl, rfl, h, fun _ hnone => by cases hnone⟩

/-- Both sessions get the event, and the watcher remembers its text. -/
theorem InStep.both {target : String} {last : Option (List Char)} {passed all : Session}
    (h : InStep target last passed all) {input : Option Notice × Sight}
    (hs : Spelled target input) {event : Event} (he : hostEvent? target input = some event)
    {remember : Option (List Char)}
    (hremember : ∀ text, remember = some text →
      input.2.document target = some ⟨Files.documentUri target, text⟩) :
    InStep target remember (passed.handle event) (all.handle event) := by
  have hall := active_handle hs he h.own
  have hpassed := active_handle hs he (h.active ▸ h.own)
  refine ⟨h.extractor, hpassed.trans hall.symm, ?_, ?_, ?_⟩
  · rw [functions_handle, functions_handle, hpassed, hall, h.extractor]
  · rw [hall]
    exact own_document target input.2
  · intro text htext
    have hdocument := hremember text htext
    refine ⟨hall.trans hdocument, ?_⟩
    rw [functions_handle, hall, hdocument, extractor_handle]
    rfl

/-- The event repeats the remembered text and is left out: the other session shows it already. -/
theorem InStep.skip {target : String} {passed all : Session} {text : List Char}
    (h : InStep target (some text) passed all) {input : Option Notice × Sight}
    (hs : Spelled target input) {event : Event} (he : hostEvent? target input = some event)
    (hdocument : input.2.document target = some ⟨Files.documentUri target, text⟩) :
    InStep target (some text) passed (all.handle event) := by
  obtain ⟨hactive, hfunctions⟩ := h.remembered text rfl
  have hall : (all.handle event).active = all.active := by
    rw [active_handle hs he h.own, hdocument, hactive]
  have hsame : (all.handle event).functions = all.functions := by
    rw [functions_handle, hall, hactive, hfunctions]
    rfl
  refine ⟨h.extractor, h.active.trans hall.symm, h.functions.trans hsame.symm, ?_, ?_⟩
  · rw [hall]
    exact h.own
  · intro text' htext
    rw [hall, hsame, extractor_handle]
    exact h.remembered text' htext

theorem step_eq (target : String) (last : Option (List Char)) (input : Option Notice × Sight) :
    step target last input.1 input.2 =
      (hostEvent? target input).elim (last, none) (forward last) := by
  unfold step
  rw [← hostEvent?]
  cases hostEvent? target input <;> rfl

/-- One input keeps the sessions in step. -/
theorem InStep.step {target : String} {last : Option (List Char)} {passed all : Session}
    (h : InStep target last passed all) {input : Option Notice × Sight}
    (hs : Spelled target input) :
    InStep target (step target last input.1 input.2).1
      (feed passed (step target last input.1 input.2).2.toList)
      (feed all (hostEvent? target input).toList) := by
  rw [step_eq]
  rcases hostEvent?_cases hs with hnone | ⟨bytes, hsight, hsome⟩ | ⟨-, hsome⟩
  · rw [hnone]
    exact h
  · have hdocument : input.2.document target =
        some ⟨Files.documentUri target, Text.decodeSource bytes⟩ := by
      rw [hsight]
      rfl
    rw [hsome]
    simp only [Option.elim_some, forward]
    by_cases hlast : last = some (Text.decodeSource bytes)
    · rw [if_pos hlast]
      subst hlast
      exact h.skip hs hsome hdocument
    · rw [if_neg hlast]
      refine h.both hs hsome ?_
      intro text htext
      cases htext
      exact hdocument
  · rw [hsome]
    exact h.both hs hsome (fun _ hnone => by cases hnone)

theorem events_cons (target : String) (last : Option (List Char)) (input : Option Notice × Sight)
    (rest : List (Option Notice × Sight)) :
    events target last (input :: rest) =
      (step target last input.1 input.2).2.toList ++
        events target (step target last input.1 input.2).1 rest := rfl

theorem hostEvents_cons (target : String) (input : Option Notice × Sight)
    (rest : List (Option Notice × Sight)) :
    hostEvents target (input :: rest) =
      (hostEvent? target input).toList ++ hostEvents target rest := by
  rw [hostEvents, List.filterMap_cons]
  cases hostEvent? target input <;> rfl

/-- A run keeps the sessions in step. -/
theorem InStep.run {target : String} {last : Option (List Char)} {passed all : Session}
    (h : InStep target last passed all) {inputs : List (Option Notice × Sight)}
    (hs : ∀ input ∈ inputs, Spelled target input) :
    ∃ last', InStep target last' (feed passed (events target last inputs))
      (feed all (hostEvents target inputs)) := by
  induction inputs generalizing last passed all with
  | nil => exact ⟨last, h⟩
  | cons input rest ih =>
    have hstep := h.step (hs input (by simp))
    obtain ⟨last', hrest⟩ := ih hstep (fun input hinput => hs input (by simp [hinput]))
    refine ⟨last', ?_⟩
    rw [events_cons, hostEvents_cons, feed_append, feed_append]
    exact hrest

/-! ## What is passed on -/

/-- The text that an event carries. -/
def eventText? : Event → Option (List Char)
  | .textChanged document => some document.text
  | _ => none

/-- The second event does not bring the text of the first one again. -/
def Differs (a b : Event) : Prop := ∀ text, eventText? a = some text → eventText? b ≠ some text

/-- Is the event the end of a document? -/
def isClosed : Event → Bool
  | .closed _ => true
  | _ => false

/-- An event is left out if it has the remembered text; else it is passed on and its text, if any,
    is remembered. -/
theorem forward_cases (last : Option (List Char)) (event : Event) :
    (forward last event = (last, none) ∧ isClosed event = false) ∨
      (forward last event = (eventText? event, some event) ∧
        ∀ text, last = some text → eventText? event ≠ some text) := by
  cases event with
  | textChanged document =>
    by_cases hlast : last = some document.text
    · exact Or.inl ⟨by simp [forward, hlast], rfl⟩
    · refine Or.inr ⟨by simp [forward, hlast, eventText?], ?_⟩
      rintro text rfl htext
      exact hlast htext.symm
  | activeChanged document => exact Or.inr ⟨rfl, fun text _ htext => by cases htext⟩
  | closed uri => exact Or.inr ⟨rfl, fun text _ htext => by cases htext⟩

/-- The three ways a run goes on: no event, an event that is left out, an event that is passed
    on. -/
theorem events_cons_cases (target : String) (last : Option (List Char))
    (input : Option Notice × Sight) (rest : List (Option Notice × Sight)) :
    (hostEvent? target input = none ∧
        events target last (input :: rest) = events target last rest) ∨
      (∃ event, hostEvent? target input = some event ∧ isClosed event = false ∧
        events target last (input :: rest) = events target last rest) ∨
      (∃ event, hostEvent? target input = some event ∧
        (∀ text, last = some text → eventText? event ≠ some text) ∧
        events target last (input :: rest) =
          event :: events target (eventText? event) rest) := by
  rw [events_cons, step_eq]
  rcases hostEvent? target input with - | event
  · exact Or.inl ⟨rfl, rfl⟩
  · rcases forward_cases last event with ⟨hforward, hclosed⟩ | ⟨hforward, hnew⟩
    · refine Or.inr (Or.inl ⟨event, rfl, hclosed, ?_⟩)
      rw [Option.elim_some, hforward]
      rfl
    · refine Or.inr (Or.inr ⟨event, rfl, hnew, ?_⟩)
      rw [Option.elim_some, hforward]
      rfl

/-- No text is passed on twice in a row, nor the remembered one first. -/
theorem events_noRepeat (target : String) (last : Option (List Char))
    (inputs : List (Option Notice × Sight)) :
    (∀ event ∈ (events target last inputs).head?,
        ∀ text, last = some text → eventText? event ≠ some text) ∧
      (events target last inputs).IsChain Differs := by
  induction inputs generalizing last with
  | nil =>
    constructor
    · intro event hnone
      cases hnone
    · exact .nil
  | cons input rest ih =>
    rcases events_cons_cases target last input rest with
      ⟨-, heq⟩ | ⟨event, -, -, heq⟩ | ⟨event, -, hnew, heq⟩
    · rw [heq]
      exact ih last
    · rw [heq]
      exact ih last
    · obtain ⟨hhead, hchain⟩ := ih (eventText? event)
      rw [heq]
      constructor
      · rintro _ ⟨⟩
        exact hnew
      · exact List.isChain_cons.mpr ⟨hhead, hchain⟩

/-- Every close is passed on, in its place among the closes. -/
theorem filter_isClosed_events (target : String) (last : Option (List Char))
    (inputs : List (Option Notice × Sight)) :
    (events target last inputs).filter isClosed = (hostEvents target inputs).filter isClosed := by
  induction inputs generalizing last with
  | nil => rfl
  | cons input rest ih =>
    rw [hostEvents_cons]
    rcases events_cons_cases target last input rest with
      ⟨hnone, heq⟩ | ⟨event, hsome, hclosed, heq⟩ | ⟨event, hsome, -, heq⟩
    · rw [heq, hnone]
      exact ih last
    · rw [heq, hsome, ih last]
      simp [hclosed]
    · rw [heq, hsome, List.filter_cons, ih (eventText? event)]
      simp [List.filter_cons]

/-! ## Runs -/

/-- What holds of a run of a watcher on `target` that drives `session`. -/
structure Coherent (target : String) (session : Session) (inputs : List (Option Notice × Sight)) :
    Prop where
  /-- After every part of the run, leaving out repeated texts makes no difference. -/
  same : ∀ n,
    (feed session (events target none (inputs.take n))).active =
        (feed session (hostEvents target (inputs.take n))).active ∧
      (feed session (events target none (inputs.take n))).functions =
        (feed session (hostEvents target (inputs.take n))).functions
  /-- The last input that leads to an event decides what is shown. -/
  final : ∀ before input after, inputs = before ++ input :: after →
    (hostEvent? target input).isSome → hostEvents target after = [] →
    (feed session (events target none inputs)).active = input.2.document target
  /-- No text is passed on twice in a row. -/
  noRepeat : (events target none inputs).IsChain Differs
  /-- Every close is passed on. -/
  closes : (events target none inputs).filter isClosed = (hostEvents target inputs).filter isClosed

theorem hostEvents_append (target : String) (a b : List (Option Notice × Sight)) :
    hostEvents target (a ++ b) = hostEvents target a ++ hostEvents target b :=
  List.filterMap_append

/-- A watcher and its session are coherent in every run, if the session starts without a document or
    with the target. -/
theorem events_coherent {target : String} {session : Session} (hown : Own target session.active)
    {inputs : List (Option Notice × Sight)} (hs : ∀ input ∈ inputs, Spelled target input) :
    Coherent target session inputs where
  same n := by
    obtain ⟨last, h⟩ := (inStep_start hown).run
      (fun input hinput => hs input (List.mem_of_mem_take hinput))
    exact ⟨h.active, h.functions⟩
  final := by
    rintro before input after rfl hevent hafter
    obtain ⟨event, hevent⟩ := Option.isSome_iff_exists.mp hevent
    obtain ⟨_, hall⟩ := (inStep_start hown).run hs
    obtain ⟨_, hbefore⟩ := (inStep_start hown).run
      (fun input hinput => hs input (List.mem_append_left _ hinput))
    have hhost : hostEvents target (before ++ input :: after) =
        hostEvents target before ++ [event] := by
      rw [hostEvents_append, hostEvents_cons, hafter, hevent]
      rfl
    rw [hall.active, hhost, feed_append]
    exact active_handle (hs input (by simp)) hevent hbefore.own
  noRepeat := (events_noRepeat target none inputs).2
  closes := filter_isClosed_events target none inputs

/-- A save that is reported twice, an error of the file system, and a deletion. -/
def saveAndDelete : List (Option Notice × Sight) :=
  [(some ⟨some .modified, ["/b.prw", "/a.prw"]⟩, .content [65]),
    (some ⟨some .modified, ["/a.prw"]⟩, .content [65]), (none, .unreadable),
    (some ⟨some .deleted, ["/a.prw"]⟩, .absent)]

theorem events_coherent_save :
    Own "/a.prw" (Session.start {}).active ∧
      (∀ input ∈ saveAndDelete, Spelled "/a.prw" input) ∧
      Coherent "/a.prw" (Session.start {}) saveAndDelete := by
  have hown : Own "/a.prw" (Session.start {}).active := by
    intro document hdocument
    cases hdocument
  have hspelled : ∀ input ∈ saveAndDelete, Spelled "/a.prw" input := by decide
  exact ⟨hown, hspelled, events_coherent hown hspelled⟩

end ProgramOutline.Watch
