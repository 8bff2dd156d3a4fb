import ProgramOutline.Command.Run
import ProgramOutline.Proofs.WatchCoherence

/-!
# The name of a watched document

A notice is matched with the watched document by the components of its path, but the document in
the event that follows is named by the path as the notice spells it. A session knows its document
by name, so it takes part in the event exactly if both spell the path alike.

Results:
* `classify_eq_some_iff`: the change is that of the first path that names the target.
* `event?_eq_some_iff`: the event of a change, named by the spelling of its path.
* `Showing.active_textChanged`, `Showing.active_closed`: what a session on the target does with it.
* `identity_of_spelling`: watcher and session agree exactly on the spelling of the target.
-/

namespace ProgramOutline

/-- The name of the document that an event is about. -/
def Event.uri? : Event → Option String
  | .textChanged document => some document.uri
  | .activeChanged document => document.map Document.uri
  | .closed uri => some uri

theorem Files.documentUri_inj {a b : String} :
    Files.documentUri a = Files.documentUri b ↔ a = b := by
  simp [Files.documentUri]

namespace Watch

variable {notice : Notice} {target path : String} {change : Change} {sight : Sight} {event : Event}

/-! ## Changes and events -/

theorem classify_eq_some_iff :
    classify notice target = some change ↔
      notice.kind = some change.kind ∧
        notice.paths.find? (fun path => Files.samePath path target) = some change.path := by
  unfold classify
  cases hkind : notice.kind with
  | none => simp
  | some kind =>
    obtain ⟨path, kind'⟩ := change
    simp [Option.map_eq_some_iff, and_comm]

/-- A change leads to the text that is seen, or to the end of the document if it is gone. -/
theorem event?_eq_some_iff :
    event? change sight = some event ↔
      (∃ bytes, sight = .content bytes ∧
        event = .textChanged ⟨Files.documentUri change.path, Text.decodeSource bytes⟩) ∨
      (change.kind = .deleted ∧ sight = .absent ∧
        event = .closed (Files.documentUri change.path)) := by
  obtain ⟨path, kind⟩ := change
  cases sight with
  | absent => cases kind <;> simp [event?, eq_comm]
  | unreadable => cases kind <;> simp [event?]
  | content bytes => cases kind <;> simp [event?, eq_comm]

/-- The event has the name of the path as the notice spells it. -/
theorem uri?_of_event? (h : event? change sight = some event) :
    event.uri? = some (Files.documentUri change.path) := by
  rcases event?_eq_some_iff.mp h with ⟨bytes, -, rfl⟩ | ⟨-, -, rfl⟩
  · rfl
  · rfl

/-! ## A session on the target -/

/-- The active document of the session is the target, with some text. -/
def Showing (target : String) (session : Session) : Prop :=
  ∃ text, session.active = some ⟨Files.documentUri target, text⟩

/-- An opened session shows the document that was read, under the spelling it was opened with. -/
theorem showing_openSession {config : Config} {files : Files.Tree} {session : Session}
    (h : Command.openSession config files target = .ok session) : Showing target session := by
  rw [Command.openSession, Files.Tree.readDocument] at h
  cases hread : files.read? target with
  | none =>
    rw [hread] at h
    cases h
  | some bytes =>
    rw [hread] at h
    cases h
    exact ⟨Text.decodeSource bytes, rfl⟩

theorem active_handle_eq (session : Session) (event : Event) :
    (session.handle event).active = Session.activeAfter session.active event := rfl

/-- A new text is taken over if it comes under the spelling of the target; else nothing changes. -/
theorem Showing.active_textChanged {session : Session} (h : Showing target session)
    (path : String) (text : List Char) :
    (session.handle (.textChanged ⟨Files.documentUri path, text⟩)).active =
      if path = target then some ⟨Files.documentUri path, text⟩ else session.active := by
  obtain ⟨shown, hshown⟩ := h
  by_cases hpath : path = target
  · simp [active_handle_eq, Session.activeAfter, Session.concerns, hshown, hpath]
  · have hne : Files.documentUri target ≠ Files.documentUri path :=
      fun heq => hpath (Files.documentUri_inj.mp heq).symm
    simp [active_handle_eq, Session.activeAfter, Session.concerns, hshown, hpath, hne]

/-- The end of a document empties the session if it comes under the spelling of the target. -/
theorem Showing.active_closed {session : Session} (h : Showing target session) (path : String) :
    (session.handle (.closed (Files.documentUri path))).active =
      if path = target then none else session.active := by
  obtain ⟨shown, hshown⟩ := h
  by_cases hpath : path = target
  · simp [active_handle_eq, Session.activeAfter, hshown, hpath]
  · have hne : Files.documentUri target ≠ Files.documentUri path :=
      fun heq => hpath (Files.documentUri_inj.mp heq).symm
    simp [active_handle_eq, Session.activeAfter, hshown, hpath, hne]

/-- **Watcher and session agree on the spelling of the document.** A change comes from a path of
    the notice that names the target, and its event has the name of that path as the notice spells
    it. So it has the name that the target has in a session exactly if the notice spells it as the
    target, as it does if it spells no path that names the target otherwise. Then a session that was
    opened on the target takes over a new text and is emptied by the end of the document; else it
    keeps its document. -/
theorem identity_of_spelling (h : classify notice target = some change) :
    (change.path ∈ notice.paths ∧ Files.samePath change.path target = true) ∧
      ((∀ path ∈ notice.paths, Files.samePath path target = true → path = target) →
        change.path = target) ∧
      (∀ config files session, Command.openSession config files target = .ok session →
        Showing target session) ∧
      ∀ sight event, event? change sight = some event →
        event.uri? = some (Files.documentUri change.path) ∧
        (event.uri? = some (Files.documentUri target) ↔ change.path = target) ∧
        ∀ session, Showing target session →
          (∀ document, event = .textChanged document →
            (session.handle event).active =
              if change.path = target then some document else session.active) ∧
          (∀ uri, event = .closed uri →
            (session.handle event).active =
              if change.path = target then none else session.active) := by
  obtain ⟨-, hfind⟩ := classify_eq_some_iff.mp h
  have hmem : change.path ∈ notice.paths := List.mem_of_find?_eq_some hfind
  have hsame : Files.samePath change.path target = true := by simpa using List.find?_some hfind
  refine ⟨⟨hmem, hsame⟩, fun hspelled => hspelled _ hmem hsame,
    fun _ _ _ hopen => showing_openSession hopen, fun sight event hevent => ?_⟩
  have huri := uri?_of_event? hevent
  refine ⟨huri, ?_, fun session hshowing => ⟨?_, ?_⟩⟩
  · rw [huri, Option.some_inj, Files.documentUri_inj]
  · rintro document rfl
    rcases event?_eq_some_iff.mp hevent with ⟨bytes, -, heq⟩ | ⟨-, -, heq⟩
    · cases heq
      exact hshowing.active_textChanged change.path _
    · cases heq
  · rintro uri rfl
    rcases event?_eq_some_iff.mp hevent with ⟨bytes, -, heq⟩ | ⟨-, -, heq⟩
    · cases heq
    · cases heq
      exact hshowing.active_closed change.path

/-- The first path of the notice is another file; the second one is spelled as the target. -/
theorem identity_of_spelling_second :
    classify ⟨some .modified, ["/other.prw", "/a.prw"]⟩ "/a.prw" = some ⟨"/a.prw", .modified⟩ ∧
      ∀ session, Showing "/a.prw" session →
        (session.handle (.textChanged ⟨"file:///a.prw", ['x']⟩)).active =
          some ⟨"file:///a.prw", ['x']⟩ := by
  have hclassify : classify ⟨some .modified, ["/other.prw", "/a.prw"]⟩ "/a.prw" =
      some ⟨"/a.prw", .modified⟩ := by decide
  have hevent : event? ⟨"/a.prw", .modified⟩ (.content [120]) =
      some (.textChanged ⟨"file:///a.prw", ['x']⟩) := by decide
  refine ⟨hclassify, fun session hshowing => ?_⟩
  obtain ⟨-, -, -, hevents⟩ := identity_of_spelling hclassify
  obtain ⟨-, -, hsession⟩ := hevents _ _ hevent
  exact (hsession session hshowing).1 _ rfl

/-- A second slash in the notice: the change is that of the target, but the document in its event
    has another name, and a session on the target passes over it. -/
theorem identity_respelled :
    classify ⟨some .modified, ["a//b.prw"]⟩ "a/b.prw" = some ⟨"a//b.prw", .modified⟩ ∧
      (∀ bytes, ∃ event, event? ⟨"a//b.prw", .modified⟩ (.content bytes) = some event ∧
        event.uri? = some "file://a//b.prw" ∧
        event.uri? ≠ some (Files.documentUri "a/b.prw") ∧
        ∀ session, Showing "a/b.prw" session →
          (session.handle event).active = session.active) := by
  refine ⟨by decide, fun bytes => ⟨_, rfl, rfl, ?_, fun session hshowing => ?_⟩⟩
  · show some "file://a//b.prw" ≠ some (Files.documentUri "a/b.prw")
    decide
  · exact hshowing.active_textChanged "a//b.prw" (Text.decodeSource bytes)

end Watch

end ProgramOutline
