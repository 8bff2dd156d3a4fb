import Mathlib.Tactic
import ProgramOutline.Session

/-!
# Runs of a session

Each operation of a session extracts anew, so what a session shows is the outline of its active
document. Whether news of another document are ignored depends on the document that is active when
they come; an ignored operation leaves that document alone, so all later operations meet the same
one.

Results:
* `Fresh.run`: after every run the functions are those of the active document.
* `generation_run`: every operation is one extraction.
* `SameView.perform_of_ignored`: an ignored operation changes nothing that is shown.
* `SameView.run_heeded`: leaving out what is ignored makes no difference to the others.
* `run_follows_active`: all of this together, for every configuration and every run.
-/

namespace ProgramOutline.Session

/-! ## Operations -/

/-- What can be done with a session. -/
inductive Operation where
  /-- It takes notice of an event. -/
  | event (event : Event)
  /-- It extracts the outline anew. -/
  | refresh
  deriving DecidableEq

/-- The active document after an operation. -/
def Operation.activeAfter (active : Option Document) : Operation → Option Document
  | event e => Session.activeAfter active e
  | refresh => active

/-- The session after an operation. -/
def perform (s : Session) : Operation → Session
  | .event e => s.handle e
  | .refresh => s.refresh

/-- The session after several operations. -/
def run (s : Session) (operations : List Operation) : Session := operations.foldl perform s

/-- Whatever is done, the session extracts from the document that is active then. -/
theorem perform_eq_refresh (s : Session) (operation : Operation) :
    s.perform operation = refresh { s with active := operation.activeAfter s.active } := by
  cases operation <;> rfl

@[simp]
theorem active_perform (s : Session) (operation : Operation) :
    (s.perform operation).active = operation.activeAfter s.active := by
  rw [perform_eq_refresh]
  rfl

@[simp]
theorem extractor_perform (s : Session) (operation : Operation) :
    (s.perform operation).extractor = s.extractor := by
  rw [perform_eq_refresh]
  rfl

@[simp]
theorem generation_perform (s : Session) (operation : Operation) :
    (s.perform operation).generation = s.generation + 1 := by
  rw [perform_eq_refresh]
  rfl

@[simp]
theorem run_nil (s : Session) : s.run [] = s := rfl

@[simp]
theorem run_cons (s : Session) (operation : Operation) (rest : List Operation) :
    s.run (operation :: rest) = (s.perform operation).run rest := rfl

@[simp]
theorem extractor_run (s : Session) (operations : List Operation) :
    (s.run operations).extractor = s.extractor := by
  induction operations generalizing s with
  | nil => rfl
  | cons operation rest ih => rw [run_cons, ih, extractor_perform]

/-! ## What is shown -/

/-- The functions are those of the active document. -/
def Fresh (s : Session) : Prop :=
  s.functions = s.extractor.runOptional (s.active.map Document.text)

theorem fresh_start (config : Config) : (start config).Fresh := rfl

theorem fresh_perform (s : Session) (operation : Operation) : (s.perform operation).Fresh := by
  rw [perform_eq_refresh]
  rfl

theorem Fresh.run {s : Session} (h : s.Fresh) (operations : List Operation) :
    (s.run operations).Fresh := by
  induction operations generalizing s with
  | nil => exact h
  | cons operation rest ih => exact ih (fresh_perform s operation)

/-- Every operation is one extraction, as long as their number fits a word. -/
theorem generation_run (s : Session) (operations : List Operation) :
    (s.run operations).generation = s.generation + UInt64.ofNat operations.length := by
  induction operations generalizing s with
  | nil => simp
  | cons operation rest ih =>
    rw [run_cons, ih, generation_perform, List.length_cons, UInt64.ofNat_add, UInt64.add_assoc,
      UInt64.add_comm 1]
    rfl

/-! ## What is ignored -/

/-- The operation is news of a document that is not the active one: a new text while another
    document is active, or the end of a document that is not active. -/
def Ignored (active : Option Document) : Operation → Prop
  | .event (.textChanged document) => ∃ shown ∈ active, shown.uri ≠ document.uri
  | .event (.closed uri) => ∀ shown ∈ active, shown.uri ≠ uri
  | _ => False

instance (active : Option Document) (operation : Operation) :
    Decidable (Ignored active operation) :=
  match operation with
  | .event (.textChanged document) =>
    inferInstanceAs (Decidable (∃ shown ∈ active, shown.uri ≠ document.uri))
  | .event (.closed uri) => inferInstanceAs (Decidable (∀ shown ∈ active, shown.uri ≠ uri))
  | .event (.activeChanged _) => inferInstanceAs (Decidable False)
  | .refresh => inferInstanceAs (Decidable False)

theorem activeAfter_of_ignored {active : Option Document} {operation : Operation}
    (h : Ignored active operation) : operation.activeAfter active = active := by
  cases operation with
  | refresh => rfl
  | event event =>
    cases event with
    | activeChanged document => cases h
    | textChanged document =>
      obtain ⟨shown, hshown, hne⟩ := h
      obtain rfl := Option.mem_def.mp hshown
      simp [Operation.activeAfter, Session.activeAfter, concerns, hne]
    | closed uri =>
      cases active with
      | none => rfl
      | some shown =>
        have hne : shown.uri ≠ uri := h shown rfl
        simp [Operation.activeAfter, Session.activeAfter, hne]

/-- The operations of a run that are not ignored when they come. -/
def heeded (s : Session) : List Operation → List Operation
  | [] => []
  | operation :: rest =>
    if Ignored s.active operation then (s.perform operation).heeded rest
    else operation :: (s.perform operation).heeded rest

/-- Two sessions show the same and will extract in the same way. -/
structure SameView (a b : Session) : Prop where
  extractor : a.extractor = b.extractor
  active : a.active = b.active
  functions : a.functions = b.functions

theorem SameView.refl (s : Session) : SameView s s := ⟨rfl, rfl, rfl⟩

/-- One operation on two sessions that show the same. -/
theorem SameView.perform {a b : Session} (h : SameView a b) (operation : Operation) :
    SameView (a.perform operation) (b.perform operation) := by
  have hactive : (a.perform operation).active = (b.perform operation).active := by
    rw [active_perform, active_perform, h.active]
  have hextractor : (a.perform operation).extractor = (b.perform operation).extractor := by
    rw [extractor_perform, extractor_perform, h.extractor]
  refine ⟨hextractor, hactive, ?_⟩
  rw [fresh_perform a operation, fresh_perform b operation, hextractor, hactive]

/-- An ignored operation on one of the two. -/
theorem SameView.perform_of_ignored {a b : Session} (h : SameView a b) (hfresh : b.Fresh)
    {operation : Operation} (hignored : Ignored b.active operation) :
    SameView a (b.perform operation) := by
  have hactive : (b.perform operation).active = b.active := by
    rw [active_perform, activeAfter_of_ignored hignored]
  refine ⟨h.extractor.trans (extractor_perform ..).symm, h.active.trans hactive.symm, ?_⟩
  rw [h.functions, fresh_perform b operation, hactive, extractor_perform]
  exact hfresh

/-- A run of the operations that the other session heeds. -/
theorem SameView.run_heeded {a b : Session} (h : SameView a b) (hfresh : b.Fresh)
    (operations : List Operation) :
    SameView (a.run (b.heeded operations)) (b.run operations) := by
  induction operations generalizing a b with
  | nil => exact h
  | cons operation rest ih =>
    rw [heeded, run_cons]
    split
    · rename_i hignored
      exact ih (h.perform_of_ignored hfresh hignored) (fresh_perform b operation)
    · exact ih (h.perform operation) (fresh_perform b operation)

/-- What is heeded in a run is heeded also when the rest of the run is left out. -/
theorem SameView.not_ignored_of_heeded {a b : Session} (h : SameView a b) (hfresh : b.Fresh)
    {operations before after : List Operation} {operation : Operation}
    (heq : b.heeded operations = before ++ operation :: after) :
    ¬ Ignored (a.run before).active operation := by
  induction operations generalizing a b before with
  | nil => simp [heeded] at heq
  | cons first rest ih =>
    rw [heeded] at heq
    split at heq
    · rename_i hignored
      exact ih (h.perform_of_ignored hfresh hignored) (fresh_perform b first) heq
    · rename_i hheeded
      cases before with
      | nil =>
        obtain rfl : first = operation := (List.cons.inj heq).1
        rwa [run_nil, h.active]
      | cons kept before =>
        obtain ⟨rfl, htail⟩ := List.cons.inj heq
        exact ih (h.perform first) (fresh_perform b first) htail

/-! ## All runs -/

/-- **What a session shows depends on its active document alone.** After every part of a run of a
    new session the functions are those of the active document, and every operation has been one
    extraction. An operation that is ignored changes neither the active document nor the functions.
    So a run without the ignored operations, none of which it holds, ends with the same ones. -/
theorem run_follows_active (config : Config) (operations : List Operation) :
    (∀ n ≤ operations.length,
      ((start config).run (operations.take n)).functions =
          config.extractor.runOptional
            (((start config).run (operations.take n)).active.map Document.text) ∧
        (n < 2 ^ 64 → ((start config).run (operations.take n)).generation.toNat = n)) ∧
    (∀ before operation, Ignored ((start config).run before).active operation →
      ((start config).run (before ++ [operation])).active = ((start config).run before).active ∧
        ((start config).run (before ++ [operation])).functions =
          ((start config).run before).functions) ∧
    ((start config).run ((start config).heeded operations)).active =
        ((start config).run operations).active ∧
    ((start config).run ((start config).heeded operations)).functions =
        ((start config).run operations).functions ∧
    (∀ before operation after, (start config).heeded operations = before ++ operation :: after →
      ¬ Ignored ((start config).run before).active operation) := by
  have hsame := (SameView.refl (start config)).run_heeded (fresh_start config) operations
  refine ⟨?_, ?_, hsame.active, hsame.functions, ?_⟩
  · intro n hn
    refine ⟨?_, fun hword => ?_⟩
    · have hfresh := (fresh_start config).run (operations.take n)
      rwa [Fresh, extractor_run] at hfresh
    · have hgeneration : (start config).generation = 0 := rfl
      rw [generation_run, hgeneration, UInt64.zero_add, List.length_take_of_le hn,
        UInt64.toNat_ofNat_of_lt' hword]
  · intro before operation hignored
    have hview := (SameView.refl ((start config).run before)).perform_of_ignored
      ((fresh_start config).run before) hignored
    have hlast : (start config).run (before ++ [operation]) =
        ((start config).run before).perform operation := List.foldl_append
    rw [hlast]
    exact ⟨hview.active.symm, hview.functions.symm⟩
  · intro before operation after heq
    exact (SameView.refl (start config)).not_ignored_of_heeded (fresh_start config) heq

/-- News of a second document are ignored once there is a first one. -/
example : (start {}).heeded [.event (.textChanged ⟨"a", []⟩), .event (.textChanged ⟨"b", []⟩),
    .event (.closed "b"), .refresh] = [.event (.textChanged ⟨"a", []⟩), .refresh] := by
  decide

end ProgramOutline.Session
