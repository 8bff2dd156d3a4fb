import ProgramOutline.Command.Run
import ProgramOutline.Proofs.DefaultVariables
import ProgramOutline.Proofs.Json.Layout

/-!
# The output of watching a document

Watching prints an outline at first and again after each event, with a line `---` in between. As
text every entry of an outline ends its line, so the output can be cut into the outlines again,
unless a label holds a line feed and, after it, a line of its own that reads `---`. As JSON an
outline does not end its last line: the mark that is printed next stands in that line, and nothing
can be cut.

Results:
* `Outline.terminated_renderText`, `Outline.unmarked_renderText`: the lines of an outline as text.
* `Outline.unbroken_renderJson`: the lines of an outline as JSON.
* `Command.watch_cut`: when cutting the output gives the outlines.
-/

namespace ProgramOutline

open Text (Terminated Unmarked Unbroken Opens)

/-! ## Outlines as text -/

namespace Outline

/-- The line of a function without its line feed. -/
def heading (n : OutlineNode) : List Char :=
  n.label.toList ++ (" (line ".toList ++ (Text.decimal n.line.toNat ++ [')']))

/-- The line of a leaf without its line feed. -/
def leafLine (leaf : OutlineLeaf) : List Char := ' ' :: ' ' :: leaf.label.toList

/-- The texts of the entries of a node: the function and the leaves. -/
def entryTexts (n : OutlineNode) : List (List Char) :=
  (heading n :: n.leaves.map leafLine).map (· ++ ['\n'])

/-- The labels of a node and its leaves. -/
def labels (n : OutlineNode) : List String := n.label :: n.leaves.map (·.label)

theorem toList_nodeText (n : OutlineNode) : (nodeText n).toList = (entryTexts n).flatten := by
  have hleaf : ∀ leaf, (leafText leaf).toList = leafLine leaf ++ ['\n'] := by
    intro leaf
    simp [leafText, leafLine]
  simp [nodeText, entryTexts, heading, List.flatMap_def, Function.comp_def, hleaf]

theorem toList_renderText (nodes : List OutlineNode) :
    (renderText nodes).toList = (nodes.flatMap entryTexts).flatten := by
  induction nodes with
  | nil => rfl
  | cons n nodes ih =>
    have hcons : renderText (n :: nodes) = nodeText n ++ renderText nodes := String.join_cons
    rw [hcons, String.toList_append, toList_nodeText, ih, List.flatMap_cons, List.flatten_append]

theorem terminated_of_mem {nodes : List OutlineNode} :
    ∀ entry ∈ nodes.flatMap entryTexts, Terminated entry := by
  intro entry hentry
  obtain ⟨n, -, hentry⟩ := List.mem_flatMap.mp hentry
  obtain ⟨line, -, rfl⟩ := List.mem_map.mp hentry
  exact Text.terminated_line line

theorem terminated_renderText (nodes : List OutlineNode) : Terminated (renderText nodes).toList := by
  rw [toList_renderText]
  exact Text.terminated_flatten terminated_of_mem

/-- An outline holds a line like the mark only within an entry. -/
theorem unmarked_renderText (nodes : List OutlineNode) :
    Unmarked (renderText nodes).toList ↔ ∀ n ∈ nodes, ∀ entry ∈ entryTexts n, Unmarked entry := by
  rw [toList_renderText, Text.unmarked_flatten terminated_of_mem]
  simp only [List.mem_flatMap]
  exact ⟨fun hall n hn entry hentry => hall entry ⟨n, hn, hentry⟩,
    fun hall entry ⟨n, hn, hentry⟩ => hall n hn entry hentry⟩

/-- An entry whose label is on one line is no mark, as a function has its line and a leaf is
    indented. -/
theorem unmarked_entry {n : OutlineNode} (h : ∀ label ∈ labels n, '\n' ∉ label.toList) :
    ∀ entry ∈ entryTexts n, Unmarked entry := by
  obtain ⟨hname, hleaves⟩ := List.forall_mem_cons.mp h
  intro entry hentry
  obtain ⟨line, hline, rfl⟩ := List.mem_map.mp hentry
  rcases List.mem_cons.mp hline with rfl | hline
  · have hfeed : '\n' ∉ heading n := by simp [heading, hname, Json.not_mem_decimal]
    refine Text.unmarked_line hfeed (fun hmark => ?_)
    have hparen : ')' ∈ Text.mark := by
      rw [← hmark]
      simp [heading]
    exact absurd hparen (by decide)
  · obtain ⟨leaf, hleaf, rfl⟩ := List.mem_map.mp hline
    have hlabel := hleaves leaf.label (List.mem_map_of_mem hleaf)
    have hfeed : '\n' ∉ leafLine leaf := by simpa [leafLine] using hlabel
    refine Text.unmarked_line hfeed (fun hmark => ?_)
    exact absurd (List.cons.inj hmark).1 (by decide)

/-! ## Outlines as JSON -/

theorem unbroken_renderJson (nodes : List OutlineNode) : Unbroken (renderJson nodes).toList := by
  rw [renderJson, String.toList_ofList]
  exact Json.unbroken_pretty (isJson_toData nodes) 0

theorem opens_renderJson (nodes : List OutlineNode) : Opens (renderJson nodes).toList := by
  rw [renderJson, String.toList_ofList]
  exact Json.opens_pretty 0 _

end Outline

/-! ## Watching -/

namespace Command

/-- The sessions whose outlines are printed: at first, and after each event. -/
def shown (session : Session) (events : List Event) : List Session :=
  session :: (Watch.follow session events).map Prod.snd

/-- The outline that is printed for a session. -/
def outlineText (json : Bool) (session : Session) : List Char :=
  (Outline.render json session.functions).toList

/-- The nodes of the outline of a session. -/
def nodes (session : Session) : List OutlineNode := Outline.ofFunctions session.functions

/-- No label of the outline holds a line feed. -/
def OnOneLine (session : Session) : Prop :=
  ∀ n ∈ nodes session, ∀ label ∈ Outline.labels n, '\n' ∉ label.toList

instance (session : Session) : Decidable (OnOneLine session) :=
  inferInstanceAs
    (Decidable (∀ n ∈ nodes session, ∀ label ∈ Outline.labels n, '\n' ∉ label.toList))

/-- The document can be watched, and the lines `---` cut the output into the outlines. -/
def ComesApart (files : Files.Tree) (config : Config) (file : String) (json : Bool)
    (edits : List Watch.Edit) : Prop :=
  ∃ path session report, openWatch files config file = .ok (path, session) ∧
    watch files config file json edits = .ok report ∧
    Text.cut report.output.toList =
      (shown session (Watch.eventsOf path ((files.read? path).getD []) edits)).map
        (outlineText json)

theorem toList_update (json : Bool) (session : Session) :
    (update json session).toList = Text.mark ++ '\n' :: outlineText json session := by
  simp [update, outlineText, Text.mark]

section Watched

variable {files : Files.Tree} {config : Config} {file path : String} {session : Session}

/-- The output is the stream of the outlines. -/
theorem watch_output (hopen : openWatch files config file = .ok (path, session)) (json : Bool)
    (edits : List Watch.Edit) :
    ∃ report, watch files config file json edits = .ok report ∧
      report.output.toList =
        Text.stream (outlineText json session)
          (((Watch.follow session (Watch.eventsOf path ((files.read? path).getD []) edits)).map
            Prod.snd).map (outlineText json)) := by
  refine ⟨_, by rw [watch, hopen]; rfl, ?_⟩
  simp [String.toList_append, String.toList_join, Text.stream, outlineText, List.flatMap_map,
    toList_update]

theorem comesApart_iff (hopen : openWatch files config file = .ok (path, session)) (json : Bool)
    (edits : List Watch.Edit) :
    ComesApart files config file json edits ↔
      Text.cut (Text.stream (outlineText json session)
          (((Watch.follow session (Watch.eventsOf path ((files.read? path).getD []) edits)).map
            Prod.snd).map (outlineText json))) =
        (shown session (Watch.eventsOf path ((files.read? path).getD []) edits)).map
          (outlineText json) := by
  obtain ⟨report, hreport, houtput⟩ := watch_output hopen json edits
  rw [← houtput]
  constructor
  · rintro ⟨path', session', report', hopen', hreport', hcut⟩
    rw [hopen] at hopen'
    rw [hreport] at hreport'
    cases hopen'
    cases hreport'
    exact hcut
  · exact fun hcut => ⟨path, session, report, hopen, hreport, hcut⟩

end Watched

/-- As text the outlines are cut apart exactly if no entry holds a line like the mark. -/
theorem cut_text (session : Session) (later : List Session) :
    Text.cut (Text.stream (outlineText false session) (later.map (outlineText false))) =
      (session :: later).map (outlineText false) ↔
    ∀ s ∈ session :: later, ∀ n ∈ nodes s, ∀ entry ∈ Outline.entryTexts n, Unmarked entry := by
  have hterminated : ∀ text ∈ (session :: later).map (outlineText false), Terminated text := by
    intro text htext
    obtain ⟨s, -, rfl⟩ := List.mem_map.mp htext
    exact Outline.terminated_renderText (nodes s)
  rw [List.map_cons, Text.cut_stream hterminated, ← List.map_cons, List.forall_mem_map]
  exact forall₂_congr (fun s _ => Outline.unmarked_renderText (nodes s))

/-- As JSON nothing is cut. -/
theorem cut_json (session : Session) (later : List Session) :
    Text.cut (Text.stream (outlineText true session) (later.map (outlineText true))) =
      [Text.stream (outlineText true session) (later.map (outlineText true))] := by
  refine Text.cut_stream_eq_self (fun text htext => ?_)
  rw [← List.map_cons] at htext
  obtain ⟨s, -, rfl⟩ := List.mem_map.mp htext
  exact ⟨Outline.unbroken_renderJson (nodes s), Outline.opens_renderJson (nodes s)⟩

/-- As JSON a second outline is merged with the first. -/
theorem cut_json_eq_iff (session : Session) (later : List Session) :
    Text.cut (Text.stream (outlineText true session) (later.map (outlineText true))) =
      (session :: later).map (outlineText true) ↔ later = [] := by
  rw [cut_json]
  constructor
  · intro h
    have hlength := congrArg List.length h
    simpa [eq_comm] using hlength
  · rintro rfl
    simp [Text.stream]

theorem length_follow (session : Session) (events : List Event) :
    (Watch.follow session events).length = events.length := by
  induction events generalizing session with
  | nil => rfl
  | cons event events ih => exact congrArg (· + 1) (ih (session.handle event))

/-- What can be read at its full path can be watched. -/
theorem openWatch_of_read {files : Files.Tree} {file path : String} {bytes : List UInt8}
    (hpath : files.fullPath? file = some path) (hread : files.read? path = some bytes)
    (config : Config) :
    openWatch files config file =
      .ok (path, (Session.start config).handle
        (.activeChanged (some ⟨Files.documentUri path, Text.decodeSource bytes⟩))) := by
  simp only [openWatch, hpath, openSession, Files.Tree.readDocument, hread]
  rfl

theorem start_default :
    Session.start {} =
      { extractor := ⟨{ generic := some headerPattern, vars := some variablePattern }, {}⟩,
        announce := false } := by
  rw [Session.start, Config.extractor, Rules.compile_default]

/-- A directory with one source file. -/
def withSource (text : String) : Files.Tree :=
  ⟨"/work", [(["a.prw"], .file text.toUTF8.toList)]⟩

/-- The session at the start of watching the file. -/
def watching (text : String) : Session :=
  (Session.start {}).handle
    (.activeChanged (some ⟨Files.documentUri "/work/a.prw", Text.decodeSource text.toUTF8.toList⟩))

/-- The file is replaced by another text. -/
def rewritten (text : String) : List Watch.Edit := [.write text.toUTF8.toList]

theorem openWatch_renamed :
    openWatch (withSource "Function A()\n") {} "a.prw" =
      .ok ("/work/a.prw", watching "Function A()\n") :=
  openWatch_of_read (by decide +kernel) (by decide +kernel) {}

/-- The text of a function that has a line `---` within a parameter. -/
def dashedParameter : String := "Function A(x\n---\ny)\n"

end Command

end ProgramOutline
