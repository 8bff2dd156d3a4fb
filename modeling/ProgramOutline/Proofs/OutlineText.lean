import ProgramOutline.Proofs.Excerpts
import ProgramOutline.Proofs.VariableLines
import ProgramOutline.Proofs.WatchOutput

/-!
# The lines of an outline as text

An outline as text is meant to have a line for each function, parameter and variable, and to tell
functions from the others by the indent. With the default rules names and variables stand in one
line of the source, but a parameter may go over several, and its label holds the line feeds in it.
These are the only line feeds too many: the outline has one line for each entry if and only if no
label of a parameter holds a line feed, and then it can be read back.

Results:
* `length_rows_renderText`: the number of lines of any outline.
* `readText?_renderText`: an outline is read back if its names are words and no label has a line
  feed.
* `namesInLine_default`: which labels of the default rules are in one line.
* `renderText_lines`: the outlines of the default rules, line by line.
-/

namespace ProgramOutline

open Regex Grammar
open Text (rows lineTexts Excerpt)

namespace Outline

/-! ## Counting lines -/

/-- A node has a line for each label, and one for each line feed in a label. -/
theorem count_entryTexts (n : OutlineNode) :
    (entryTexts n).flatten.count '\n' =
      ((labels n).map (fun label => label.toList.count '\n' + 1)).sum := by
  have hdigits : (Text.decimal n.line.toNat).count '\n' = 0 :=
    List.count_eq_zero.mpr (Json.not_mem_decimal n.line.toNat)
  have hheading : (heading n).count '\n' = n.label.toList.count '\n' := by
    simp [heading, List.count_append, hdigits]
  have hleaf : ∀ leaf, (leafLine leaf).count '\n' = leaf.label.toList.count '\n' := by
    intro leaf
    simp [leafLine]
  simp [entryTexts, labels, List.count_flatten, Function.comp_def, hheading, hleaf]
  omega

/-- The number of lines of an outline. -/
theorem length_rows_renderText (nodes : List OutlineNode) :
    (rows (renderText nodes).toList).length =
      (nodes.map (fun n =>
        ((labels n).map (fun label => label.toList.count '\n' + 1)).sum)).sum := by
  rw [Text.length_rows (terminated_renderText nodes)]
  induction nodes with
  | nil => rfl
  | cons n nodes ih =>
    have hcons : renderText (n :: nodes) = nodeText n ++ renderText nodes := String.join_cons
    rw [hcons, String.toList_append, toList_nodeText, List.count_append, count_entryTexts, ih,
      List.map_cons, List.sum_cons]

/-! ## Reading lines back -/

/-- What an outline says of a function: its name, its line, and the labels below it. -/
structure Entry where
  name : String
  line : Nat
  labels : List String
  deriving DecidableEq

/-- The entry of a node. -/
def Entry.ofNode (n : OutlineNode) : Entry := ⟨n.label, n.line.toNat, n.leaves.map (·.label)⟩

/-- Does the line start with two spaces? -/
def isIndented (line : List Char) : Bool := [' ', ' '].isPrefixOf line

/-- The name and the line number in the line of a function: the name goes up to the first space. -/
def heading? (line : List Char) : Option (String × Nat) :=
  let after := line.dropWhile (· != ' ')
  if " (line ".toList.isPrefixOf after && after.getLast? == some ')' then
    (Text.decimalNumber? (after.drop 7).dropLast).map
      (fun number => (String.ofList (line.takeWhile (· != ' ')), number))
  else none

/-- The labels in the lines before the first function, and the entries of the functions. -/
def readLines? : List (List Char) → Option (List String × List Entry)
  | [] => some ([], [])
  | line :: lines => do
    let (labels, entries) ← readLines? lines
    if isIndented line then return (String.ofList (line.drop 2) :: labels, entries)
    else
      let (name, number) ← heading? line
      return ([], ⟨name, number, labels⟩ :: entries)

/-- The entries of an outline as text, which starts with a function. -/
def readText? (text : List Char) : Option (List Entry) := do
  let (labels, entries) ← readLines? (lineTexts text)
  if labels.isEmpty then return entries else none

/-- The name of the node is one word, and no label has a line feed. -/
structure InLine (n : OutlineNode) : Prop where
  name : ' ' ∉ n.label.toList
  labels : ∀ label ∈ labels n, '\n' ∉ label.toList

/-- The lines of a node: that of the function, then those of its leaves. -/
def nodeLines (n : OutlineNode) : List (List Char) := heading n :: n.leaves.map leafLine

theorem toList_renderText_lines (nodes : List OutlineNode) :
    (renderText nodes).toList = ((nodes.flatMap nodeLines).map (· ++ ['\n'])).flatten := by
  rw [toList_renderText, List.map_flatMap]
  rfl

/-- The line of a function is taken apart at the first space and at the last parenthesis. -/
theorem heading?_append {name : List Char} (h : ' ' ∉ name) (digits : List Char) :
    heading? (name ++ (" (line ".toList ++ (digits ++ [')']))) =
      (Text.decimalNumber? digits).map (fun number => (String.ofList name, number)) := by
  have hname : ∀ c ∈ name, (c != ' ') = true := by
    intro c hc
    rw [bne_iff_ne]
    rintro rfl
    exact h hc
  have hspace : (" (line ".toList ++ (digits ++ [')'])).head?.any (· != ' ') = false := rfl
  have hopening : " (line ".toList.isPrefixOf (" (line ".toList ++ (digits ++ [')'])) = true :=
    List.isPrefixOf_iff_prefix.mpr (List.prefix_append ..)
  have hlast : (" (line ".toList ++ (digits ++ [')'])).getLast? = some ')' := by
    rw [← List.append_assoc]
    exact List.getLast?_concat ..
  have hdrop : (" (line ".toList ++ (digits ++ [')'])).drop 7 = digits ++ [')'] := rfl
  rw [heading?, takeWhile_append_of_head? hname hspace, dropWhile_append_of_head? hname hspace]
  simp only [hopening, hlast, hdrop, List.dropLast_concat, BEq.rfl, Bool.and_self, if_true]

theorem heading?_heading {n : OutlineNode} (h : ' ' ∉ n.label.toList) :
    heading? (heading n) = some (n.label, n.line.toNat) := by
  rw [heading, heading?_append h, Text.decimalNumber?_decimal, Option.map_some,
    String.ofList_toList]

theorem isIndented_heading {n : OutlineNode} (h : ' ' ∉ n.label.toList) :
    isIndented (heading n) = false := by
  rw [heading, isIndented]
  cases hname : n.label.toList with
  | nil => rfl
  | cons c name =>
    rw [hname, List.mem_cons, not_or] at h
    rw [List.cons_append, List.isPrefixOf, beq_false_of_ne h.1, Bool.false_and]

theorem isIndented_leafLine (leaf : OutlineLeaf) : isIndented (leafLine leaf) = true := rfl

/-- The lines of leaves are the labels of the function before them. -/
theorem readLines?_leaves {lines : List (List Char)} {pending : List String} {entries : List Entry}
    (h : readLines? lines = some (pending, entries)) (leaves : List OutlineLeaf) :
    readLines? (leaves.map leafLine ++ lines) =
      some (leaves.map (·.label) ++ pending, entries) := by
  induction leaves with
  | nil => exact h
  | cons leaf leaves ih =>
    have hlabel : String.ofList ((leafLine leaf).drop 2) = leaf.label := String.ofList_toList
    rw [List.map_cons, List.cons_append, readLines?, ih]
    simp [isIndented_leafLine, hlabel]

theorem readLines?_nodeLines {lines : List (List Char)} {entries : List Entry} {n : OutlineNode}
    (h : readLines? lines = some ([], entries)) (hname : ' ' ∉ n.label.toList) :
    readLines? (nodeLines n ++ lines) = some ([], Entry.ofNode n :: entries) := by
  rw [nodeLines, List.cons_append, readLines?, readLines?_leaves h]
  simp [isIndented_heading hname, heading?_heading hname, Entry.ofNode]

theorem readLines?_flatMap {nodes : List OutlineNode} (h : ∀ n ∈ nodes, ' ' ∉ n.label.toList) :
    readLines? (nodes.flatMap nodeLines) = some ([], nodes.map Entry.ofNode) := by
  induction nodes with
  | nil => rfl
  | cons n nodes ih =>
    obtain ⟨hn, hnodes⟩ := List.forall_mem_cons.mp h
    rw [List.flatMap_cons, readLines?_nodeLines (ih hnodes) hn, List.map_cons]

section Nodes

variable {nodes : List OutlineNode} (h : ∀ n ∈ nodes, InLine n)

include h

theorem lineTexts_renderText :
    lineTexts (renderText nodes).toList = nodes.flatMap nodeLines := by
  rw [toList_renderText_lines]
  refine Text.lineTexts_lines (fun line hline => ?_)
  obtain ⟨n, hn, hline⟩ := List.mem_flatMap.mp hline
  obtain ⟨hname, hleaves⟩ := List.forall_mem_cons.mp (h n hn).labels
  rcases List.mem_cons.mp hline with rfl | hline
  · simp [heading, hname, Json.not_mem_decimal]
  · obtain ⟨leaf, hleaf, rfl⟩ := List.mem_map.mp hline
    simpa [leafLine] using hleaves leaf.label (List.mem_map_of_mem hleaf)

/-- The lines that are not indented are those of the functions. -/
theorem filter_lineTexts_renderText :
    (lineTexts (renderText nodes).toList).filter (fun line => !isIndented line) =
      nodes.map heading := by
  rw [lineTexts_renderText h, List.filter_flatMap, List.map_eq_flatMap]
  refine List.flatMap_congr (fun n hn => ?_)
  rw [nodeLines, List.filter_cons, isIndented_heading (h n hn).name]
  simp [isIndented_leafLine]

theorem readText?_renderText :
    readText? (renderText nodes).toList = some (nodes.map Entry.ofNode) := by
  rw [readText?, lineTexts_renderText h,
    readLines?_flatMap (fun n hn => (h n hn).name)]
  rfl

end Nodes

/-! ## The lines of functions -/

/-- What an outline is to say of a function. -/
def Entry.ofFunction (f : FunctionSymbol) : Entry :=
  ⟨f.name, f.line.toNat, f.parameters.map Parameter.label ++ f.vars.map Variable.label⟩

theorem Entry.ofNode_node (f : FunctionSymbol) : ofNode (node f) = ofFunction f := by
  simp [ofNode, node, ofFunction, Function.comp_def]

/-- The number of entries of an outline: the functions, their parameters and their variables. -/
def size (functions : List FunctionSymbol) : Nat :=
  (functions.map (fun f => 1 + f.parameters.length + f.vars.length)).sum

/-- The number of line feeds in the labels of the parameters. -/
def feeds (functions : List FunctionSymbol) : Nat :=
  (functions.map (fun f => (f.parameters.map (fun p => p.label.toList.count '\n')).sum)).sum

/-- No label of a parameter has a line feed. -/
def ParametersInLine (functions : List FunctionSymbol) : Prop :=
  ∀ f ∈ functions, ∀ p ∈ f.parameters, '\n' ∉ p.label.toList

/-- The outline as text has one line for each entry. -/
structure OneLineEach (functions : List FunctionSymbol) : Prop where
  /-- There are as many lines as functions, parameters and variables. -/
  count : (rows (renderText (ofFunctions functions)).toList).length = size functions
  /-- The lines of the functions are those that do not start with two spaces. -/
  headings : (lineTexts (renderText (ofFunctions functions)).toList).filter
    (fun line => !isIndented line) = functions.map (fun f => heading (node f))
  /-- The names, the lines and the labels can be read back. -/
  read : readText? (renderText (ofFunctions functions)).toList =
    some (functions.map Entry.ofFunction)

/-- The names of the functions are words in one line, and so are the labels of their variables. -/
structure NamesInLine (functions : List FunctionSymbol) : Prop where
  name : ∀ f ∈ functions, ' ' ∉ f.name.toList ∧ '\n' ∉ f.name.toList
  vars : ∀ f ∈ functions, ∀ v ∈ f.vars, '\n' ∉ v.label.toList

theorem feeds_eq_zero {functions : List FunctionSymbol} :
    feeds functions = 0 ↔ ParametersInLine functions := by
  simp [feeds, ParametersInLine, List.sum_eq_zero_iff, List.count_eq_zero]

section Functions

variable {functions : List FunctionSymbol} (h : NamesInLine functions)

include h

/-- An outline has a line for each entry and one for each line feed in a parameter. -/
theorem length_rows_ofFunctions :
    (rows (renderText (ofFunctions functions)).toList).length =
      size functions + feeds functions := by
  rw [length_rows_renderText, ofFunctions, List.map_map, size, feeds, ← List.sum_map_add]
  congr 1
  refine List.map_congr_left (fun f hf => ?_)
  have hname : f.name.toList.count '\n' = 0 := List.count_eq_zero.mpr (h.name f hf).2
  have hvars : (f.vars.map (fun v => v.label.toList.count '\n')).sum = 0 := by
    simpa [List.sum_eq_zero_iff, List.count_eq_zero] using h.vars f hf
  simp [labels, node, Function.comp_def, List.sum_map_add, hname, hvars]
  omega

theorem inLine_node (hparameters : ParametersInLine functions) :
    ∀ n ∈ ofFunctions functions, InLine n := by
  intro n hn
  obtain ⟨f, hf, rfl⟩ := List.mem_map.mp hn
  refine ⟨(h.name f hf).1, fun label hlabel => ?_⟩
  rcases List.mem_cons.mp hlabel with rfl | hlabel
  · exact (h.name f hf).2
  · simp only [node, List.map_append, List.map_map, List.mem_append, List.mem_map,
      Function.comp_apply] at hlabel
    obtain ⟨p, hp, rfl⟩ | ⟨v, hv, rfl⟩ := hlabel
    · exact hparameters f hf p hp
    · exact h.vars f hf v hv

theorem oneLineEach_iff : OneLineEach functions ↔ ParametersInLine functions := by
  constructor
  · intro hlines
    have hcount := hlines.count
    rw [length_rows_ofFunctions h] at hcount
    exact feeds_eq_zero.mp (by omega)
  · intro hparameters
    have hnodes := inLine_node h hparameters
    refine ⟨?_, ?_, ?_⟩
    · rw [length_rows_ofFunctions h, feeds_eq_zero.mpr hparameters, Nat.add_zero]
    · rw [filter_lineTexts_renderText hnodes, ofFunctions, List.map_map]
      rfl
    · rw [readText?_renderText hnodes, ofFunctions, List.map_map]
      exact congrArg some (List.map_congr_left (fun f _ => Entry.ofNode_node f))

end Functions

/-! ## Functions of the default rules -/

theorem name_headerScan {text : List Char} {header : Header} (h : header ∈ headerScan text) :
    ∀ c ∈ header.name.toList, Text.isBlank c = false := by
  obtain ⟨before, line, rest, -, hread, -, rfl⟩ := mem_headerScan h
  have hname : (line.header (Text.byteLength before)).name.toList = line.signature.name :=
    String.toList_ofList
  rw [hname]
  exact (name_of_signature? (headerLine?_eq_some hread).2.2).2

/-- The label of a variable stands in the line that declares it. -/
theorem label_of_variableLine? {text rest : List Char} {line : VariableLine}
    (h : variableLine? text = some (line, rest)) : '\n' ∉ line.variable.label.toList := by
  have hline := break_notMem_variableLine h
  simp only [VariableLine.text, List.mem_append, not_or] at hline
  simp [VariableLine.variable, Variable.label, hline]

theorem label_reported {text : List Char} {header : Header} {entry : Match × Variable}
    (h : entry ∈ reported text header) : '\n' ∉ entry.2.label.toList := by
  rcases hbody : bodyOf? text header with - | body
  · rw [reported, hbody] at h
    cases h
  · rw [reported_eq hbody] at h
    obtain ⟨found, hfound, rfl⟩ := List.mem_map.mp h
    obtain ⟨_, _, -, -, hread⟩ := VariableLine.reader.mem_scan hfound
    exact label_of_variableLine? hread

/-- With the default rules the line of a function starts with its name, and a variable is declared
    in one line. -/
theorem namesInLine_default (options : TypingOptions) (text : List Char) :
    NamesInLine ((defaultExtractor options).run text) := by
  constructor
  · intro f hf
    rw [run_default] at hf
    obtain ⟨found, hfound, rfl⟩ := List.mem_map.mp hf
    have hheader : found.2 ∈ headerScan text := by
      rw [← foundHeaders_eq]
      exact List.mem_map_of_mem hfound
    have hink := name_headerScan hheader
    exact ⟨fun hspace => absurd (hink _ hspace) (by decide),
      fun hfeed => absurd (hink _ hfeed) (by decide)⟩
  · intro f hf v hv
    have hvars : f.vars ∈ ((defaultExtractor options).run text).map (·.vars) :=
      List.mem_map_of_mem hf
    rw [run_vars] at hvars
    obtain ⟨header, -, hreported⟩ := List.mem_map.mp hvars
    rw [← hreported] at hv
    obtain ⟨entry, hentry, rfl⟩ := List.mem_map.mp hv
    exact label_reported hentry

/-- A conventional type has its name in one line. -/
theorem feed_notMem_typeName {t : ParamType} (h : ∀ name, t = .named name → '\n' ∉ name.toList) :
    '\n' ∉ t.name.toList := by
  cases t with
  | named name => exact h name rfl
  | _ => decide

/-- The label of a parameter has no line feed that is not in its text. -/
theorem feed_notMem_label (options : TypingOptions) {token : List Char}
    (htoken : Excerpt token token) (h : '\n' ∉ token) :
    '\n' ∉ (Parameters.parameter options token).label.toList := by
  obtain ⟨hname, htype⟩ := Parameters.parameter_excerpts options htoken
  have hnameFeed : '\n' ∉ (Parameters.parameter options token).name.toList :=
    fun hfeed => h (hname.within.subset hfeed)
  rcases htyped : (Parameters.parameter options token).type with - | t
  · rw [Parameter.label, htyped]
    exact hnameFeed
  · have htypeFeed : '\n' ∉ t.name.toList := by
      refine feed_notMem_typeName (fun name hnamed hfeed => ?_)
      exact h ((htype name (hnamed ▸ htyped)).within.subset hfeed)
    rw [Parameter.label, htyped]
    simp [hnameFeed, htypeFeed]

/-- No label of a parameter has a line feed if no parameter list does. -/
theorem parametersInLine_default (options : TypingOptions) {text : List Char}
    (h : ∀ header ∈ foundHeaders text, '\n' ∉ header.parameters.toList) :
    ParametersInLine ((defaultExtractor options).run text) := by
  intro f hf p hp
  rw [run_default] at hf
  obtain ⟨found, hfound, rfl⟩ := List.mem_map.mp hf
  obtain ⟨token, htoken, rfl⟩ := List.mem_map.mp hp
  have hexcerpt := Parameters.excerpt_of_mem_tokens htoken
  refine feed_notMem_label options ⟨hexcerpt.first, hexcerpt.last, List.infix_rfl⟩ ?_
  exact fun hfeed => h found.2 (List.mem_map_of_mem hfound) (hexcerpt.within.subset hfeed)

/-- **The outlines of the default rules, line by line.** For every text and all options the outline
    as text has a line for each function, parameter and variable, and one more for each line feed
    in the label of a parameter. So there is one line for each entry, the lines of the functions
    are those that are not indented, and names, lines and labels can be read back, if and only if no
    label of a parameter has a line feed; and none has if no parameter list goes over a line. -/
theorem renderText_lines (options : TypingOptions) (text : List Char) :
    (rows (renderText (ofFunctions ((defaultExtractor options).run text))).toList).length =
        size ((defaultExtractor options).run text) + feeds ((defaultExtractor options).run text) ∧
      (OneLineEach ((defaultExtractor options).run text) ↔
        ParametersInLine ((defaultExtractor options).run text)) ∧
      ((∀ header ∈ foundHeaders text, '\n' ∉ header.parameters.toList) →
        ParametersInLine ((defaultExtractor options).run text)) :=
  ⟨length_rows_ofFunctions (namesInLine_default options text),
    oneLineEach_iff (namesInLine_default options text), parametersInLine_default options⟩

/-- A declared and an inferred parameter and a variable. -/
def plainText : List Char :=
  "Static Function A(nA as Numeric, x)\nLocal y\nReturn\nFunction B()\n".toList

theorem renderText_lines_plainText :
    OneLineEach ((defaultExtractor {}).run plainText) ∧
      readText? (renderText (ofFunctions ((defaultExtractor {}).run plainText))).toList =
        some [⟨"A", 1, ["nA : Numeric", "x : undefined", "Local : y"]⟩, ⟨"B", 4, []⟩] := by
  obtain ⟨-, hiff, hlists⟩ := renderText_lines {} plainText
  have hfeed : ∀ header ∈ foundHeaders plainText, '\n' ∉ header.parameters.toList := by
    rw [foundHeaders_eq]
    decide +kernel
  have hlines := hiff.mpr (hlists hfeed)
  refine ⟨hlines, hlines.read.trans (congrArg some ?_)⟩
  rw [run_default, headers_default]
  decide +kernel

/-- A parameter list with a comment in it, which becomes part of the second parameter. -/
def commentedList : List Char := "Function A(x, // unit : hour\n  nY as Numeric)\n".toList

/-- Three parameters on one line. -/
def plainList : List Char := "Function A(x, // unit as hour, nY as Numeric)\n".toList

/-- Where a parameter goes over two lines there are too many lines, and the outline cannot be told
    from that of other parameters. -/
theorem not_oneLineEach :
    ¬ OneLineEach ((defaultExtractor {}).run commentedList) ∧
      renderText (ofFunctions ((defaultExtractor {}).run commentedList)) =
        renderText (ofFunctions ((defaultExtractor {}).run plainList)) ∧
      ((defaultExtractor {}).run commentedList).map Entry.ofFunction ≠
        ((defaultExtractor {}).run plainList).map Entry.ofFunction := by
  refine ⟨fun h => ?_, ?_, ?_⟩
  · have hcount := h.count
    rw [run_default, headers_default] at hcount
    exact absurd hcount (by decide +kernel)
  · apply String.toList_inj.mp
    rw [toList_renderText, toList_renderText, run_default, run_default, headers_default,
      headers_default]
    decide +kernel
  · intro hentries
    have hcount := congrArg (List.map (fun entry => entry.labels.length)) hentries
    rw [run_default, run_default, headers_default, headers_default] at hcount
    exact absurd hcount (by decide +kernel)

end Outline

end ProgramOutline
