import ProgramOutline.Proofs.Checked.Parameters
import ProgramOutline.Proofs.Ownership
import ProgramOutline.Proofs.Regex.Succession

/-!
# Extraction with checked offsets

All that is cut out of a text is cut at byte offsets: headers and groups at those of a match, bodies
at those of a header and a return line, and what follows an empty match at its end. Here the
extraction is written out with a check at each of these places. No check fails, whatever the rules,
the options and the text are, so the offsets are in order wherever the text is cut, and no search
starts beyond the end of a text.

Results:
* `checkedScanHeaders_eq`: headers are found without a fault.
* `BodySpan.Sound`: the order of the offsets of a body; `findBody_sound`.
* `checkedScanVariables_eq`: the variables of a sound body are found without a fault.
* `Extractor.checkedRun_eq`: the functions of a text are found without a fault.
* `run_faultless`: this, and that all bodies are sound.
-/

namespace ProgramOutline

open Regex Grammar

/-! ## Groups and headers -/

/-- The text of a group that took part in a match. -/
def Regex.Match.checkedGroupText? (m : Match) (text : List Char) (index : Nat) :
    Except Fault (Option (List Char)) :=
  match m.group? index with
  | none => return none
  | some span => do return some (← Text.checkedSlice text span.start span.stop)

/-- The header that a match of a function rule describes, unless it has no name. -/
def Header.checkedOfMatch? (text : List Char) (m : Match) : Except Fault (Option Header) := do
  match (← m.checkedGroupText? text 2).map Text.trim with
  | none => return none
  | some name =>
    if name.isEmpty then return none
    else
      let qualifier := (← m.checkedGroupText? text 1).map Text.trim
      let parameters ← m.checkedGroupText? text 3
      let matched ← Text.checkedSlice text m.span.start m.span.stop
      return some {
        qualifier := (qualifier.filter (fun q => !q.isEmpty)).map String.ofList
        name := String.ofList name
        parameters := String.ofList (parameters.getD [])
        offset := m.span.start + Text.byteLength (matched.takeWhile Text.isBlank)
        stop := m.span.stop }

/-- The headers that a rule finds in a text, in order. -/
def checkedScanHeaders (rule : Pattern) (text : List Char) : Except Fault (List Header) := do
  return (← (rule.findAll text).mapM (Header.checkedOfMatch? text)).filterMap id

theorem checkedSlice_of_lies {span : Span} {text : List Char} (h : span.Lies 0 text) :
    Text.checkedSlice text span.start span.stop = .ok (Text.slice text span.start span.stop) := by
  obtain ⟨before, taken, after, rfl, hstart, hstop⟩ := h
  rw [Nat.zero_add] at hstart
  rw [Text.checkedSlice_append before taken after hstart hstop,
    Text.slice_append before taken after hstart hstop]

theorem checkedGroupText?_eq {m : Match} {text : List Char} (h : m.Lies 0 text) (index : Nat) :
    m.checkedGroupText? text index = .ok (m.groupText? text index) := by
  rw [Match.checkedGroupText?, Match.groupText?]
  rcases hgroup : m.group? index with - | span
  · rfl
  · dsimp only
    rw [checkedSlice_of_lies (h.group hgroup)]
    rfl

theorem Header.checkedOfMatch?_eq {text : List Char} {m : Match} (h : m.Lies 0 text) :
    Header.checkedOfMatch? text m = .ok (Header.ofMatch? text m) := by
  rw [Header.checkedOfMatch?, Header.ofMatch?]
  simp only [checkedGroupText?_eq h, checkedSlice_of_lies h.span]
  rcases m.groupText? text 2 with - | group
  · rfl
  · change (if (Text.trim group).isEmpty then _ else _) =
      Except.ok (if (Text.trim group).isEmpty then _ else _)
    split <;> rfl

theorem checkedScanHeaders_eq (rule : Pattern) (text : List Char) :
    checkedScanHeaders rule text = .ok (scanHeaders rule text) := by
  have hmap : (rule.findAll text).mapM (Header.checkedOfMatch? text) =
      .ok ((rule.findAll text).map (Header.ofMatch? text)) :=
    mapM_eq_map (fun m hm => Header.checkedOfMatch?_eq (Pattern.mem_findAll hm))
  rw [checkedScanHeaders, hmap, scanHeaders]
  change Except.ok _ = _
  rw [List.filterMap_map]
  rfl

/-! ## Bodies -/

/-- The body of the function whose header lies between `start` and `headerStop`. The search for its
    end starts where the header ends, provided that this lies in the text. -/
def checkedFindBody (text : List Char) (start headerStop : Nat) (limit : Option Nat) :
    Except Fault (Option BodySpan) :=
  if Text.byteLength text < headerStop ∨ headerStop < start then return none
  else do
    Text.checkedStart text headerStop
    return findBody text start headerStop limit

theorem checkedFindBody_eq (text : List Char) (start headerStop : Nat) (limit : Option Nat) :
    checkedFindBody text start headerStop limit = .ok (findBody text start headerStop limit) := by
  rw [checkedFindBody]
  split
  · rename_i houtside
    rw [findBody, if_pos houtside]
    rfl
  · rw [Text.checkedStart_of_le (by omega)]
    rfl

/-- The offsets of a body are boundaries of the text and in order, and the body ends with a return
    line, the first one after the header. -/
structure BodySpan.Sound (body : BodySpan) (text : List Char) : Prop where
  start_boundary : Text.isBoundary body.start text = true
  bodyStart_boundary : Text.isBoundary body.bodyStart text = true
  stop_boundary : Text.isBoundary body.stop text = true
  start_le : body.start ≤ body.bodyStart
  returnLine : ∃ m, Regex.returnLine.plain.findFrom text body.bodyStart = some m ∧
    body.bodyStart ≤ m.span.start ∧ m.span.start < body.stop ∧ m.span.stop = body.stop
  stop_le : body.stop ≤ Text.byteLength text

/-- A body is sound if its header starts and ends at boundaries of the text. -/
theorem findBody_sound {text : List Char} {start headerStop : Nat} {limit : Option Nat}
    (hstart : Text.isBoundary start text = true) (hstop : Text.isBoundary headerStop text = true)
    {body : BodySpan} (h : findBody text start headerStop limit = some body) : body.Sound text := by
  obtain ⟨hle, offset, line, hfirst, -, rfl⟩ := findBody_eq_some h
  obtain ⟨before, rest, rfl, rfl, hafter⟩ := firstReturn?_split hfirst
  have hpos := firstReturn?_pos hfirst
  rw [← Text.byteLength_append]
  refine ⟨hstart, hstop, Text.isBoundary_byteLength .., hle, ⟨line.toMatch _, ?_, hafter, ?_, ?_⟩,
    ?_⟩
  · dsimp only
    rw [findFrom_returnLine, hfirst]
    rfl
  · rw [Text.byteLength_append]
    exact Nat.lt_add_of_pos_right hpos
  · exact (Text.byteLength_append ..).symm
  · dsimp only
    rw [Text.byteLength_append (before ++ line.text)]
    exact Nat.le_add_right ..

/-- A sound body can be cut out of the text. -/
theorem BodySpan.Sound.text?_isSome {body : BodySpan} {text : List Char} (h : body.Sound text) :
    (body.text? text).isSome := by
  obtain ⟨m, -, hle, hlt, -⟩ := h.returnLine
  have horder : body.start ≤ body.stop := by
    have := h.start_le
    omega
  simp [text?, h.start_boundary, h.stop_boundary, horder]

/-! ## Variables -/

/-- The variable that a match of the variable rule declares, unless it has no name. -/
def Variable.checkedOfMatch? (text : List Char) (m : Match) : Except Fault (Option Variable) := do
  match (← m.checkedGroupText? text 2).map Text.trim with
  | none => return none
  | some name =>
    if name.isEmpty then return none
    else
      let scope := (← m.checkedGroupText? text 1).map Text.trim
      return some ⟨String.ofList (scope.getD []), String.ofList name⟩

/-- Where the search for variables goes on after a match. After an empty match it is one character
    later, which is looked for in what follows the match. -/
def checkedResumeAt (visible : List Char) (m : Match) : Except Fault Nat :=
  if m.span.start < m.span.stop then return m.span.stop
  else do
    match ← Text.checkedSlice visible m.span.stop (Text.byteLength visible) with
    | [] => return Text.byteLength visible + 1
    | c :: _ => return m.span.stop + c.utf8Size

/-- The variables that successive searches declare, the first of which starts at `start`. They end
    with a search that finds nothing, or when the next one would start beyond the end of the
    text. -/
def checkedVariables (visible : List Char) (found : List Match) (start : Nat) :
    Except Fault (List Variable) :=
  if Text.byteLength visible < start then return []
  else do
    Text.checkedStart visible start
    match found with
    | [] => return []
    | m :: rest =>
      let declared ← Variable.checkedOfMatch? visible m
      let next ← checkedResumeAt visible m
      return declared.toList ++ (← checkedVariables visible rest next)

/-- The variables declared in a body. The text after the body is cut off. -/
def checkedScanVariables (rule : Pattern) (text : List Char) (body : BodySpan) :
    Except Fault (List Variable) := do
  let visible ← Text.checkedSlice text 0 body.stop
  checkedVariables visible (rule.declarations visible body.bodyStart) body.bodyStart

theorem Variable.checkedOfMatch?_eq {text : List Char} {m : Match} (h : m.Lies 0 text) :
    Variable.checkedOfMatch? text m = .ok (Variable.ofMatch? text m) := by
  rw [Variable.checkedOfMatch?, Variable.ofMatch?]
  simp only [checkedGroupText?_eq h]
  rcases m.groupText? text 2 with - | group
  · rfl
  · change (if (Text.trim group).isEmpty then _ else _) =
      Except.ok (if (Text.trim group).isEmpty then _ else _)
    split <;> rfl

/-- What follows a match is cut out without a fault. -/
theorem checkedResumeAt_eq {visible : List Char} {m : Match} (h : m.Lies 0 visible) :
    checkedResumeAt visible m = .ok (resumeAt visible m) := by
  obtain ⟨before, taken, after, rfl, hstart, hstop⟩ := h.span
  have hlength : m.span.stop = Text.byteLength (before ++ taken) := by
    rw [hstop, hstart, Nat.zero_add, Text.byteLength_append]
  rw [checkedResumeAt, resumeAt, hlength, Text.checkedSlice_after, Text.dropBytes_byteLength]
  split
  · rfl
  · cases after <;> rfl

/-- Searches for matches in succession declare the variables of all of them: as long as there is a
    match to be found, no search starts beyond the end of the text. -/
theorem checkedVariables_eq {visible : List Char} {found : List Match} {start : Nat}
    (h : InSuccession visible start found) :
    checkedVariables visible found start = .ok (found.filterMap (Variable.ofMatch? visible)) := by
  induction found generalizing start with
  | nil =>
    rw [checkedVariables]
    split
    · rfl
    · rw [Text.checkedStart_of_le (by omega)]
      rfl
  | cons m rest ih =>
    obtain ⟨hle, hlies, hrest⟩ := h
    have hinside : start ≤ Text.byteLength visible := by
      obtain ⟨before, taken, after, rfl, hstart, -⟩ := hlies
      simp only [Text.byteLength_append]
      omega
    rw [checkedVariables, if_neg (by omega), Text.checkedStart_of_le hinside,
      Variable.checkedOfMatch?_eq hlies, checkedResumeAt_eq hlies]
    change (do return _ ++ (← checkedVariables visible rest (resumeAt visible m))) = _
    rw [ih hrest]
    cases hvariable : Variable.ofMatch? visible m <;> simp [hvariable]

/-- No slice of a body that ends at a boundary is at fault, nor is a search. -/
theorem checkedScanVariables_eq (rule : Pattern) {text : List Char} {body : BodySpan}
    (h : Text.isBoundary body.stop text = true) :
    checkedScanVariables rule text body =
      .ok (scanVariables rule text body.bodyStart body.stop) := by
  obtain ⟨visible, hidden, rfl, hstop⟩ := Text.isBoundary_iff.mp h
  rw [checkedScanVariables, scanVariables, hstop, Text.checkedSlice_before,
    Text.takeBytes_byteLength]
  exact checkedVariables_eq (rule.declarations_inSuccession visible body.bodyStart)

/-- A body that ends inside of a character is at fault. -/
example : checkedScanVariables variablePattern "é".toList ⟨0, 0, 1⟩ = .error (.slice 0 1) := rfl

/-! ## Headers lie between boundaries -/

/-- A header starts after the blanks in front of it and ends with its match. -/
theorem Header.ofMatch?_boundary {text : List Char} {m : Match} {header : Header}
    (hlies : m.Lies 0 text) (h : Header.ofMatch? text m = some header) :
    Text.isBoundary header.offset text = true ∧ Text.isBoundary header.stop text = true := by
  obtain ⟨before, taken, after, htext, hstart, hstop⟩ := hlies.span
  rw [Nat.zero_add] at hstart
  have hmatched : Text.slice text m.span.start m.span.stop = taken := by
    rw [htext]
    exact Text.slice_append before taken after hstart hstop
  simp only [Header.ofMatch?, hmatched, Option.bind_eq_bind, Option.bind_eq_some_iff,
    Option.ite_none_left_eq_some, Option.pure_def, Option.some.injEq] at h
  obtain ⟨-, -, -, rfl⟩ := h
  refine ⟨Text.isBoundary_iff.mpr ⟨before ++ taken.takeWhile Text.isBlank,
    taken.dropWhile Text.isBlank ++ after, ?_, ?_⟩, hlies.span.boundary.2⟩
  · rw [htext, List.append_assoc, List.append_assoc, ← List.append_assoc (List.takeWhile _ _),
      List.takeWhile_append_dropWhile]
  · dsimp only
    rw [hstart, Text.byteLength_append]

/-- The headers of all rules start and end at boundaries of the text. -/
theorem boundary_of_mem_headers {rules : Rules} {text : List Char} {found : FunctionRule × Header}
    (h : found ∈ Extractor.headers rules text) :
    Text.isBoundary found.2.offset text = true ∧ Text.isBoundary found.2.stop text = true := by
  obtain ⟨⟨rule, pattern⟩, -, hfound⟩ := List.mem_flatMap.mp h
  obtain ⟨header, hheader, rfl⟩ := List.mem_map.mp hfound
  obtain ⟨m, hm, hheader⟩ := List.mem_filterMap.mp hheader
  exact Header.ofMatch?_boundary (Pattern.mem_findAll hm) hheader

/-! ## Whole texts -/

namespace Extractor

/-- The headers that each function rule finds. -/
def checkedHeaders (rules : Rules) (text : List Char) :
    Except Fault (List (FunctionRule × Header)) := do
  let groups ← rules.functionRules.mapM (fun (rule, pattern) => do
    return (← checkedScanHeaders pattern text).map (fun header => (rule, header)))
  return groups.flatten

/-- The variables of a function, given the offsets of all functions. -/
def checkedVariablesOf (rules : Rules) (text : List Char) (offsets : Array Nat)
    (header : Header) : Except Fault (List Variable) :=
  match rules.vars with
  | none => return []
  | some rule => do
    match ← checkedFindBody text header.offset header.stop
        (Ascending.above? offsets header.offset) with
    | none => return []
    | some body => checkedScanVariables rule text body

/-- The functions of a text. -/
def checkedRun (extractor : Extractor) (text : List Char) :
    Except Fault (List FunctionSymbol) := do
  let found ← checkedHeaders extractor.rules text
  let offsets := declarations found
  let lines := LineIndex.ofText text
  found.mapM (fun (rule, header) => do
    let parameters ← Parameters.checkedParse extractor.options header.parameters.toList
    let vars ← checkedVariablesOf extractor.rules text offsets header
    return {
      id := identity rule header.name header.offset
      kind := .function
      name := header.name
      qualifier := header.qualifier
      rule
      parameters
      vars
      line := lines.lineOf header.offset
      offset := header.offset })

theorem checkedHeaders_eq (rules : Rules) (text : List Char) :
    checkedHeaders rules text = .ok (headers rules text) := by
  have hgroups : rules.functionRules.mapM (fun (rule, pattern) => do
      return (← checkedScanHeaders pattern text).map (fun header => (rule, header))) =
      .ok (rules.functionRules.map (fun (rule, pattern) =>
        (scanHeaders pattern text).map (fun header => (rule, header)))) := by
    apply mapM_eq_map
    rintro ⟨rule, pattern⟩ -
    dsimp only
    rw [checkedScanHeaders_eq]
    rfl
  rw [checkedHeaders, hgroups, headers, List.flatMap_def]
  rfl

theorem checkedVariablesOf_eq {rules : Rules} {text : List Char} (offsets : Array Nat)
    {found : FunctionRule × Header} (h : found ∈ headers rules text) :
    checkedVariablesOf rules text offsets found.2 =
      .ok (variablesOf rules text offsets found.2) := by
  obtain ⟨hstart, hstop⟩ := boundary_of_mem_headers h
  rw [checkedVariablesOf, variablesOf]
  rcases rules.vars with - | rule
  · rfl
  · dsimp only
    rw [checkedFindBody_eq]
    rcases hbody : findBody text found.2.offset found.2.stop
      (Ascending.above? offsets found.2.offset) with - | body
    · rfl
    · exact checkedScanVariables_eq rule (findBody_sound hstart hstop hbody).stop_boundary

theorem checkedRun_eq (extractor : Extractor) (text : List Char) :
    extractor.checkedRun text = .ok (extractor.run text) := by
  rw [checkedRun, checkedHeaders_eq, run]
  apply mapM_eq_map
  intro found hfound
  dsimp only
  rw [Parameters.checkedParse_eq, checkedVariablesOf_eq _ hfound]
  rfl

end Extractor

/-- The variables of the first function with the given name. -/
def checkedScanVariablesOf (rule : Pattern) (text name : List Char) :
    Except Fault (List Variable) :=
  let header := Regex.headerOf name
  if header.fits then do
    Text.checkedStart text 0
    match header.plain.findFrom text 0 with
    | none => return []
    | some m =>
      match ← checkedFindBody text m.span.start m.span.stop none with
      | none => return []
      | some body => checkedScanVariables rule text body
  else return []

/-- The body of a header that is looked up by name is sound. -/
theorem findBody_headerOf {text name : List Char} {m : Match}
    (h : (Regex.headerOf name).plain.findFrom text 0 = some m) {body : BodySpan}
    (hbody : findBody text m.span.start m.span.stop none = some body) : body.Sound text := by
  obtain ⟨hstart, hstop⟩ := (Tree.lies_of_findFrom h).span.boundary
  exact findBody_sound hstart hstop hbody

theorem checkedScanVariablesOf_eq (rule : Pattern) (text name : List Char) :
    checkedScanVariablesOf rule text name = .ok (scanVariablesOf rule text name) := by
  rw [checkedScanVariablesOf, scanVariablesOf, Text.checkedStart_of_le (Nat.zero_le _)]
  split
  · rcases hheader : (Regex.headerOf name).plain.findFrom text 0 with - | m
    · rfl
    · change (do match ← checkedFindBody text m.span.start m.span.stop none with
        | none => return []
        | some body => checkedScanVariables rule text body) = _
      rw [checkedFindBody_eq]
      dsimp only
      rcases hbody : findBody text m.span.start m.span.stop none with - | body
      · rfl
      · exact checkedScanVariables_eq rule (findBody_headerOf hheader hbody).stop_boundary
  · rfl

/-- **Extraction is never at fault.** Whatever the rules, the options and the text are, every slice
    starts and ends at boundaries of the text in order and every search starts in the text; the
    bodies of all headers, and of one that is looked up by name, are sound and can be cut out. -/
theorem run_faultless (extractor : Extractor) (text : List Char) :
    extractor.checkedRun text = .ok (extractor.run text) ∧
      (∀ found ∈ Extractor.headers extractor.rules text, ∀ limit,
        ∀ body ∈ findBody text found.2.offset found.2.stop limit,
          body.Sound text ∧ (body.text? text).isSome) ∧
      ∀ rule name, checkedScanVariablesOf rule text name = .ok (scanVariablesOf rule text name) ∧
        ∀ m ∈ (Regex.headerOf name).plain.findFrom text 0,
          ∀ body ∈ findBody text m.span.start m.span.stop none,
            body.Sound text ∧ (body.text? text).isSome := by
  refine ⟨extractor.checkedRun_eq text, ?_, ?_⟩
  · intro found hfound limit body hbody
    obtain ⟨hstart, hstop⟩ := boundary_of_mem_headers hfound
    have hsound : body.Sound text := findBody_sound hstart hstop hbody
    exact ⟨hsound, hsound.text?_isSome⟩
  · intro rule name
    refine ⟨checkedScanVariablesOf_eq rule text name, fun m hm body hbody => ?_⟩
    have hsound : body.Sound text := findBody_headerOf hm hbody
    exact ⟨hsound, hsound.text?_isSome⟩

end ProgramOutline
