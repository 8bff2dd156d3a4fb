import ProgramOutline.Proofs.Ascending
import ProgramOutline.Proofs.DefaultVariables
import ProgramOutline.Proofs.Grammar.Return
import ProgramOutline.Proofs.HeaderOrder
import ProgramOutline.Proofs.Text.Lines

/-!
# Which function a variable belongs to

A function owns the variables between its header and the first return line after it, unless another
function of any rule is declared in between. The extractor asks for the next declaration by
bisection in the sorted offsets; `ownVariables` looks through all headers instead.

Results:
* `header_bounds_of_mem`: the headers of all rules lie in the text.
* `findBody_eq`: a body ends at the first return line if the limit lies beyond it.
* `run_eq_map`: the functions of a text, one for each header.
* `run_ownVariables`: the variables of every function are the ones it owns.
-/

namespace ProgramOutline

open Regex Grammar

/-! ## Headers lie in the text -/

theorem header_bounds_of_mem {rules : Rules} {text : List Char} {found : FunctionRule × Header}
    (h : found ∈ Extractor.headers rules text) :
    found.2.offset ≤ found.2.stop ∧ found.2.stop ≤ Text.byteLength text := by
  obtain ⟨⟨rule, pattern⟩, -, hfound⟩ := List.mem_flatMap.mp h
  obtain ⟨header, hheader, rfl⟩ := List.mem_map.mp hfound
  exact header_bounds hheader

/-! ## Bodies -/

/-- The body of a header that lies in the text: it ends at the first return line, unless the limit
    comes first. -/
theorem findBody_eq {text : List Char} {start headerStop : Nat} {limit : Option Nat}
    (hle : start ≤ headerStop) (hlength : headerStop ≤ Text.byteLength text) :
    findBody text start headerStop limit =
      match firstReturn? text headerStop with
      | none => none
      | some (offset, line) =>
        if limit.any (· ≤ offset) then none
        else some ⟨start, headerStop, offset + Text.byteLength line.text⟩ := by
  have hinside : ¬ (Text.byteLength text < headerStop ∨ headerStop < start) := by omega
  rw [findBody, if_neg hinside, findFrom_returnLine]
  cases firstReturn? text headerStop with
  | none => rfl
  | some found => rfl

/-- A body ends with the first return line after its header, which the limit does not come before. -/
theorem findBody_eq_some {text : List Char} {start headerStop : Nat} {limit : Option Nat}
    {body : BodySpan} (h : findBody text start headerStop limit = some body) :
    start ≤ headerStop ∧ ∃ offset line, firstReturn? text headerStop = some (offset, line) ∧
      ¬ limit.any (· ≤ offset) = true ∧
      body = ⟨start, headerStop, offset + Text.byteLength line.text⟩ := by
  by_cases hinside : headerStop ≤ Text.byteLength text ∧ start ≤ headerStop
  · rw [findBody_eq hinside.2 hinside.1] at h
    rcases hfirst : firstReturn? text headerStop with - | ⟨offset, line⟩
    · rw [hfirst] at h
      cases h
    · simp only [hfirst, Option.ite_none_left_eq_some, Option.some.injEq] at h
      exact ⟨hinside.2, offset, line, rfl, h.1, h.2.symm⟩
  · rw [findBody, if_pos (by omega)] at h
    cases h

/-! ## Ownership -/

/-- A function is declared after `offset` and not after `stop`. -/
def DeclaredBetween (found : List (FunctionRule × Header)) (offset stop : Nat) : Prop :=
  ∃ other ∈ found, offset < other.2.offset ∧ other.2.offset ≤ stop

instance (found : List (FunctionRule × Header)) (offset stop : Nat) :
    Decidable (DeclaredBetween found offset stop) :=
  inferInstanceAs (Decidable (∃ other ∈ found, offset < other.2.offset ∧ other.2.offset ≤ stop))

/-- The variables of a header, given all headers of the text: those up to the end of the first
    return line, if there is one and no function is declared in between. -/
def ownVariables (rule : Pattern) (text : List Char) (found : List (FunctionRule × Header))
    (header : Header) : List Variable :=
  match firstReturn? text header.stop with
  | none => []
  | some (offset, line) =>
    if DeclaredBetween found header.offset offset then []
    else scanVariables rule text header.stop (offset + Text.byteLength line.text)

/-- The next declaration in the sorted offsets is too early exactly if some declaration is. -/
theorem any_above?_declarations (found : List (FunctionRule × Header)) (offset stop : Nat) :
    (Ascending.above? (Extractor.declarations found) offset).any (· ≤ stop) = true ↔
      DeclaredBetween found offset stop := by
  rw [Extractor.declarations, Ascending.any_above?_ofList]
  constructor
  · rintro ⟨n, hn, hlt, hle⟩
    obtain ⟨other, hother, rfl⟩ := List.mem_map.mp hn
    exact ⟨other, hother, hlt, hle⟩
  · rintro ⟨other, hother, hlt, hle⟩
    exact ⟨other.2.offset, List.mem_map.mpr ⟨other, hother, rfl⟩, hlt, hle⟩

theorem variablesOf_eq {rules : Rules} {rule : Pattern} (hrule : rules.vars = some rule)
    {text : List Char} {header : Header} (found : List (FunctionRule × Header))
    (hle : header.offset ≤ header.stop) (hlength : header.stop ≤ Text.byteLength text) :
    Extractor.variablesOf rules text (Extractor.declarations found) header =
      ownVariables rule text found header := by
  rw [Extractor.variablesOf, hrule, findBody_eq hle hlength, ownVariables]
  rcases firstReturn? text header.stop with - | ⟨offset, line⟩
  · rfl
  · have hlimit := any_above?_declarations found header.offset offset
    by_cases hbetween : DeclaredBetween found header.offset offset
    · dsimp only
      rw [if_pos (hlimit.mpr hbetween), if_pos hbetween]
    · dsimp only
      rw [if_neg (mt hlimit.mp hbetween), if_neg hbetween]

/-- The function of a header, its variables found by a search through all headers and its line by
    counting. -/
def Extractor.symbolOf (extractor : Extractor) (rule : Pattern) (text : List Char)
    (found : FunctionRule × Header) : FunctionSymbol where
  id := identity found.1 found.2.name found.2.offset
  kind := .function
  name := found.2.name
  qualifier := found.2.qualifier
  rule := found.1
  parameters := Parameters.parse extractor.options found.2.parameters.toList
  vars := ownVariables rule text (headers extractor.rules text) found.2
  line := Text.lineOf text found.2.offset
  offset := found.2.offset

/-- Sorting, bisecting and indexing lines give what the naive searches give. -/
theorem run_eq_map (extractor : Extractor) {rule : Pattern}
    (hrule : extractor.rules.vars = some rule) (text : List Char) :
    extractor.run text =
      (Extractor.headers extractor.rules text).map (extractor.symbolOf rule text) := by
  unfold Extractor.run
  apply List.map_congr_left
  intro found hfound
  obtain ⟨hle, hlength⟩ := header_bounds_of_mem hfound
  dsimp only
  rw [variablesOf_eq hrule _ hle hlength, LineIndex.lineOf_ofText]
  rfl

/-- Each function of a text stands for one header, and its variables are the ones that this header
    owns among all headers of all rules. -/
theorem run_ownVariables (extractor : Extractor) {rule : Pattern}
    (hrule : extractor.rules.vars = some rule) (text : List Char) :
    List.Forall₂
      (fun found symbol => symbol.offset = found.2.offset ∧
        symbol.vars =
          ownVariables rule text (Extractor.headers extractor.rules text) found.2)
      (Extractor.headers extractor.rules text) (extractor.run text) := by
  rw [run_eq_map extractor hrule, List.forall₂_map_right_iff, List.forall₂_same]
  intro found _
  exact ⟨rfl, rfl⟩

/-- A function without an end before one that has a variable. -/
def unterminated : List Char := "Function A()\nFunction B()\nLocal x\nReturn".toList

theorem run_ownVariables_unterminated :
    (Rules.compile {}).vars = some variablePattern ∧
      List.Forall₂
        (fun found symbol => symbol.offset = found.2.offset ∧
          symbol.vars =
            ownVariables variablePattern unterminated
              (Extractor.headers (Rules.compile {}) unterminated) found.2)
        (Extractor.headers (Rules.compile {}) unterminated)
        (Extractor.run ⟨Rules.compile {}, {}⟩ unterminated) := by
  exact ⟨Rules.vars_default,
    run_ownVariables ⟨Rules.compile {}, {}⟩ Rules.vars_default unterminated⟩

end ProgramOutline
