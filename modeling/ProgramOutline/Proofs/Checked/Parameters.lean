import ProgramOutline.Proofs.Separator
import ProgramOutline.Proofs.Text.Checked

/-!
# Parameters with checked slices

A parameter with a declared type is cut at two offsets, before and after its separator. They are
offsets in the text that is searched for the separator, but the slices are those of the parameter.

Results:
* `checkedDeclaredType?_eq`: the slices at the separator are in order.
* `checkedParse_eq`: no slice of a parameter list is at fault.
-/

namespace ProgramOutline.Parameters

/-- The name and the declared type of a parameter, cut at the place where the separator is found. -/
def checkedDeclaredType? (mode : SeparatorCase) (token : List Char) :
    Except Fault (Option (List Char × List Char)) :=
  match Text.find? separator (searched mode token) with
  | none => return none
  | some position =>
    if position = 0 then return none
    else do
      let name ← Text.checkedSlice token 0 position
      let type ← Text.checkedSlice token (position + Text.byteLength separator)
        (Text.byteLength token)
      return some (name, type)

/-- The parameter that a text stands for. -/
def checkedParameter (options : TypingOptions) (token : List Char) : Except Fault Parameter := do
  match ← checkedDeclaredType? options.separator token with
  | some (name, type) =>
    return ⟨String.ofList (Text.trim name), some (.ofName (String.ofList (Text.trim type)))⟩
  | none => return ⟨String.ofList token, inferredType options.fallback token⟩

/-- The parameters in a list. -/
def checkedParse (options : TypingOptions) (list : List Char) : Except Fault (List Parameter) :=
  (tokens list).mapM (checkedParameter options)

/-- The slices at the separator are in order. -/
theorem checkedDeclaredType?_eq (mode : SeparatorCase) (token : List Char) :
    checkedDeclaredType? mode token = .ok (declaredType? mode token) := by
  rw [checkedDeclaredType?, declaredType?, find?_searched]
  rcases hcut : cutAtSeparator? mode token with - | ⟨name, type⟩
  · rfl
  · obtain ⟨sep, rfl, hsep⟩ := cutAtSeparator?_split hcut
    rcases name with - | ⟨c, name⟩
    · rfl
    · have hne : Text.byteLength (c :: name) ≠ 0 := mt Text.byteLength_eq_zero.mp (by simp)
      have hname : Text.checkedSlice (c :: name ++ sep ++ type) 0 (Text.byteLength (c :: name)) =
          .ok (c :: name) := by
        rw [List.append_assoc]
        exact Text.checkedSlice_before _ _
      have htype : Text.checkedSlice (c :: name ++ sep ++ type)
          (Text.byteLength (c :: name) + Text.byteLength separator)
          (Text.byteLength (c :: name ++ sep ++ type)) = .ok type := by
        rw [← hsep, ← Text.byteLength_append]
        exact Text.checkedSlice_after _ _
      rw [Option.map_some]
      dsimp only
      rw [if_neg hne, hname, htype]
      rfl

theorem checkedParameter_eq (options : TypingOptions) (token : List Char) :
    checkedParameter options token = .ok (parameter options token) := by
  rw [checkedParameter, checkedDeclaredType?_eq, parameter]
  rcases declaredType? options.separator token with - | ⟨name, type⟩ <;> rfl

/-- No slice of a parameter list is at fault. -/
theorem checkedParse_eq (options : TypingOptions) (list : List Char) :
    checkedParse options list = .ok (parse options list) :=
  mapM_eq_map (fun token _ => checkedParameter_eq options token)

end ProgramOutline.Parameters
