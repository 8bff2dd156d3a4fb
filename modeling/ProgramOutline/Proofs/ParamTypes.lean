import Mathlib.Tactic
import ProgramOutline.Symbol.Basic

/-!
# Types and their texts

Results:
* `name_ofName`: reading a text as a type loses nothing.
* `eq_of_ofName_eq_named`: a type that is named otherwise has the name that was read.
* `proper_iff`: the text of a type determines it, unless it is named like a conventional one; no
  such type comes from reading a text (`not_mem_vocabulary`).
-/

namespace ProgramOutline.ParamType

theorem name_ofName (name : String) : (ofName name).name = name := by
  unfold ofName
  split <;> rfl

theorem eq_of_ofName_eq_named {text name : String} (h : ofName text = .named name) :
    name = text := by
  have hname := name_ofName text
  rw [h] at hname
  exact hname

/-- The texts of the conventional types. -/
def vocabulary : List String :=
  ["character", "numeric", "logical", "array", "date", "object", "json", "undefined"]

theorem not_mem_vocabulary {text name : String} (h : ofName text = .named name) :
    name ∉ vocabulary := by
  rw [eq_of_ofName_eq_named h]
  intro hmem
  simp only [vocabulary, List.mem_cons, List.not_mem_nil, or_false] at hmem
  rcases hmem with rfl | rfl | rfl | rfl | rfl | rfl | rfl | rfl <;> cases h

theorem ofName_eq_named {name : String} (h : name ∉ vocabulary) : ofName name = .named name := by
  unfold ofName
  split
  case h_9 => rfl
  all_goals exact absurd (by decide) h

theorem proper_iff (t : ParamType) : t.Proper ↔ ∀ name, t = .named name → name ∉ vocabulary := by
  constructor
  · rintro h name rfl
    exact not_mem_vocabulary h
  · intro h
    cases t with
    | named name => exact ofName_eq_named (h name rfl)
    | _ => rfl

theorem ofName_name {t : ParamType} (h : ∀ name, t = .named name → name ∉ vocabulary) :
    ofName t.name = t := (proper_iff t).mpr h

/-- By its first letter a parameter has a conventional type. -/
theorem ofInitial?_ne_named (c : Char) (name : String) : ofInitial? c ≠ some (.named name) := by
  unfold ofInitial?
  split <;> simp

end ProgramOutline.ParamType
