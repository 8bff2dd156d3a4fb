import ProgramOutline.Extract
import ProgramOutline.Proofs.Text.Excerpt

/-!
# Broken rules

Rules are compiled in two ways: one stops at the first broken rule, the other leaves broken rules
out. Both go by the same verdict on each text, so they agree where no rule is broken, and a broken
rule takes nothing with it but itself.

Results:
* `compileRule_eq_none_iff`, `compileRule_eq_some_iff`, `compileRule_eq_error_iff`: the verdict on a
  text for a place.
* `compileAll_eq`: strict compilation gives the error of the first broken rule, or what lenient
  compilation gives.
* `compile_isolates`: the two ways of compiling for all configurations.
-/

namespace ProgramOutline

/-! ## What a text is worth -/

/-- Nothing but blanks. -/
def Text.Blank (text : String) : Prop := ∀ c ∈ text.toList, isBlank c = true

namespace RuleSlot

/-- There is no text for the place, or a blank one. -/
def Unused (text : Option String) : Prop := ∀ source ∈ text, Text.Blank source

/-- The text is not blank, and it is this pattern, which has the groups that the place asks for. -/
def Gives (slot : RuleSlot) (text : Option String) (pattern : Regex.Pattern) : Prop :=
  ∃ source ∈ text, ¬ Text.Blank source ∧ Regex.compile? source = some pattern ∧
    slot.groups ≤ pattern.groups

/-- The text is absent, blank, or a pattern with enough groups. -/
def Sound (slot : RuleSlot) (text : Option String) : Prop :=
  ∀ source ∈ text, Text.Blank source ∨
    ∃ pattern, Regex.compile? source = some pattern ∧ slot.groups ≤ pattern.groups

/-- What is wrong with a text: it is not a pattern, or one with fewer groups than the place asks
    for. -/
inductive Fault (slot : RuleSlot) (text : Option String) : RuleError → Prop
  | malformed (source : String) (htext : text = some source) (hink : ¬ Text.Blank source)
      (hcompile : Regex.compile? source = none) : Fault slot text (.malformed slot)
  | missingGroups (source : String) (htext : text = some source) (hink : ¬ Text.Blank source)
      (pattern : Regex.Pattern) (hcompile : Regex.compile? source = some pattern)
      (hfew : pattern.groups < slot.groups) : Fault slot text (.missingGroups slot pattern.groups)

theorem mem_all (slot : RuleSlot) : slot ∈ all := by
  rcases slot with (_ | _ | _) | _ <;> decide

end RuleSlot

theorem Text.trim_eq_nil_iff {text : String} : trim text.toList = [] ↔ Blank text := by
  constructor
  · intro h c hc
    by_contra hink
    exact trim_ne_nil hc (by simpa using hink) h
  · intro h
    by_contra hne
    obtain ⟨c, hc, hink⟩ := exists_of_trim_ne_nil hne
    cases (h c hc).symm.trans hink

open RuleSlot

/-! ## The verdict on a text -/

section Verdict

variable {slot : RuleSlot} {text : Option String}

theorem ruleText?_eq_none_iff : ruleText? text = none ↔ Unused text := by
  simp only [ruleText?, Option.filter_eq_none_iff, Unused, Bool.not_eq_true', Bool.not_eq_false,
    List.isEmpty_iff, Text.trim_eq_nil_iff, Option.mem_def]

theorem ruleText?_eq_some_iff {source : String} :
    ruleText? text = some source ↔ text = some source ∧ ¬ Text.Blank source := by
  rw [ruleText?, Option.filter_eq_some_iff, Bool.not_eq_true', List.isEmpty_eq_false_iff, ne_eq,
    Text.trim_eq_nil_iff]

theorem compileRule_eq_none_iff : compileRule slot text = .ok none ↔ Unused text := by
  rw [← ruleText?_eq_none_iff, compileRule]
  split
  · rename_i hnone
    simp [hnone]
  · rename_i source hsource
    rw [hsource]
    split
    · simp
    · split <;> simp

theorem compileRule_eq_some_iff {pattern : Regex.Pattern} :
    compileRule slot text = .ok (some pattern) ↔ slot.Gives text pattern := by
  constructor
  · intro h
    unfold compileRule at h
    split at h
    · cases h
    · rename_i source hsource
      obtain ⟨htext, hink⟩ := ruleText?_eq_some_iff.mp hsource
      split at h
      · cases h
      · rename_i found hcompile
        split at h
        · cases h
        · rename_i hgroups
          cases h
          exact ⟨source, htext, hink, hcompile, not_lt.mp hgroups⟩
  · rintro ⟨source, htext, hink, hcompile, hgroups⟩
    rw [compileRule, ruleText?_eq_some_iff.mpr ⟨htext, hink⟩]
    dsimp only
    rw [hcompile]
    exact if_neg (not_lt.mpr hgroups)

theorem compileRule_eq_error_iff {error : RuleError} :
    compileRule slot text = .error error ↔ slot.Fault text error := by
  constructor
  · intro h
    unfold compileRule at h
    split at h
    · cases h
    · rename_i source hsource
      obtain ⟨htext, hink⟩ := ruleText?_eq_some_iff.mp hsource
      split at h
      · rename_i hcompile
        cases h
        exact .malformed source htext hink hcompile
      · rename_i found hcompile
        split at h
        · rename_i hfew
          cases h
          exact .missingGroups source htext hink found hcompile hfew
        · cases h
  · intro h
    cases h with
    | malformed source htext hink hcompile =>
      rw [compileRule, ruleText?_eq_some_iff.mpr ⟨htext, hink⟩]
      dsimp only
      rw [hcompile]
    | missingGroups source htext hink pattern hcompile hfew =>
      rw [compileRule, ruleText?_eq_some_iff.mpr ⟨htext, hink⟩]
      dsimp only
      rw [hcompile]
      exact if_pos hfew

/-- A text is sound, or something is wrong with it. -/
theorem sound_iff : slot.Sound text ↔ ∀ error, ¬ slot.Fault text error := by
  constructor
  · intro hsound error hfault
    cases hfault with
    | malformed source htext hink hcompile =>
      rcases hsound source htext with hblank | ⟨pattern, hpattern, -⟩
      · exact hink hblank
      · cases hcompile.symm.trans hpattern
    | missingGroups source htext hink found hcompile hfew =>
      rcases hsound source htext with hblank | ⟨pattern, hpattern, hgroups⟩
      · exact hink hblank
      · cases hcompile.symm.trans hpattern
        omega
  · intro hnone source hsource
    cases hverdict : compileRule slot text with
    | error error => exact absurd (compileRule_eq_error_iff.mp hverdict) (hnone error)
    | ok found =>
      cases found with
      | none => exact .inl (compileRule_eq_none_iff.mp hverdict source hsource)
      | some pattern =>
        obtain ⟨other, hother, -, hcompile, hgroups⟩ := compileRule_eq_some_iff.mp hverdict
        cases hsource.symm.trans hother
        exact .inr ⟨pattern, hcompile, hgroups⟩

end Verdict

/-! ## The two ways of compiling -/

namespace Rules

/-- The rule that lenient compilation makes of a verdict. -/
def usable : Except RuleError (Option Regex.Pattern) → Option Regex.Pattern
  | .ok pattern => pattern
  | .error _ => none

theorem get_compile (texts : RuleTexts) (slot : RuleSlot) :
    (compile texts).get slot = usable (compileRule slot (texts.get slot)) := by
  rcases slot with (_ | _ | _) | _
  all_goals
    simp only [compile, get]
    split <;> simp_all [usable]

theorem eq_of_get {a b : Rules} (h : ∀ slot, a.get slot = b.get slot) : a = b := by
  obtain ⟨generic, static, user, vars⟩ := a
  obtain ⟨generic', static', user', vars'⟩ := b
  obtain rfl : generic = generic' := h (.function .generic)
  obtain rfl : static = static' := h (.function .static)
  obtain rfl : user = user' := h (.function .user)
  obtain rfl : vars = vars' := h .vars
  rfl

/-- The error in a verdict. -/
def error? : Except RuleError (Option Regex.Pattern) → Option RuleError
  | .ok _ => none
  | .error error => some error

theorem error?_eq_some_iff {slot : RuleSlot} {text : Option String} {error : RuleError} :
    error? (compileRule slot text) = some error ↔ slot.Fault text error := by
  rw [← compileRule_eq_error_iff]
  cases compileRule slot text <;> simp [error?]

theorem error?_eq_none_iff {slot : RuleSlot} {text : Option String} :
    error? (compileRule slot text) = none ↔ slot.Sound text := by
  rw [sound_iff, Option.eq_none_iff_forall_ne_some]
  exact forall_congr' fun error => not_congr error?_eq_some_iff

/-- The error of the first broken rule. -/
def firstError? (texts : RuleTexts) : Option RuleError :=
  RuleSlot.all.findSome? (fun slot => error? (compileRule slot (texts.get slot)))

/-- Strict compilation gives the first error, or what lenient compilation gives. -/
theorem compileAll_eq (texts : RuleTexts) :
    compileAll texts =
      match firstError? texts with
      | some error => .error error
      | none => .ok (compile texts) := by
  have hall : RuleSlot.all =
      [.function .generic, .function .static, .function .user, .vars] := rfl
  simp only [compileAll, firstError?, hall, List.findSome?_cons, List.findSome?_nil, compile]
  -- the rules are compiled one after the other, up to an error
  rcases compileRule (.function .generic) (texts.get (.function .generic)) with e | generic
  · rfl
  rcases compileRule (.function .static) (texts.get (.function .static)) with e | static
  · rfl
  rcases compileRule (.function .user) (texts.get (.function .user)) with e | user
  · rfl
  rcases compileRule .vars (texts.get .vars) with e | vars <;> rfl

variable {texts : RuleTexts}

theorem firstError?_eq_none_iff :
    firstError? texts = none ↔ ∀ slot : RuleSlot, slot.Sound (texts.get slot) := by
  rw [firstError?, List.findSome?_eq_none_iff]
  exact ⟨fun h slot => error?_eq_none_iff.mp (h slot slot.mem_all),
    fun h slot _ => error?_eq_none_iff.mpr (h slot)⟩

theorem firstError?_eq_some_iff {error : RuleError} :
    firstError? texts = some error ↔ ∃ before slot after, RuleSlot.all = before ++ slot :: after ∧
      slot.Fault (texts.get slot) error ∧ ∀ other ∈ before, other.Sound (texts.get other) := by
  simp only [firstError?, List.findSome?_eq_some_iff, error?_eq_some_iff, error?_eq_none_iff]

/-- A blank text is passed over; too few groups are found before what is not a pattern. -/
example : firstError? ⟨some " ", some "(a)(b)", some "(", none⟩ =
    some (.missingGroups (.function .static) 2) := by
  decide +kernel

end Rules

/-! ## Texts taken out -/

namespace RuleTexts

/-- The texts for some of the places. -/
def keep (texts : RuleTexts) (kept : RuleSlot → Bool) : RuleTexts :=
  let text (slot : RuleSlot) : Option String := if kept slot then texts.get slot else none
  ⟨text (.function .generic), text (.function .static), text (.function .user), text .vars⟩

theorem get_keep (texts : RuleTexts) (kept : RuleSlot → Bool) (slot : RuleSlot) :
    (texts.keep kept).get slot = if kept slot then texts.get slot else none := by
  rcases slot with (_ | _ | _) | _ <;> rfl

/-- The text for one place, alone. -/
def only (texts : RuleTexts) (slot : RuleSlot) : RuleTexts := texts.keep (· == slot)

instance (slot : RuleSlot) (text : Option String) : Decidable (slot.Sound text) :=
  decidable_of_iff (Rules.error? (compileRule slot text) = none) Rules.error?_eq_none_iff

/-- The texts without those that are broken. -/
def withoutBroken (texts : RuleTexts) : RuleTexts :=
  texts.keep (fun slot => slot.Sound (texts.get slot))

end RuleTexts

namespace Rules

theorem compileRule_absent (slot : RuleSlot) : compileRule slot none = .ok none := rfl

theorem get_compile_only (texts : RuleTexts) (slot : RuleSlot) :
    (compile (texts.only slot)).get slot = (compile texts).get slot := by
  rw [get_compile, get_compile, RuleTexts.only, RuleTexts.get_keep, if_pos (beq_self_eq_true slot)]

/-- A broken text compiles to no rule, as an absent one does. -/
theorem compile_withoutBroken (texts : RuleTexts) :
    compile texts.withoutBroken = compile texts := by
  apply eq_of_get
  intro slot
  rw [get_compile, get_compile, RuleTexts.withoutBroken, RuleTexts.get_keep]
  by_cases hsound : slot.Sound (texts.get slot)
  · rw [if_pos (by simpa using hsound)]
  · rw [if_neg (by simpa using hsound), compileRule_absent]
    have hbroken := mt error?_eq_none_iff.mp hsound
    cases hverdict : compileRule slot (texts.get slot) with
    | ok found =>
      rw [hverdict] at hbroken
      exact absurd rfl hbroken
    | error error => rfl

theorem get_compile_eq_none_iff {texts : RuleTexts} {slot : RuleSlot} :
    (compile texts).get slot = none ↔
      Unused (texts.get slot) ∨ ∃ error, slot.Fault (texts.get slot) error := by
  have hunused : Unused (texts.get slot) ↔ compileRule slot (texts.get slot) = .ok none :=
    compileRule_eq_none_iff.symm
  rw [get_compile, hunused]
  simp only [← compileRule_eq_error_iff]
  rcases compileRule slot (texts.get slot) with error | found <;> simp [usable]

theorem get_compile_eq_some_iff {texts : RuleTexts} {slot : RuleSlot} {pattern : Regex.Pattern} :
    (compile texts).get slot = some pattern ↔ slot.Gives (texts.get slot) pattern := by
  rw [get_compile, ← compileRule_eq_some_iff]
  rcases compileRule slot (texts.get slot) with error | found <;> simp [usable]

theorem compileAll_eq_ok_iff {texts : RuleTexts} {rules : Rules} :
    compileAll texts = .ok rules ↔
      (∀ slot : RuleSlot, slot.Sound (texts.get slot)) ∧ rules = compile texts := by
  rw [compileAll_eq, ← firstError?_eq_none_iff]
  cases firstError? texts <;> simp [eq_comm]

theorem compileAll_eq_error_iff {texts : RuleTexts} {error : RuleError} :
    compileAll texts = .error error ↔
      ∃ before slot after, RuleSlot.all = before ++ slot :: after ∧
        slot.Fault (texts.get slot) error ∧ ∀ other ∈ before, other.Sound (texts.get other) := by
  rw [compileAll_eq, ← firstError?_eq_some_iff]
  cases firstError? texts <;> simp

end Rules

/-- **The two ways of compiling, and broken rules for themselves.** For all rule texts:
    * strict compilation succeeds just when every text is absent, blank, or a pattern with enough
      groups, and gives what lenient compilation gives;
    * it fails with the error of the first broken text in the order of the places, and these are, by
      their keys, `functions`, `staticfunctions` and `userfunctions` with three groups, and
      `variables` with two;
    * lenient compilation leaves the places of absent, blank and broken texts empty, and no others,
      and makes of every text what it makes of that text alone;
    * every text of a program has the same functions with the broken texts as without. -/
theorem compile_isolates (texts : RuleTexts) :
    (∀ rules, Rules.compileAll texts = .ok rules ↔
      (∀ slot : RuleSlot, slot.Sound (texts.get slot)) ∧ rules = Rules.compile texts) ∧
    (∀ error, Rules.compileAll texts = .error error ↔
      ∃ before slot after, RuleSlot.all = before ++ slot :: after ∧
        slot.Fault (texts.get slot) error ∧ ∀ other ∈ before, other.Sound (texts.get other)) ∧
    RuleSlot.all.map (fun slot => (slot.key, slot.groups)) =
      [("functions", 3), ("staticfunctions", 3), ("userfunctions", 3), ("variables", 2)] ∧
    (∀ slot, (Rules.compile texts).get slot = none ↔
      Unused (texts.get slot) ∨ ∃ error, slot.Fault (texts.get slot) error) ∧
    (∀ slot pattern, (Rules.compile texts).get slot = some pattern ↔
      slot.Gives (texts.get slot) pattern) ∧
    (∀ slot, (Rules.compile (texts.only slot)).get slot = (Rules.compile texts).get slot) ∧
    (∀ options text, Extractor.run ⟨Rules.compile texts.withoutBroken, options⟩ text =
      Extractor.run ⟨Rules.compile texts, options⟩ text) :=
  ⟨fun _ => Rules.compileAll_eq_ok_iff, fun _ => Rules.compileAll_eq_error_iff, by decide,
    fun _ => Rules.get_compile_eq_none_iff, fun _ _ => Rules.get_compile_eq_some_iff,
    Rules.get_compile_only texts, fun _ _ => by rw [Rules.compile_withoutBroken]⟩

end ProgramOutline
