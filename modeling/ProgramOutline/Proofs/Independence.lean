import ProgramOutline.Proofs.Identity
import ProgramOutline.Proofs.Ownership

/-!
# What each part of a configuration decides

The typing options decide about parameters, the variable rule about variables, and each function
rule about the functions that it finds. The function rules meet in one place only: a body must end
before the next declaration of any rule. A declaration more can only bring that limit closer, so it
takes all variables from a function or none.

Results:
* `underFallbacks_parse`: what the fallback decides about the parameters of a list.
* `ownVariables_of_subset`: with fewer declarations a function has the same variables, or it had
  none.
* `run_independent`: which parts of the functions of a text can change with which part of a
  configuration.
-/

namespace ProgramOutline

open Regex Grammar

/-! ## Typing options -/

/-- The type of a parameter of which nothing is known. -/
def TypeFallback.type : TypeFallback → Option ParamType
  | undefined => some .undefined
  | untyped => none

namespace Parameters

/-- The parameter declares no type, and its first letter says nothing. -/
def Unknown (separator : SeparatorCase) (token : List Char) : Prop :=
  declaredType? separator token = none ∧ token.head?.bind ParamType.ofInitial? = none

/-- The parameters in a list under two fallbacks: the same, except that those of which nothing is
    known have the type of the fallback. -/
inductive UnderFallbacks (separator : SeparatorCase) (a b : TypeFallback) :
    List (List Char) → List Parameter → List Parameter → Prop
  | nil : UnderFallbacks separator a b [] [] []
  | known {token : List Char} {tokens : List (List Char)} {p : Parameter} {ps qs : List Parameter} :
      ¬ Unknown separator token → UnderFallbacks separator a b tokens ps qs →
        UnderFallbacks separator a b (token :: tokens) (p :: ps) (p :: qs)
  | unknown {token : List Char} {tokens : List (List Char)} {ps qs : List Parameter} :
      Unknown separator token → UnderFallbacks separator a b tokens ps qs →
        UnderFallbacks separator a b (token :: tokens) (⟨String.ofList token, a.type⟩ :: ps)
          (⟨String.ofList token, b.type⟩ :: qs)

theorem parameter_of_unknown {separator : SeparatorCase} {token : List Char}
    (h : Unknown separator token) (fallback : TypeFallback) :
    parameter ⟨fallback, separator⟩ token = ⟨String.ofList token, fallback.type⟩ := by
  obtain ⟨hdeclared, hinitial⟩ := h
  simp only [parameter, hdeclared, inferredType, hinitial]
  cases fallback <;> rfl

/-- The fallback has no say in a parameter of which something is known. -/
theorem parameter_of_known {separator : SeparatorCase} {token : List Char}
    (h : ¬ Unknown separator token) (a b : TypeFallback) :
    parameter ⟨a, separator⟩ token = parameter ⟨b, separator⟩ token := by
  rcases hdeclared : declaredType? separator token with - | ⟨name, type⟩
  · rcases hinitial : token.head?.bind ParamType.ofInitial? with - | type
    · exact absurd ⟨hdeclared, hinitial⟩ h
    · simp only [parameter, hdeclared, inferredType, hinitial]
  · simp only [parameter, hdeclared]

theorem underFallbacks_map (separator : SeparatorCase) (a b : TypeFallback)
    (tokens : List (List Char)) :
    UnderFallbacks separator a b tokens (tokens.map (parameter ⟨a, separator⟩))
      (tokens.map (parameter ⟨b, separator⟩)) := by
  induction tokens with
  | nil => exact .nil
  | cons token tokens ih =>
    rw [List.map_cons, List.map_cons]
    by_cases h : Unknown separator token
    · rw [parameter_of_unknown h, parameter_of_unknown h]
      exact .unknown h ih
    · rw [parameter_of_known h a b]
      exact .known h ih

/-- The fallback decides about the types of the parameters of which nothing is known. -/
theorem underFallbacks_parse (separator : SeparatorCase) (a b : TypeFallback) (list : List Char) :
    UnderFallbacks separator a b (tokens list) (parse ⟨a, separator⟩ list)
      (parse ⟨b, separator⟩ list) := underFallbacks_map separator a b (tokens list)

/-- How many parameters a list has does not depend on how they are typed. -/
theorem length_parse (options : TypingOptions) (list : List Char) :
    (parse options list).length = (tokens list).length := List.length_map _

end Parameters

/-! ## Function rules -/

namespace Rules

/-- The rules with the function rules of all other kinds taken from `others`. -/
def withOthers (rules : Rules) (kind : FunctionRule) (others : Rules) : Rules :=
  match kind with
  | .generic => { others with generic := rules.generic, vars := rules.vars }
  | .static => { others with static := rules.static, vars := rules.vars }
  | .user => { others with user := rules.user, vars := rules.vars }

variable (rules others : Rules) (kind : FunctionRule)

theorem vars_withOthers : (rules.withOthers kind others).vars = rules.vars := by
  cases kind <;> rfl

theorem get_withOthers (other : FunctionRule) :
    (rules.withOthers kind others).get (.function other) =
      if other = kind then rules.get (.function other) else others.get (.function other) := by
  cases kind <;> cases other <;> rfl

/-- The rules without the function rules of other kinds. -/
def alone : Rules := rules.withOthers kind {}

end Rules

namespace Extractor

theorem headersOf_withOthers (rules others : Rules) (text : List Char) (kind : FunctionRule) :
    headersOf (rules.withOthers kind others) text kind = headersOf rules text kind := by
  simp only [headersOf, Rules.get_withOthers, if_pos]

/-- Leaving out function rules leaves out headers and adds none. -/
theorem mem_headers_of_alone {rules : Rules} {text : List Char} {kind : FunctionRule}
    {found : FunctionRule × Header} (h : found ∈ headers (rules.alone kind) text) :
    found ∈ headers rules text := by
  rw [headers_eq_flatMap] at h ⊢
  obtain ⟨other, hother, hfound⟩ := List.mem_flatMap.mp h
  refine List.mem_flatMap.mpr ⟨other, hother, ?_⟩
  by_cases hkind : other = kind
  · subst hkind
    rwa [Rules.alone, headersOf_withOthers] at hfound
  · have hnone : headersOf (rules.alone kind) text other = [] := by
      simp only [headersOf, Rules.alone, Rules.get_withOthers, if_neg hkind]
      cases other <;> rfl
    rw [hnone] at hfound
    cases hfound

end Extractor

/-- A limit that comes closer takes all variables or none: with the declarations of `fewer` a
    function has the variables that it has with all of them, unless it has none with all. -/
theorem ownVariables_of_subset {all fewer : List (FunctionRule × Header)}
    (h : ∀ found ∈ fewer, found ∈ all) (rule : Pattern) (text : List Char) (header : Header) :
    ownVariables rule text all header = ownVariables rule text fewer header ∨
      ownVariables rule text all header = [] := by
  have hmono : ∀ {offset stop}, DeclaredBetween fewer offset stop →
      DeclaredBetween all offset stop := by
    rintro offset stop ⟨other, hother, hbetween⟩
    exact ⟨other, h other hother, hbetween⟩
  unfold ownVariables
  split
  · exact .inl rfl
  · rename_i offset line hfirst
    by_cases hall : DeclaredBetween all header.offset offset
    · exact .inr (if_pos hall)
    · rw [if_neg hall, if_neg (mt hmono hall)]
      exact .inl rfl

theorem variablesOf_alone {rules : Rules} {text : List Char} {kind : FunctionRule} {header : Header}
    (h : header ∈ Extractor.headersOf rules text kind) :
    Extractor.variablesOf rules text
        (Extractor.declarations (Extractor.headers rules text)) header =
      Extractor.variablesOf (rules.alone kind) text
        (Extractor.declarations (Extractor.headers (rules.alone kind) text)) header ∨
    Extractor.variablesOf rules text
        (Extractor.declarations (Extractor.headers rules text)) header = [] := by
  have hmem : (kind, header) ∈ Extractor.headers rules text := by
    rw [Extractor.headers_eq_flatMap]
    refine List.mem_flatMap.mpr ⟨kind, by cases kind <;> decide, ?_⟩
    exact List.mem_map.mpr ⟨header, h, rfl⟩
  obtain ⟨hle, hlength⟩ := header_bounds_of_mem hmem
  have hvars : (rules.alone kind).vars = rules.vars := Rules.vars_withOthers rules {} kind
  rcases hrule : rules.vars with - | rule
  · refine .inr ?_
    rw [Extractor.variablesOf, hrule]
  · rw [variablesOf_eq hrule _ hle hlength, variablesOf_eq (hvars.trans hrule) _ hle hlength]
    exact ownVariables_of_subset (fun _ => Extractor.mem_headers_of_alone) rule text header

/-! ## Functions under two configurations -/

namespace FunctionSymbol

/-- The two functions differ in nothing but their parameters. -/
def SameButParameters (f g : FunctionSymbol) : Prop := { f with parameters := g.parameters } = g

/-- The two functions differ in nothing but their variables. -/
def SameButVariables (f g : FunctionSymbol) : Prop := { f with vars := g.vars } = g

end FunctionSymbol

namespace Extractor

variable (rules others : Rules) (options : TypingOptions) (text : List Char) (kind : FunctionRule)

theorem run_options (options' : TypingOptions) :
    List.Forall₂ (fun f g => f.SameButParameters g ∧ f.parameters.length = g.parameters.length)
      (run ⟨rules, options⟩ text) (run ⟨rules, options'⟩ text) := by
  unfold run
  rw [List.forall₂_map_left_iff, List.forall₂_map_right_iff, List.forall₂_same]
  intro found _
  exact ⟨rfl, (Parameters.length_parse ..).trans (Parameters.length_parse ..).symm⟩

theorem run_fallback (separator : SeparatorCase) (a b : TypeFallback) :
    List.Forall₂ (fun found (pair : FunctionSymbol × FunctionSymbol) =>
        Parameters.UnderFallbacks separator a b (Parameters.tokens found.2.parameters.toList)
          pair.1.parameters pair.2.parameters)
      (headers rules text)
      ((run ⟨rules, ⟨a, separator⟩⟩ text).zip (run ⟨rules, ⟨b, separator⟩⟩ text)) := by
  unfold run
  rw [List.zip_map', List.forall₂_map_right_iff, List.forall₂_same]
  intro found _
  exact Parameters.underFallbacks_parse separator a b found.2.parameters.toList

theorem run_vars_rule (vars : Option Pattern) :
    List.Forall₂ FunctionSymbol.SameButVariables (run ⟨rules, options⟩ text)
      (run ⟨{ rules with vars }, options⟩ text) := by
  have hheaders : headers { rules with vars } text = headers rules text := by
    rw [headers_eq_flatMap, headers_eq_flatMap]
    rfl
  unfold run
  dsimp only
  rw [hheaders, List.forall₂_map_left_iff, List.forall₂_map_right_iff, List.forall₂_same]
  exact fun _ _ => rfl

theorem group_withOthers :
    List.Forall₂ FunctionSymbol.SameButVariables (group ⟨rules, options⟩ text kind)
      (group ⟨rules.withOthers kind others, options⟩ text kind) := by
  rw [group_eq_map, group_eq_map, headersOf_withOthers, List.forall₂_map_left_iff,
    List.forall₂_map_right_iff, List.forall₂_same]
  exact fun _ _ => rfl

theorem group_alone :
    List.Forall₂ (fun f g => f.SameButVariables g ∧ (f.vars = g.vars ∨ f.vars = []))
      (group ⟨rules, options⟩ text kind) (group ⟨rules.alone kind, options⟩ text kind) := by
  rw [group_eq_map, group_eq_map, Rules.alone, headersOf_withOthers, List.forall₂_map_left_iff,
    List.forall₂_map_right_iff, List.forall₂_same]
  exact fun header hheader => ⟨rfl, variablesOf_alone hheader⟩

end Extractor

/-- **The parts of a configuration do not interfere.** For every text and all rules and options:
    * the typing options change the parameters only, and not how many there are; the fallback among
      them changes the types of those parameters only of which nothing is known;
    * the variable rule changes the variables only;
    * for each kind, function rules of other kinds change the variables only of the functions of
      that kind, and these have the variables that they have without the other rules, or none. -/
theorem run_independent (rules : Rules) (options : TypingOptions) (text : List Char) :
    (∀ options', List.Forall₂
      (fun f g => f.SameButParameters g ∧ f.parameters.length = g.parameters.length)
      (Extractor.run ⟨rules, options⟩ text) (Extractor.run ⟨rules, options'⟩ text)) ∧
    (∀ separator a b, List.Forall₂ (fun found (pair : FunctionSymbol × FunctionSymbol) =>
        Parameters.UnderFallbacks separator a b (Parameters.tokens found.2.parameters.toList)
          pair.1.parameters pair.2.parameters)
      (Extractor.headers rules text)
      ((Extractor.run ⟨rules, ⟨a, separator⟩⟩ text).zip
        (Extractor.run ⟨rules, ⟨b, separator⟩⟩ text))) ∧
    (∀ vars, List.Forall₂ FunctionSymbol.SameButVariables (Extractor.run ⟨rules, options⟩ text)
      (Extractor.run ⟨{ rules with vars }, options⟩ text)) ∧
    (∀ kind others, List.Forall₂ FunctionSymbol.SameButVariables
      (Extractor.group ⟨rules, options⟩ text kind)
      (Extractor.group ⟨rules.withOthers kind others, options⟩ text kind)) ∧
    (∀ kind, List.Forall₂
      (fun f g => f.SameButVariables g ∧ (f.vars = g.vars ∨ f.vars = []))
      (Extractor.group ⟨rules, options⟩ text kind)
      (Extractor.group ⟨rules.alone kind, options⟩ text kind)) :=
  ⟨Extractor.run_options rules options text, Extractor.run_fallback rules text,
    Extractor.run_vars_rule rules options text,
    fun kind others => Extractor.group_withOthers rules others options text kind,
    Extractor.group_alone rules options text⟩

end ProgramOutline
