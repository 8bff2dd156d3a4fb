import ProgramOutline.Proofs.Checked.Extract
import ProgramOutline.Proofs.ParamTypes
import ProgramOutline.Proofs.Text.Excerpt

/-!
# Functions are made of excerpts

Whatever the rules are, what is reported of a function stands in the text: its name, its qualifier
and its parameters in its header, its variables in its body, in the order of their matches.

Results:
* `Parameters.parameter_excerpts`: the name of a parameter and a type that it names.
* `Header.ofMatch?_excerpts`: the name, the qualifier and the parameters of a header.
* `BodySpan.Sound.declares`: the variables of a body and the matches that declare them.
* `run_excerpts`: all functions of a text.
-/

namespace ProgramOutline

open Regex
open Text (Excerpt)

/-! ## Parameters -/

namespace Parameters

theorem excerpt_of_mem_tokens {list token : List Char} (h : token ∈ tokens list) :
    Excerpt token list := by
  obtain ⟨htoken, hne⟩ := List.mem_filter.mp h
  obtain ⟨piece, hpiece, rfl⟩ := List.mem_map.mp htoken
  have hnoise : ∀ c, Text.isBlank c = true → isNoise c = true := by
    intro c hc
    simp [isNoise, hc]
  have hstrip : Excerpt (Text.stripWhile isNoise piece) piece :=
    .stripWhile hnoise (by simpa using hne)
  exact hstrip.mono (Text.isInfix_of_mem_splitOn hpiece)

theorem getLast?_separator {mode : SeparatorCase} {sep : List Char}
    (h : searched mode sep = separator) : sep.getLast? = some ' ' := by
  have hlast := congrArg List.getLast? h
  rw [searched, List.getLast?_map] at hlast
  obtain ⟨c, hc, hfolded⟩ := Option.map_eq_some_iff.mp hlast
  rw [hc, folded_eq_space.mp hfolded]

/-- A declared type has a name and a type, since the token does not start or end with a blank. -/
theorem declaredType?_excerpts {mode : SeparatorCase} {token text name type : List Char}
    (h : declaredType? mode token = some (name, type)) (htoken : Excerpt token text) :
    Excerpt (Text.trim name) token ∧ Excerpt (Text.trim type) token := by
  obtain ⟨hcut, hname⟩ := Option.filter_eq_some_iff.mp h
  obtain ⟨sep, rfl, hsep⟩ := cutAtSeparator?_searched hcut
  obtain ⟨c, hfirst, hc⟩ := htoken.first
  obtain ⟨d, hlast, hd⟩ := htoken.last
  constructor
  · have hmem : c ∈ name := by
      cases name with
      | nil => cases hname
      | cons e name =>
        obtain rfl := Option.some.inj hfirst
        exact List.mem_cons_self
    exact (Excerpt.trim (Text.trim_ne_nil hmem hc)).mono ⟨[], sep ++ type, by simp⟩
  · have hmem : d ∈ type := by
      cases type with
      | nil =>
        -- the token would end with the separator, and that with a blank
        rw [List.append_nil, List.getLast?_append, getLast?_separator hsep] at hlast
        obtain rfl := Option.some.inj hlast
        cases hd
      | cons e type =>
        rw [List.getLast?_append, List.getLast?_cons, Option.some_or] at hlast
        exact List.mem_of_getLast? (List.getLast?_cons.trans hlast)
    exact (Excerpt.trim (Text.trim_ne_nil hmem hd)).mono ⟨name ++ sep, [], by simp⟩

theorem inferredType_ne_named (fallback : TypeFallback) (token : List Char) (name : String) :
    inferredType fallback token ≠ some (.named name) := by
  unfold inferredType
  split
  · rename_i t hinitial
    obtain ⟨c, -, hc⟩ := Option.bind_eq_some_iff.mp hinitial
    rintro ⟨⟩
    exact ParamType.ofInitial?_ne_named c name hc
  · simp
  · simp

/-- The name of a parameter and a type that it names stand in the text of the parameter. -/
theorem parameter_excerpts (options : TypingOptions) {token text : List Char}
    (htoken : Excerpt token text) :
    Excerpt (parameter options token).name.toList token ∧
      ∀ name, (parameter options token).type = some (.named name) → Excerpt name.toList token := by
  rcases hdeclared : declaredType? options.separator token with - | ⟨name, type⟩
  · simp only [parameter, hdeclared, String.toList_ofList]
    refine ⟨⟨htoken.first, htoken.last, List.infix_rfl⟩, fun name hname => ?_⟩
    exact absurd hname (inferredType_ne_named options.fallback token name)
  · obtain ⟨hname, htype⟩ := declaredType?_excerpts hdeclared htoken
    simp only [parameter, hdeclared, String.toList_ofList, Option.some.injEq]
    refine ⟨hname, fun named hnamed => ?_⟩
    rw [ParamType.eq_of_ofName_eq_named hnamed, String.toList_ofList]
    exact htype

end Parameters

/-! ## Headers -/

/-- A group of a match is a stretch of the match. -/
theorem Regex.Match.Lies.groupText?_isInfix {m : Match} {text inner : List Char} {index : Nat}
    (h : m.Lies 0 text) (hgroup : m.groupText? text index = some inner) :
    inner <:+: Text.slice text m.span.start m.span.stop := by
  obtain ⟨before, taken, after, rfl, hstart, hstop, hgroups⟩ := h
  rw [Nat.zero_add] at hstart
  obtain ⟨span, hspan, rfl⟩ := Option.map_eq_some_iff.mp hgroup
  obtain ⟨a, inner, b, htaken, hinner⟩ := Match.slice_group hgroups hspan before after hstart
  rw [hinner, Text.slice_append before taken after hstart hstop, htaken]
  exact ⟨a, b, rfl⟩

/-- The text of a header. -/
def Header.stretch (header : Header) (text : List Char) : List Char :=
  Text.slice text header.offset header.stop

/-- A header starts with a character that is not blank, and what it is made of stands in it. -/
structure Header.Quotes (header : Header) (text : List Char) : Prop where
  first : ∃ before c after, text = before ++ c :: after ∧
    header.offset = Text.byteLength before ∧ Text.isBlank c = false
  name : Excerpt header.name.toList (header.stretch text)
  qualifier : ∀ q, header.qualifier = some q → Excerpt q.toList (header.stretch text)
  parameters : ∀ piece, Excerpt piece header.parameters.toList →
    Excerpt piece (header.stretch text)

/-- A header is what is left of its match without the blanks in front. -/
theorem Header.ofMatch?_stretch {text : List Char} {m : Match} {header : Header}
    (hlies : m.Lies 0 text) (h : Header.ofMatch? text m = some header) :
    header.stretch text = (Text.slice text m.span.start m.span.stop).dropWhile Text.isBlank ∧
      ∃ before after, text = before ++ header.stretch text ++ after ∧
        header.offset = Text.byteLength before := by
  obtain ⟨before, taken, after, htext, hstart, hstop⟩ := hlies.span
  rw [Nat.zero_add] at hstart
  have hmatched : Text.slice text m.span.start m.span.stop = taken := by
    rw [htext]
    exact Text.slice_append before taken after hstart hstop
  simp only [Header.ofMatch?, hmatched, Option.bind_eq_bind, Option.bind_eq_some_iff,
    Option.ite_none_left_eq_some, Option.pure_def, Option.some.injEq] at h
  obtain ⟨-, -, -, rfl⟩ := h
  have hsplit : text = (before ++ taken.takeWhile Text.isBlank) ++
      taken.dropWhile Text.isBlank ++ after := by
    rw [htext, List.append_assoc before (taken.takeWhile _), List.takeWhile_append_dropWhile]
  have hlength : Text.byteLength taken = Text.byteLength (taken.takeWhile Text.isBlank) +
      Text.byteLength (taken.dropWhile Text.isBlank) := by
    rw [← Text.byteLength_append, List.takeWhile_append_dropWhile]
  have hoffset : m.span.start + Text.byteLength (taken.takeWhile Text.isBlank) =
      Text.byteLength (before ++ taken.takeWhile Text.isBlank) := by
    rw [Text.byteLength_append, hstart]
  have hstretch : Text.slice text
      (m.span.start + Text.byteLength (taken.takeWhile Text.isBlank)) m.span.stop =
        taken.dropWhile Text.isBlank := by
    rw [hsplit]
    exact Text.slice_append _ _ after hoffset (by omega)
  rw [hmatched, Header.stretch]
  dsimp only
  rw [hstretch]
  exact ⟨rfl, _, after, hsplit, hoffset⟩

theorem Header.ofMatch?_quotes {text : List Char} {m : Match} {header : Header}
    (hlies : m.Lies 0 text) (h : Header.ofMatch? text m = some header) : header.Quotes text := by
  obtain ⟨hstretch, before, after, htext, hoffset⟩ := Header.ofMatch?_stretch hlies h
  -- an excerpt of a group does not reach into the blanks in front of the header
  have hgroup : ∀ {index inner piece}, m.groupText? text index = some inner →
      Excerpt piece inner → Excerpt piece (header.stretch text) := by
    intro index inner piece hinner hpiece
    rw [hstretch]
    exact (hpiece.mono (hlies.groupText?_isInfix hinner)).dropWhile
  simp only [Header.ofMatch?, Option.bind_eq_bind, Option.bind_eq_some_iff,
    Option.ite_none_left_eq_some, Option.pure_def, Option.some.injEq, Option.map_eq_some_iff] at h
  obtain ⟨name, ⟨named, hnamed, rfl⟩, hname, heq⟩ := h
  have hexcerpt : Excerpt (Text.trim named) (header.stretch text) :=
    hgroup hnamed (.trim (by simpa using hname))
  constructor
  · obtain ⟨c, rest, hcons⟩ : ∃ c rest, header.stretch text = c :: rest := by
      refine List.exists_cons_of_ne_nil ?_
      intro hnil
      exact hexcerpt.ne_nil (List.infix_nil.mp (hnil ▸ hexcerpt.within))
    have hink := List.head?_dropWhile_not Text.isBlank
      (Text.slice text m.span.start m.span.stop)
    rw [← hstretch, hcons] at hink
    refine ⟨before, c, rest ++ after, ?_, hoffset, by simpa using hink⟩
    rw [hcons] at htext
    rw [htext, List.append_assoc, List.cons_append]
  · rw [← heq]
    simpa [heq] using hexcerpt
  · intro q hq
    rw [← heq] at hq
    obtain ⟨qualifier, hfilter, rfl⟩ := Option.map_eq_some_iff.mp hq
    obtain ⟨hmap, hne⟩ := Option.filter_eq_some_iff.mp hfilter
    obtain ⟨inner, hinner, rfl⟩ := Option.map_eq_some_iff.mp hmap
    rw [String.toList_ofList]
    exact hgroup hinner (.trim (by simpa using hne))
  · intro piece hpiece
    rw [← heq, String.toList_ofList] at hpiece
    rcases hparameters : m.groupText? text 3 with - | inner
    · rw [hparameters] at hpiece
      exact absurd (List.infix_nil.mp hpiece.within) hpiece.ne_nil
    · rw [hparameters] at hpiece
      exact hgroup hparameters hpiece

/-! ## Variables -/

/-- A variable that a match declares stands in the match, which is therefore not empty. -/
theorem Variable.ofMatch?_excerpts {text : List Char} {m : Match} {v : Variable}
    (hlies : m.Lies 0 text) (h : Variable.ofMatch? text m = some v) :
    Excerpt v.name.toList (Text.slice text m.span.start m.span.stop) ∧
      v.scope.toList <:+: Text.slice text m.span.start m.span.stop := by
  simp only [Variable.ofMatch?, Option.bind_eq_bind, Option.bind_eq_some_iff,
    Option.ite_none_left_eq_some, Option.pure_def, Option.some.injEq, Option.map_eq_some_iff] at h
  obtain ⟨name, ⟨named, hnamed, rfl⟩, hname, rfl⟩ := h
  simp only [String.toList_ofList]
  constructor
  · exact (Excerpt.trim (by simpa using hname)).mono (hlies.groupText?_isInfix hnamed)
  · rcases hscope : m.groupText? text 1 with - | scope
    · exact List.nil_infix
    · exact (Text.stripWhile_isInfix _ scope).trans (hlies.groupText?_isInfix hscope)

/-- A match that declares a variable is not empty. -/
theorem Variable.nonempty_of_ofMatch? {text : List Char} {m : Match} {v : Variable}
    (hlies : m.Lies 0 text) (h : Variable.ofMatch? text m = some v) :
    m.span.start < m.span.stop := by
  obtain ⟨hname, -⟩ := ofMatch?_excerpts hlies h
  obtain ⟨before, taken, after, rfl, hfirst, hlast⟩ := hlies.span
  rw [Nat.zero_add] at hfirst
  rw [Text.slice_append _ _ _ hfirst hlast] at hname
  have htaken : taken ≠ [] := by
    rintro rfl
    exact hname.ne_nil (List.infix_nil.mp hname.within)
  have hlength := mt Text.byteLength_eq_zero.mp htaken
  omega

/-- The variables stand in the body: each is what a match of the rule declares, and the matches
    follow one another in the body. -/
structure BodySpan.Declares (body : BodySpan) (rule : Pattern) (text : List Char)
    (found : List Match) (vars : List Variable) : Prop where
  /-- They are matches of the rule in the text up to the end of the body. -/
  sublist : found.Sublist (rule.declarations (Text.takeBytes body.stop text) body.bodyStart)
  declared : List.Forall₂ (fun m v =>
    Variable.ofMatch? (Text.takeBytes body.stop text) m = some v) found vars
  inside : ∀ m ∈ found,
    body.bodyStart ≤ m.span.start ∧ m.span.start < m.span.stop ∧ m.span.stop ≤ body.stop
  order : found.Pairwise (fun a b => a.span.stop ≤ b.span.start)
  excerpts : List.Forall₂ (fun m v =>
    Excerpt v.name.toList (Text.slice text m.span.start m.span.stop) ∧
      v.scope.toList <:+: Text.slice text m.span.start m.span.stop) found vars
  within : ∀ v ∈ vars,
    Excerpt v.name.toList (Text.slice text body.bodyStart body.stop) ∧
      v.scope.toList <:+: Text.slice text body.bodyStart body.stop

theorem forall₂_filter_filterMap {α β : Type} (f : α → Option β) (items : List α) :
    List.Forall₂ (fun a b => a ∈ items ∧ f a = some b)
      (items.filter (fun a => (f a).isSome)) (items.filterMap f) := by
  induction items with
  | nil => exact .nil
  | cons item items ih =>
    have hrest : List.Forall₂ (fun a b => a ∈ item :: items ∧ f a = some b)
        (items.filter (fun a => (f a).isSome)) (items.filterMap f) :=
      ih.imp (fun _ _ hab => hab.imp_left (List.mem_cons_of_mem item))
    rw [List.filterMap_cons, List.filter_cons]
    cases h : f item with
    | none => exact hrest
    | some b => exact .cons ⟨List.mem_cons_self, h⟩ hrest

/-- A variable that is declared in a sound body stands in a match that lies in the body. -/
theorem BodySpan.Sound.match_inside {body : BodySpan} {text : List Char} (h : body.Sound text)
    {m : Match} {v : Variable} (hstart : body.bodyStart ≤ m.span.start)
    (hlies : m.Lies 0 (Text.takeBytes body.stop text))
    (hv : Variable.ofMatch? (Text.takeBytes body.stop text) m = some v) :
    (m.span.start < m.span.stop ∧ m.span.stop ≤ body.stop) ∧
      (Excerpt v.name.toList (Text.slice text m.span.start m.span.stop) ∧
        v.scope.toList <:+: Text.slice text m.span.start m.span.stop) ∧
      Text.slice text m.span.start m.span.stop <:+: Text.slice text body.bodyStart body.stop := by
  obtain ⟨visible, hidden, rfl, hstop⟩ := Text.isBoundary_iff.mp h.stop_boundary
  rw [hstop, Text.takeBytes_byteLength] at hlies hv
  have hexcerpts := Variable.ofMatch?_excerpts hlies hv
  have hnonempty := Variable.nonempty_of_ofMatch? hlies hv
  obtain ⟨before, taken, after, rfl, hfirst, hlast⟩ := hlies.span
  rw [Nat.zero_add] at hfirst
  have hassoc : before ++ taken ++ after ++ hidden = before ++ taken ++ (after ++ hidden) :=
    List.append_assoc ..
  have hlies' : m.span.Lies 0 (before ++ taken ++ after ++ hidden) :=
    ⟨before, taken, after ++ hidden, hassoc, by rw [Nat.zero_add, hfirst], hlast⟩
  have hslice : Text.slice (before ++ taken ++ after ++ hidden) m.span.start m.span.stop =
      Text.slice (before ++ taken ++ after) m.span.start m.span.stop := by
    rw [hassoc, Text.slice_append _ _ _ hfirst hlast, Text.slice_append _ _ _ hfirst hlast]
  have hle : m.span.stop ≤ body.stop := by
    rw [hstop]
    simp only [Text.byteLength_append]
    omega
  refine ⟨⟨hnonempty, hle⟩, hslice ▸ hexcerpts, ?_⟩
  exact Text.slice_isInfix_slice h.bodyStart_boundary h.stop_boundary hlies'.boundary.1
    hlies'.boundary.2 hstart hnonempty.le hle

/-- The variables of a sound body stand in it. -/
theorem BodySpan.Sound.declares {body : BodySpan} {text : List Char} (h : body.Sound text)
    (rule : Pattern) :
    ∃ found, body.Declares rule text found (scanVariables rule text body.bodyStart body.stop) := by
  have hall := rule.declarations_inSuccession (Text.takeBytes body.stop text) body.bodyStart
  have hpairs := forall₂_filter_filterMap (Variable.ofMatch? (Text.takeBytes body.stop text))
    (rule.declarations (Text.takeBytes body.stop text) body.bodyStart)
  have hinside : ∀ {m v}, m ∈ rule.declarations (Text.takeBytes body.stop text) body.bodyStart →
      Variable.ofMatch? (Text.takeBytes body.stop text) m = some v → _ := fun hm hv =>
    h.match_inside (hall.bounds _ hm).1 (hall.bounds _ hm).2 hv
  refine ⟨_, List.filter_sublist, hpairs.imp (fun _ _ hab => hab.2), ?_, ?_, ?_, ?_⟩
  · intro m hm
    obtain ⟨hm, hsome⟩ := List.mem_filter.mp hm
    obtain ⟨v, hv⟩ := Option.isSome_iff_exists.mp hsome
    exact ⟨(hall.bounds m hm).1, (hinside hm hv).1⟩
  · exact hall.pairwise.sublist List.filter_sublist
  · exact hpairs.imp (fun m v hab => (hinside hab.1 hab.2).2.1)
  · intro v hv
    obtain ⟨m, hm, hv⟩ := List.mem_filterMap.mp hv
    obtain ⟨-, ⟨hname, hscope⟩, hbody⟩ := hinside hm hv
    exact ⟨hname.mono hbody, hscope.trans hbody⟩

/-! ## All functions of a text -/

/-- Everything that is reported of a function stands in its header or, the variables, in its body. -/
structure FunctionSymbol.Quotes (symbol : FunctionSymbol) (header : Header) (text : List Char) :
    Prop where
  offset : symbol.offset = header.offset
  first : ∃ before c after, text = before ++ c :: after ∧
    symbol.offset = Text.byteLength before ∧ Text.isBlank c = false
  name : Excerpt symbol.name.toList (header.stretch text)
  qualifier : ∀ q, symbol.qualifier = some q → Excerpt q.toList (header.stretch text)
  parameters : ∀ p ∈ symbol.parameters, Excerpt p.name.toList (header.stretch text) ∧
    ∀ type, p.type = some (.named type) → Excerpt type.toList (header.stretch text)

/-- The body of a header, if it ends before the next declaration of any rule. -/
def Extractor.bodyOf? (rules : Rules) (text : List Char) (header : Header) : Option BodySpan :=
  findBody text header.offset header.stop
    (Ascending.above? (declarations (headers rules text)) header.offset)

/-- The variables of a function stand in its body; without a body or a rule there are none. -/
def FunctionSymbol.DeclaredIn (symbol : FunctionSymbol) (rules : Rules) (header : Header)
    (text : List Char) : Prop :=
  match rules.vars, Extractor.bodyOf? rules text header with
  | some rule, some body => ∃ found, body.Declares rule text found symbol.vars
  | _, _ => symbol.vars = []

theorem Extractor.quotes_of_mem_headers {rules : Rules} {text : List Char}
    {found : FunctionRule × Header} (h : found ∈ headers rules text) : found.2.Quotes text := by
  obtain ⟨⟨rule, pattern⟩, -, hfound⟩ := List.mem_flatMap.mp h
  obtain ⟨header, hheader, rfl⟩ := List.mem_map.mp hfound
  obtain ⟨m, hm, hheader⟩ := List.mem_filterMap.mp hheader
  exact Header.ofMatch?_quotes (Pattern.mem_findAll hm) hheader

/-- **Functions are made of excerpts.** For every text, all rules and all options, the functions
    stand at their headers, one by one. Each starts with a character that is not blank; its name,
    its qualifier, the names of its parameters and the types that these name are stretches of its
    header that are not empty and have no blanks at their ends; and its variables are declared by
    matches in its own body that do not overlap and are not empty, in their order, with names and
    scopes that are stretches of these matches. -/
theorem run_excerpts (extractor : Extractor) (text : List Char) :
    List.Forall₂
      (fun found symbol => symbol.Quotes found.2 text ∧
        symbol.DeclaredIn extractor.rules found.2 text)
      (Extractor.headers extractor.rules text) (extractor.run text) := by
  unfold Extractor.run
  rw [List.forall₂_map_right_iff, List.forall₂_same]
  intro found hfound
  have hquotes := Extractor.quotes_of_mem_headers hfound
  obtain ⟨hstart, hstop⟩ := boundary_of_mem_headers hfound
  constructor
  · refine ⟨rfl, hquotes.first, hquotes.name, hquotes.qualifier, fun p hp => ?_⟩
    obtain ⟨token, htoken, rfl⟩ := List.mem_map.mp hp
    have hexcerpt := Parameters.excerpt_of_mem_tokens htoken
    obtain ⟨hname, htype⟩ := Parameters.parameter_excerpts extractor.options hexcerpt
    exact ⟨hquotes.parameters _ (hname.mono hexcerpt.within),
      fun type h => hquotes.parameters _ ((htype type h).mono hexcerpt.within)⟩
  · unfold FunctionSymbol.DeclaredIn Extractor.bodyOf? Extractor.variablesOf
    rcases extractor.rules.vars with - | rule
    · rfl
    · dsimp only
      rcases hbody : findBody text found.2.offset found.2.stop
        (Ascending.above? (Extractor.declarations (Extractor.headers extractor.rules text))
          found.2.offset) with - | body
      · rfl
      · exact (findBody_sound hstart hstop hbody).declares rule

end ProgramOutline
