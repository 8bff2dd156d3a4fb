import ProgramOutline.Proofs.Data.Lossless
import ProgramOutline.Proofs.Json.Reading
import ProgramOutline.Proofs.Ownership
import ProgramOutline.Proofs.ParamTypes

/-!
# Symbols and configurations go through JSON

A record is written with all of its fields. When it is read, fields may be missing, be in another
order, stand in a list or be spelled as a choice with a value that says nothing; what comes out is
written in one form only, and is read back from it. The one thing that is not is a parameter type
that is named like a conventional type, and neither extraction nor reading makes such a type.

Results:
* `Parameter.lossless`, `FunctionSymbol.lossless`: symbols, with the condition on their types.
* `RuleTexts.lossless`, `TypingOptions.lossless`, `Config.lossless`: configurations.
* `FunctionSymbol.fit_of_mem_run`: what is extracted meets the condition.
* `json_roundTrips`: all of this for JSON documents.
-/

namespace ProgramOutline

/-! ## Symbols -/

/-- A type is not named like a conventional one. -/
def Parameter.Fit (p : Parameter) : Prop :=
  ∀ name, p.type = some (.named name) → name ∉ ParamType.vocabulary

/-- The types of the parameters are not named like conventional ones, and the offset is a 64-bit
    number. -/
def FunctionSymbol.Fit (f : FunctionSymbol) : Prop :=
  (∀ p ∈ f.parameters, p.Fit) ∧ f.offset < 0x10000000000000000

/-- The functions of a text as data. -/
def FunctionSymbol.treeData (functions : List FunctionSymbol) : Data :=
  .list (functions.map FunctionSymbol.toData)

/-- Reads the functions of a text. -/
def FunctionSymbol.treeOfData? (form : Data.Form) : Data → Option (List FunctionSymbol) :=
  Data.list? (FunctionSymbol.ofData? form)

theorem SymbolKind.lossless (form : Data.Form) :
    Lossless SymbolKind.toData (SymbolKind.ofData? form) (fun _ => True) :=
  .choice form (fun kind => by cases kind <;> rfl)

theorem FunctionRule.lossless (form : Data.Form) :
    Lossless FunctionRule.toData (FunctionRule.ofData? form) (fun _ => True) :=
  .choice form (fun rule => by cases rule <;> rfl)

theorem ParamType.lossless :
    Lossless ParamType.toData ParamType.ofData?
      (fun t => ∀ name, t = .named name → name ∉ ParamType.vocabulary) where
  read_write h := congrArg some (ParamType.ofName_name h)
  fit_of_read {d t} hread name ht := by
    obtain ⟨text, -, rfl⟩ := Option.map_eq_some_iff.mp hread
    exact ParamType.not_mem_vocabulary ht

example : ParamType.ofData? (ParamType.named "numeric").toData = some .numeric := rfl

/-- A type that may be missing. -/
theorem ParamType.lossless_optional :
    Lossless (fun type : Option ParamType => (type.map ParamType.toData).getD .null)
      (Data.optional? ParamType.ofData?)
      (fun type => ∀ t, type = some t → ∀ name, t = .named name → name ∉ ParamType.vocabulary) :=
  ParamType.lossless.optional (fun _ h => nomatch h)

theorem Parameter.lossless (form : Data.Form) :
    Lossless Parameter.toData (Parameter.ofData? form) Parameter.Fit where
  read_write {p} h := by
    have htype := ParamType.lossless_optional.read_write (x := p.type)
      (fun t ht name hname => h name (by rw [ht, hname]))
    have hfields : p.toData.fields? form ["name", "type"] false =
        some [some (.str p.name), some ((p.type.map ParamType.toData).getD .null)] := rfl
    simp only [Parameter.ofData?, hfields, Data.required?, Data.withDefault?, Data.text?, htype]
    rfl
  fit_of_read {d p} hread name hname := by
    unfold Parameter.ofData? at hread
    split at hread
    · obtain ⟨text, -, hread⟩ := Option.bind_eq_some_iff.mp hread
      obtain ⟨type, htype, hread⟩ := Option.bind_eq_some_iff.mp hread
      cases hread
      have hnone : ∀ t, (none : Option ParamType) = some t →
          ∀ name, t = .named name → name ∉ ParamType.vocabulary := fun _ h => nomatch h
      exact ParamType.lossless_optional.fit_withDefault hnone htype _ hname _ rfl
    · cases hread

theorem Variable.lossless (form : Data.Form) :
    Lossless Variable.toData (Variable.ofData? form) (fun _ => True) :=
  ⟨fun _ => rfl, fun _ => trivial⟩

theorem FunctionSymbol.fields?_toData (form : Data.Form) (f : FunctionSymbol) :
    f.toData.fields? form keys false =
      some [some (.str f.id), some f.kind.toData, some (.str f.name),
        some (Data.ofOption f.qualifier), some f.rule.toData,
        some (.list (f.parameters.map Parameter.toData)),
        some (.list (f.vars.map Variable.toData)), some (.int f.line.toNat),
        some (.int f.offset)] := rfl

theorem FunctionSymbol.lossless (form : Data.Form) :
    Lossless FunctionSymbol.toData (FunctionSymbol.ofData? form) FunctionSymbol.Fit where
  read_write {f} h := by
    have hkind := (SymbolKind.lossless form).required (x := f.kind) trivial
    have hrule := (FunctionRule.lossless form).required (x := f.rule) trivial
    have hqualifier := Lossless.optionalText.read_write (x := f.qualifier) trivial
    have hparameters := (Parameter.lossless form).list.required h.1
    have hvars := (Variable.lossless form).list.required (x := f.vars) (fun _ _ => trivial)
    have hbound : f.line.toNat < 0x100000000 := UInt32.toNat_lt_size f.line
    have hline := (Lossless.nat 0x100000000).required hbound
    have hoffset := (Lossless.nat 0x10000000000000000).required h.2
    rw [FunctionSymbol.ofData?, fields?_toData]
    simp only [Option.bind_eq_bind, Option.bind_eq_some_iff]
    exact ⟨f.id, rfl, f.kind, hkind, f.name, rfl, f.qualifier, hqualifier, f.rule, hrule,
      f.parameters, hparameters, f.vars, hvars, f.line.toNat, hline, f.offset, hoffset,
      congrArg (fun line => some { f with line }) (UInt32.ofNat_toNat ..)⟩
  fit_of_read {d f} hread := by
    unfold FunctionSymbol.ofData? at hread
    split at hread
    · simp only [Option.bind_eq_bind, Option.bind_eq_some_iff] at hread
      obtain ⟨_, -, _, -, _, -, _, -, _, -, parameters, hparameters, _, -, _, -, offset, hoffset,
        hread⟩ := hread
      cases hread
      exact ⟨(Parameter.lossless form).list.fit_required hparameters,
        (Lossless.nat _).fit_required hoffset⟩
    · cases hread

/-! ## Configurations -/

theorem TypingOptions.lossless (form : Data.Form) :
    Lossless TypingOptions.toData (TypingOptions.ofData? form) (fun _ => True) where
  read_write {o} _ := by
    obtain ⟨fallback, separator⟩ := o
    cases fallback <;> cases separator <;> rfl
  fit_of_read _ := trivial

theorem RuleTexts.lossless (form : Data.Form) :
    Lossless RuleTexts.toData (RuleTexts.ofData? form) (fun _ => True) where
  read_write {texts} _ := by
    obtain ⟨generic, static, user, vars⟩ := texts
    cases generic <;> cases static <;> cases user <;> cases vars <;> rfl
  fit_of_read _ := trivial

theorem Config.lossless (form : Data.Form) :
    Lossless Config.toData (Config.ofData? form) (fun _ => True) where
  read_write {c} _ := by
    have hfields : c.toData.fields? form keys true =
        some [some (.bool c.announce), some c.rules.toData, some c.typing.toData] := rfl
    rw [Config.ofData?, hfields]
    simp only [Option.bind_eq_bind, Option.bind_eq_some_iff]
    exact ⟨c.announce, rfl, c.rules, (RuleTexts.lossless form).read_write trivial, c.typing,
      (TypingOptions.lossless form).read_write trivial, rfl⟩
  fit_of_read _ := trivial

/-! ## Extracted symbols -/

theorem Parameters.parameter_fit (options : TypingOptions) (token : List Char) :
    (parameter options token).Fit := by
  intro name htype
  unfold parameter at htype
  split at htype
  · exact ParamType.not_mem_vocabulary (Option.some.inj htype)
  · unfold inferredType at htype
    split at htype
    · rename_i hinitial
      obtain ⟨c, -, hc⟩ := Option.bind_eq_some_iff.mp hinitial
      cases htype
      exact absurd hc (ParamType.ofInitial?_ne_named c name)
    · cases htype
    · cases htype

/-- What is extracted from a text that can be addressed with 64 bits is fit. -/
theorem FunctionSymbol.fit_of_mem_run {e : Extractor} {text : List Char}
    (htext : Text.byteLength text < 0x10000000000000000) {f : FunctionSymbol}
    (h : f ∈ e.run text) : f.Fit := by
  obtain ⟨found, hfound, rfl⟩ := List.mem_map.mp h
  obtain ⟨hle, hlength⟩ := header_bounds_of_mem hfound
  refine ⟨fun p hp => ?_, ?_⟩
  · obtain ⟨token, -, rfl⟩ := List.mem_map.mp hp
    exact Parameters.parameter_fit e.options token
  · exact Nat.lt_of_le_of_lt (hle.trans hlength) htext

/-! ## Documents -/

namespace Json

variable {α : Type}

/-- Reads a value from a JSON document. -/
def decode? (read : Data → Option α) (text : List Char) : Option α := (parse? text).bind read

/-- Values go through JSON without loss. -/
structure RoundTrips (write : α → Data) (read : Data → Option α) (Fit : α → Prop) : Prop where
  /-- A fit value is read back from what is written of it. -/
  data : ∀ x, Fit x → read (write x) = some x
  /-- It is read back from a document without blanks. -/
  compact : ∀ x, Fit x → decode? read (compact (write x)) = some x
  /-- It is read back from a document with its parts on lines of their own. -/
  pretty : ∀ x, Fit x → decode? read (pretty 0 (write x)) = some x
  /-- However a value is spelled, a fit one is read. -/
  fit : ∀ d x, read d = some x → Fit x
  /-- Writing and reading again makes no difference. -/
  again : ∀ d x, read d = some x → read (write x) = some x
  /-- It makes none to what is read from a document. -/
  documentAgain : ∀ text x, decode? read text = some x →
    decode? read (Json.compact (write x)) = some x

theorem decode?_of_parse? {read : Data → Option α} {text : List Char} {d : Data}
    (h : parse? text = some d) : decode? read text = read d := by
  rw [decode?, h, Option.bind_some]

end Json

theorem Lossless.roundTrips {α : Type} {write : α → Data} {read : Data → Option α}
    {Fit : α → Prop} (h : Lossless write read Fit) (hjson : ∀ x, IsJson (write x)) :
    Json.RoundTrips write read Fit where
  data _ hfit := h.read_write hfit
  compact x hfit := by rw [Json.decode?_of_parse? (Json.parse?_compact (hjson x)), h.read_write hfit]
  pretty x hfit := by rw [Json.decode?_of_parse? (Json.parse?_pretty (hjson x)), h.read_write hfit]
  fit _ _ := h.fit_of_read
  again _ _ := h.again
  documentAgain text x hread := by
    obtain ⟨d, -, hd⟩ := Option.bind_eq_some_iff.mp hread
    rw [Json.decode?_of_parse? (Json.parse?_compact (hjson x)), h.again hd]

/-- The functions of a text together. -/
theorem FunctionSymbol.roundTrips_tree :
    Json.RoundTrips FunctionSymbol.treeData (FunctionSymbol.treeOfData? Json.form)
      (fun functions => ∀ f ∈ functions, f.Fit) :=
  (FunctionSymbol.lossless Json.form).list.roundTrips
    (fun _ => .list_map (fun f _ => f.isJson_toData))

/-- **Symbols and configurations go through JSON.** What is extracted from a text, by any rules and
    with any options, has no type named like a conventional one, and is read back from what is
    written of it. So is every symbol whose types are not named so, and every configuration; and
    what is read of these kinds of values, however it is spelled, is not named so, and is read back
    from what is written of it. -/
theorem json_roundTrips :
    (∀ (e : Extractor) (text : List Char), Text.byteLength text < 0x10000000000000000 →
      (∀ f ∈ e.run text, f.Fit) ∧
        FunctionSymbol.treeOfData? Json.form (FunctionSymbol.treeData (e.run text)) =
          some (e.run text) ∧
        Json.decode? (FunctionSymbol.treeOfData? Json.form)
          (Json.compact (FunctionSymbol.treeData (e.run text))) = some (e.run text) ∧
        Json.decode? (FunctionSymbol.treeOfData? Json.form)
          (Json.pretty 0 (FunctionSymbol.treeData (e.run text))) = some (e.run text)) ∧
      Json.RoundTrips FunctionSymbol.toData (FunctionSymbol.ofData? Json.form)
        FunctionSymbol.Fit ∧
      Json.RoundTrips Parameter.toData (Parameter.ofData? Json.form) Parameter.Fit ∧
      Json.RoundTrips Variable.toData (Variable.ofData? Json.form) (fun _ => True) ∧
      Json.RoundTrips TypingOptions.toData (TypingOptions.ofData? Json.form) (fun _ => True) ∧
      Json.RoundTrips RuleTexts.toData (RuleTexts.ofData? Json.form) (fun _ => True) ∧
      Json.RoundTrips Config.toData (Config.ofData? Json.form) (fun _ => True) := by
  refine ⟨fun e text htext => ?_,
    (FunctionSymbol.lossless _).roundTrips FunctionSymbol.isJson_toData,
    (Parameter.lossless _).roundTrips Parameter.isJson_toData,
    (Variable.lossless _).roundTrips Variable.isJson_toData,
    (TypingOptions.lossless _).roundTrips TypingOptions.isJson_toData,
    (RuleTexts.lossless _).roundTrips RuleTexts.isJson_toData,
    (Config.lossless _).roundTrips Config.isJson_toData⟩
  have hfit : ∀ f ∈ e.run text, f.Fit := fun f hf => FunctionSymbol.fit_of_mem_run htext hf
  have htree := FunctionSymbol.roundTrips_tree
  exact ⟨hfit, htree.data _ hfit, htree.compact _ hfit, htree.pretty _ hfit⟩

/-- A function with a parameter of a type that the source names. -/
def namedType : List Char := "Function A(oOrder as Customer, nTotal, x)\nReturn\n".toList

theorem json_roundTrips_namedType :
    Text.byteLength namedType < 0x10000000000000000 ∧
      ((⟨Rules.compile {}, {}⟩ : Extractor).run namedType).map (·.parameters) =
        [[⟨"oOrder", some (.named "Customer")⟩, ⟨"nTotal", some .numeric⟩,
          ⟨"x", some .undefined⟩]] ∧
      Json.decode? (FunctionSymbol.treeOfData? Json.form)
          (Json.compact (FunctionSymbol.treeData
            ((⟨Rules.compile {}, {}⟩ : Extractor).run namedType))) =
        some ((⟨Rules.compile {}, {}⟩ : Extractor).run namedType) := by
  have hlength : Text.byteLength namedType < 0x10000000000000000 := by decide
  refine ⟨hlength, ?_, (json_roundTrips.1 _ _ hlength).2.2.1⟩
  rw [Rules.compile_default]
  decide

end ProgramOutline
