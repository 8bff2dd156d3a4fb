import ProgramOutline.Files.Config
import ProgramOutline.Proofs.DefaultHeaders
import ProgramOutline.Proofs.Files.Written
import ProgramOutline.Proofs.Identity
import ProgramOutline.Proofs.Text.Utf8
import ProgramOutline.Proofs.Toml.Document

/-!
# A saved configuration

A configuration is written without the rules that are absent, and what a document lacks takes its
default when it is read. The two meet in `Config.withDefaults`: the rules for functions and for
variables have defaults that find something, so their absence does not survive.

Results:
* `Config.reads_toToml`: the lines of the document of a configuration.
* `Config.ofToml?_toToml`: what is read from the document of a configuration.
* `Files.Tree.loadConfig_of_saveConfig`: what is loaded from a file that has been saved.
* `toml_roundTrips`: rule texts survive in the document, whatever they hold.
* `saved_extracts`: when a saved configuration extracts the same after loading.
-/

namespace ProgramOutline

open Toml

/-! ## Rules that are present -/

namespace RuleTexts

/-- The rules that are present, with their keys. -/
def present (texts : RuleTexts) : List (String × String) :=
  texts.entries.filterMap (fun (key, text) => text.map (fun text => (key, text)))

/-- The rules with the default ones in place of those that a document without them has. -/
def withDefaults (texts : RuleTexts) : RuleTexts :=
  { texts with
    generic := texts.generic.or (some defaultFunctionRule)
    vars := texts.vars.or (some defaultVariableRule) }

theorem keys_nodup : (RuleSlot.all.map RuleSlot.key).Nodup := by decide

theorem keys_bare : ∀ key ∈ RuleSlot.all.map RuleSlot.key, IsBareKey key := by decide

theorem flatMap_entries (texts : RuleTexts) :
    texts.entries.flatMap (fun (key, text) => (text.map (Config.tomlLine key)).getD []) =
      texts.present.flatMap (fun (key, text) => Config.tomlLine key text) := by
  rw [present]
  induction texts.entries with
  | nil => rfl
  | cons entry rest ih =>
    obtain ⟨key, text⟩ := entry
    rw [List.flatMap_cons, List.filterMap_cons, ih]
    cases text with
    | none => rfl
    | some text => rfl

theorem present_keys_sublist (texts : RuleTexts) :
    (texts.present.map Prod.fst).Sublist (RuleSlot.all.map RuleSlot.key) := by
  rw [present, entries]
  induction RuleSlot.all with
  | nil => exact .slnil
  | cons slot rest ih =>
    rw [List.map_cons, List.filterMap_cons, List.map_cons]
    cases texts.get slot with
    | none => exact ih.cons _
    | some text => exact ih.cons_cons _

/-- Reading the rules that are present puts the defaults in place of the others. -/
theorem ofData?_present (texts : RuleTexts) :
    ofData? Toml.form (.table (textData texts.present)) = some texts.withDefaults := by
  obtain ⟨generic, static, user, vars⟩ := texts
  -- which keys are found depends on nothing but which rules are present
  cases generic <;> cases static <;> cases user <;> cases vars <;> rfl

end RuleTexts

/-- The typing options as keys and values. -/
def TypingOptions.pairs (options : TypingOptions) : List (String × String) :=
  [("fallback", options.fallback.name), ("as_separator", options.separator.name)]

theorem TypingOptions.keys_nodup (options : TypingOptions) :
    (options.pairs.map Prod.fst).Nodup :=
  show ["fallback", "as_separator"].Nodup by decide

theorem TypingOptions.keys_bare (options : TypingOptions) :
    ∀ pair ∈ options.pairs, IsBareKey pair.1 := by
  have hkeys : ∀ key ∈ ["fallback", "as_separator"], IsBareKey key := by decide
  exact fun pair hpair => hkeys _ (List.mem_map_of_mem hpair)

theorem TypingOptions.ofData?_pairs (options : TypingOptions) :
    ofData? Toml.form (.table (textData options.pairs)) = some options := by
  obtain ⟨fallback, separator⟩ := options
  cases fallback <;> cases separator <;> rfl

/-! ## The whole document -/

namespace Config

/-- The configuration with the default rules in place of those that its document lacks. -/
def withDefaults (c : Config) : Config := { c with rules := c.rules.withDefaults }

theorem toToml_eq (c : Config) :
    c.toToml = "show_activation_message".toList ++ ' ' :: '=' :: ' ' ::
      ((if c.announce then "true" else "false").toList ++ '\n' :: '\n' ::
        '[' :: ("regex".toList ++ ']' :: '\n' ::
          (c.rules.present.flatMap (fun (key, text) => tomlLine key text) ++ '\n' ::
            '[' :: ("parameters".toList ++ ']' :: '\n' ::
              (c.typing.pairs.flatMap (fun (key, text) => tomlLine key text) ++ []))))) := by
  have hflag : "show_activation_message = ".toList =
      "show_activation_message".toList ++ [' ', '=', ' '] := rfl
  have hregex : "\n\n[regex]\n".toList = ['\n', '\n', '['] ++ "regex".toList ++ [']', '\n'] := rfl
  have hparameters : "\n[parameters]\n".toList =
      ['\n', '['] ++ "parameters".toList ++ [']', '\n'] := rfl
  unfold toToml
  simp only [RuleTexts.flatMap_entries, hflag, hregex, hparameters, TypingOptions.pairs,
    List.flatMap_cons, List.flatMap_nil, List.append_assoc, List.cons_append, List.nil_append,
    List.append_nil]

theorem readValue_bool (fuel depth : Nat) (b : Bool) (rest : List Char) :
    readValue (fuel + 1) depth ((if b then "true" else "false").toList ++ '\n' :: rest) =
      some (.bool b, '\n' :: rest) := by
  cases b with
  | true => rfl
  | false => rfl

theorem skipBlanks_bool (b : Bool) (rest : List Char) :
    skipBlanks ((if b then "true" else "false").toList ++ rest) =
      (if b then "true" else "false").toList ++ rest := by
  cases b with
  | true => rfl
  | false => rfl

/-- What the first line of the document says. -/
def opening (c : Config) : Entries := [("show_activation_message", .value (.bool c.announce))]

/-- The document of a configuration is read line by line. -/
theorem reads_toToml (c : Config) :
    Reads {} c.toToml
      (.inTable (c.opening ++ [("regex", .table .header (textEntries c.rules.present))])
        "parameters" c.typing.pairs) [] := by
  have hflag : ∀ rest, Reads {} ("show_activation_message".toList ++ ' ' :: '=' :: ' ' ::
      ((if c.announce then "true" else "false").toList ++ '\n' :: rest))
      ⟨c.opening, []⟩ rest := by
    intro rest
    exact .pair (by decide) (skipBlanks_bool c.announce _)
      (fun fuel => readValue_bool fuel 0 c.announce rest) rfl
  have hrules : ∀ pair ∈ c.rules.present, IsBareKey pair.1 := fun pair hpair =>
    RuleTexts.keys_bare _ (c.rules.present_keys_sublist.mem (List.mem_map_of_mem hpair))
  have hnodup := c.rules.present_keys_sublist.nodup RuleTexts.keys_nodup
  rw [toToml_eq]
  refine (hflag _).trans ((Reads.blank _ _).trans ?_)
  refine (Reads.section (by decide) rfl hrules hnodup _).trans
    ((Reads.blank _ _).trans ?_)
  exact Reads.section (by decide) rfl c.typing.keys_bare c.typing.keys_nodup []

/-- Reading the document of a configuration gives the configuration back, with the default rules in
    place of those that the document lacks. -/
theorem ofToml?_toToml (c : Config) : ofToml? c.toToml = some c.withDefaults := by
  have hmark : dropMark c.toToml = c.toToml := by
    rw [toToml_eq]
    rfl
  have hfields : Data.fields? Toml.form keys true (.table
      [("show_activation_message", .bool c.announce),
        ("regex", .table (textData c.rules.present)),
        ("parameters", .table (textData c.typing.pairs))]) =
      some [some (.bool c.announce), some (.table (textData c.rules.present)),
        some (.table (textData c.typing.pairs))] := rfl
  rw [ofToml?, parse?_of_reads hmark c.reads_toToml, Option.bind_some]
  simp only [Document.inTable, opening, List.cons_append, List.nil_append, entriesData, Item.toData,
    entriesData_textEntries, ofData?, hfields, Data.withDefault?, Data.bool?,
    RuleTexts.ofData?_present, TypingOptions.ofData?_pairs]
  rfl

end Config

/-! ## Files -/

open Files

/-- A file to which a configuration has been saved holds its document. -/
theorem Files.Tree.read?_of_saveConfig {tree tree' : Tree} {path : String} {c : Config}
    (h : tree.saveConfig path c = (tree', .ok ())) :
    tree'.pathExists path = true ∧
      (tree'.read? path).bind Text.decodeStrict? = some c.toToml := by
  unfold saveConfig at h
  split at h
  · cases h
  · split at h
    · rename_i hwritten
      obtain rfl := (Prod.mk.inj h).1
      obtain ⟨hexists, hread⟩ := read?_of_write? hwritten
      refine ⟨hexists, ?_⟩
      rw [hread, Option.bind_some, Text.decodeStrict?_toUTF8, String.toList_ofList]
    · cases h

/-- What is loaded from a file to which a configuration has been saved. -/
theorem Files.Tree.loadConfig_of_saveConfig {tree tree' : Tree} {path : String} {c : Config}
    (h : tree.saveConfig path c = (tree', .ok ())) :
    tree'.loadConfig (some path) = .ok c.withDefaults := by
  obtain ⟨hexists, htext⟩ := read?_of_saveConfig h
  simp only [loadConfig, Option.getD_some, hexists, Bool.not_true, Bool.false_eq_true, if_false,
    htext, c.ofToml?_toToml]

/-! ## Rules that are filled in -/

namespace Config

/-- With rules for functions and for variables nothing is filled in. -/
theorem withDefaults_eq_self {c : Config} (hgeneric : c.rules.generic.isSome = true)
    (hvars : c.rules.vars.isSome = true) : c.withDefaults = c := by
  obtain ⟨announce, ⟨generic, static, user, vars⟩, typing⟩ := c
  obtain ⟨source, rfl⟩ := Option.isSome_iff_exists.mp hgeneric
  obtain ⟨source', rfl⟩ := Option.isSome_iff_exists.mp hvars
  rfl

/-- If nothing is filled in, both rules are there. -/
theorem isSome_of_withDefaults_eq_self {c : Config} (h : c.withDefaults = c) :
    c.rules.generic.isSome = true ∧ c.rules.vars.isSome = true := by
  constructor
  · rw [← h, withDefaults, RuleTexts.withDefaults]
    cases c.rules.generic <;> rfl
  · rw [← h, withDefaults, RuleTexts.withDefaults]
    cases c.rules.vars <;> rfl

/-- A rule that is present is left as it is. -/
theorem get_withDefaults {c : Config} {slot : RuleSlot} {source : String}
    (h : c.rules.get slot = some source) : c.withDefaults.rules.get slot = some source := by
  have hor : ∀ {text default : Option String}, text = some source →
      text.or default = some source := by
    rintro text default rfl
    rfl
  rcases slot with (_ | _ | _) | _
  · exact hor h
  · exact h
  · exact h
  · exact hor h

end Config

/-! ## Rule texts -/

/-- **Rule texts in a TOML document.** Whatever a rule text holds, reading the document of a
    configuration gives it back; the whole configuration is read back just when it has rules for
    functions and for variables. The document is what a file holds to which the configuration has
    been saved. -/
theorem toml_roundTrips (c : Config) :
    (Config.ofToml? c.toToml = some c ↔
      c.rules.generic.isSome = true ∧ c.rules.vars.isSome = true) ∧
    (∃ read, Config.ofToml? c.toToml = some read ∧
      ∀ slot source, c.rules.get slot = some source → read.rules.get slot = some source) ∧
    ∀ tree tree' path, Files.Tree.saveConfig tree path c = (tree', .ok ()) →
      (tree'.read? path).bind Text.decodeStrict? = some c.toToml := by
  refine ⟨?_, ⟨c.withDefaults, c.ofToml?_toToml, fun _ _ => Config.get_withDefaults⟩,
    fun _ _ _ hsaved => (Files.Tree.read?_of_saveConfig hsaved).2⟩
  rw [Config.ofToml?_toToml, Option.some.injEq]
  constructor
  · exact Config.isSome_of_withDefaults_eq_self
  · rintro ⟨hgeneric, hvars⟩
    exact Config.withDefaults_eq_self hgeneric hvars

/-- A configuration with rule texts for which no one form of quotes would do: quotes of both kinds
    in rows, backslashes, line breaks at the start, a carriage return, a control character, and
    nothing at all. -/
def quotedRules : Config where
  rules :=
    { generic := some "\n\r\n'''\"\"\"\\\t\x01"
      static := some "\\w\"\""
      user := some "''\n"
      vars := some "" }

theorem toml_roundTrips_quotedRules :
    ∃ tree, Files.Tree.saveConfig ⟨"/work", []⟩ "outline.toml" quotedRules = (tree, .ok ()) ∧
      ((tree.read? "outline.toml").bind Text.decodeStrict?).bind Config.ofToml? =
        some quotedRules := by
  obtain ⟨hwhole, -, hfile⟩ := toml_roundTrips quotedRules
  have hsaved : Files.Tree.saveConfig ⟨"/work", []⟩ "outline.toml" quotedRules =
      ((Files.Tree.saveConfig ⟨"/work", []⟩ "outline.toml" quotedRules).1, .ok ()) := rfl
  refine ⟨_, hsaved, ?_⟩
  rw [hfile _ _ _ hsaved, Option.bind_some]
  exact hwhole.mpr ⟨rfl, rfl⟩

/-! ## What is extracted -/

namespace Config

/-- A line that declares a function. -/
def declaration : List Char := "Function A()".toList

theorem headerScan_declaration : headerScan declaration ≠ [] := by
  have hread : (Grammar.headerLine? declaration).isSome = true := by decide
  obtain ⟨⟨line, rest⟩, hline⟩ := Option.isSome_iff_exists.mp hread
  rw [headerScan, LineReader.scan_of_read _ (Nat.zero_le 0) hline]
  exact List.cons_ne_nil _ _

/-- A rule for functions that is absent finds none, but the default rule does. -/
theorem run_withDefaults_ne {c : Config} (habsent : c.rules.generic = none) :
    c.withDefaults.extractor.run declaration ≠ c.extractor.run declaration := by
  intro hrun
  have hgroup : c.withDefaults.extractor.group declaration .generic =
      c.extractor.group declaration .generic := by
    rw [Extractor.group, Extractor.group, hrun]
  have hnone : c.extractor.rules.get (.function .generic) = none := by
    simp [extractor, Rules.compile, Rules.get, RuleTexts.get, habsent, compileRule, ruleText?]
  have hdefault : c.withDefaults.extractor.rules.get (.function .generic) = some headerPattern := by
    simp [extractor, withDefaults, RuleTexts.withDefaults, Rules.compile, Rules.get, RuleTexts.get,
      habsent, compileRule_default]
  rw [Extractor.group_eq_map, Extractor.group_eq_map, Extractor.headersOf, Extractor.headersOf,
    hnone, hdefault] at hgroup
  dsimp only at hgroup
  rw [scanHeaders_headerPattern, List.map_nil, List.map_eq_nil_iff] at hgroup
  exact headerScan_declaration hgroup

end Config

/-- **Saving and loading.** A file to which a configuration has been saved is loaded, and gives the
    configuration back with the default rules in place of a missing rule for functions or for
    variables. With both rules present, whether blank, broken or in order, it is the configuration
    itself, so the same is extracted from every text; without a rule for functions some text shows
    the difference. -/
theorem saved_extracts {tree tree' : Files.Tree} {path : String} {c : Config}
    (hsaved : tree.saveConfig path c = (tree', .ok ())) :
    ∃ loaded, tree'.loadConfig (some path) = .ok loaded ∧ loaded = c.withDefaults ∧
      (c.rules.generic.isSome = true → c.rules.vars.isSome = true →
        loaded = c ∧ ∀ text, loaded.extractor.run text = c.extractor.run text) ∧
      (c.rules.generic = none → ∃ text, loaded.extractor.run text ≠ c.extractor.run text) := by
  refine ⟨c.withDefaults, Files.Tree.loadConfig_of_saveConfig hsaved, rfl, ?_, ?_⟩
  · intro hgeneric hvars
    rw [Config.withDefaults_eq_self hgeneric hvars]
    exact ⟨rfl, fun _ => rfl⟩
  · intro habsent
    exact ⟨Config.declaration, Config.run_withDefaults_ne habsent⟩

/-- A configuration with a blank rule for functions and one for static functions. -/
def blankFunctions : Config :=
  { rules := { generic := some "", static := some defaultFunctionRule } }

theorem saved_extracts_blankFunctions :
    ∃ tree, Files.Tree.saveConfig ⟨"/work", []⟩ "outline.toml" blankFunctions = (tree, .ok ()) ∧
      tree.loadConfig (some "outline.toml") = .ok blankFunctions := by
  have hsaved : Files.Tree.saveConfig ⟨"/work", []⟩ "outline.toml" blankFunctions =
      ((Files.Tree.saveConfig ⟨"/work", []⟩ "outline.toml" blankFunctions).1, .ok ()) := rfl
  obtain ⟨loaded, hloaded, -, hsame, -⟩ := saved_extracts hsaved
  refine ⟨_, hsaved, ?_⟩
  rw [hloaded, (hsame rfl rfl).1]

/-- A configuration whose rule for functions is absent. -/
def withoutFunctions : Config := { rules := { generic := none } }

theorem saved_withoutFunctions :
    ∃ tree loaded text,
      Files.Tree.saveConfig ⟨"/work", []⟩ "outline.toml" withoutFunctions = (tree, .ok ()) ∧
        tree.loadConfig (some "outline.toml") = .ok loaded ∧
          loaded.extractor.run text ≠ withoutFunctions.extractor.run text := by
  have hsaved : Files.Tree.saveConfig ⟨"/work", []⟩ "outline.toml" withoutFunctions =
      ((Files.Tree.saveConfig ⟨"/work", []⟩ "outline.toml" withoutFunctions).1, .ok ()) := rfl
  exact ⟨_, _, Config.declaration, hsaved, Files.Tree.loadConfig_of_saveConfig hsaved,
    Config.run_withDefaults_ne rfl⟩

end ProgramOutline
