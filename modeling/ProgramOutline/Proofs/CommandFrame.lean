import ProgramOutline.Command.Run
import ProgramOutline.Proofs.DefaultVariables
import ProgramOutline.Proofs.Files.Frame
import ProgramOutline.Proofs.SavedConfig

/-!
# Which files a command touches

Only `init-config` and the log file change anything. Without a log file the other commands return
the files they were given, whether they succeed or fail. `init-config` makes directories before it
writes, and these stay even if it fails, but no file is touched unless the configuration is saved;
then the file at the path is the only one that differs, and the default configuration is loaded
from it.

Results:
* `withoutLog_of_forall`: a command line without a log option asks for no log file.
* `perform_leaves`: an action that does not write leaves the files as they are.
* `initConfig_error`, `initConfig_ok`: what `init-config` does to the files.
* `run_frame`: what a command line without a log file does to the files.
-/

namespace ProgramOutline.Command

open Files

/-! ## Command lines without a log file -/

/-- Does a command line ask for no log file? -/
def WithoutLog (arguments : List String) : Prop :=
  ∀ invocation, parse arguments = .run invocation → invocation.log = none

/-- Does an argument look like the option for the log file? -/
def isLogOption (argument : String) : Bool :=
  match argument.toList with
  | '-' :: '-' :: text => (longOption text).1 == "log"
  | '-' :: letter :: _ => letter == 'l'
  | _ => false

theorem Options.log_of_set? {options options' : Options} {letter : Char} {path : String}
    (h : options.set? letter path = some options') (hletter : letter ≠ 'l') :
    options'.log = options.log := by
  unfold set? at h
  split at h
  · cases h
  · split at h
    · split at h
      · cases h
      · rw [← Option.some.inj h]
    · exact absurd rfl hletter
    · cases h

theorem ne_log_of_short {argument : String} {letter : Char} {text : List Char}
    (h : isLogOption argument = false) (hshort : argument.toList = '-' :: letter :: text)
    (hletter : letter = '-' → False) : letter ≠ 'l' := by
  have hne : ¬letter = '-' := hletter
  simpa [isLogOption, hshort, hne] using h

theorem ne_log_of_long {argument name : String} {letter : Char} {text : List Char}
    {value : Option String} (h : isLogOption argument = false)
    (hlong : argument.toList = '-' :: '-' :: text) (hoption : longOption text = (name, value))
    (hletter : optionLetter? name = some letter) : letter ≠ 'l' := by
  have hname : name ≠ "log" := by simpa [isLogOption, hlong, hoption] using h
  unfold optionLetter? at hletter
  split at hletter
  · rw [← Option.some.inj hletter]
    decide
  · exact absurd rfl hname
  · cases hletter

/-- Is no log file given, neither so far nor by the arguments that are left? -/
def Ending.WithoutLog : Ending → Prop
  | .done options => options.log = none
  | .command options _ rest => options.log = none ∧ ∀ a ∈ rest, isLogOption a = false
  | _ => True

/-- Reading one side of a command line gives a log file only for a log option. -/
theorem withoutLog_readSide {switch : Option String} {limit : Option Nat} {options : Options}
    {arguments : List String} (h : ∀ a ∈ arguments, isLogOption a = false)
    (hlog : options.log = none) : (readSide switch limit options arguments).WithoutLog := by
  fun_induction readSide switch limit options arguments
  case case1 => exact hlog
  case case3 => exact hlog
  case case8 hset ih =>
    obtain ⟨hargument, hrest⟩ := List.forall_mem_cons.mp h
    obtain ⟨letter, hletter, hset⟩ := Option.bind_eq_some_iff.mp hset
    have hlong := ne_log_of_long hargument (by assumption) (by assumption) hletter
    exact ih hrest ((Options.log_of_set? hset hlong).trans hlog)
  case case11 ih => exact ih (List.forall_mem_cons.mp h).2 hlog
  case case13 hletter _ _ hset ih =>
    obtain ⟨hargument, hrest⟩ := List.forall_mem_cons.mp h
    have hlong := ne_log_of_long hargument (by assumption) (by assumption) hletter
    exact ih (List.forall_mem_cons.mp hrest).2 ((Options.log_of_set? hset hlong).trans hlog)
  case case20 hset ih =>
    obtain ⟨hargument, hrest⟩ := List.forall_mem_cons.mp h
    have hshort := ne_log_of_short hargument (by assumption) (by assumption)
    exact ih (List.forall_mem_cons.mp hrest).2 ((Options.log_of_set? hset hshort).trans hlog)
  case case23 hset ih =>
    obtain ⟨hargument, hrest⟩ := List.forall_mem_cons.mp h
    have hshort := ne_log_of_short hargument (by assumption) (by assumption)
    exact ih hrest ((Options.log_of_set? hset hshort).trans hlog)
  case case25 => exact ⟨hlog, (List.forall_mem_cons.mp h).2⟩
  case case26 ih => exact ih (List.forall_mem_cons.mp h).2 hlog
  -- the other cases end in help, the version or a misuse
  all_goals trivial

/-- A command line without a log option asks for no log file. -/
theorem withoutLog_of_forall {arguments : List String}
    (h : ∀ argument ∈ arguments, isLogOption argument = false) : WithoutLog arguments := by
  intro invocation hparse
  have houter : (readSide none none {} arguments).WithoutLog := withoutLog_readSide h rfl
  unfold parse at hparse
  split at hparse
  iterate 4 cases hparse
  rename_i outer name rest hside
  rw [hside] at houter
  obtain ⟨houter, hrest⟩ := houter
  split at hparse
  · cases hparse
  split at hparse
  · cases hparse
  · rename_i switch limit hshape
    have hinner : (readSide switch (some limit) {} rest).WithoutLog :=
      withoutLog_readSide hrest rfl
    split at hparse
    · cases hparse
    · rename_i inner hside
      rw [hside] at hinner
      split at hparse
      · obtain rfl := Request.run.inj hparse
        simp only [Ending.WithoutLog] at hinner
        rw [hinner, houter]
        rfl
      · cases hparse
    · cases hparse

/-! ## Commands that only read -/

/-- Does a command leave the files as they were given to it? -/
def Leaves (files : Tree) : Except Breakdown Report → Prop
  | .ok report => report.files = files
  | .error breakdown => breakdown.files = none

theorem leaves_orBreak {α : Type} {files : Tree} {result : Except Failure α}
    {next : α → Except Breakdown Report} (h : ∀ a, Leaves files (next a)) :
    Leaves files (orBreak result >>= next) := by
  cases result with
  | ok a => exact h a
  | error failure => rfl

variable (files : Tree)

theorem leaves_outline (config : Config) (file : String) (json : Bool) :
    Leaves files (outline files config file json) :=
  leaves_orBreak fun _ => rfl

theorem leaves_goto (config : Config) (file function : String) :
    Leaves files (goto files config file function) := by
  refine leaves_orBreak fun session => ?_
  dsimp only
  split
  · rfl
  · rfl

theorem leaves_watch (config : Config) (file : String) (json : Bool) (edits : List Watch.Edit) :
    Leaves files (watch files config file json edits) :=
  leaves_orBreak fun _ => rfl

/-- An action that does not write the configuration leaves the files as they are. -/
theorem perform_leaves (config : Option String) (edits : List Watch.Edit) {action : Action}
    (haction : ∀ force, action ≠ .initConfig force) :
    Leaves files (perform files config edits action) := by
  cases action with
  | initConfig force => exact absurd rfl (haction force)
  | outline file json => exact leaves_orBreak fun config => leaves_outline files config file json
  | goto file function => exact leaves_orBreak fun config => leaves_goto files config file function
  | watch file json => exact leaves_orBreak fun config => leaves_watch files config file json edits

/-! ## Writing the configuration -/

theorem validate_default : Config.validate {} = .ok () := by
  have htexts : ∀ rule, compileRule rule none = .ok none := fun _ => rfl
  simp only [Config.validate, Rules.compileAll, RuleTexts.get, compileRule_default, htexts,
    compileRule_vars_default]
  rfl

variable {files}

/-- If the configuration cannot be written, no file is touched. -/
theorem initConfig_error {path : Option String} {force : Bool} {breakdown : Breakdown}
    (h : initConfig files path force = .error breakdown) :
    Tree.SameFiles (breakdown.files.getD files) files := by
  unfold initConfig at h
  dsimp only at h
  split at h
  · obtain rfl := Except.error.inj h
    exact .refl files
  · split at h
    · cases h
    · rename_i hsaved
      obtain rfl := Except.error.inj h
      exact Tree.saveConfig_error_frame hsaved

/-- A configuration that is there stays as it is unless it may be overwritten. -/
theorem initConfig_present {path : Option String}
    (h : files.pathExists (path.getD configFileName) = true) :
    initConfig files path false =
      .error { failure := .alreadyThere (path.getD configFileName) } := by
  simp [initConfig, h]
  rfl

/-- If the configuration is written, it is the only file that is touched, and it is the default
    configuration. -/
theorem initConfig_ok {path : Option String} {force : Bool} {report : Report}
    (h : initConfig files path force = .ok report) :
    ∃ place, report.files.place? (path.getD configFileName) = some place ∧
      (∀ other, other ≠ place → report.files.fileAt? other = files.fileAt? other) ∧
      report.files.loadConfig (some (path.getD configFileName)) = .ok {} := by
  unfold initConfig at h
  dsimp only at h
  split at h
  · cases h
  · split at h
    · rename_i hsaved
      obtain rfl := Except.ok.inj h
      obtain ⟨place, hplace, -, hothers⟩ := Tree.saveConfig_ok_frame hsaved
      refine ⟨place, hplace, hothers, ?_⟩
      rw [Tree.loadConfig_of_saveConfig hsaved, Config.withDefaults_eq_self rfl rfl]
    · cases h

/-! ## Command lines -/

/-- The path to which `init-config` writes. -/
def Invocation.target (invocation : Invocation) : String :=
  invocation.config.getD configFileName

section Run

variable {arguments : List String} {invocation : Invocation}

/-- Without a log file a command line does what its action does. -/
theorem run_of_parse (files : Tree) (edits : List Watch.Edit)
    (hparse : parse arguments = .run invocation) (hlog : invocation.log = none) :
    (∃ report, perform files invocation.config edits invocation.action = .ok report ∧
      (run files arguments edits).exit = 0 ∧ (run files arguments edits).files = report.files) ∨
    ∃ breakdown, perform files invocation.config edits invocation.action = .error breakdown ∧
      (run files arguments edits).exit = 1 ∧
      (run files arguments edits).files = breakdown.files.getD files := by
  have hopened : openLog files invocation.log = files := by
    rw [hlog]
    rfl
  rw [run, hparse]
  dsimp only
  rw [hopened]
  cases perform files invocation.config edits invocation.action with
  | ok report => exact .inl ⟨report, rfl, rfl, rfl⟩
  | error breakdown => exact .inr ⟨breakdown, rfl, rfl, rfl⟩

/-- A command line that does not write the configuration leaves the files as they are. -/
theorem run_leaves {edits : List Watch.Edit} (hlog : WithoutLog arguments)
    (hreads : ∀ invocation force, parse arguments = .run invocation →
      invocation.action ≠ .initConfig force) : (run files arguments edits).files = files := by
  cases hparse : parse arguments with
  | misuse => rw [run, hparse]
  | help => rw [run, hparse]
  | version => rw [run, hparse]
  | run invocation =>
    have hleaves := perform_leaves files invocation.config edits
      fun force => hreads invocation force hparse
    rcases run_of_parse files edits hparse (hlog invocation hparse) with
      ⟨report, hperform, -, hfiles⟩ | ⟨breakdown, hperform, -, hfiles⟩
    · rw [hperform] at hleaves
      exact hfiles.trans hleaves
    · rw [hperform] at hleaves
      rw [hfiles, hleaves, Option.getD_none]

/-- A command line that fails touches no file. -/
theorem sameFiles_of_exit {edits : List Watch.Edit} (hlog : WithoutLog arguments)
    (hexit : (run files arguments edits).exit ≠ 0) :
    Tree.SameFiles (run files arguments edits).files files := by
  by_cases hwrites : ∃ invocation force, parse arguments = .run invocation ∧
      invocation.action = .initConfig force
  · obtain ⟨invocation, force, hparse, haction⟩ := hwrites
    rcases run_of_parse files edits hparse (hlog invocation hparse) with
      ⟨-, -, hzero, -⟩ | ⟨breakdown, hperform, -, hfiles⟩
    · exact absurd hzero hexit
    · rw [haction] at hperform
      rw [hfiles]
      exact initConfig_error hperform
  · push Not at hwrites
    rw [run_leaves hlog hwrites]
    exact .refl files

end Run

/-- **What a command line without a log file does to the files.** Unless it is a well formed
    `init-config`, it leaves the files as they are, whatever its exit code; `watch` too writes
    nothing of its own. No command line that fails touches a file, and `init-config` fails whenever
    something stands at the path and is not to be overwritten. When it succeeds, the file at the
    path is the only one that may differ, and it gives the default configuration, whose rules all
    work. -/
theorem run_frame (files : Tree) {arguments : List String} (edits : List Watch.Edit)
    (hlog : WithoutLog arguments) :
    ((∀ invocation force, parse arguments = .run invocation →
        invocation.action ≠ .initConfig force) → (run files arguments edits).files = files) ∧
    ((run files arguments edits).exit ≠ 0 →
      Tree.SameFiles (run files arguments edits).files files) ∧
    ∀ invocation force, parse arguments = .run invocation →
      invocation.action = .initConfig force →
      (files.pathExists invocation.target = true → force = false →
        (run files arguments edits).exit = 1 ∧ (run files arguments edits).files = files) ∧
      ((run files arguments edits).exit = 0 →
        ∃ place, (run files arguments edits).files.place? invocation.target = some place ∧
          (∀ other, other ≠ place →
            (run files arguments edits).files.fileAt? other = files.fileAt? other) ∧
          (run files arguments edits).files.loadConfig (some invocation.target) = .ok {} ∧
          Config.validate {} = .ok ()) := by
  refine ⟨run_leaves hlog, sameFiles_of_exit hlog, fun invocation force hparse haction => ?_⟩
  have hrun := run_of_parse files edits hparse (hlog invocation hparse)
  rw [haction] at hrun
  constructor
  · rintro hpresent rfl
    have hkept := initConfig_present hpresent
    rcases hrun with ⟨report, hperform, -, -⟩ | ⟨breakdown, hperform, hexit, hfiles⟩
    · cases hkept.symm.trans hperform
    · obtain rfl := Except.error.inj (hkept.symm.trans hperform)
      exact ⟨hexit, hfiles⟩
  · intro hexit
    rcases hrun with ⟨report, hperform, -, hfiles⟩ | ⟨breakdown, -, hone, -⟩
    · obtain ⟨place, hplace, hothers, hloaded⟩ := initConfig_ok hperform
      rw [hfiles]
      exact ⟨place, hplace, hothers, hloaded, validate_default⟩
    · cases hone.symm.trans hexit

/-- A source and a place for the configuration in a directory that is yet to be made. -/
def sourceOnly : Tree := ⟨"/work", [(["a.prw"], .file [])]⟩

theorem run_frame_newDirectory :
    WithoutLog ["init-config", "-c", "b/c.toml"] ∧
      (run sourceOnly ["init-config", "-c", "b/c.toml"] []).exit = 0 ∧
      (run sourceOnly ["init-config", "-c", "b/c.toml"] []).files.loadConfig (some "b/c.toml") =
        .ok {} := by
  have hlog : WithoutLog ["init-config", "-c", "b/c.toml"] :=
    withoutLog_of_forall (by decide)
  have hparse : parse ["init-config", "-c", "b/c.toml"] =
      .run ⟨some "b/c.toml", none, .initConfig false⟩ := by decide
  have hexit : (run sourceOnly ["init-config", "-c", "b/c.toml"] []).exit = 0 := by decide
  obtain ⟨-, -, hwrites⟩ := run_frame sourceOnly [] hlog
  obtain ⟨-, -, -, hloaded, -⟩ := (hwrites _ false hparse rfl).2 hexit
  exact ⟨hlog, hexit, hloaded⟩

end ProgramOutline.Command
