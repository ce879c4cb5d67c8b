/-
This file transcribes the parser of the command line and asks which files make it, or
the start-up behind it, throw. A text that is not JSON is caught where it is parsed. The
conversion of the document happens outside of that, and of all it calls only the reading
of the flag throws: a value that is neither a boolean nor an integer is no flag.
-/

import MavlinkHub.StartupProtocol

namespace MavlinkHub

open JsonUtils

/-- `ParseResult::Status`. -/
inductive ParseStatus
  | ok
  | showHelp
  | fatalError
  deriving DecidableEq

/-- `ParseResult`. -/
structure ParseResult where
  status : ParseStatus := .ok
  exitCode : Int := 0
  config : Option AppConfig := none

/-- What the parser of the command line asks of CLI11, and of the file system besides the
contents of files. -/
structure CommandLine where
  /-- `CLI::App::parse`: the value of `--config`, empty without one, or the exit code of the
  `ParseError` that is thrown. -/
  parse : List String → Except Int String
  /-- `std::filesystem::canonical`; `none` if it reports an error. -/
  canonical : String → Option String

namespace Startup

/-- `kFatalErrorExitCode`. -/
def kFatalErrorExitCode : Int := 1

variable (jsoncons : Jsoncons) (fileSystem : FileSystem) (commandLine : CommandLine)

/-- The result for a config file that cannot be used. -/
def fatalError : ParseResult := { status := .fatalError, exitCode := kFatalErrorExitCode }

/-- `parseArgs`. Without a config file the flag of the config is what its memory held before;
with one, what the memory of the parsed config held if the file gives no flag. The result is
`none` if an exception leaves the function. -/
def parseArgs (memory parsedMemory : Bool) (args : List String) : Option ParseResult :=
  match commandLine.parse args with
  | .error exitCode => some { status := .showHelp, exitCode }
  | .ok configFilePath =>
    if configFilePath ≠ "" then
      match commandLine.canonical configFilePath with
      | none => some fatalError
      | some canonicalConfigFilePath =>
        match fileSystem.read canonicalConfigFilePath with
        | none => some fatalError
        | some text =>
          match fstreamToAppConfig jsoncons fileSystem parsedMemory text with
          | .error .thrown => none
          | .error .rejected => some fatalError
          | .ok processedCfg => some { config := processedCfg }
    else some { config := some { applyUserPlanOnStartup := memory } }

/-- The config file that a command line names. -/
def namedFile (args : List String) : Option String :=
  match commandLine.parse args with
  | .error _ => none
  | .ok configFilePath => if configFilePath ≠ "" then some configFilePath else none

/-- The text of a config file, if it can be found and opened. -/
def configText (configFilePath : String) : Option String :=
  (commandLine.canonical configFilePath).bind fileSystem.read

end Startup

/-! ### Files that can be reported on -/

/-- A text is not JSON, or a library list in it is refused, or its flag can be read. -/
def FlagConvertible (jsoncons : Jsoncons) (text : String) : Prop :=
  ∀ appCfgJson, jsoncons.parse text = some appCfgJson →
    LibsAccepted jsoncons "agent_lib_list" appCfgJson →
      LibsAccepted jsoncons "transport_lib_list" appCfgJson → FlagAccepted appCfgJson

section Errors

variable {jsoncons : Jsoncons} {fileSystem : FileSystem} {commandLine : CommandLine}
  {memory parsedMemory : Bool} {text : String}

theorem fstreamToLibList_ne_thrown :
    fstreamToLibList jsoncons text ≠ .error .thrown := by
  rw [fstreamToLibList]
  cases jsoncons.parse text with
  | none => exact fun thrown => by cases thrown
  | some libListJson =>
    cases parsed : jsonToLibList jsoncons libListJson with
    | none =>
      simp only [parsed]
      exact fun thrown => by cases thrown
    | some libList =>
      simp only [parsed]
      exact fun thrown => by cases thrown

theorem pathAccepted_of_total
    (total : ∀ path, (fileSystem.weaklyCanonical path).isSome = true) (key : String)
    (appCfgJson : Json) : PathAccepted jsoncons fileSystem key appCfgJson :=
  fun _ => total _

/-- A config is read without an exception exactly if its flag can be read. -/
theorem fstreamToAppConfig_ne_thrown_iff
    (total : ∀ path, (fileSystem.weaklyCanonical path).isSome = true) :
    fstreamToAppConfig jsoncons fileSystem memory text ≠ .error .thrown ↔
      FlagConvertible jsoncons text := by
  rw [ne_eq, fstreamToAppConfig_eq_thrown_iff]
  simp only [Convertible, pathAccepted_of_total total, true_and, FlagConvertible, not_exists,
    not_and, not_not]

/-- The config file that a command line names cannot be found, opened, parsed or accepted. -/
def FileUnusable (jsoncons : Jsoncons) (fileSystem : FileSystem) (commandLine : CommandLine)
    (parsedMemory : Bool) (args : List String) : Prop :=
  ∃ configFilePath, Startup.namedFile commandLine args = some configFilePath ∧
    ∀ text, Startup.configText fileSystem commandLine configFilePath = some text →
      ∃ failure, fstreamToAppConfig jsoncons fileSystem parsedMemory text = .error failure

/-- A command line gets its answer, which is a fatal error exactly if the config file it names
cannot be used. -/
def ArgsAnswered (jsoncons : Jsoncons) (fileSystem : FileSystem) (commandLine : CommandLine)
    (memory parsedMemory : Bool) (args : List String) : Prop :=
  ∃ result,
    Startup.parseArgs jsoncons fileSystem commandLine memory parsedMemory args = some result ∧
      (result.status = .fatalError ↔
        FileUnusable jsoncons fileSystem commandLine parsedMemory args)

section NamedFile

variable {args : List String} {configFilePath : String}

theorem fileUnusable_iff (named : Startup.namedFile commandLine args = some configFilePath) :
    FileUnusable jsoncons fileSystem commandLine parsedMemory args ↔
      ∀ text, Startup.configText fileSystem commandLine configFilePath = some text →
        ∃ failure, fstreamToAppConfig jsoncons fileSystem parsedMemory text = .error failure := by
  refine ⟨?_, fun unusable => ⟨configFilePath, named, unusable⟩⟩
  rintro ⟨other, namedOther, unusable⟩
  obtain rfl : configFilePath = other := Option.some.inj (named.symm.trans namedOther)
  exact unusable

/-- Without a config file there is nothing to fail. -/
theorem argsAnswered_of_unnamed (unnamed : Startup.namedFile commandLine args = none) :
    ArgsAnswered jsoncons fileSystem commandLine memory parsedMemory args := by
  have usable : ¬FileUnusable jsoncons fileSystem commandLine parsedMemory args := by
    rintro ⟨configFilePath, named, _⟩
    rw [unnamed] at named
    cases named
  rw [ArgsAnswered, Startup.parseArgs]
  cases parsed : commandLine.parse args with
  | error exitCode => exact ⟨_, rfl, iff_of_false (fun fatal => by cases fatal) usable⟩
  | ok path =>
    rw [Startup.namedFile, parsed] at unnamed
    simp only [ne_eq, ite_eq_right_iff, reduceCtorEq, imp_false, not_not] at unnamed
    simp only [unnamed, ne_eq, not_true, if_false]
    exact ⟨_, rfl, iff_of_false (fun fatal => by cases fatal) usable⟩

theorem namedFile_eq_some_iff :
    Startup.namedFile commandLine args = some configFilePath ↔
      commandLine.parse args = .ok configFilePath ∧ configFilePath ≠ "" := by
  rw [Startup.namedFile]
  cases commandLine.parse args with
  | error exitCode =>
    refine iff_of_false (fun contrary => by cases contrary) ?_
    rintro ⟨contrary, _⟩
    cases contrary
  | ok path =>
    show (if path ≠ "" then some path else none) = some configFilePath ↔ _
    rw [Option.ite_none_right_eq_some, Option.some.injEq, Except.ok.injEq, and_comm]
    refine and_congr_right fun same => ?_
    rw [same]

/-- A config file decides what the parser returns. -/
theorem parseArgs_of_named (named : Startup.namedFile commandLine args = some configFilePath) :
    Startup.parseArgs jsoncons fileSystem commandLine memory parsedMemory args =
      match Startup.configText fileSystem commandLine configFilePath with
      | none => some Startup.fatalError
      | some text =>
        match fstreamToAppConfig jsoncons fileSystem parsedMemory text with
        | .error .thrown => none
        | .error .rejected => some Startup.fatalError
        | .ok processedCfg => some { config := processedCfg } := by
  obtain ⟨parsed, given⟩ := namedFile_eq_some_iff.mp named
  simp only [Startup.parseArgs, parsed, if_pos given, Startup.configText]
  cases commandLine.canonical configFilePath with
  | none => rfl
  | some canonicalPath =>
    simp only [Option.bind_some]

/-- With a config file the command line gets its answer exactly if reading it does not throw. -/
theorem argsAnswered_of_named (named : Startup.namedFile commandLine args = some configFilePath) :
    ArgsAnswered jsoncons fileSystem commandLine memory parsedMemory args ↔
      ∀ text, Startup.configText fileSystem commandLine configFilePath = some text →
        fstreamToAppConfig jsoncons fileSystem parsedMemory text ≠ .error .thrown := by
  simp only [ArgsAnswered, parseArgs_of_named named, fileUnusable_iff named]
  cases found : Startup.configText fileSystem commandLine configFilePath with
  | none =>
    refine iff_of_true ⟨_, rfl, iff_of_true rfl ?_⟩ ?_
    · rintro text ⟨⟩
    · rintro text ⟨⟩
  | some text =>
    simp only [Option.some.injEq, forall_eq']
    cases fstreamToAppConfig jsoncons fileSystem parsedMemory text with
    | ok processedCfg =>
      refine iff_of_true ⟨_, rfl, iff_of_false (fun fatal => by cases fatal) ?_⟩ ?_
      · rintro ⟨failure, contrary⟩
        cases contrary
      · intro contrary
        cases contrary
    | error failure =>
      cases failure with
      | rejected =>
        exact iff_of_true ⟨_, rfl, iff_of_true rfl ⟨_, rfl⟩⟩ (fun contrary => by cases contrary)
      | thrown =>
        refine iff_of_false ?_ (not_not.mpr rfl)
        rintro ⟨result, contrary, _⟩
        cases contrary

end NamedFile

/-- A command line gets its answer exactly if the flag in its config file can be read. -/
theorem argsAnswered_iff (total : ∀ path, (fileSystem.weaklyCanonical path).isSome = true)
    {args : List String} :
    ArgsAnswered jsoncons fileSystem commandLine memory parsedMemory args ↔
      ∀ configFilePath text, Startup.namedFile commandLine args = some configFilePath →
        Startup.configText fileSystem commandLine configFilePath = some text →
          FlagConvertible jsoncons text := by
  cases named : Startup.namedFile commandLine args with
  | none => exact iff_of_true (argsAnswered_of_unnamed named) fun _ _ contrary => by cases contrary
  | some configFilePath =>
    rw [argsAnswered_of_named named]
    simp only [fstreamToAppConfig_ne_thrown_iff total, Option.some.injEq]
    constructor
    · rintro convertible _ text rfl
      exact convertible text
    · intro convertible text
      exact convertible configFilePath text rfl

/-- A start-up returns exactly if the flag in its file of extra libraries can be read. -/
theorem applyConfig_returns_iff {State : Type} {libLoader : ILibLoader State}
    {appService : IAppService State} {orders : LibOrders} {config : AppConfig} {state : State}
    (total : ∀ path, (fileSystem.weaklyCanonical path).isSome = true) :
    (Startup.applyConfigInOrders jsoncons fileSystem libLoader appService orders memory config
        state).1.isSome = true ↔
      (config.pathToExtraLibList ≠ "" → ∀ text,
        fileSystem.read config.pathToExtraLibList = some text →
          FlagConvertible jsoncons text) := by
  have extra : Startup.ExtraConvertible jsoncons fileSystem config ↔
      (config.pathToExtraLibList ≠ "" → ∀ text,
        fileSystem.read config.pathToExtraLibList = some text →
          FlagConvertible jsoncons text) := by
    simp only [Startup.ExtraConvertible, Convertible, pathAccepted_of_total total, true_and,
      FlagConvertible]
    exact forall₂_congr fun _ _ => forall_comm
  rw [← extra, ← Startup.applyConfig_isSome_iff]

end Errors

/-- Errors in the files of the start-up are reported, and nothing is thrown, exactly for the texts
whose flag can be read: by the readers themselves, by the parser of the command line on its
config file, and by the start-up on its file of extra libraries. -/
theorem configErrors_reported_iff {State : Type} (jsoncons : Jsoncons) (fileSystem : FileSystem)
    (commandLine : CommandLine) (libLoader : ILibLoader State) (appService : IAppService State)
    (orders : LibOrders) (memory parsedMemory : Bool) (args : List String) (config : AppConfig)
    (state : State) (total : ∀ path, (fileSystem.weaklyCanonical path).isSome = true) :
    (∀ text, fstreamToLibList jsoncons text ≠ .error .thrown) ∧
      (∀ text, fstreamToAppConfig jsoncons fileSystem memory text ≠ .error .thrown ↔
        FlagConvertible jsoncons text) ∧
      (ArgsAnswered jsoncons fileSystem commandLine memory parsedMemory args ↔
        ∀ configFilePath text, Startup.namedFile commandLine args = some configFilePath →
          Startup.configText fileSystem commandLine configFilePath = some text →
            FlagConvertible jsoncons text) ∧
      ((Startup.applyConfigInOrders jsoncons fileSystem libLoader appService orders memory config
          state).1.isSome = true ↔
        (config.pathToExtraLibList ≠ "" → ∀ text,
          fileSystem.read config.pathToExtraLibList = some text →
            FlagConvertible jsoncons text)) :=
  ⟨fun _ => fstreamToLibList_ne_thrown, fun _ => fstreamToAppConfig_ne_thrown_iff total,
    argsAnswered_iff total, applyConfig_returns_iff total⟩

/-- A command line that names one file. -/
def CommandLine.naming (path : String) : CommandLine where
  parse _ := .ok path
  canonical := some

/-- A config with the agents of two libraries, and a flag. -/
def flaggedConfig : Json :=
  .object [("agent_lib_list", .array (["relay", "watch"].map fun name =>
      .object [("name", .string name), ("path", .string (name ++ ".so")),
        ("sym", .string "getAgentDefinition")])),
    ("apply_user_plan_on_startup", .bool true)]

/-- It is read and answered, and so is a start-up with it as its file of extra libraries. -/
theorem configErrors_reported_iff_sample :
    fstreamToAppConfig (.reading [flaggedConfig]) (.holding "app.json" flaggedConfig.compact)
        false flaggedConfig.compact ≠ .error .thrown ∧
      ArgsAnswered (.reading [flaggedConfig]) (.holding "app.json" flaggedConfig.compact)
        (.naming "app.json") false false ["--config", "app.json"] ∧
      (Startup.applyConfigInOrders (.reading [flaggedConfig])
        (.holding "app.json" flaggedConfig.compact) agreeableLoader agreeableService
        (.all (Classical.arbitrary VisitingOrder)) false
        { pathToExtraLibList := "app.json", applyUserPlanOnStartup := false } ()).1.isSome =
          true := by
  have parsed : (Jsoncons.reading [flaggedConfig]).parse flaggedConfig.compact =
      some flaggedConfig := by simp [Jsoncons.reading]
  have convertible : FlagConvertible (.reading [flaggedConfig]) flaggedConfig.compact := by
    intro appCfgJson read _ _
    rw [parsed, Option.some.injEq] at read
    subst read
    exact fun _ => rfl
  obtain ⟨_, reads, answers, returns⟩ := configErrors_reported_iff (.reading [flaggedConfig])
    (.holding "app.json" flaggedConfig.compact) (.naming "app.json") agreeableLoader
    agreeableService (.all (Classical.arbitrary VisitingOrder)) false false ["--config", "app.json"]
    { pathToExtraLibList := "app.json", applyUserPlanOnStartup := false } () fun _ => rfl
  refine ⟨(reads _).mpr convertible, answers.mpr ?_, returns.mpr ?_⟩
  · rintro configFilePath text ⟨⟩ ⟨⟩
    exact convertible
  · rintro _ text ⟨⟩
    exact convertible

/-- A flag that is a string throws: the command line gets no answer. -/
theorem quotedFlag_thrown :
    fstreamToAppConfig (.reading [quotedFlag]) (.holding "app.json" quotedFlag.compact) false
        quotedFlag.compact = .error .thrown ∧
      Startup.parseArgs (.reading [quotedFlag]) (.holding "app.json" quotedFlag.compact)
        (.naming "app.json") false false ["--config", "app.json"] = none ∧
      ¬ArgsAnswered (.reading [quotedFlag]) (.holding "app.json" quotedFlag.compact)
        (.naming "app.json") false false ["--config", "app.json"] := by
  have unanswered : Startup.parseArgs (.reading [quotedFlag])
      (.holding "app.json" quotedFlag.compact) (.naming "app.json") false false
      ["--config", "app.json"] = none := rfl
  refine ⟨rfl, unanswered, ?_⟩
  rintro ⟨result, answered, _⟩
  rw [unanswered] at answered
  cases answered

end MavlinkHub
