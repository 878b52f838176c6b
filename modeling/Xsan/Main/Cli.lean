import Xsan.Utils.Log

/-!
# The command-line tool

A model of `src/main/xsan_cli.c`. `parse_arguments` (lines 126–191) reads the
command from `argv[1]` and, for every command but `version`, `help` and `-h`,
a subcommand from `argv[2]` with the name and size that follow it; it fills
the global `g_options` and returns `1` to go on, `0` to stop with success or
`-1` to stop with failure. `execute_command` (196–213) then switches on the
command and each `cmd_*` (218–369) on the subcommand. `main` (374–397) turns
the two results into the exit status, with `xsan_log_init` and
`xsan_log_shutdown` around the command.

What the tool prints is a list of outputs: the usage text of `print_usage`
with the program name it is given, the version text of `print_version`, a
one-line message, or the listing a command prints when it succeeds. The
listings are fixed texts, apart from the name and size they repeat; the model
names them (`CliReport`). `argv` is a list of strings, `argv[0]` the program
name; the tool only compares them with `strcmp` and prints them.

The usage text documents the command lines of the tool, and the commands
`version` and `-h`/`--help`.

Results:
* `cliMain_never_prints_version`: no invocation prints the version text.
  `parse_arguments` returns `0` on `version`, and `main` stops on `0` before
  `execute_command` is called, so `cmd_version` is never reached and
  `xsan_cli version` prints nothing.
* `cliMain_exit_iff`: an invocation exits with `0` exactly when its command
  and subcommand are a command line of the usage text with the arguments that
  line names, or its command is `version`, `help` or `-h`; `--help`, which the
  usage text lists, is refused as an unknown command.
-/

namespace Xsan

/-! ## Options -/

/-- `command_type_t` (xsan_cli.c:17-24). -/
inductive CommandType
  | none
  | version
  | cluster
  | volume
  | node
  | stats
deriving DecidableEq, Repr

/-- `subcommand_type_t` (xsan_cli.c:27-35). -/
inductive SubcommandType
  | none
  | list
  | info
  | create
  | delete
  | status
  | show
deriving DecidableEq, Repr

/-- The fields of `g_options` (xsan_cli.c:38-48) that the parser writes and the
commands read; `NULL` is `none`. -/
structure CliOptions where
  command : CommandType
  subcommand : SubcommandType
  name : Option String
  size : Option String
deriving DecidableEq, Repr

/-- `g_options = {0}`. -/
def CliOptions.zero : CliOptions := ⟨.none, .none, none, none⟩

/-! ## Output -/

/-- The fixed listings the commands print when they succeed (xsan_cli.c:227-369). -/
inductive CliReport
  | clusterStatus
  | clusterNodes
  | clusterInfo
  | volumes
  | volumeInfo (name : String)
  | volumeCreated (name size : String)
  | volumeDeleted (name : String)
  | nodes
  | nodeInfo (name : String)
  | statistics
deriving DecidableEq, Repr

/-- What the tool prints. -/
inductive CliOutput
  /-- `print_usage(argv[0])`; `argv[0]` is `NULL` when `argc` is `0`. -/
  | usage (programName : Option String)
  /-- `print_version()`. -/
  | version
  /-- One `printf` of a line of text. -/
  | line (text : String)
  | report (r : CliReport)
deriving DecidableEq, Repr

/-! ## Parsing -/

/-- The subcommand part of `parse_arguments` (xsan_cli.c:160-190): `argv[2]`
and the arguments after it. -/
def parseSubcommand (opts : CliOptions) : List String → ℤ × CliOptions × List CliOutput
  | [] => (1, opts, [])
  | subcommand :: args =>
    if subcommand = "list" then (1, { opts with subcommand := .list }, [])
    else if subcommand = "info" then
      (1, { opts with subcommand := .info, name := args.head? }, [])
    else if subcommand = "create" then
      (1, { opts with subcommand := .create, name := args.head?, size := args[1]? }, [])
    else if subcommand = "delete" then
      (1, { opts with subcommand := .delete, name := args.head? }, [])
    else if subcommand = "status" then (1, { opts with subcommand := .status }, [])
    else if subcommand = "show" then (1, { opts with subcommand := .show }, [])
    else (-1, opts, [.line ("Unknown subcommand: " ++ subcommand)])

/-- `parse_arguments(argc, argv)` (xsan_cli.c:126-191): its result, `g_options`
after it, and what it prints. -/
def parseArguments : List String → ℤ × CliOptions × List CliOutput
  | [] => (-1, .zero, [.usage none])
  | [programName] => (-1, .zero, [.usage (some programName)])
  | programName :: command :: rest =>
    if command = "version" then (0, { CliOptions.zero with command := .version }, [])
    else if command = "cluster" then
      parseSubcommand { CliOptions.zero with command := .cluster } rest
    else if command = "volume" then
      parseSubcommand { CliOptions.zero with command := .volume } rest
    else if command = "node" then
      parseSubcommand { CliOptions.zero with command := .node } rest
    else if command = "stats" then
      parseSubcommand { CliOptions.zero with command := .stats } rest
    else if command = "help" ∨ command = "-h" then
      (0, .zero, [.usage (some programName)])
    else (-1, .zero, [.line ("Unknown command: " ++ command), .usage (some programName)])

/-! ## Commands -/

/-- `cmd_version` (xsan_cli.c:218-222). -/
def cmdVersion : ℤ × List CliOutput := (0, [.version])

/-- `cmd_cluster` (xsan_cli.c:227-259). -/
def cmdCluster (opts : CliOptions) : ℤ × List CliOutput :=
  match opts.subcommand with
  | .status => (0, [.report .clusterStatus])
  | .list => (0, [.report .clusterNodes])
  | .info => (0, [.report .clusterInfo])
  | _ => (-1, [.line "Unknown cluster subcommand"])

/-- `cmd_volume` (xsan_cli.c:264-309). -/
def cmdVolume (opts : CliOptions) : ℤ × List CliOutput :=
  match opts.subcommand with
  | .list => (0, [.report .volumes])
  | .info =>
    match opts.name with
    | none => (-1, [.line "Volume name required"])
    | some name => (0, [.report (.volumeInfo name)])
  | .create =>
    match opts.name, opts.size with
    | some name, some size => (0, [.report (.volumeCreated name size)])
    | _, _ => (-1, [.line "Volume name and size required"])
  | .delete =>
    match opts.name with
    | none => (-1, [.line "Volume name required"])
    | some name => (0, [.report (.volumeDeleted name)])
  | _ => (-1, [.line "Unknown volume subcommand"])

/-- `cmd_node` (xsan_cli.c:314-343). -/
def cmdNode (opts : CliOptions) : ℤ × List CliOutput :=
  match opts.subcommand with
  | .list => (0, [.report .nodes])
  | .info =>
    match opts.name with
    | none => (-1, [.line "Node ID required"])
    | some name => (0, [.report (.nodeInfo name)])
  | _ => (-1, [.line "Unknown node subcommand"])

/-- `cmd_stats` (xsan_cli.c:348-369). -/
def cmdStats (opts : CliOptions) : ℤ × List CliOutput :=
  match opts.subcommand with
  | .show => (0, [.report .statistics])
  | _ => (-1, [.line "Unknown stats subcommand"])

/-- `execute_command` (xsan_cli.c:196-213). -/
def executeCommand (opts : CliOptions) : ℤ × List CliOutput :=
  match opts.command with
  | .version => cmdVersion
  | .cluster => cmdCluster opts
  | .volume => cmdVolume opts
  | .node => cmdNode opts
  | .stats => cmdStats opts
  | .none => (-1, [.line "No command specified"])

/-! ## `main` -/

/-- The `log_config` of `main` (xsan_cli.c:383-387): errors only, to neither
the console nor a file; the other fields are zero. -/
def cliLogConfig : XsanLogConfig where
  logFile := []
  level := XsanLogLevel.error.toInt
  consoleOutput := false
  fileOutput := false
  maxFileSize := 0
  maxFileCount := 0
  fileHandle := false
  logFile_lt := Nat.succ_pos _

/-- `main(argc, argv)` (xsan_cli.c:374-397) on the log system `s`: the exit
status, what the tool prints, and the log system after it. -/
def cliMain (s : LogSystem) (argv : List String) : ℤ × List CliOutput × LogSystem :=
  let (parseResult, opts, parsed) := parseArguments argv
  if parseResult ≤ 0 then (if parseResult = 0 then 0 else 1, parsed, s)
  else
    -- no file is opened: `file_output` is false, so `fopen`'s answer is never asked
    let s := (xsanLogInit s (some cliLogConfig) false).2
    let (result, printed) := executeCommand opts
    (if result = 0 then 0 else 1, parsed ++ printed, xsanLogShutdown s)

/-! ## What the parse and the commands can do -/

/-- A subcommand parse keeps the command. -/
theorem parseSubcommand_command (opts : CliOptions) (rest : List String) :
    (parseSubcommand opts rest).2.1.command = opts.command := by
  cases rest with
  | nil => rfl
  | cons subcommand args =>
    rw [parseSubcommand]
    split_ifs <;> rfl

/-- A subcommand parse goes on having printed nothing, or stops with one line. -/
theorem parseSubcommand_cases (opts : CliOptions) (rest : List String) :
    ((parseSubcommand opts rest).1 = 1 ∧ (parseSubcommand opts rest).2.2 = []) ∨
    ((parseSubcommand opts rest).1 = -1 ∧ ∃ text, (parseSubcommand opts rest).2.2 = [.line text]) := by
  cases rest with
  | nil => exact .inl ⟨rfl, rfl⟩
  | cons subcommand args =>
    rw [parseSubcommand]
    split_ifs
    all_goals first | exact .inl ⟨rfl, rfl⟩ | exact .inr ⟨rfl, _, rfl⟩

/-- The commands that read a subcommand. -/
def CommandType.TakesSubcommand (c : CommandType) : Prop :=
  c = .cluster ∨ c = .volume ∨ c = .node ∨ c = .stats

/-- A command that reads a subcommand: the parse stops without printing the
version text, or goes on with the command, having printed nothing. -/
theorem parseSubcommand_cases_of_takes {opts : CliOptions} (hc : opts.command.TakesSubcommand)
    (rest : List String) :
    ((parseSubcommand opts rest).1 ≤ 0 ∧ CliOutput.version ∉ (parseSubcommand opts rest).2.2) ∨
    ((parseSubcommand opts rest).1 = 1 ∧ (parseSubcommand opts rest).2.2 = [] ∧
      (parseSubcommand opts rest).2.1.command.TakesSubcommand) := by
  rcases parseSubcommand_cases opts rest with ⟨h1, h2⟩ | ⟨h1, text, h2⟩
  · exact .inr ⟨h1, h2, by rw [parseSubcommand_command]; exact hc⟩
  · exact .inl ⟨by rw [h1]; decide, by simp [h2]⟩

/-- Everything `parse_arguments` can do: stop with a result of at most `0`,
having printed usage texts and message lines, or go on, having printed
nothing, with a command that reads a subcommand. -/
theorem parseArguments_cases (argv : List String) :
    ((parseArguments argv).1 ≤ 0 ∧ CliOutput.version ∉ (parseArguments argv).2.2) ∨
    ((parseArguments argv).1 = 1 ∧ (parseArguments argv).2.2 = [] ∧
      (parseArguments argv).2.1.command.TakesSubcommand) := by
  match argv with
  | [] => exact .inl ⟨by simp [parseArguments], by simp [parseArguments]⟩
  | [programName] => exact .inl ⟨by simp [parseArguments], by simp [parseArguments]⟩
  | programName :: command :: rest =>
    rw [parseArguments]
    split_ifs
    · exact .inl ⟨by simp, by simp⟩
    · exact parseSubcommand_cases_of_takes (.inl rfl) rest
    · exact parseSubcommand_cases_of_takes (.inr (.inl rfl)) rest
    · exact parseSubcommand_cases_of_takes (.inr (.inr (.inl rfl))) rest
    · exact parseSubcommand_cases_of_takes (.inr (.inr (.inr rfl))) rest
    · exact .inl ⟨by simp, by simp⟩
    · exact .inl ⟨by simp, by simp⟩

/-- Only `cmd_version` prints the version text. -/
theorem executeCommand_version (opts : CliOptions) (h : CliOutput.version ∈ (executeCommand opts).2) :
    opts.command = .version := by
  cases hc : opts.command with
  | version => rfl
  | none => simp [executeCommand, hc] at h
  | cluster =>
    simp only [executeCommand, hc, cmdCluster] at h
    split at h <;> simp at h
  | volume =>
    simp only [executeCommand, hc, cmdVolume] at h
    repeat' split at h
    all_goals simp at h
  | node =>
    simp only [executeCommand, hc, cmdNode] at h
    repeat' split at h
    all_goals simp at h
  | stats =>
    simp only [executeCommand, hc, cmdStats] at h
    split at h <;> simp at h

/-- `main` in terms of the results of the parse and of the command. -/
theorem cliMain_eq (s : LogSystem) (argv : List String) :
    cliMain s argv =
      if (parseArguments argv).1 ≤ 0 then
        (if (parseArguments argv).1 = 0 then 0 else 1, (parseArguments argv).2.2, s)
      else
        (if (executeCommand (parseArguments argv).2.1).1 = 0 then 0 else 1,
          (parseArguments argv).2.2 ++ (executeCommand (parseArguments argv).2.1).2,
          xsanLogShutdown (xsanLogInit s (some cliLogConfig) false).2) :=
  rfl

/-- No invocation of the tool prints the version text. -/
theorem cliMain_never_prints_version (s : LogSystem) (argv : List String) :
    CliOutput.version ∉ (cliMain s argv).2.1 := by
  rw [cliMain_eq]
  rcases parseArguments_cases argv with ⟨hle, hout⟩ | ⟨hpos, hout, hcmd⟩
  · simp only [if_pos hle]
    exact hout
  · rw [if_neg (by rw [hpos]; decide), hout, List.nil_append]
    intro hmem
    have := executeCommand_version _ hmem
    rcases hcmd with h | h | h | h <;> rw [h] at this <;> cases this


/-! ## The command lines of the usage text -/

/-- The command lines of `print_usage` (xsan_cli.c:83-99): a command, a
subcommand, and the number of arguments the line names after them. -/
def usageCommandLines : List (String × String × ℕ) :=
  [("cluster", "status", 0), ("cluster", "list", 0),
    ("cluster", "info", 0), ("volume", "list", 0),
    ("volume", "info", 1), ("volume", "create", 2),
    ("volume", "delete", 1), ("node", "list", 0),
    ("node", "info", 1), ("stats", "show", 0)]

/-- The invocations the tool carries out: a command line of the usage text
followed by at least the arguments it names, or the command `version`,
`help` or `-h`. -/
def CliAccepts : List String → Prop
  | _ :: command :: rest =>
    command = "version" ∨ command = "help" ∨ command = "-h" ∨
      ∃ subcommand args n, rest = subcommand :: args ∧
        (command, subcommand, n) ∈ usageCommandLines ∧ n ≤ args.length
  | _ => False

/-- The word of `argv[1]` that selects a command. -/
def CommandType.word : CommandType → String
  | .none => ""
  | .version => "version"
  | .cluster => "cluster"
  | .volume => "volume"
  | .node => "node"
  | .stats => "stats"

/-- Every usage line names one of the subcommands the parse knows. -/
theorem subcommand_of_mem_usage {c s : String} {n : ℕ} (h : (c, s, n) ∈ usageCommandLines) :
    s ∈ ["list", "info", "create", "delete", "status",
      "show"] := by
  have hall : (usageCommandLines.all fun l => decide (l.2.1 ∈ ["list", "info",
      "create", "delete", "status", "show"])) = true := by decide
  simpa using List.all_eq_true.mp hall _ h

/-- For a command that reads a subcommand, the parse goes on and the command
succeeds exactly when the subcommand and what follows are a usage line. -/
theorem parseSubcommand_succeeds_iff {c : CommandType} (hc : c.TakesSubcommand)
    (rest : List String) :
    ((parseSubcommand { CliOptions.zero with command := c } rest).1 = 1 ∧
      (executeCommand (parseSubcommand { CliOptions.zero with command := c } rest).2.1).1 = 0) ↔
    ∃ subcommand args n, rest = subcommand :: args ∧
      (c.word, subcommand, n) ∈ usageCommandLines ∧ n ≤ args.length := by
  cases rest with
  | nil =>
    rcases hc with rfl | rfl | rfl | rfl <;>
      simp [parseSubcommand, executeCommand, CliOptions.zero, cmdCluster, cmdVolume, cmdNode, cmdStats]
  | cons subcommand args =>
    rw [parseSubcommand]
    split_ifs with h1 h2 h3 h4 h5 h6
    all_goals try subst subcommand
    -- `list`, `status`, `show`: no argument is read
    · rcases hc with rfl | rfl | rfl | rfl <;>
        simp [executeCommand, cmdCluster, cmdVolume, cmdNode, cmdStats, usageCommandLines,
          CommandType.word]
    -- `info` and `delete` read a name, `create` a name and a size
    · rcases hc with rfl | rfl | rfl | rfl <;> cases args <;>
        simp [executeCommand, cmdCluster, cmdVolume, cmdNode, cmdStats, usageCommandLines,
          CommandType.word]
    · rcases hc with rfl | rfl | rfl | rfl <;> rcases args with _ | ⟨name, _ | ⟨size, args⟩⟩ <;>
        simp [executeCommand, cmdCluster, cmdVolume, cmdNode, cmdStats, usageCommandLines,
          CommandType.word]
    · rcases hc with rfl | rfl | rfl | rfl <;> cases args <;>
        simp [executeCommand, cmdCluster, cmdVolume, cmdNode, cmdStats, usageCommandLines,
          CommandType.word]
    · rcases hc with rfl | rfl | rfl | rfl <;>
        simp [executeCommand, cmdCluster, cmdVolume, cmdNode, cmdStats, usageCommandLines,
          CommandType.word]
    · rcases hc with rfl | rfl | rfl | rfl <;>
        simp [executeCommand, cmdCluster, cmdVolume, cmdNode, cmdStats, usageCommandLines,
          CommandType.word]
    -- any other subcommand: refused by the parse, and on no usage line
    · refine iff_of_false (by simp) ?_
      rintro ⟨_, _, n, ⟨⟩, hmem, -⟩
      have hwords := subcommand_of_mem_usage hmem
      simp only [List.mem_cons, List.not_mem_nil, or_false] at hwords
      rcases hwords with h | h | h | h | h | h <;> contradiction

/-- Every usage line is on one of the four commands that read a subcommand. -/
theorem command_of_mem_usage {c t : String} {n : ℕ} (h : (c, t, n) ∈ usageCommandLines) :
    ∃ command : CommandType, command.TakesSubcommand ∧ c = command.word := by
  have hall : (usageCommandLines.all fun l => decide (l.1 ∈ ["cluster", "volume",
      "node", "stats"])) = true := by decide
  have hc := List.all_eq_true.mp hall _ h
  simp only [decide_eq_true_eq, List.mem_cons, List.not_mem_nil, or_false] at hc
  rcases hc with rfl | rfl | rfl | rfl
  · exact ⟨.cluster, .inl rfl, rfl⟩
  · exact ⟨.volume, .inr (.inl rfl), rfl⟩
  · exact ⟨.node, .inr (.inr (.inl rfl)), rfl⟩
  · exact ⟨.stats, .inr (.inr (.inr rfl)), rfl⟩

/-- The word of a command that reads a subcommand selects it. -/
theorem parseArguments_word {c : CommandType} (hc : c.TakesSubcommand)
    (programName : String) (rest : List String) :
    parseArguments (programName :: c.word :: rest) =
      parseSubcommand { CliOptions.zero with command := c } rest := by
  rcases hc with rfl | rfl | rfl | rfl <;> simp [parseArguments, CommandType.word]

/-- When the parse goes on or fails, `main` exits with `0` exactly when it
went on and the command succeeded. -/
theorem cliMain_exit_of_parse (s : LogSystem) (argv : List String)
    (h : (parseArguments argv).1 = 1 ∨ (parseArguments argv).1 = -1) :
    (cliMain s argv).1 = 0 ↔
      (parseArguments argv).1 = 1 ∧ (executeCommand (parseArguments argv).2.1).1 = 0 := by
  rw [cliMain_eq]
  rcases h with h | h <;> simp [h]

/-- The tool exits with `0` exactly on the invocations the usage text lists,
and on `version`, `help` and `-h`. -/
theorem cliMain_exit_iff (s : LogSystem) (argv : List String) :
    (cliMain s argv).1 = 0 ↔ CliAccepts argv := by
  match argv with
  | [] => simp [cliMain_eq, parseArguments, CliAccepts]
  | [programName] => simp [cliMain_eq, parseArguments, CliAccepts]
  | programName :: command :: rest =>
    by_cases hw : ∃ c : CommandType, c.TakesSubcommand ∧ command = c.word
    · -- a command that reads a subcommand: `parseSubcommand_succeeds_iff`
      obtain ⟨c, hc, rfl⟩ := hw
      have hparse := parseArguments_word hc programName rest
      have hres : (parseArguments (programName :: c.word :: rest)).1 = 1 ∨
          (parseArguments (programName :: c.word :: rest)).1 = -1 := by
        rw [hparse]
        exact (parseSubcommand_cases _ rest).imp (·.1) (·.1)
      have hword : c.word ≠ "version" ∧ c.word ≠ "help" ∧ c.word ≠ "-h" := by
        rcases hc with rfl | rfl | rfl | rfl <;> decide
      rw [cliMain_exit_of_parse s _ hres, hparse, parseSubcommand_succeeds_iff hc]
      simp only [CliAccepts, hword.1, hword.2.1, hword.2.2, false_or]
    · -- `version`, `help`, `-h`, or a word the tool does not know
      have hnot : ¬∃ t args n, rest = t :: args ∧ (command, t, n) ∈ usageCommandLines ∧
          n ≤ args.length := by
        rintro ⟨t, args, n, -, hmem, -⟩
        obtain ⟨c, hc, rfl⟩ := command_of_mem_usage hmem
        exact hw ⟨c, hc, rfl⟩
      have hc : command ≠ "cluster" ∧ command ≠ "volume" ∧
          command ≠ "node" ∧ command ≠ "stats" :=
        ⟨fun h => hw ⟨.cluster, .inl rfl, h⟩, fun h => hw ⟨.volume, .inr (.inl rfl), h⟩,
          fun h => hw ⟨.node, .inr (.inr (.inl rfl)), h⟩, fun h => hw ⟨.stats, .inr (.inr (.inr rfl)), h⟩⟩
      simp only [CliAccepts, hnot, or_false]
      rw [cliMain_eq, parseArguments, if_neg hc.1, if_neg hc.2.1, if_neg hc.2.2.1, if_neg hc.2.2.2]
      by_cases hv : command = "version"
      · rw [if_pos hv]
        simp [hv]
      rw [if_neg hv]
      by_cases hh : command = "help" ∨ command = "-h"
      · rw [if_pos hh]
        simp only [hv, false_or]
        exact iff_of_true (by simp) hh
      · rw [if_neg hh]
        simp only [hv, false_or]
        exact iff_of_false (by simp) hh

/-- `--help`, which the usage text lists, is an unknown command. -/
example (s : LogSystem) : (cliMain s ["xsan", "--help"]).1 = 1 := by rfl

end Xsan
