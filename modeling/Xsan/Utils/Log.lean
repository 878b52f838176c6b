import Xsan.Utils.ConfigSave
import Xsan.Lib.Rename

/-!
# The log: levels, messages and the rotation of the log file

A model of `src/utils/log.c`. The global `g_log_config` and
`g_log_initialized`, with the files of the file system and what went to
`stderr`, are one `LogSystem`; each entry point is a function on it:
`xsan_log_init` (lines 118–149), `xsan_log_shutdown` (154–165),
`xsan_log_set_level` (170–175), `xsan_log_message` (188–245) with
`check_log_rotation` (101–113) and `rotate_log_file` (71–96), and
`xsan_log_is_enabled` (297–300). The calls are taken one after another and
the mutex is left out; `xsan_log_set_level`, `xsan_log_is_enabled` and the
level test of `xsan_log_message` do not take it, so a level change racing a
message is outside the model.

The file system is a directory of the library `Xsan.Lib.Rename`, from paths
to contents. A `FILE *` is whether it is open: the handle of the log writes to
the file at `log_file`, which is where it was opened and which nothing moves
while it is open. What the C library answers (`isatty`, whether an `fopen`
succeeds) is an input of the call; the clock and `vsnprintf` give the text of
a message, which is an input too.

`rotate_log_file` renames `log_file.(n - 1)` to `log_file.n` for
`n = max_file_count - 1` down to `1`, the first of them from `log_file`
itself, and then truncates `log_file`. Its names are written by `snprintf`
into buffers of `XSAN_MAX_PATH_LEN` bytes, so they are cut to 4095 characters.

Results:
* `rotateLogFile_generations`: when the longest rotated name fits its buffer,
  a rotation moves every generation one number up and starts an empty log.
* `logRun_generations`: over every run of messages, level changes and a
  shutdown after `xsan_log_init` opened the log, the files hold the newest
  generations in order; with the older ones they are exactly what the log held
  at the start followed by every line `xsan_log_is_enabled` let through, and
  each generation the run made holds at least `max_file_size` characters.
* `rotateLogFile_full_name`: with a `log_file` of 4095 characters every
  rotated name is `log_file` itself, and a rotation empties the log and keeps
  nothing of it.
* `logRun_files_of_closed`: once a rotation has failed to reopen the log, no
  later call writes to any file.
-/

namespace Xsan

/-! ## Levels -/

/-- `xsan_log_level_t` (xsan_log.h:19-26). -/
inductive XsanLogLevel
  | trace | debug | info | warn | error | fatal
  deriving DecidableEq, Repr

/-- The value of an enumerator. -/
def XsanLogLevel.toInt : XsanLogLevel → ℤ
  | .trace => 0
  | .debug => 1
  | .info => 2
  | .warn => 3
  | .error => 4
  | .fatal => 5

/-- `log_level_strings[level]` (log.c:33-35). -/
def XsanLogLevel.name : XsanLogLevel → List Char
  | .trace => "TRACE".toList
  | .debug => "DEBUG".toList
  | .info => "INFO".toList
  | .warn => "WARN".toList
  | .error => "ERROR".toList
  | .fatal => "FATAL".toList

/-- `log_level_colors[level]` (log.c:38-45). -/
def XsanLogLevel.color : XsanLogLevel → List Char
  | .trace => "\x1b[37m".toList
  | .debug => "\x1b[36m".toList
  | .info => "\x1b[32m".toList
  | .warn => "\x1b[33m".toList
  | .error => "\x1b[31m".toList
  | .fatal => "\x1b[35m".toList

/-- `color_reset` (log.c:47). -/
def colorReset : List Char := "\x1b[0m".toList

/-- `xsan_log_set_level` (log.c:170-175) on the current level: a level out of
range is ignored. -/
def xsanLogSetLevel (current level : ℤ) : ℤ :=
  if XsanLogLevel.trace.toInt ≤ level ∧ level ≤ XsanLogLevel.fatal.toInt then level else current

/-! ## Paths and files -/

/-- `XSAN_MAX_PATH_LEN` (include/xsan_types.h:32). -/
def xsanMaxPathLen : ℕ := 4096

/-- `XSAN_ERROR_STORAGE_IO` (include/xsan_error.h:50). -/
def xsanErrorStorageIo : ℤ := -50

/-- The files, by path: `none` when there is no file. -/
abbrev LogFiles := List Char → Option (List Char)

/-- What `snprintf` leaves in a buffer of `XSAN_MAX_PATH_LEN` bytes. -/
def snprintfPath (s : List Char) : List Char := s.take (xsanMaxPathLen - 1)

/-- `snprintf(path, sizeof(path), "%s.%d", log_file, i)`. -/
def rotatedPath (logFile : List Char) (i : ℕ) : List Char :=
  snprintfPath (logFile ++ '.' :: formatDecimal i)

/-- `fopen(path, "a")`: creates the file if there is none. -/
def openAppend (files : LogFiles) (path : List Char) : LogFiles :=
  Function.update files path (some ((files path).getD []))

/-- `fprintf` of `text` to the stream open on the file at `path`. -/
def appendFile (files : LogFiles) (path text : List Char) : LogFiles :=
  Function.update files path (some ((files path).getD [] ++ text))

/-! ## The state -/

/-- `xsan_log_config_t` (xsan_log.h:28-37) without its mutex; `fileHandle` is
whether `file_handle` is open. -/
structure XsanLogConfig where
  logFile : List Char
  level : ℤ
  consoleOutput : Bool
  fileOutput : Bool
  maxFileSize : ℕ
  maxFileCount : ℤ
  fileHandle : Bool
  /-- `log_file` is a string in a `char[XSAN_MAX_PATH_LEN]`. -/
  logFile_lt : logFile.length < xsanMaxPathLen

/-- `g_log_config` and `g_log_initialized`, the files, and `stderr`. -/
structure LogSystem where
  config : XsanLogConfig
  initialized : Bool
  files : LogFiles
  stderr : List Char

/-- `xsan_log_default_config` (log.c:305-319), also the initial
`g_log_config` (lines 19-28). -/
def xsanLogDefaultConfig : XsanLogConfig where
  logFile := []
  level := XsanLogLevel.info.toInt
  consoleOutput := true
  fileOutput := false
  maxFileSize := 100 * 1024 * 1024
  maxFileCount := 10
  fileHandle := false
  logFile_lt := by decide

/-- `xsan_log_init` (log.c:118-149); `fopenOk` is whether `fopen(log_file,
"a")` succeeds. The settings are copied before the file is opened, so a
failed `fopen` leaves them replaced and the log without a file. -/
def xsanLogInit (s : LogSystem) (config : Option XsanLogConfig) (fopenOk : Bool) :
    ℤ × LogSystem :=
  match config with
  | none => (xsanErrorInvalidParam, s)
  | some config =>
    let g := { s.config with
      level := config.level, consoleOutput := config.consoleOutput,
      fileOutput := config.fileOutput, maxFileSize := config.maxFileSize,
      maxFileCount := config.maxFileCount }
    if config.fileOutput = true ∧ config.logFile ≠ [] then
      -- `strncpy` of at most `XSAN_MAX_PATH_LEN - 1` characters
      let logFile := config.logFile.take (xsanMaxPathLen - 1)
      let g := { g with
        logFile := logFile
        logFile_lt := by simp only [logFile, List.length_take, xsanMaxPathLen]; omega }
      if fopenOk then
        (xsanOk, { s with
          config := { g with fileHandle := true }, initialized := true,
          files := openAppend s.files logFile })
      else (xsanErrorStorageIo, { s with config := { g with fileHandle := false } })
    else (xsanOk, { s with config := g, initialized := true })

/-- `xsan_log_shutdown` (log.c:154-165). -/
def xsanLogShutdown (s : LogSystem) : LogSystem :=
  { s with config := { s.config with fileHandle := false }, initialized := false }

/-- `xsan_log_is_enabled` (log.c:297-300). -/
def xsanLogIsEnabled (s : LogSystem) (level : XsanLogLevel) : Bool :=
  s.initialized && decide (s.config.level ≤ level.toInt)

/-! ## Rotation -/

/-- The `for` loop of `rotate_log_file` (log.c:81-91), from `i = n` down to
`1`: `old_path` is `log_file.(i - 1)`, or `log_file` itself when `i` is `1`. -/
def rotateRenames (logFile : List Char) (files : LogFiles) : ℕ → LogFiles
  | 0 => files
  | i + 1 =>
    let oldPath := if i + 1 = 1 then snprintfPath logFile else rotatedPath logFile i
    rotateRenames logFile (Dir.rename files oldPath (rotatedPath logFile (i + 1))) i

/-- `rotate_log_file` (log.c:71-96): close the handle, rename, and
`fopen(log_file, "w")`, which creates or truncates the file when it succeeds. -/
def rotateLogFile (s : LogSystem) (fopenOk : Bool) : LogSystem :=
  let files := rotateRenames s.config.logFile s.files (s.config.maxFileCount - 1).toNat
  if fopenOk then
    { s with
      config := { s.config with fileHandle := true }
      files := Function.update files s.config.logFile (some []) }
  else { s with config := { s.config with fileHandle := false }, files := files }

/-- `check_log_rotation` (log.c:101-113): `stat` gives the size of the file at
`log_file`. -/
def checkLogRotation (s : LogSystem) (fopenOk : Bool) : LogSystem :=
  if s.config.fileHandle = false then s
  else
    match s.files s.config.logFile with
    | none => s
    | some c => if s.config.maxFileSize ≤ c.length then rotateLogFile s fopenOk else s

/-! ## Messages -/

/-- The text of one call: what `get_timestamp` and `vsnprintf` produce, and
the caller's `__FILE__`, `__LINE__` and `__func__`. -/
structure LogText where
  timestamp : List Char
  file : List Char
  line : ℤ
  func : List Char
  message : List Char

/-- `strrchr(file, '/') + 1`, or `file` when it has no `/` (log.c:209-214). -/
def logFileName (file : List Char) : List Char :=
  (file.reverse.takeWhile (· ≠ '/')).reverse

/-- `full_message` (log.c:217-219): `"[%s] [%s] [%s:%d] [%s] %s\n"` into 4096
bytes, the timestamp from a buffer of 32 and the message from one of 2048. -/
def fullMessage (level : XsanLogLevel) (t : LogText) : List Char :=
  ('[' :: t.timestamp.take 31 ++ "] [".toList ++ level.name ++ "] [".toList ++
    logFileName t.file ++ ':' :: formatDecimal t.line ++ "] [".toList ++ t.func ++
    "] ".toList ++ t.message.take 2047 ++ ['\n']).take 4095

/-- What `xsan_log_message` prints to `stderr` (log.c:226-230). -/
def consoleText (level : XsanLogLevel) (isatty : Bool) (full : List Char) : List Char :=
  if isatty then level.color ++ full ++ colorReset else full

/-- The console block of `xsan_log_message` (log.c:222-231). -/
def logToConsole (s : LogSystem) (level : XsanLogLevel) (isatty : Bool) (full : List Char) :
    LogSystem :=
  if s.config.consoleOutput then { s with stderr := s.stderr ++ consoleText level isatty full }
  else s

/-- The file block of `xsan_log_message` (log.c:234-241): `check_log_rotation`,
then `fprintf` if the log is still open. -/
def logToFile (s : LogSystem) (full : List Char) (fopenOk : Bool) : LogSystem :=
  if s.config.fileOutput = true ∧ s.config.fileHandle = true then
    let s := checkLogRotation s fopenOk
    if s.config.fileHandle then { s with files := appendFile s.files s.config.logFile full }
    else s
  else s

/-- `xsan_log_message` (log.c:188-245) at `level` with the text `t`;
`isatty` is what `isatty(STDERR_FILENO)` answers and `fopenOk` whether the
`fopen` of a rotation succeeds. -/
def xsanLogMessage (s : LogSystem) (level : XsanLogLevel) (t : LogText) (isatty fopenOk : Bool) :
    LogSystem :=
  if s.initialized = false ∨ level.toInt < s.config.level then s
  else
    let full := fullMessage level t
    logToFile (logToConsole s level isatty full) full fopenOk

/-- The calls a run of the log is made of, after `xsan_log_init`. -/
inductive LogCall
  | setLevel (level : ℤ)
  | message (level : XsanLogLevel) (text : LogText) (isatty fopenOk : Bool)
  | shutdown

/-- Whether the `fopen` of a call would succeed (only a message opens a file). -/
def LogCall.fopenOk : LogCall → Bool
  | .message _ _ _ fopenOk => fopenOk
  | _ => true

/-- One call. -/
def logStep (s : LogSystem) : LogCall → LogSystem
  | .setLevel level => { s with config := { s.config with level := xsanLogSetLevel s.config.level level } }
  | .message level t isatty fopenOk => xsanLogMessage s level t isatty fopenOk
  | .shutdown => xsanLogShutdown s

/-- A run of calls. -/
def logRun (s : LogSystem) (calls : List LogCall) : LogSystem := calls.foldl logStep s

/-- The line a call hands to the log file: the full message of a message that
`xsan_log_is_enabled` lets through. -/
def callLines (s : LogSystem) : LogCall → List (List Char)
  | .message level t _ _ => if xsanLogIsEnabled s level then [fullMessage level t] else []
  | _ => []

/-- The lines a run hands to the log file, in order. -/
def enabledLines (s : LogSystem) : List LogCall → List (List Char)
  | [] => []
  | c :: calls => callLines s c ++ enabledLines (logStep s c) calls

/-! ## The names of the generations -/

theorem decDigits_length_mono {i j : ℕ} (h : i ≤ j) : (decDigits i).length ≤ (decDigits j).length := by
  induction j using Nat.strong_induction_on generalizing i with
  | _ j ih =>
    conv_lhs => rw [decDigits]
    conv_rhs => rw [decDigits]
    by_cases hj : j < 10
    · rw [if_pos (by omega), if_pos hj, List.length_singleton, List.length_singleton]
    · rw [if_neg hj, List.length_append, List.length_singleton]
      by_cases hi : i < 10
      · rw [if_pos hi, List.length_singleton]
        omega
      · rw [if_neg hi, List.length_append, List.length_singleton]
        have := ih (j / 10) (by omega) (i := i / 10) (by omega)
        omega

theorem decDigits_injective : Function.Injective decDigits := fun a b h => by
  rw [← decimalValue_decDigits a, h, decimalValue_decDigits]

theorem formatDecimal_natCast (n : ℕ) : formatDecimal n = decDigits n := by
  rw [formatDecimal, if_neg (by omega), Int.natAbs_natCast]

/-- The name of the oldest rotated file, `log_file.(max_file_count - 1)`,
fits its buffer. -/
def RotatedNamesFit (logFile : List Char) (maxFileCount : ℤ) : Prop :=
  (logFile ++ '.' :: formatDecimal (maxFileCount - 1)).length < xsanMaxPathLen

instance (logFile : List Char) (maxFileCount : ℤ) : Decidable (RotatedNamesFit logFile maxFileCount) :=
  inferInstanceAs (Decidable (_ < _))

/-- The name of generation `j`: `log_file` for the log being written, and
`log_file.j` for the `j`-th newest rotated one. -/
def logPath (logFile : List Char) (j : ℕ) : List Char :=
  if j = 0 then snprintfPath logFile else rotatedPath logFile j

/-- The loop renames the generations along `logPath`. -/
theorem rotateRenames_eq_shiftDown (logFile : List Char) (files : LogFiles) (n : ℕ) :
    rotateRenames logFile files n = Dir.shiftDown files (logPath logFile) n := by
  induction n generalizing files with
  | zero => rfl
  | succ i ih =>
    have hold : (if i + 1 = 1 then snprintfPath logFile else rotatedPath logFile i) =
        logPath logFile i := by
      simp only [logPath, Nat.add_eq_right]
    have hnew : rotatedPath logFile (i + 1) = logPath logFile (i + 1) := by
      rw [logPath, if_neg (Nat.succ_ne_zero i)]
    simp only [rotateRenames, Dir.shiftDown]
    rw [hold, hnew, ih]

section Names

variable {logFile : List Char} {maxFileCount : ℤ}

theorem length_lt_of_fit (hfit : RotatedNamesFit logFile maxFileCount) :
    logFile.length < xsanMaxPathLen := by
  rw [RotatedNamesFit, List.length_append] at hfit
  omega

theorem snprintfPath_of_fit (hfit : RotatedNamesFit logFile maxFileCount) :
    snprintfPath logFile = logFile := by
  rw [snprintfPath]
  exact List.take_of_length_le (by have := length_lt_of_fit hfit; omega)

/-- No rotated name is cut when the oldest is not. -/
theorem rotatedPath_of_fit (hfit : RotatedNamesFit logFile maxFileCount) {i : ℕ} (hi : 0 < i)
    (him : (i : ℤ) < maxFileCount) : rotatedPath logFile i = logFile ++ '.' :: decDigits i := by
  have hfmt : formatDecimal (maxFileCount - 1) = decDigits (maxFileCount - 1).toNat := by
    have : maxFileCount - 1 = (((maxFileCount - 1).toNat : ℕ) : ℤ) := by omega
    rw [this, formatDecimal_natCast, Int.toNat_natCast]
  have hmono := decDigits_length_mono (i := i) (j := (maxFileCount - 1).toNat) (by omega)
  rw [RotatedNamesFit, hfmt] at hfit
  rw [rotatedPath, formatDecimal_natCast, snprintfPath]
  apply List.take_of_length_le
  simp only [List.length_append, List.length_cons] at hfit ⊢
  omega

theorem rotatedPath_ne_logFile (hfit : RotatedNamesFit logFile maxFileCount) {i : ℕ} (hi : 0 < i)
    (him : (i : ℤ) < maxFileCount) : rotatedPath logFile i ≠ logFile := by
  intro h
  have hlen := congrArg List.length h
  rw [rotatedPath_of_fit hfit hi him, List.length_append, List.length_cons] at hlen
  omega

/-- The names of the generations the rotation moves are all different. -/
theorem logPath_injOn (hfit : RotatedNamesFit logFile maxFileCount) :
    Set.InjOn (logPath logFile) (Set.Iic (maxFileCount - 1).toNat) := by
  intro a ha b hb hab
  simp only [Set.mem_Iic] at ha hb
  simp only [logPath, snprintfPath_of_fit hfit] at hab
  split_ifs at hab with h0a h0b h0b
  · omega
  · exact absurd hab.symm (rotatedPath_ne_logFile hfit (by omega) (by omega))
  · exact absurd hab (rotatedPath_ne_logFile hfit (by omega) (by omega))
  · rw [rotatedPath_of_fit hfit (by omega) (by omega),
      rotatedPath_of_fit hfit (by omega) (by omega)] at hab
    exact decDigits_injective (List.cons_injective (List.append_cancel_left hab))

end Names

/-! ## A rotation moves every generation one number up -/

/-- The log files when `gens` are the rotated generations, newest first, and
`cur` the one being written: `log_file` holds `cur`, and `log_file.i` the
`i`-th newest generation, for `0 < i < max_file_count`. -/
structure LogGenerations (logFile : List Char) (maxFileCount : ℤ) (files : LogFiles)
    (gens : List (List Char)) (cur : List Char) : Prop where
  current : files logFile = some cur
  rotated : ∀ i : ℕ, 0 < i → (i : ℤ) < maxFileCount → files (rotatedPath logFile i) = gens[i - 1]?

section Generations

variable {logFile : List Char} {maxFileCount : ℤ} {files : LogFiles}
  {gens : List (List Char)} {cur : List Char}

/-- Generation `j` is at `logPath j`, the one being written counting as the
`0`-th. -/
theorem LogGenerations.files_logPath (hgen : LogGenerations logFile maxFileCount files gens cur)
    (hfit : RotatedNamesFit logFile maxFileCount) {j : ℕ} (hj : (j : ℤ) < maxFileCount) :
    files (logPath logFile j) = (cur :: gens)[j]? := by
  rcases j with _ | j
  · rw [logPath, if_pos rfl, snprintfPath_of_fit hfit, hgen.current]
    rfl
  · rw [logPath, if_neg (Nat.succ_ne_zero j), hgen.rotated (j + 1) (Nat.succ_pos j) hj]
    rfl

/-- The generations are numbered without a gap. -/
theorem LogGenerations.noGap (hgen : LogGenerations logFile maxFileCount files gens cur)
    (hfit : RotatedNamesFit logFile maxFileCount) :
    Dir.NoGap files (logPath logFile) (maxFileCount - 1).toNat := by
  intro j hj hnone
  rw [hgen.files_logPath hfit (by omega)] at hnone
  rw [hgen.files_logPath hfit (by omega), List.getElem?_eq_none_iff]
  have := List.getElem?_eq_none_iff.mp hnone
  omega

/-- A line written to the log goes to the generation being written. -/
theorem LogGenerations.appendFile (hgen : LogGenerations logFile maxFileCount files gens cur)
    (hfit : RotatedNamesFit logFile maxFileCount) (text : List Char) :
    LogGenerations logFile maxFileCount (Xsan.appendFile files logFile text) gens (cur ++ text) where
  current := by rw [Xsan.appendFile, Function.update_self, hgen.current, Option.getD_some]
  rotated i hi him := by
    rw [Xsan.appendFile, Function.update_of_ne (rotatedPath_ne_logFile hfit hi him)]
    exact hgen.rotated i hi him

end Generations

/-- When the longest rotated name fits its buffer, a rotation that reopens the
log moves every generation one number up, the one being written becoming
`log_file.1`, and starts an empty log. -/
theorem rotateLogFile_generations {s : LogSystem} {gens : List (List Char)} {cur : List Char}
    (hfit : RotatedNamesFit s.config.logFile s.config.maxFileCount)
    (hgen : LogGenerations s.config.logFile s.config.maxFileCount s.files gens cur) :
    LogGenerations s.config.logFile s.config.maxFileCount (rotateLogFile s true).files
      (cur :: gens) [] := by
  have hrot : (rotateLogFile s true).files = Function.update
      (Dir.shiftDown s.files (logPath s.config.logFile) (s.config.maxFileCount - 1).toNat)
      s.config.logFile (some []) := by
    rw [rotateLogFile, if_pos rfl, rotateRenames_eq_shiftDown]
  constructor
  · rw [hrot, Function.update_self]
  · intro i hi him
    -- `log_file.i` is not the log, and the loop moved generation `i - 1` to it
    obtain ⟨j, rfl⟩ : ∃ j, i = j + 1 := ⟨i - 1, by omega⟩
    have hname : rotatedPath s.config.logFile (j + 1) = logPath s.config.logFile (j + 1) := by
      rw [logPath, if_neg (Nat.succ_ne_zero j)]
    rw [hrot, Function.update_of_ne (rotatedPath_ne_logFile hfit hi him), hname,
      Dir.shiftDown_succ_name (logPath_injOn hfit) (hgen.noGap hfit) (by omega),
      hgen.files_logPath hfit (by omega)]
    rfl

/-! ## What one call does -/

section Call

variable {s : LogSystem}

/-- Printing to `stderr` touches nothing else. -/
@[simp] theorem logToConsole_config (level : XsanLogLevel) (isatty : Bool) (full : List Char) :
    (logToConsole s level isatty full).config = s.config := by
  unfold logToConsole
  split <;> rfl

@[simp] theorem logToConsole_files (level : XsanLogLevel) (isatty : Bool) (full : List Char) :
    (logToConsole s level isatty full).files = s.files := by
  unfold logToConsole
  split <;> rfl

@[simp] theorem logToConsole_initialized (level : XsanLogLevel) (isatty : Bool) (full : List Char) :
    (logToConsole s level isatty full).initialized = s.initialized := by
  unfold logToConsole
  split <;> rfl

theorem rotateLogFile_config (f : Bool) :
    (rotateLogFile s f).config = { s.config with fileHandle := f } := by
  unfold rotateLogFile
  cases f <;> rfl

theorem rotateLogFile_initialized (f : Bool) : (rotateLogFile s f).initialized = s.initialized := by
  unfold rotateLogFile
  cases f <;> rfl

/-- `check_log_rotation` either leaves the log alone, when it is shorter than
`max_file_size`, or rotates it. -/
theorem checkLogRotation_cases {cur : List Char} (f : Bool) (hh : s.config.fileHandle = true)
    (hcur : s.files s.config.logFile = some cur) :
    (cur.length < s.config.maxFileSize ∧ checkLogRotation s f = s) ∨
    (s.config.maxFileSize ≤ cur.length ∧ checkLogRotation s f = rotateLogFile s f) := by
  rw [checkLogRotation, if_neg (by rw [hh]; decide), hcur]
  dsimp only
  by_cases hsize : s.config.maxFileSize ≤ cur.length
  · exact .inr ⟨hsize, if_pos hsize⟩
  · exact .inl ⟨by omega, if_neg hsize⟩

/-- A rotation changes no setting but whether the log is open. -/
theorem checkLogRotation_config (f : Bool) :
    ∃ b, (checkLogRotation s f).config = { s.config with fileHandle := b } := by
  unfold checkLogRotation
  split
  · exact ⟨s.config.fileHandle, rfl⟩
  · split
    · exact ⟨s.config.fileHandle, rfl⟩
    · split
      · exact ⟨f, rotateLogFile_config f⟩
      · exact ⟨s.config.fileHandle, rfl⟩

theorem checkLogRotation_initialized (f : Bool) :
    (checkLogRotation s f).initialized = s.initialized := by
  unfold checkLogRotation
  split
  · rfl
  · split
    · rfl
    · split
      · exact rotateLogFile_initialized f
      · rfl

/-- The test of `xsan_log_message` is the negation of `xsan_log_is_enabled`. -/
theorem xsanLogMessage_test_iff (level : XsanLogLevel) :
    (s.initialized = false ∨ level.toInt < s.config.level) ↔ xsanLogIsEnabled s level = false := by
  cases h : s.initialized <;> simp [xsanLogIsEnabled, h]

theorem xsanLogMessage_of_disabled {level : XsanLogLevel} (h : xsanLogIsEnabled s level = false)
    (t : LogText) (isatty f : Bool) : xsanLogMessage s level t isatty f = s := by
  rw [xsanLogMessage, if_pos ((xsanLogMessage_test_iff level).mpr h)]

/-- Writing to the log changes no setting but whether it is open. -/
theorem logToFile_config (full : List Char) (f : Bool) :
    (∃ b, (logToFile s full f).config = { s.config with fileHandle := b }) ∧
    (logToFile s full f).initialized = s.initialized := by
  unfold logToFile
  split
  · dsimp only
    obtain ⟨b, hb⟩ := checkLogRotation_config (s := s) f
    have hi := checkLogRotation_initialized (s := s) f
    split
    · exact ⟨⟨b, hb⟩, hi⟩
    · exact ⟨⟨b, hb⟩, hi⟩
  · exact ⟨⟨s.config.fileHandle, rfl⟩, rfl⟩

/-- A message changes no setting but whether the log is open. -/
theorem xsanLogMessage_config (level : XsanLogLevel) (t : LogText) (isatty f : Bool) :
    (∃ b, (xsanLogMessage s level t isatty f).config = { s.config with fileHandle := b }) ∧
    (xsanLogMessage s level t isatty f).initialized = s.initialized := by
  unfold xsanLogMessage
  split
  · exact ⟨⟨s.config.fileHandle, rfl⟩, rfl⟩
  · have h := logToFile_config (s := logToConsole s level isatty (fullMessage level t))
      (fullMessage level t) f
    simpa only [logToConsole_config, logToConsole_initialized] using h

/-- Writing a line to the open log: either the line joins the generation
being written, or that generation is rotated first, holding at least
`max_file_size` characters, and the line starts the next. -/
theorem logToFile_generations {gens : List (List Char)} {cur : List Char} (full : List Char)
    (hfit : RotatedNamesFit s.config.logFile s.config.maxFileCount)
    (hgen : LogGenerations s.config.logFile s.config.maxFileCount s.files gens cur)
    (hout : s.config.fileOutput = true) (hh : s.config.fileHandle = true) :
    ∃ new cur', LogGenerations s.config.logFile s.config.maxFileCount (logToFile s full true).files
        (new ++ gens) cur' ∧ new.reverse.flatten ++ cur' = cur ++ full ∧
      (∀ g ∈ new, s.config.maxFileSize ≤ g.length) ∧ (logToFile s full true).config.fileHandle = true := by
  rw [logToFile, if_pos ⟨hout, hh⟩]
  dsimp only
  rcases checkLogRotation_cases true hh hgen.current with ⟨-, hrot⟩ | ⟨hsize, hrot⟩
  · rw [hrot, if_pos hh]
    exact ⟨[], cur ++ full, hgen.appendFile hfit full, rfl, by simp, hh⟩
  · have hopen : (rotateLogFile s true).config.fileHandle = true := by rw [rotateLogFile_config]
    rw [hrot, if_pos hopen, rotateLogFile_config]
    exact ⟨[cur], full, (rotateLogFile_generations hfit hgen).appendFile hfit full, by simp,
      by simpa using hsize, hopen⟩

/-- An enabled message to an open log, when a rotation reopens it. -/
theorem xsanLogMessage_generations {gens : List (List Char)} {cur : List Char}
    {level : XsanLogLevel} (t : LogText) (isatty : Bool)
    (hfit : RotatedNamesFit s.config.logFile s.config.maxFileCount)
    (hgen : LogGenerations s.config.logFile s.config.maxFileCount s.files gens cur)
    (hen : xsanLogIsEnabled s level = true) (hout : s.config.fileOutput = true)
    (hh : s.config.fileHandle = true) :
    ∃ new cur', LogGenerations s.config.logFile s.config.maxFileCount
        (xsanLogMessage s level t isatty true).files (new ++ gens) cur' ∧
      new.reverse.flatten ++ cur' = cur ++ fullMessage level t ∧
      (∀ g ∈ new, s.config.maxFileSize ≤ g.length) ∧
      (xsanLogMessage s level t isatty true).config.fileHandle = true := by
  have htest : ¬(s.initialized = false ∨ level.toInt < s.config.level) := by
    rw [xsanLogMessage_test_iff, hen]
    decide
  rw [xsanLogMessage, if_neg htest]
  have h := logToFile_generations (s := logToConsole s level isatty (fullMessage level t))
    (fullMessage level t) (by simpa using hfit) (by simpa using hgen) (by simpa using hout)
    (by simpa using hh)
  simpa only [logToConsole_config] using h

end Call

/-! ## Runs -/

/-- What a run from `s₀` keeps: every setting but the level and whether the
log is open, the log open while the system is initialized, and the
generations. -/
structure LogRunInv (s₀ s : LogSystem) (gens : List (List Char)) (cur : List Char) : Prop where
  settings : ∃ level b, s.config = { s₀.config with level := level, fileHandle := b }
  open_of_initialized : s.initialized = true → s.config.fileOutput = true ∧ s.config.fileHandle = true
  generations : LogGenerations s₀.config.logFile s₀.config.maxFileCount s.files gens cur

section Run

variable {s₀ s : LogSystem} {gens : List (List Char)} {cur : List Char}

theorem LogRunInv.config_eq (hinv : LogRunInv s₀ s gens cur) :
    s.config.logFile = s₀.config.logFile ∧ s.config.maxFileCount = s₀.config.maxFileCount ∧
    s.config.maxFileSize = s₀.config.maxFileSize ∧ s.config.fileOutput = s₀.config.fileOutput := by
  obtain ⟨level, b, h⟩ := hinv.settings
  rw [h]
  exact ⟨rfl, rfl, rfl, rfl⟩

/-- One call keeps the invariant, when a rotation it makes reopens the log:
the generations it makes, with the new log, are the old log followed by its
line, and each holds at least `max_file_size` characters. -/
theorem logStep_runInv (hfit : RotatedNamesFit s₀.config.logFile s₀.config.maxFileCount)
    (hinv : LogRunInv s₀ s gens cur) (c : LogCall) (hok : c.fopenOk = true) :
    ∃ new cur', LogRunInv s₀ (logStep s c) (new ++ gens) cur' ∧
      new.reverse.flatten ++ cur' = cur ++ (callLines s c).flatten ∧
      ∀ g ∈ new, s₀.config.maxFileSize ≤ g.length := by
  obtain ⟨level₀, b₀, hcfg⟩ := hinv.settings
  obtain ⟨hfile, hcount, hsize, hout⟩ := hinv.config_eq
  cases c with
  | setLevel level =>
    refine ⟨[], cur, ⟨⟨xsanLogSetLevel s.config.level level, b₀, ?_⟩, hinv.open_of_initialized,
      hinv.generations⟩, by simp [callLines], by simp⟩
    simp only [logStep, hcfg]
  | shutdown =>
    refine ⟨[], cur, ⟨⟨level₀, false, ?_⟩, fun h => absurd h (by simp [logStep, xsanLogShutdown]),
      hinv.generations⟩, by simp [callLines], by simp⟩
    simp only [logStep, xsanLogShutdown, hcfg]
  | message level t isatty f =>
    obtain rfl : f = true := hok
    obtain ⟨⟨b, hb⟩, hinit⟩ := xsanLogMessage_config (s := s) level t isatty true
    by_cases hen : xsanLogIsEnabled s level = true
    · -- the line goes to the log, which stays open
      have hon : s.initialized = true := by
        simp only [xsanLogIsEnabled, Bool.and_eq_true] at hen
        exact hen.1
      obtain ⟨ho, hh⟩ := hinv.open_of_initialized hon
      obtain ⟨new, cur', hgen', heq, hge, hh'⟩ := xsanLogMessage_generations t isatty
        (by rwa [hfile, hcount]) (by rw [hfile, hcount]; exact hinv.generations) hen ho hh
      refine ⟨new, cur', ⟨⟨level₀, b, ?_⟩, fun _ => ⟨?_, hh'⟩, ?_⟩, ?_, ?_⟩
      · rw [logStep, hb, hcfg]
      · rw [logStep, hb]
        exact ho
      · rw [← hfile, ← hcount]
        exact hgen'
      · simp [callLines, hen, heq]
      · rw [← hsize]
        exact hge
    · -- the message is dropped
      have hoff : xsanLogIsEnabled s level = false := by simpa using hen
      refine ⟨[], cur, ?_, by simp [callLines, hoff], by simp⟩
      rw [List.nil_append, logStep, xsanLogMessage_of_disabled hoff]
      exact hinv

/-- Every run keeps the invariant; induction on the calls, from the step
lemma. -/
theorem logRun_runInv (hfit : RotatedNamesFit s₀.config.logFile s₀.config.maxFileCount)
    (hinv : LogRunInv s₀ s gens cur) (calls : List LogCall) (hok : ∀ c ∈ calls, c.fopenOk = true) :
    ∃ new cur', LogRunInv s₀ (logRun s calls) (new ++ gens) cur' ∧
      new.reverse.flatten ++ cur' = cur ++ (enabledLines s calls).flatten ∧
      ∀ g ∈ new, s₀.config.maxFileSize ≤ g.length := by
  induction calls generalizing s gens cur with
  | nil => exact ⟨[], cur, hinv, by simp [enabledLines], by simp⟩
  | cons c calls ih =>
    obtain ⟨new₁, cur₁, hinv₁, heq₁, hge₁⟩ := logStep_runInv hfit hinv c (hok c List.mem_cons_self)
    obtain ⟨new₂, cur₂, hinv₂, heq₂, hge₂⟩ :=
      ih hinv₁ (fun c' hc' => hok c' (List.mem_cons_of_mem c hc'))
    refine ⟨new₂ ++ new₁, cur₂, by simpa [logRun] using hinv₂, ?_, ?_⟩
    · calc (new₂ ++ new₁).reverse.flatten ++ cur₂
          = new₁.reverse.flatten ++ (new₂.reverse.flatten ++ cur₂) := by simp
        _ = (new₁.reverse.flatten ++ cur₁) ++ (enabledLines (logStep s c) calls).flatten := by
          rw [heq₂, List.append_assoc]
        _ = cur ++ (enabledLines s (c :: calls)).flatten := by
          rw [heq₁, enabledLines, List.flatten_append, List.append_assoc]
    · intro g hg
      rcases List.mem_append.mp hg with hg | hg
      · exact hge₂ g hg
      · exact hge₁ g hg

end Run

/-- `xsan_log_init` with file output opens the log at `log_file`, keeping what
it held, and leaves the rotated files as they were. -/
theorem xsanLogInit_runInv {s₀ : LogSystem} {config : XsanLogConfig} {old : List (List Char)}
    (hout : config.fileOutput = true) (hname : config.logFile ≠ [])
    (hfit : RotatedNamesFit config.logFile config.maxFileCount)
    (hold : ∀ i : ℕ, 0 < i → (i : ℤ) < config.maxFileCount →
      s₀.files (rotatedPath config.logFile i) = old[i - 1]?) :
    (xsanLogInit s₀ (some config) true).1 = xsanOk ∧
    (xsanLogInit s₀ (some config) true).2.config.logFile = config.logFile ∧
    (xsanLogInit s₀ (some config) true).2.config.maxFileCount = config.maxFileCount ∧
    (xsanLogInit s₀ (some config) true).2.config.maxFileSize = config.maxFileSize ∧
    LogRunInv (xsanLogInit s₀ (some config) true).2 (xsanLogInit s₀ (some config) true).2 old
      ((s₀.files config.logFile).getD []) := by
  have htake : config.logFile.take (xsanMaxPathLen - 1) = config.logFile :=
    List.take_of_length_le (by have := config.logFile_lt; omega)
  simp only [xsanLogInit, if_pos (And.intro hout hname), ↓reduceIte, htake]
  refine ⟨trivial, trivial, trivial, trivial, ⟨⟨config.level, true, rfl⟩, fun _ => ⟨hout, rfl⟩, ?_, ?_⟩⟩
  · dsimp only
    rw [openAppend, Function.update_self]
  · intro i hi him
    dsimp only at him ⊢
    rw [openAppend, Function.update_of_ne (rotatedPath_ne_logFile hfit hi him)]
    exact hold i hi him

/-- Over every run of messages, level changes and a shutdown after
`xsan_log_init` opened the log, when every rotation reopens it and the
longest rotated name fits its buffer: the files hold the newest generations
in order (`log_file.i` the `i`-th newest, the files there before counting as
older), the generations the run made and the log being written are exactly
what the log held at the start followed by every line that
`xsan_log_is_enabled` let through, and each of those generations holds at
least `max_file_size` characters. -/
theorem logRun_generations (s₀ : LogSystem) (config : XsanLogConfig) (old : List (List Char))
    (hout : config.fileOutput = true) (hname : config.logFile ≠ [])
    (hfit : RotatedNamesFit config.logFile config.maxFileCount)
    (hold : ∀ i : ℕ, 0 < i → (i : ℤ) < config.maxFileCount →
      s₀.files (rotatedPath config.logFile i) = old[i - 1]?)
    (calls : List LogCall) (hok : ∀ c ∈ calls, c.fopenOk = true) :
    ∃ new cur, LogGenerations config.logFile config.maxFileCount
        (logRun (xsanLogInit s₀ (some config) true).2 calls).files (new ++ old) cur ∧
      new.reverse.flatten ++ cur = (s₀.files config.logFile).getD [] ++
        (enabledLines (xsanLogInit s₀ (some config) true).2 calls).flatten ∧
      ∀ g ∈ new, config.maxFileSize ≤ g.length := by
  obtain ⟨-, hfile, hcount, hsize, hinv⟩ := xsanLogInit_runInv hout hname hfit hold
  obtain ⟨new, cur, hinv', heq, hge⟩ :=
    logRun_runInv (by rwa [hfile, hcount]) hinv calls hok
  refine ⟨new, cur, ?_, heq, by rwa [← hsize]⟩
  rw [← hfile, ← hcount]
  exact hinv'.generations

/-- A log `a.log` of at most 16 characters rotated across `a.log.1` and
`a.log.2`. -/
def sampleLogConfig : XsanLogConfig where
  logFile := ['a', '.', 'l', 'o', 'g']
  level := XsanLogLevel.info.toInt
  consoleOutput := false
  fileOutput := true
  maxFileSize := 16
  maxFileCount := 3
  fileHandle := false
  logFile_lt := by decide

/-- Three messages, the first below the level. -/
def sampleLogCalls : List LogCall :=
  [.message .debug ⟨[], [], 1, [], ['x']⟩ false true,
    .message .error ⟨[], [], 2, [], ['y']⟩ false true,
    .message .fatal ⟨[], [], 3, [], ['z']⟩ false true]

theorem logRun_generations_sample :
    ∃ new cur, LogGenerations sampleLogConfig.logFile sampleLogConfig.maxFileCount
        (logRun (xsanLogInit ⟨xsanLogDefaultConfig, false, fun _ => none, []⟩ (some sampleLogConfig)
          true).2 sampleLogCalls).files (new ++ []) cur ∧
      new.reverse.flatten ++ cur = ((fun _ => none : LogFiles) sampleLogConfig.logFile).getD [] ++
        (enabledLines (xsanLogInit ⟨xsanLogDefaultConfig, false, fun _ => none, []⟩
          (some sampleLogConfig) true).2 sampleLogCalls).flatten ∧
      ∀ g ∈ new, sampleLogConfig.maxFileSize ≤ g.length :=
  logRun_generations ⟨xsanLogDefaultConfig, false, fun _ => none, []⟩ sampleLogConfig [] rfl
    (by simp [sampleLogConfig])
    (by
      have := formatDecimal_length_le (i := sampleLogConfig.maxFileCount - 1) (by decide) (by decide)
      simp only [RotatedNamesFit, sampleLogConfig, List.length_append, List.length_cons,
        List.length_nil, xsanMaxPathLen] at this ⊢
      omega)
    (by simp) sampleLogCalls (by simp [sampleLogCalls, LogCall.fopenOk])

/-! ## A name that fills its buffer -/

section FullName

variable {logFile : List Char}

/-- `snprintf` cuts `log_file.i` back to `log_file` when `log_file` already
fills the buffer. -/
theorem rotatedPath_of_full (hlen : logFile.length = xsanMaxPathLen - 1) (i : ℕ) :
    rotatedPath logFile i = logFile := by
  rw [rotatedPath, snprintfPath, List.take_append_of_le_length (by omega),
    List.take_of_length_le (by omega)]

/-- Every turn of the loop then renames the log to itself. -/
theorem rotateRenames_of_full (hlen : logFile.length = xsanMaxPathLen - 1) (files : LogFiles)
    (n : ℕ) : rotateRenames logFile files n = files := by
  induction n generalizing files with
  | zero => rfl
  | succ i ih =>
    have hold : (if i + 1 = 1 then snprintfPath logFile else rotatedPath logFile i) = logFile := by
      split_ifs
      · exact List.take_of_length_le (by omega)
      · exact rotatedPath_of_full hlen i
    simp only [rotateRenames]
    rw [hold, rotatedPath_of_full hlen, Dir.rename_self, ih]

end FullName

/-- With a `log_file` of 4095 characters, the longest that `xsan_log_init`
keeps, a rotation renames nothing and only empties the log: whatever it held
is lost, and no `log_file.i` is ever made. -/
theorem rotateLogFile_full_name (s : LogSystem)
    (hlen : s.config.logFile.length = xsanMaxPathLen - 1) :
    (rotateLogFile s true).files = Function.update s.files s.config.logFile (some []) := by
  rw [rotateLogFile, if_pos rfl]
  dsimp only
  rw [rotateRenames_of_full hlen]

/-- A log whose name is 4095 `a`s, rotated across ten files. -/
def fullNameLogConfig : XsanLogConfig where
  logFile := List.replicate (xsanMaxPathLen - 1) 'a'
  level := XsanLogLevel.info.toInt
  consoleOutput := false
  fileOutput := true
  maxFileSize := 16
  maxFileCount := 10
  fileHandle := true
  logFile_lt := by
    rw [List.length_replicate]
    exact Nat.sub_lt (by decide) Nat.one_pos

theorem rotateLogFile_full_name_sample :
    (rotateLogFile ⟨fullNameLogConfig, true, fun _ => none, []⟩ true).files =
      Function.update (fun _ => none) fullNameLogConfig.logFile (some []) :=
  rotateLogFile_full_name ⟨fullNameLogConfig, true, fun _ => none, []⟩
    (List.length_replicate ..)

/-! ## A log that a rotation failed to reopen -/

/-- A message to a closed log writes to no file, and leaves it closed. -/
theorem xsanLogMessage_of_closed {s : LogSystem} (hclosed : s.config.fileHandle = false)
    (level : XsanLogLevel) (t : LogText) (isatty f : Bool) :
    (xsanLogMessage s level t isatty f).files = s.files ∧
    (xsanLogMessage s level t isatty f).config.fileHandle = false := by
  unfold xsanLogMessage
  split
  · exact ⟨rfl, hclosed⟩
  · have hguard : ¬((logToConsole s level isatty (fullMessage level t)).config.fileOutput = true ∧
        (logToConsole s level isatty (fullMessage level t)).config.fileHandle = true) := by
      simp [hclosed]
    rw [logToFile, if_neg hguard]
    simpa using hclosed

/-- Once the log is closed, by a rotation that failed to reopen it or by a
shutdown, no later call writes to any file: nothing in `log.c` but
`xsan_log_init` opens it again. Induction on the calls. -/
theorem logRun_files_of_closed (s : LogSystem) (hclosed : s.config.fileHandle = false)
    (calls : List LogCall) : (logRun s calls).files = s.files := by
  induction calls generalizing s with
  | nil => rfl
  | cons c calls ih =>
    -- every call leaves the files alone and the log closed
    have hstep : (logStep s c).files = s.files ∧ (logStep s c).config.fileHandle = false := by
      cases c with
      | setLevel level => exact ⟨rfl, hclosed⟩
      | message level t isatty f => exact xsanLogMessage_of_closed hclosed level t isatty f
      | shutdown => exact ⟨rfl, rfl⟩
    rw [logRun, List.foldl_cons, ← logRun, ih (logStep s c) hstep.2, hstep.1]

theorem logRun_files_of_closed_sample :
    (logRun ⟨sampleLogConfig, true, fun _ => none, []⟩ sampleLogCalls).files = fun _ => none :=
  logRun_files_of_closed ⟨sampleLogConfig, true, fun _ => none, []⟩ rfl sampleLogCalls

end Xsan
