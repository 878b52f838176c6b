import Mathlib.Data.List.TakeDrop
import Mathlib.Data.List.TakeWhile
import Xsan.Utils.Config
import Xsan.Storage.Volume

/-!
# Loading configuration text

`xsan_config_load_from_string` and `xsan_config_load_from_file`
(config.c:178-289) clear the store, cut the text into lines, and for every
line that `xsan_parse_config_line` (string_utils.c:589-650) accepts guess the
type of the value: an `int` if `xsan_str_to_int` accepts it, else a `long`,
else a `double`, else a `bool`, else a string. The loaders of the node,
storage and cluster records (config.c:547-750) then read each field with the
getter of the field's type, which answers the default when the stored type is
another one.

`strtol` is modelled on a 64-bit `long`; `strtod` is a parameter, the number
it reads, how far it read and whether it set `ERANGE`. `isspace` and
`tolower` are those of the C locale. Every accepted line makes one set, whose
allocations (and the copy `xsan_strlower` makes in `xsan_str_to_bool`) are
given by `allocs` at the line's position.

Main results:
* `loadLines_find`: with allocations succeeding, after a load every key holds
  the value its last accepted line gives it, typed by the guess.
* `int_literal_string_field_reads_default`: a string field whose last line
  holds a decimal integer gets the getter's default, not the text; so
  `nvmf.listen_port = 5000` loads the port `"4420"`.
-/

namespace Xsan

/-! ## Characters and numbers -/

/-- `isspace` in the C locale. -/
def isCSpace (c : Char) : Bool :=
  c == ' ' || c == '\t' || c == '\n' || c == '\x0b' || c == '\x0c' || c == '\r'

/-- The string without its trailing white space. -/
def trimRight (s : List Char) : List Char := (s.reverse.dropWhile isCSpace).reverse

/-- The size of the `key` buffer the loaders pass to `xsan_parse_config_line`. -/
def configKeySize : ℕ := 256

/-- The size of their `value` buffer. -/
def configValueSize : ℕ := 512

/-- `xsan_parse_config_line` (string_utils.c:589-650): the key before the
first `=` and the value after it, both without surrounding white space;
`none` for a blank or comment line, a line without `=`, or a key or value that
does not fit its buffer. -/
def xsanParseConfigLine (line : List Char) (keySize valueSize : ℕ) : Option (List Char × List Char) :=
  if keySize = 0 ∨ valueSize = 0 then none
  else
    match line.dropWhile isCSpace with
    | [] => none
    | '#' :: _ => none
    | line =>
      match line.span (· != '=') with
      | (_, []) => none
      | (beforeEqual, _ :: afterEqual) =>
        let key := trimRight beforeEqual
        if key.length ≥ keySize then none
        else
          let value := trimRight (afterEqual.dropWhile isCSpace)
          if value.length ≥ valueSize then none else some (key, value)

/-- Dropping the leading blanks of a text that starts with none leaves every
prefix of it as it is. -/
theorem dropWhile_isCSpace_takeWhile {c : Char} (hc : isCSpace c = false) (rest : List Char)
    (p : Char → Bool) : ((c :: rest).takeWhile p).dropWhile isCSpace = (c :: rest).takeWhile p := by
  cases hp : p c
  · simp [hp]
  · simp [hp, hc]

/-- The line parser accepts exactly the lines of its grammar: after the
leading blanks a line that does not start with `#` and holds an `=`, with a
key (the text before the first `=`) and a value (the text after it), both
without surrounding blanks, shorter than their buffers. -/
theorem parse_config_line_grammar (line : List Char) (ks vs : ℕ) (hks : 1 ≤ ks) (hvs : 1 ≤ vs)
    (key value : List Char) :
    xsanParseConfigLine line ks vs = some (key, value) ↔
      line.dropWhile isCSpace ≠ [] ∧ (line.dropWhile isCSpace).head? ≠ some '#' ∧
      '=' ∈ line.dropWhile isCSpace ∧
      key = trimRight (((line.dropWhile isCSpace).takeWhile (· != '=')).dropWhile isCSpace) ∧
      value = trimRight ((((line.dropWhile isCSpace).dropWhile (· != '=')).drop 1).dropWhile isCSpace) ∧
      key.length < ks ∧ value.length < vs := by
  unfold xsanParseConfigLine
  rw [if_neg (by omega)]
  have hlead : ∀ c rest, line.dropWhile isCSpace = c :: rest → isCSpace c = false := by
    intro c rest h
    have := List.head_dropWhile_not isCSpace (l := line) (by rw [h]; simp)
    simpa [h] using this
  generalize line.dropWhile isCSpace = t at hlead ⊢
  rcases t with _ | ⟨c, rest⟩
  · simp
  by_cases hc : c = '#'
  · subst hc
    simp
  -- the line is neither empty nor a comment: the match takes its last branch
  split
  · simp_all
  · simp_all
  rw [List.span_eq_takeWhile_dropWhile, dropWhile_isCSpace_takeWhile (hlead c rest rfl)]
  cases hd : (c :: rest).dropWhile (· != '=') with
  | nil =>
    -- every character passed the scan for '=', so there is none
    have hnot : '=' ∉ c :: rest := by
      intro hmem
      rw [← List.takeWhile_append_dropWhile (p := (· != '=')) (l := c :: rest), hd,
        List.append_nil] at hmem
      simpa using List.mem_takeWhile_imp hmem
    simp [hnot]
  | cons e after =>
    have he : e = '=' := by
      have := List.head_dropWhile_not (fun x => x != '=') (l := c :: rest) (by rw [hd]; simp)
      simpa [hd] using this
    have hmem : '=' ∈ c :: rest := by
      have : e ∈ (c :: rest).dropWhile (· != '=') := by rw [hd]; simp
      exact he ▸ (List.dropWhile_sublist _).subset this
    rw [List.drop_one, List.tail_cons]
    dsimp only
    constructor
    · intro h
      split_ifs at h with hk hv
      cases h
      exact ⟨List.cons_ne_nil _ _, by simpa using hc, hmem, rfl, rfl, by omega, by omega⟩
    · rintro ⟨-, -, -, rfl, rfl, hk, hv⟩
      rw [if_neg (by omega), if_neg (by omega)]

/-- The line `  port = 4420` with its newline, in the loaders' buffers. -/
theorem parse_config_line_grammar_port :
    (1 ≤ configKeySize ∧ 1 ≤ configValueSize) ∧
      xsanParseConfigLine [' ', ' ', 'p', 'o', 'r', 't', ' ', '=', ' ', '4', '4', '2', '0', '\n']
        configKeySize configValueSize = some (['p', 'o', 'r', 't'], ['4', '4', '2', '0']) :=
  ⟨⟨by decide, by decide⟩,
    (parse_config_line_grammar _ _ _ (by decide) (by decide) _ _).mpr (by decide)⟩

/-- `LONG_MIN` and `LONG_MAX` of a 64-bit `long`. -/
def longMin : ℤ := -2 ^ 63
def longMax : ℤ := 2 ^ 63 - 1

/-- `INT_MIN` and `INT_MAX`. -/
def intMin : ℤ := -2 ^ 31
def intMax : ℤ := 2 ^ 31 - 1

/-- The value of a run of decimal digits. -/
def decimalValue (digits : List Char) : ℕ :=
  digits.foldl (fun acc c => 10 * acc + (c.toNat - '0'.toNat)) 0

/-- `strtol(str, &endptr, 10)` for a 64-bit `long`: the result, how many
characters `endptr` is past `str`, and whether `errno` became `ERANGE`. -/
def strtol (s : List Char) : ℤ × ℕ × Bool :=
  let t := s.dropWhile isCSpace
  let signed : Bool × List Char := match t with
    | '-' :: u => (true, u)
    | '+' :: u => (false, u)
    | _ => (false, t)
  let digits := signed.2.takeWhile Char.isDigit
  if digits = [] then (0, 0, false)
  else
    let v : ℤ := if signed.1 then -(decimalValue digits : ℤ) else decimalValue digits
    let consumed := s.length - (signed.2.dropWhile Char.isDigit).length
    if v > longMax then (longMax, consumed, true)
    else if v < longMin then (longMin, consumed, true)
    else (v, consumed, false)

/-- The test the three numeric converters share: no `ERANGE`, and `endptr`
moved and stopped at the end of the string. -/
def convertedWhole (s : List Char) (consumed : ℕ) (erange : Bool) : Bool :=
  !erange && consumed == s.length && consumed != 0

/-- `xsan_str_to_int` (string_utils.c:438-458). -/
def xsanStrToInt (s : List Char) : Option ℤ :=
  let r := strtol s
  if !convertedWhole s r.2.1 r.2.2 then none
  else if r.1 < intMin ∨ r.1 > intMax then none
  else some r.1

/-- `xsan_str_to_long` (string_utils.c:463-479). -/
def xsanStrToLong (s : List Char) : Option ℤ :=
  let r := strtol s
  if !convertedWhole s r.2.1 r.2.2 then none else some r.1

/-- `xsan_str_to_double` (string_utils.c:484-500), with `strtod` of the C
library a parameter. -/
def xsanStrToDouble {D : Type} (strtod : List Char → D × ℕ × Bool) (s : List Char) : Option D :=
  let r := strtod s
  if !convertedWhole s r.2.1 r.2.2 then none else some r.1

/-- `xsan_str_to_bool` (string_utils.c:505-529); `lowerOk` is whether the
copy `xsan_strlower` allocates succeeds. -/
def xsanStrToBool (lowerOk : Bool) (s : List Char) : Option Bool :=
  if !lowerOk then none
  else
    let lowerStr := s.map Char.toLower
    if lowerStr = "true".toList ∨ lowerStr = "yes".toList ∨ lowerStr = "on".toList ∨
        lowerStr = "1".toList then some true
    else if lowerStr = "false".toList ∨ lowerStr = "no".toList ∨ lowerStr = "off".toList ∨
        lowerStr = "0".toList then some false
    else none

/-! ## Loading -/

/-- The allocations an accepted line needs. -/
structure LoadAlloc where
  lowerOk : Bool
  set : ConfigAlloc
deriving DecidableEq, Repr

/-- Every allocation succeeds. -/
def LoadAlloc.ok : LoadAlloc := ⟨true, .ok⟩

@[simp] theorem LoadAlloc.ok_lowerOk : LoadAlloc.ok.lowerOk = true := rfl

@[simp] theorem LoadAlloc.ok_set : LoadAlloc.ok.set = .ok := rfl

/-- `strtok(str, "\n")`: the non-empty runs of characters between newlines. -/
def strtokLines (s : List Char) : List (List Char) := (s.splitOn '\n').filter (· != [])

/-- What `fgets(line, 1024, file)` reads from `s`: up to and including the
first newline, at most 1023 characters. -/
def fgetsChunk (s : List Char) : List Char := s.take (min 1023 (s.idxOf '\n' + 1))

/-- The chunks successive `fgets` calls read from the file's contents; every
chunk has at least one character, so `s.length` calls read them all. -/
def fgetsLines : ℕ → List Char → List (List Char)
  | 0, _ => []
  | _ + 1, [] => []
  | fuel + 1, s => fgetsChunk s :: fgetsLines fuel (s.drop (fgetsChunk s).length)

/-- A buffer read as a C string: up to its first `NUL`. -/
def cString (s : List Char) : List Char := s.takeWhile (· != '\x00')

section Load

variable {D : Type} (strtod : List Char → D × ℕ × Bool)

/-- The type-guessing cascade the two loaders run on an accepted line
(config.c:216-230 and 266-280). -/
def loadConfigValue (config : XsanConfig D) (key value : List Char) (alloc : LoadAlloc) :
    XsanConfig D :=
  match xsanStrToInt value with
  | some v => (xsanConfigSetInt config key v alloc.set).1
  | none =>
    match xsanStrToLong value with
    | some v => (xsanConfigSetLong config key v alloc.set).1
    | none =>
      match xsanStrToDouble strtod value with
      | some v => (xsanConfigSetDouble config key v alloc.set).1
      | none =>
        match xsanStrToBool alloc.lowerOk value with
        | some v => (xsanConfigSetBool config key v alloc.set).1
        | none => (xsanConfigSetString config key (some value) alloc.set).1

/-- The loop over the lines, the `i`-th being the next. -/
def loadLines (allocs : ℕ → LoadAlloc) : ℕ → XsanConfig D → List (List Char) → XsanConfig D
  | _, config, [] => config
  | i, config, line :: lines =>
    let config := match xsanParseConfigLine line configKeySize configValueSize with
      | some (key, value) => loadConfigValue strtod config key value (allocs i)
      | none => config
    loadLines allocs (i + 1) config lines

/-- `xsan_config_load_from_string` (config.c:246-289); `strdupOk` is the copy
of the text that `strtok` cuts. -/
def xsanConfigLoadFromString (config : XsanConfig D) (configStr : List Char) (strdupOk : Bool)
    (allocs : ℕ → LoadAlloc) : XsanConfig D × Bool :=
  let config := xsanConfigClear config
  if !strdupOk then (config, false)
  else (loadLines strtod allocs 0 config (strtokLines configStr), true)

/-- `xsan_config_load_from_file` (config.c:178-241) on a file with the given
contents, `none` when `fopen` fails. -/
def xsanConfigLoadFromFile (config : XsanConfig D) (fileContents : Option (List Char))
    (allocs : ℕ → LoadAlloc) : XsanConfig D × Bool :=
  match fileContents with
  | none => (config, false)
  | some text =>
    let config := xsanConfigClear config
    (loadLines strtod allocs 0 config ((fgetsLines text.length text).map cString), true)

end Load

/-! ## The loaded records -/

/-- An `int` stored in a `uint16_t` field. -/
def uint16OfInt (i : ℤ) : ℕ := (i % 2 ^ 16).toNat

/-- An `int` or a `long` stored in a `size_t` field. -/
def sizeOfInt (i : ℤ) : ℕ := (i % 2 ^ 64).toNat

/-- `xsan_strcpy_safe(field, xsan_config_get_string(config, key, default),
size)` into a field `memset` to zero: a `NULL` string leaves it empty. -/
def loadStringField {D : Type} (config : XsanConfig D) (key defaultValue : List Char) (size : ℕ) :
    List Char :=
  match xsanConfigGetString config key (some defaultValue) with
  | some s => (xsanStrcpySafe [] s size).1
  | none => []

/-- `xsan_node_config_t` (include/xsan_config.h:58-74). -/
structure XsanNodeConfig where
  nodeId : List Char
  nodeName : List Char
  bindAddress : List Char
  port : ℕ
  dataDir : List Char
  logFile : List Char
  logLevel : List Char
  maxConnections : ℕ
  heartbeatInterval : ℕ
  electionTimeout : ℕ
  enableSsl : Bool
  sslCertFile : List Char
  sslKeyFile : List Char
  nvmfTargetNqn : List Char
  nvmfListenPort : List Char
deriving DecidableEq, Repr

/-- `xsan_config_load_node_config` (config.c:547-606). -/
def xsanConfigLoadNodeConfig {D : Type} (config : XsanConfig D) : XsanNodeConfig where
  nodeId := loadStringField config "node.id".toList "".toList 64
  nodeName := loadStringField config "node.name".toList "".toList 128
  bindAddress := loadStringField config "node.bind_address".toList "0.0.0.0".toList 64
  port := uint16OfInt (xsanConfigGetInt config "node.port".toList 8080)
  dataDir := loadStringField config "node.data_dir".toList "/var/lib/xsan".toList 256
  logFile := loadStringField config "node.log_file".toList "/var/log/xsan/xsan.log".toList 256
  logLevel := loadStringField config "node.log_level".toList "INFO".toList 16
  maxConnections := sizeOfInt (xsanConfigGetInt config "node.max_connections".toList 1000)
  heartbeatInterval := sizeOfInt (xsanConfigGetInt config "node.heartbeat_interval".toList 30)
  electionTimeout := sizeOfInt (xsanConfigGetInt config "node.election_timeout".toList 150)
  enableSsl := xsanConfigGetBool config "node.enable_ssl".toList false
  sslCertFile := loadStringField config "node.ssl_cert_file".toList "".toList 256
  sslKeyFile := loadStringField config "node.ssl_key_file".toList "".toList 256
  nvmfTargetNqn := loadStringField config "nvmf.target_nqn".toList "".toList xsanMaxNameLen
  nvmfListenPort := loadStringField config "nvmf.listen_port".toList "4420".toList 16

/-- `xsan_storage_config_t` (include/xsan_config.h:77-88). -/
structure XsanStorageConfig where
  storageDir : List Char
  blockSize : ℕ
  maxFileSize : ℕ
  cacheSize : ℕ
  ioThreads : ℕ
  syncInterval : ℕ
  enableCompression : Bool
  compressionAlgorithm : List Char
  replicationFactor : ℕ
  enableChecksums : Bool
deriving DecidableEq, Repr

/-- `xsan_config_load_storage_config` (config.c:611-640). -/
def xsanConfigLoadStorageConfig {D : Type} (config : XsanConfig D) : XsanStorageConfig where
  storageDir := loadStringField config "storage.dir".toList "/var/lib/xsan/storage".toList 256
  blockSize := sizeOfInt (xsanConfigGetInt config "storage.block_size".toList (4 * 1024))
  maxFileSize := sizeOfInt (xsanConfigGetLong config "storage.max_file_size".toList (1024 * 1024 * 1024))
  cacheSize := sizeOfInt (xsanConfigGetLong config "storage.cache_size".toList (100 * 1024 * 1024))
  ioThreads := sizeOfInt (xsanConfigGetInt config "storage.io_threads".toList 4)
  syncInterval := sizeOfInt (xsanConfigGetInt config "storage.sync_interval".toList 60)
  enableCompression := xsanConfigGetBool config "storage.enable_compression".toList false
  compressionAlgorithm := loadStringField config "storage.compression_algorithm".toList "lz4".toList 32
  replicationFactor := sizeOfInt (xsanConfigGetInt config "storage.replication_factor".toList 3)
  enableChecksums := xsanConfigGetBool config "storage.enable_checksums".toList true

/-- The fields of `xsan_cluster_config_t` (include/xsan_config.h:94-105) read
with a typed getter; `seedNodes` is the text the seed list is parsed from. -/
structure XsanClusterConfig where
  clusterName : List Char
  seedNodes : Option (List Char)
  minNodes : ℕ
  maxNodes : ℕ
  quorumSize : ℕ
  networkTimeout : ℕ
  reconnectInterval : ℕ
  enableAutoFailover : Bool
  failoverTimeout : ℕ
deriving DecidableEq, Repr

/-- `xsan_config_load_cluster_config` (config.c:645-747) up to the parse of the
seed list. -/
def xsanConfigLoadClusterConfig {D : Type} (config : XsanConfig D) : XsanClusterConfig where
  clusterName := loadStringField config "cluster.name".toList "xsan-cluster".toList 128
  seedNodes := xsanConfigGetString config "cluster.seed_nodes".toList (some [])
  minNodes := sizeOfInt (xsanConfigGetInt config "cluster.min_nodes".toList 3)
  maxNodes := sizeOfInt (xsanConfigGetInt config "cluster.max_nodes".toList 64)
  quorumSize := sizeOfInt (xsanConfigGetInt config "cluster.quorum_size".toList 2)
  networkTimeout := sizeOfInt (xsanConfigGetInt config "cluster.network_timeout".toList 30)
  reconnectInterval := sizeOfInt (xsanConfigGetInt config "cluster.reconnect_interval".toList 5)
  enableAutoFailover := xsanConfigGetBool config "cluster.enable_auto_failover".toList true
  failoverTimeout := sizeOfInt (xsanConfigGetInt config "cluster.failover_timeout".toList 300)

/-! ## What a load stores -/

section Lookups

variable {D : Type} (strtod : List Char → D × ℕ × Bool)

/-- The typed value the cascade gives a value text. -/
def lineValue (lowerOk : Bool) (value : List Char) : ConfigValue D :=
  match xsanStrToInt value with
  | some v => .int v
  | none =>
    match xsanStrToLong value with
    | some v => .long v
    | none =>
      match xsanStrToDouble strtod value with
      | some v => .double v
      | none =>
        match xsanStrToBool lowerOk value with
        | some v => .bool v
        | none => .string (some value)

/-- The value text of the last line the parser accepts with key `k`. -/
def lastLineValue (k : List Char) (lines : List (List Char)) : Option (List Char) :=
  ((lines.filterMap fun l => xsanParseConfigLine l configKeySize configValueSize).reverse.find?
    (·.1 = k)).map (·.2)

theorem lineValue_isNull (lowerOk : Bool) (value : List Char) :
    (lineValue strtod lowerOk value : ConfigValue D).isNull = false := by
  unfold lineValue
  split
  · rfl
  · split
    · rfl
    · split
      · rfl
      · split <;> rfl

/-- The cascade is one set of the value it guesses. -/
theorem loadConfigValue_eq (config : XsanConfig D) (key value : List Char) (alloc : LoadAlloc) :
    loadConfigValue strtod config key value alloc =
      (setConfigItem config key (lineValue strtod alloc.lowerOk value) alloc.set).1 := by
  unfold loadConfigValue lineValue
  split
  · rfl
  · split
    · rfl
    · split
      · rfl
      · split <;> rfl

theorem lastLineValue_cons (k line : List Char) (lines : List (List Char)) :
    lastLineValue k (line :: lines) =
      (lastLineValue k lines).or
        (match xsanParseConfigLine line configKeySize configValueSize with
          | some (key, value) => if key = k then some value else none
          | none => none) := by
  unfold lastLineValue
  cases hp : xsanParseConfigLine line configKeySize configValueSize with
  | none => simp [hp]
  | some kv =>
    obtain ⟨key, value⟩ := kv
    simp only [List.filterMap_cons, hp, List.reverse_cons, List.find?_append]
    cases List.find? (fun x => decide (x.1 = k))
        (lines.filterMap fun l => xsanParseConfigLine l configKeySize configValueSize).reverse with
    | some e => rfl
    | none => by_cases hk : key = k <;> simp [hk]

/-- With every allocation succeeding, a load leaves each key with the typed
value of its last accepted line, and the keys no line sets as they were:
induction on the lines, with the lookup law of one set. -/
theorem loadLines_find (i : ℕ) (config : XsanConfig D) (lines : List (List Char)) (k : List Char) :
    findConfigItem (loadLines strtod (fun _ => LoadAlloc.ok) i config lines) k =
      match lastLineValue k lines with
      | some v => some (lineValue strtod true v)
      | none => findConfigItem config k := by
  induction lines generalizing i config with
  | nil => rfl
  | cons line lines ih =>
    rw [loadLines, ih, lastLineValue_cons]
    -- a later line with the key hides this one
    cases lastLineValue k lines with
    | some v => rfl
    | none =>
      cases hp : xsanParseConfigLine line configKeySize configValueSize with
      | none => rfl
      | some kv =>
        obtain ⟨key, value⟩ := kv
        simp only [Option.none_or, loadConfigValue_eq, LoadAlloc.ok_set, LoadAlloc.ok_lowerOk]
        rw [findConfigItem_setConfigItem _ _ (lineValue_isNull strtod _ _)]
        by_cases hk : key = k <;> simp [hk]

end Lookups

/-- A value text that is a decimal `int` literal is stored as an `int`. -/
theorem lineValue_of_int {D : Type} (strtod : List Char → D × ℕ × Bool) {value : List Char} {i : ℤ}
    (h : xsanStrToInt value = some i) (lowerOk : Bool) :
    lineValue strtod lowerOk value = .int i := by
  simp [lineValue, h]

/-- The string getter of a key whose last line held a decimal `int`: the text
was stored as an `int`, so every string field read from that key after
`xsan_config_load_from_string` gets its default, whatever `strtod` does. -/
theorem int_literal_string_field_reads_default {D : Type} (strtod : List Char → D × ℕ × Bool)
    (config : XsanConfig D) (text k : List Char) {v : List Char} {i : ℤ}
    (hlast : lastLineValue k (strtokLines text) = some v) (hint : xsanStrToInt v = some i)
    (defaultValue : List Char) (size : ℕ) :
    loadStringField (xsanConfigLoadFromString strtod config text true fun _ => LoadAlloc.ok).1 k
        defaultValue size = (xsanStrcpySafe [] defaultValue size).1 := by
  have hfind := loadLines_find strtod 0 (xsanConfigClear config) (strtokLines text) k
  simp only [hlast, lineValue_of_int strtod hint] at hfind
  simp [xsanConfigLoadFromString, loadStringField, xsanConfigGetString, configGet, hfind,
    ConfigValue.asString]

/-- The NVMe-oF port written in the file is read back as the default
`"4420"`; the line is an integer, so `strtod`, here one that reads nothing,
is never reached. -/
theorem int_literal_string_field_reads_default_listen_port :
    lastLineValue "nvmf.listen_port".toList (strtokLines "nvmf.listen_port = 5000".toList) =
        some "5000".toList ∧ xsanStrToInt "5000".toList = some 5000 ∧
      (xsanConfigLoadNodeConfig
        (xsanConfigLoadFromString (fun _ => ((0 : ℕ), 0, false)) xsanConfigCreate
          "nvmf.listen_port = 5000".toList true fun _ => LoadAlloc.ok).1).nvmfListenPort = "4420".toList :=
  have hlast : lastLineValue "nvmf.listen_port".toList (strtokLines "nvmf.listen_port = 5000".toList) =
      some "5000".toList := by decide
  have hint : xsanStrToInt "5000".toList = some 5000 := by decide
  ⟨hlast, hint, (int_literal_string_field_reads_default (fun _ => ((0 : ℕ), 0, false)) xsanConfigCreate _ _
    hlast hint "4420".toList 16).trans (by decide)⟩

end Xsan
