import Xsan.Utils.ConfigSave
import Xsan.Storage.ReplicaRequest
import Xsan.Lib.Bracket
import Xsan.Network.Stream

/-!
# The node's start-up and the cleanup ladder

A model of `xsan_node_main_spdk_thread_start` (src/main/xsan_node.c:311-398),
the function SPDK runs once its framework has started. It creates the
configuration store and loads the configuration file into it, reads the
node's record, and gives up when the node id is empty. It then brings up the
cluster manager, the disk manager, the volume manager, the node-to-node
server with the two replica handlers, and the NVMe-oF target, runs the node's
end-to-end tests, and takes everything down again. A failed step jumps to a
label of the cleanup code at the end of the function, which falls through
from the most recent subsystem to the oldest and ends by asking SPDK to stop.

The model is the list of calls the function makes, each with the arguments it
passes from the configuration and whether it succeeded; what the calls answer
is an input (`StartupEnv`), the configuration text among them. The loading
goes through the store's own loader (`xsanConfigLoadFromFile`) and reader
(`xsanConfigLoadNodeConfig`). `xsan_config_load_node_config` fails only on
`NULL` arguments, so its `goto` is never taken, and a failed load of the file
or of the cluster record is only logged. The tests are one call; the loop
that polls the SPDK thread until they finish is left out.

Each call is read as what it does to the subsystems that are up
(`StartupCall.effect`, in the terms of `Xsan.Lib.Bracket`).

Results:
* `xsanNodeMainSpdkThreadStart_balanced`: on every path, the start-up takes
  down each subsystem it brought up exactly once, the most recent first, and
  asks the SPDK application to stop once, last, when the application started;
  it takes down nothing it did not bring up.
* `xsanNodeMainSpdkThreadStart_requires_node_id`: a subsystem beyond the
  configuration store comes up only when the configuration file gives
  `node.id` a non-empty string; a `node.id` that the loader reads as a number
  or a boolean stops the node.
* `node_recv_reads_freed_message`: with the handlers the start-up registers,
  the first message a connection of the node's server receives is destroyed
  before the receive loop reads its length.
-/

namespace Xsan

open Bracket

/-! ## The calls -/

/-- The calls `xsan_node_main_spdk_thread_start` makes, with the arguments it
passes from the node's configuration and, for a call whose result it reads,
whether the call succeeded. -/
inductive StartupCall
  | configCreate (ok : Bool)
  | configLoadFromFile (path : List Char) (ok : Bool)
  | configLoadNodeConfig
  | configLoadClusterConfig
  | clusterInit (configPath : List Char) (ok : Bool)
  | diskManagerInit (ok : Bool)
  | diskManagerScanAndRegisterBdevs
  | volumeManagerInit (ok : Bool)
  | nodeCommInit (bindAddress : List Char) (port : ℕ) (ok : Bool)
  | nodeCommRegisterMessageHandler (msgType : ℕ) (ok : Bool)
  | nvmfTargetInit (nqn bindAddress listenPort : List Char) (ok : Bool)
  | runE2eCoreLogicTests
  | nvmfTargetFini
  | nodeCommFini
  | volumeManagerFini
  | diskManagerFini
  | clusterShutdown
  | configDestroy
  | spdkManagerRequestAppStop
deriving DecidableEq, Repr

/-- What the start-up is given, and what the calls it makes answer. -/
structure StartupEnv where
  /-- `spdk_startup_rc`. -/
  spdkStartupRc : ℤ
  /-- `g_xsan_config_file`; `none` is `NULL`. -/
  configFile : Option (List Char)
  configCreateOk : Bool
  /-- The text of the configuration file, `none` when `fopen` fails. -/
  fileContents : Option (List Char)
  /-- The allocations of the loader, by line. -/
  loadAllocs : ℕ → LoadAlloc
  clusterInitOk : Bool
  diskManagerInitOk : Bool
  volumeManagerInitOk : Bool
  nodeCommInitOk : Bool
  registerWriteReqOk : Bool
  registerReadReqOk : Bool
  nvmfTargetInitOk : Bool

/-! ## The function -/

/-- The labels of the cleanup code (xsan_node.c:386-394). -/
inductive CleanupLabel
  | commCleanupStop
  | vmCleanupStop
  | dmCleanupStop
  | clusterCleanupStop
  | appCleanupStop
deriving DecidableEq, Repr

/-- The cleanup code from `comm_cleanup_stop` to the end of the function.
`g_xsan_config` is set wherever the code is reached, so its test passes. -/
def cleanupCalls : List StartupCall :=
  [.nodeCommFini, .volumeManagerFini, .diskManagerFini, .clusterShutdown, .configDestroy,
    .spdkManagerRequestAppStop]

/-- Where each label stands in the cleanup code. -/
def CleanupLabel.offset : CleanupLabel → ℕ
  | .commCleanupStop => 0
  | .vmCleanupStop => 1
  | .dmCleanupStop => 2
  | .clusterCleanupStop => 3
  | .appCleanupStop => 4

/-- `goto label`: the cleanup code from the label on. -/
def cleanupFrom (label : CleanupLabel) : List StartupCall := cleanupCalls.drop label.offset

/-- A call whose failure jumps to `label`, followed by `rest`. -/
def callOrGoto (call : StartupCall) (ok : Bool) (label : CleanupLabel) (rest : List StartupCall) :
    List StartupCall :=
  call :: if ok then rest else cleanupFrom label

/-- The subsystems from `xsan_cluster_init` on (xsan_node.c:345-398), with the
configuration file's path and the node's record. -/
def startSubsystems (env : StartupEnv) (configPath : List Char) (node : XsanNodeConfig) :
    List StartupCall :=
  callOrGoto (.clusterInit configPath env.clusterInitOk) env.clusterInitOk .appCleanupStop <|
  callOrGoto (.diskManagerInit env.diskManagerInitOk) env.diskManagerInitOk .clusterCleanupStop <|
  List.cons .diskManagerScanAndRegisterBdevs <|
  callOrGoto (.volumeManagerInit env.volumeManagerInitOk) env.volumeManagerInitOk .dmCleanupStop <|
  callOrGoto (.nodeCommInit node.bindAddress node.port env.nodeCommInitOk) env.nodeCommInitOk
    .vmCleanupStop <|
  -- the `||` registers the read handler only once the write handler is in
  callOrGoto (.nodeCommRegisterMessageHandler xsanMsgTypeReplicaWriteBlockReq env.registerWriteReqOk)
    env.registerWriteReqOk .commCleanupStop <|
  callOrGoto (.nodeCommRegisterMessageHandler xsanMsgTypeReplicaReadBlockReq env.registerReadReqOk)
    env.registerReadReqOk .commCleanupStop <|
  callOrGoto (.nvmfTargetInit node.nvmfTargetNqn node.bindAddress node.nvmfListenPort
    env.nvmfTargetInitOk) env.nvmfTargetInitOk .commCleanupStop <|
  .runE2eCoreLogicTests :: .nvmfTargetFini :: cleanupFrom .commCleanupStop

section Startup

variable {D : Type} (strtod : List Char → D × ℕ × Bool)

/-- The store after `xsan_config_load_from_file` on a new store. -/
def startupConfig (env : StartupEnv) : XsanConfig D :=
  (xsanConfigLoadFromFile strtod xsanConfigCreate env.fileContents env.loadAllocs).1

/-- `xsan_node_main_spdk_thread_start(arg1, spdk_startup_rc)`
(xsan_node.c:311-398): the calls it makes. -/
def xsanNodeMainSpdkThreadStart (env : StartupEnv) : List StartupCall :=
  if env.spdkStartupRc ≠ 0 then []
  else if !env.configCreateOk then [.configCreate false, .spdkManagerRequestAppStop]
  else
    let configPath := env.configFile.getD "xsan_node.conf".toList
    let node := xsanConfigLoadNodeConfig (startupConfig strtod env)
    [.configCreate true,
      .configLoadFromFile configPath
        (xsanConfigLoadFromFile strtod xsanConfigCreate env.fileContents env.loadAllocs).2,
      .configLoadNodeConfig] ++
    if node.nodeId = [] then cleanupFrom .appCleanupStop
    else .configLoadClusterConfig :: startSubsystems env configPath node

end Startup

/-! ## What the calls do to the subsystems -/

/-- The subsystems the start-up brings up, and the SPDK application it runs in. -/
inductive Subsystem
  | spdkApp
  | config
  | cluster
  | diskManager
  | volumeManager
  | nodeComm
  | nvmfTarget
deriving DecidableEq, Repr

/-- What a call does to the subsystems that are up: a successful init brings
its subsystem up, a fini or shutdown takes it down, and asking SPDK to stop
ends the application. -/
def StartupCall.effect : StartupCall → Effect Subsystem
  | .configCreate ok => if ok then .acquire .config else .other
  | .clusterInit _ ok => if ok then .acquire .cluster else .other
  | .diskManagerInit ok => if ok then .acquire .diskManager else .other
  | .volumeManagerInit ok => if ok then .acquire .volumeManager else .other
  | .nodeCommInit _ _ ok => if ok then .acquire .nodeComm else .other
  | .nvmfTargetInit _ _ _ ok => if ok then .acquire .nvmfTarget else .other
  | .nvmfTargetFini => .release .nvmfTarget
  | .nodeCommFini => .release .nodeComm
  | .volumeManagerFini => .release .volumeManager
  | .diskManagerFini => .release .diskManager
  | .clusterShutdown => .release .cluster
  | .configDestroy => .release .config
  | .spdkManagerRequestAppStop => .release .spdkApp
  | _ => .other

/-! ## Taking down what was brought up -/

/-- What is up when control reaches the cleanup code, most recent first. -/
def cleanupHeld : List Subsystem :=
  [.nodeComm, .volumeManager, .diskManager, .cluster, .config, .spdkApp]

/-- What is up when control reaches a label: what its cleanup code takes down. -/
def CleanupLabel.held (label : CleanupLabel) : List Subsystem := cleanupHeld.drop label.offset

/-- The cleanup code from a label takes down what is up there, most recent first. -/
theorem cleanupFrom_effect (label : CleanupLabel) :
    (cleanupFrom label).map StartupCall.effect = label.held.map .release := by
  rw [cleanupFrom, CleanupLabel.held, List.map_drop, List.map_drop]
  rfl

theorem run_cleanupFrom (label : CleanupLabel) :
    run label.held ((cleanupFrom label).map StartupCall.effect) = some [] := by
  have h := run_releases label.held []
  rwa [List.append_nil, ← cleanupFrom_effect] at h

/-- A failed call that brings nothing up, made with what its label takes down
up: the cleanup from the label takes all of it down. -/
theorem run_callOrGoto_false {call : StartupCall} {label : CleanupLabel} {rest : List StartupCall}
    (hcall : call.effect = .other) :
    run label.held ((callOrGoto call false label rest).map StartupCall.effect) = some [] := by
  rw [callOrGoto, List.map_cons, hcall, run_other, if_neg (by decide)]
  exact run_cleanupFrom label

/-- A call that brings `s` up when it succeeds, made with what its label takes
down up: a failure runs the cleanup from the label, and on success the rest
starts with `s` up as well. -/
theorem run_callOrGoto_acquire (s : Subsystem) {call : StartupCall} {ok : Bool}
    {label : CleanupLabel} {held : List Subsystem} {rest : List StartupCall}
    (hcall : call.effect = if ok then .acquire s else .other) (hheld : label.held = held)
    (hrest : ok = true → run (s :: held) (rest.map StartupCall.effect) = some []) :
    run held ((callOrGoto call ok label rest).map StartupCall.effect) = some [] := by
  subst hheld
  cases ok with
  | false => exact run_callOrGoto_false (hcall.trans (if_neg (by decide)))
  | true =>
    rw [callOrGoto, List.map_cons, hcall, if_pos rfl, run_acquire, if_pos rfl]
    exact hrest rfl

/-- A call that brings nothing up, made with what its label takes down up. -/
theorem run_callOrGoto_other {call : StartupCall} {ok : Bool} {label : CleanupLabel}
    {held : List Subsystem} {rest : List StartupCall} (hcall : call.effect = .other)
    (hheld : label.held = held) (hrest : ok = true → run held (rest.map StartupCall.effect) = some []) :
    run held ((callOrGoto call ok label rest).map StartupCall.effect) = some [] := by
  subst hheld
  cases ok with
  | false => exact run_callOrGoto_false hcall
  | true =>
    rw [callOrGoto, List.map_cons, hcall, run_other, if_pos rfl]
    exact hrest rfl

/-- A call that brings nothing up and cannot fail. -/
theorem run_map_cons_other {call : StartupCall} {held : List Subsystem} {rest : List StartupCall}
    (hcall : call.effect = .other) :
    run held ((call :: rest).map StartupCall.effect) = run held (rest.map StartupCall.effect) := by
  rw [List.map_cons, hcall, run_other]

/-- From `xsan_cluster_init` on, with the store and the application up, every
subsystem brought up is taken down and so are the two. -/
theorem run_startSubsystems (env : StartupEnv) (configPath : List Char) (node : XsanNodeConfig) :
    run CleanupLabel.appCleanupStop.held ((startSubsystems env configPath node).map StartupCall.effect) =
      some [] := by
  -- one call at a time: a failure is taken to its label by the `run_callOrGoto` lemmas,
  -- and on success the next call is made with one more subsystem up
  unfold startSubsystems
  refine run_callOrGoto_acquire .cluster (by rfl) (by rfl) fun _ => ?_
  refine run_callOrGoto_acquire .diskManager (by rfl) (by rfl) fun _ => ?_
  rw [run_map_cons_other (by rfl)]
  refine run_callOrGoto_acquire .volumeManager (by rfl) (by rfl) fun _ => ?_
  refine run_callOrGoto_acquire .nodeComm (by rfl) (by rfl) fun _ => ?_
  refine run_callOrGoto_other (by rfl) (by rfl) fun _ => ?_
  refine run_callOrGoto_other (by rfl) (by rfl) fun _ => ?_
  refine run_callOrGoto_acquire .nvmfTarget (by rfl) (by rfl) fun _ => ?_
  -- the tests and `xsan_nvmf_target_fini`, then the whole cleanup code
  rw [run_map_cons_other (by rfl), List.map_cons]
  exact run_cleanupFrom .commCleanupStop

section Startup

variable {D : Type} (strtod : List Char → D × ℕ × Bool)

/-- Started by SPDK, the start-up takes down every subsystem it brought up,
once and the most recent first, whichever call fails, and ends by asking the
application to stop; when SPDK failed to start it does nothing. -/
theorem xsanNodeMainSpdkThreadStart_balanced (env : StartupEnv) :
    run (if env.spdkStartupRc = 0 then [.spdkApp] else [])
      ((xsanNodeMainSpdkThreadStart strtod env).map StartupCall.effect) = some [] := by
  unfold xsanNodeMainSpdkThreadStart
  by_cases hrc : env.spdkStartupRc = 0
  · rw [if_pos hrc, if_neg (not_not.mpr hrc)]
    cases hcreate : env.configCreateOk with
    | false => rfl
    | true =>
      -- the store is up; the calls that load it bring nothing up
      have hload : run [.spdkApp] ([StartupCall.configCreate true, .configLoadFromFile
          (env.configFile.getD "xsan_node.conf".toList)
          (xsanConfigLoadFromFile strtod xsanConfigCreate env.fileContents env.loadAllocs).2,
          .configLoadNodeConfig].map StartupCall.effect) = some CleanupLabel.appCleanupStop.held :=
        rfl
      rw [if_neg (by decide), List.map_append, run_append, hload, Option.bind_some]
      split_ifs with hid
      · exact run_cleanupFrom .appCleanupStop
      · rw [run_map_cons_other (by rfl)]
        exact run_startSubsystems env _ _
  · rw [if_neg hrc, if_pos hrc]
    rfl

/-! ## The node id -/

/-- No call of the cleanup code brings a subsystem up. -/
theorem cleanupFrom_effect_ne_acquire {label : CleanupLabel} {call : StartupCall}
    (hcall : call ∈ cleanupFrom label) (s : Subsystem) : call.effect ≠ .acquire s := by
  have hmem : call ∈ cleanupCalls := List.mem_of_mem_drop hcall
  simp only [cleanupCalls, List.mem_cons, List.not_mem_nil, or_false] at hmem
  rcases hmem with rfl | rfl | rfl | rfl | rfl | rfl <;> simp [StartupCall.effect]

/-- A string field a loader fills with `""` as its default is non-empty only
when the store holds a non-empty string under its key. -/
theorem loadStringField_ne_nil {D : Type} {config : XsanConfig D} {key : List Char} {size : ℕ}
    (h : loadStringField config key [] size ≠ []) :
    ∃ v, v ≠ [] ∧ findConfigItem config key = some (.string (some v)) := by
  have hcopy : ∀ v, (xsanStrcpySafe [] v size).1 ≠ [] → v ≠ [] := by
    rintro v hv rfl
    exact hv (by unfold xsanStrcpySafe; split_ifs <;> simp)
  unfold loadStringField xsanConfigGetString configGet at h
  cases hf : findConfigItem config key with
  | none =>
    -- no item: the default `""` is copied
    rw [hf, Option.bind_none, Option.getD_none] at h
    exact absurd rfl (hcopy [] h)
  | some v =>
    rw [hf, Option.bind_some] at h
    rcases v with (_ | x) | _ | _ | _ | _
    · simp [ConfigValue.asString] at h
    · exact ⟨x, hcopy x (by simpa [ConfigValue.asString] using h), rfl⟩
    -- an item of another type: the getter answers the default
    all_goals exact absurd rfl (hcopy [] (by simpa [ConfigValue.asString] using h))

/-- A subsystem other than the store comes up only when the configuration file
gives `node.id` a non-empty string: with `node.id` missing, empty, or of a
text the loader reads as a number or a boolean, the node gives up after
loading its configuration. -/
theorem xsanNodeMainSpdkThreadStart_requires_node_id (env : StartupEnv) {call : StartupCall}
    {s : Subsystem} (hcall : call ∈ xsanNodeMainSpdkThreadStart strtod env)
    (hup : call.effect = .acquire s) (hs : s ≠ .config) :
    ∃ nodeId, nodeId ≠ [] ∧
      findConfigItem (startupConfig strtod env) "node.id".toList = some (.string (some nodeId)) := by
  unfold xsanNodeMainSpdkThreadStart at hcall
  split_ifs at hcall with hrc hcreate
  · simp at hcall
  · -- `xsan_config_create` failed: only the stop request follows
    simp only [List.mem_cons, List.not_mem_nil, or_false] at hcall
    rcases hcall with rfl | rfl <;> simp [StartupCall.effect] at hup
  rcases List.mem_append.mp hcall with hpre | hrest
  · -- the calls that create and load the store bring up the store only
    simp only [List.mem_cons, List.not_mem_nil, or_false] at hpre
    rcases hpre with rfl | rfl | rfl <;> simp [StartupCall.effect] at hup
    exact absurd hup.symm hs
  split_ifs at hrest with hid
  · -- an empty node id: the cleanup from `app_cleanup_stop` brings nothing up
    exact absurd hup (cleanupFrom_effect_ne_acquire hrest s)
  · exact loadStringField_ne_nil hid

end Startup

/-- A configuration file that names the node, with every call succeeding. -/
def namedNodeEnv : StartupEnv where
  spdkStartupRc := 0
  configFile := none
  configCreateOk := true
  fileContents := some "node.id = n1\n".toList
  loadAllocs := fun _ => LoadAlloc.ok
  clusterInitOk := true
  diskManagerInitOk := true
  volumeManagerInitOk := true
  nodeCommInitOk := true
  registerWriteReqOk := true
  registerReadReqOk := true
  nvmfTargetInitOk := true

theorem xsanNodeMainSpdkThreadStart_requires_node_id_named :
    StartupCall.clusterInit "xsan_node.conf".toList true ∈
        xsanNodeMainSpdkThreadStart noNumber namedNodeEnv ∧
      ∃ nodeId, nodeId ≠ [] ∧ findConfigItem (startupConfig noNumber namedNodeEnv) "node.id".toList =
        some (.string (some nodeId)) :=
  have hcall : StartupCall.clusterInit "xsan_node.conf".toList true ∈
      xsanNodeMainSpdkThreadStart noNumber namedNodeEnv := by decide
  ⟨hcall, xsanNodeMainSpdkThreadStart_requires_node_id noNumber namedNodeEnv hcall rfl (by decide)⟩

/-! ## The receive path of the node's server -/

/-- The message types with a registered handler once the start-up has
registered both replica handlers (xsan_node.c:360-363). -/
def nodeSpecificHandlers (msgType : ℕ) : Bool :=
  msgType == xsanMsgTypeReplicaWriteBlockReq || msgType == xsanMsgTypeReplicaReadBlockReq

/-- Every route of a connection the node's server accepts destroys its
message: `xsan_volume_manager_handle_replica_write_req` and
`_read_req` call `xsan_protocol_message_destroy` on every path
(volume_manager.c:1367, 1447, 1475, 1483, 1559, 1588), the server has no
generic handler (`xsan_node_comm_init(..., NULL, NULL)`, xsan_node.c:355), and
the discard branch destroys the message itself. -/
def nodeHandlerDestroys (_ : Dispatch) (_ : ℕ) : Bool := true

/-- On a connection the node's server accepts (no generic handler), a
deliverable message received with any bytes after it in one chunk is handed to
its route, which destroys it, and the receive loop then reads
`full_msg->header.payload_length` from the freed message
(xsan_node_comm.c:347-348). Whatever the message type, the connection's first
message makes the loop use freed memory. -/
theorem node_recv_reads_freed_message (o : Bytes.ByteOrder) {m : XsanMessage} (hm : m.Deliverable)
    (rest : List UInt8) :
    ∃ c', recvChunk o nodeSpecificHandlers nodeHandlerDestroys (createConnectionCtx false)
        (xsanMessageWire o m ++ rest) =
        ([routed nodeSpecificHandlers (createConnectionCtx false) m], some c') ∧
      c'.useAfterFree = true := by
  -- no route keeps a message
  have hfree : ¬Keeps nodeSpecificHandlers nodeHandlerDestroys (createConnectionCtx false) m := by
    simp [Keeps, destroyedByDispatch, nodeHandlerDestroys]
  exact recvChunk_destroyed false hm rest hfree

/-- A replica write request, alone in its chunk. -/
theorem node_recv_reads_freed_message_write_req :
    sampleMessage.Deliverable ∧
      ∃ c', recvChunk .little nodeSpecificHandlers nodeHandlerDestroys (createConnectionCtx false)
          (xsanMessageWire .little sampleMessage ++ []) =
          ([routed nodeSpecificHandlers (createConnectionCtx false) sampleMessage], some c') ∧
        c'.useAfterFree = true :=
  ⟨sampleMessage_deliverable, node_recv_reads_freed_message .little sampleMessage_deliverable []⟩

/-- `node.id = 1` is loaded as an integer, so the node stops once its
configuration is loaded. -/
example : xsanNodeMainSpdkThreadStart noNumber
      { namedNodeEnv with fileContents := some "node.id = 1\n".toList } =
    [.configCreate true, .configLoadFromFile "xsan_node.conf".toList true, .configLoadNodeConfig,
      .configDestroy, .spdkManagerRequestAppStop] := by
  decide

end Xsan
