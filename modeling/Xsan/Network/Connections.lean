import Xsan.Common.List
import Xsan.Lib.Mutex

/-!
# The list of active connections of the node communication module

`src/network/xsan_node_comm.c` keeps every open connection in a doubly
linked list of `xsan_connection_ctx_t`, from `active_connections_head`,
under the mutex `active_connections_lock`. A connection is added when the
listening socket accepts one (`_xsan_comm_sock_event_callback`, lines
251-280, through `_create_connection_ctx` and
`_add_connection_to_active_list`, lines 197-225), removed when the receive
loop sees the peer close or an error (`_process_received_data_for_connection`,
lines 352-358 and 366-369, through `_remove_connection_from_active_list`
and `_cleanup_and_free_connection_ctx`, lines 227-249), and all are freed by
`xsan_node_comm_fini` (lines 158-177). `xsan_node_comm_disconnect` (lines
479-505) looks a socket up in the list.

The contexts live in a heap of `Xsan.Lib.DLinked` cells, each holding the
context's `sock`; the other fields of a context are the receive state of
`Xsan.Network.NodeComm` and play no part here. Sockets are addresses, and
the sockets `spdk_sock_close` closes are recorded in order. `XSAN_MALLOC`
returns a block that is an input of the call, as in `Xsan.Common.List`.
The mutex is a default one, taken through `Mutex.Locking`: a thread that
locks it while holding it never returns.

Results:
* `connRun_refines`: over every run of accepted connections and of
  connections the receive loop closes, the list from
  `active_connections_head` holds exactly the open connections, newest first,
  each once, the heap holds nothing else, and the sockets closed are those
  the abstract run closes.
* `xsan_node_comm_disconnect_relocks`: `xsan_node_comm_disconnect` of the
  socket of any open connection never returns: it holds
  `active_connections_lock` when `_remove_connection_from_active_list` locks
  it again.
* `xsanNodeCommFini_closes_all`: `xsan_node_comm_fini` closes the socket of
  every open connection once, in list order, then the listening socket, and
  frees every context.
-/

namespace Xsan

open DLinked Mutex

/-- `active_connections_lock`. -/
inductive CommMutex
  | activeConnectionsLock
deriving DecidableEq, Repr

/-- The part of `g_node_comm_ctx` (lines 57-75) the connection list is made
of, with the memory of the contexts, and the sockets closed so far. -/
structure NodeCommConns where
  moduleInitialized : Bool
  listenerSock : Option ℕ
  heap : Heap ℕ
  activeConnectionsHead : Option ℕ
  closed : List ℕ

/-! ## The model -/

/-- The allocations of `_create_connection_ctx` (lines 197-215) for the
socket `sock`: `block` is what the first `XSAN_MALLOC` returns and
`recvBufOk` whether the second, of `recv_buf`, succeeds; the context is
zeroed, so both links are `NULL`. The receive state it sets up is
`createConnectionCtx` of `Xsan.Network.NodeComm`. -/
def createConnectionCtxCell (heap : Heap ℕ) (sock : ℕ) (block : Option ℕ) (recvBufOk : Bool) :
    Option (Heap ℕ × ℕ) :=
  match block with
  | none => none
  | some p => if recvBufOk then some (Function.update heap p (some ⟨sock, none, none⟩), p) else none

/-- `_add_connection_to_active_list` (lines 217-225). -/
def addConnectionToActiveList (c : NodeCommConns) : Option ℕ → Locking CommMutex NodeCommConns
  | none => pure c
  | some p => do
    acquire .activeConnectionsLock
    -- `conn_ctx->prev = NULL; conn_ctx->next = head`
    let heap := (c.heap.setPrev p none).setNext p c.activeConnectionsHead
    -- `if (head) head->prev = conn_ctx`
    let heap := match c.activeConnectionsHead with
      | some hd => heap.setPrev hd (some p)
      | none => heap
    release .activeConnectionsLock
    pure { c with heap := heap, activeConnectionsHead := some p }

/-- `_remove_connection_from_active_list` (lines 227-235): `prev->next =
next`, or the head moves to `next` when there is no `prev`; then `next->prev
= prev` (`Heap.unlink`). -/
def removeConnectionFromActiveList (c : NodeCommConns) : Option ℕ → Locking CommMutex NodeCommConns
  | none => pure c
  | some p => do
    acquire .activeConnectionsLock
    let head := if c.heap.prev p = none then c.heap.next p else c.activeConnectionsHead
    release .activeConnectionsLock
    pure { c with heap := c.heap.unlink p, activeConnectionsHead := head }

/-- `_cleanup_and_free_connection_ctx` (lines 237-249): close the socket when
asked, and free the context. -/
def cleanupAndFreeConnectionCtx (c : NodeCommConns) (p : ℕ) (closeSock : Bool) : NodeCommConns :=
  let closed := match c.heap p with
    | some cell => if closeSock then c.closed ++ [cell.value] else c.closed
    | none => c.closed
  { c with heap := Function.update c.heap p none, closed := closed }

/-- `_xsan_comm_sock_event_callback` on the listening socket (lines 255-268):
`accepted` is what `spdk_sock_accept` returns; a socket without a context is
closed. -/
def acceptConnection (c : NodeCommConns) (accepted block : Option ℕ) (recvBufOk : Bool) :
    Locking CommMutex NodeCommConns :=
  match accepted with
  | none => pure c
  | some s =>
    match createConnectionCtxCell c.heap s block recvBufOk with
    | some (heap, p) => addConnectionToActiveList { c with heap := heap } (some p)
    | none => pure { c with closed := c.closed ++ [s] }

/-- The two ways `_process_received_data_for_connection` ends a connection:
the peer closed it (lines 352-358, the socket is left open) or an error
(lines 366-369, the socket is closed). -/
def closeConnection (c : NodeCommConns) (p : ℕ) (closeSock : Bool) :
    Locking CommMutex NodeCommConns := do
  let c ← removeConnectionFromActiveList c (some p)
  pure (cleanupAndFreeConnectionCtx c p closeSock)

/-- The `while (iter)` search of `xsan_node_comm_disconnect` (lines 485-492)
through at most `fuel` contexts: the first whose socket is `s`, or `NULL` at
the end of the list; `none` when the fuel runs out or a link dangles. -/
def findConnectionBySock (heap : Heap ℕ) (s : ℕ) : ℕ → Option ℕ → Option (Option ℕ)
  | _, none => some none
  | 0, some _ => none
  | fuel + 1, some p =>
    match heap p with
    | none => none
    | some cell => if cell.value = s then some (some p) else findConnectionBySock heap s fuel cell.next

/-- `xsan_node_comm_disconnect` (lines 479-505) of the socket `sock`, the
search given `fuel` turns. -/
def xsanNodeCommDisconnect (c : NodeCommConns) (sock : Option ℕ) (fuel : ℕ) :
    Locking CommMutex NodeCommConns :=
  match sock with
  | none => pure c
  | some s => do
    acquire .activeConnectionsLock
    match findConnectionBySock c.heap s fuel c.activeConnectionsHead with
    | none => fun _ => none
    | some found =>
      -- the removal locks `active_connections_lock` itself
      let c ← removeConnectionFromActiveList c found
      release .activeConnectionsLock
      match found with
      | some p => pure (cleanupAndFreeConnectionCtx c p true)
      | none => pure { c with closed := c.closed ++ [s] }

/-- The `while (conn_ctx)` loop of `xsan_node_comm_fini` (lines 163-169),
through at most `fuel` contexts: each is freed, its socket closed, after its
`next` is read. -/
def finiLoop (c : NodeCommConns) : ℕ → Option ℕ → Option NodeCommConns
  | _, none => some c
  | 0, some _ => none
  | fuel + 1, some p => finiLoop (cleanupAndFreeConnectionCtx c p true) fuel (c.heap.next p)

/-- `xsan_node_comm_fini` (lines 158-177), the loop given `fuel` turns; the
poller and the sock group are left out. -/
def xsanNodeCommFini (c : NodeCommConns) (fuel : ℕ) : Locking CommMutex NodeCommConns :=
  if !c.moduleInitialized then pure c
  else do
    acquire .activeConnectionsLock
    match finiLoop c fuel c.activeConnectionsHead with
    | none => fun _ => none
    | some c =>
      release .activeConnectionsLock
      let closed := match c.listenerSock with
        | some l => c.closed ++ [l]
        | none => c.closed
      pure { c with
        activeConnectionsHead := none, closed := closed, listenerSock := none,
        moduleInitialized := false }

/-- The events of a run: a connection accepted on the listening socket, or a
connection the receive loop closes, its socket closed or not. -/
inductive ConnEvent
  | accept (accepted block : Option ℕ) (recvBufOk : Bool)
  | close (conn : ℕ) (closeSock : Bool)

/-- One event. -/
def connStep (c : NodeCommConns) : ConnEvent → Locking CommMutex NodeCommConns
  | .accept accepted block recvBufOk => acceptConnection c accepted block recvBufOk
  | .close p closeSock => closeConnection c p closeSock

/-- A run of events. -/
def connRun (c : NodeCommConns) : List ConnEvent → Locking CommMutex NodeCommConns
  | [] => pure c
  | e :: es => do
    let c ← connStep c e
    connRun c es

/-! ## Each function on the list -/

section Calls

variable (c : NodeCommConns)

/-- Called without the lock, the addition takes it, links the context in
front, and gives the lock back. -/
theorem addConnectionToActiveList_run (p : ℕ) :
    (addConnectionToActiveList c (some p)).run [] =
      some ({ c with
        heap := match c.activeConnectionsHead with
          | some hd => ((c.heap.setPrev p none).setNext p c.activeConnectionsHead).setPrev hd (some p)
          | none => (c.heap.setPrev p none).setNext p c.activeConnectionsHead
        activeConnectionsHead := some p }, []) :=
  locked_pure_run List.not_mem_nil _

/-- Called without the lock, the removal takes it, unlinks the context, and
gives the lock back. -/
theorem removeConnectionFromActiveList_run (p : ℕ) :
    (removeConnectionFromActiveList c (some p)).run [] =
      some ({ c with
        heap := c.heap.unlink p
        activeConnectionsHead :=
          if c.heap.prev p = none then c.heap.next p else c.activeConnectionsHead }, []) :=
  locked_pure_run List.not_mem_nil _

/-- Called with the lock held, the removal never returns. -/
theorem removeConnectionFromActiveList_run_of_held (p : ℕ) {held : List CommMutex}
    (h : .activeConnectionsLock ∈ held) : (removeConnectionFromActiveList c (some p)).run held = none :=
  bind_run_of_none (acquire_run_of_mem h)

end Calls

/-! ## The list stands for the open connections -/

/-- The list from `active_connections_head` holds the contexts `xs`, each an
address and its socket, newest first and each once, and the heap holds
nothing else. -/
structure ConnList (c : NodeCommConns) (xs : List (ℕ × ℕ)) : Prop where
  nodup : (xs.map Prod.fst).Nodup
  head_eq : c.activeConnectionsHead = firstAddr xs none
  chain : Chain c.heap none xs none
  owned : ∀ p, (c.heap p).isSome → p ∈ xs.map Prod.fst

section Spec

variable {c : NodeCommConns} {xs : List (ℕ × ℕ)}

theorem ConnList.heap_of_not_mem (hl : ConnList c xs) {p : ℕ} (hp : p ∉ xs.map Prod.fst) :
    c.heap p = none :=
  Option.not_isSome_iff_eq_none.mp fun h => hp (hl.owned p h)

/-- A context created at a block outside the list and added in front of it. -/
theorem addConnection_connList (hl : ConnList c xs) {p s : ℕ} (hp : p ∉ xs.map Prod.fst) :
    ∃ c', (addConnectionToActiveList { c with heap := Function.update c.heap p (some ⟨s, none, none⟩) }
        (some p)).run [] = some (c', []) ∧ ConnList c' ((p, s) :: xs) ∧ c'.closed = c.closed := by
  refine ⟨_, addConnectionToActiveList_run _ p, ⟨?_, rfl, ?_, ?_⟩, rfl⟩
  · exact List.nodup_cons.mpr ⟨hp, hl.nodup⟩
  · -- the new cell reads `⟨s, NULL, head⟩` before `head->prev` is set
    dsimp only
    rw [hl.head_eq]
    refine chain_cons_front ?_ hp hl.nodup ?_
    · exact chain_setNext_of_not_mem (chain_setPrev_of_not_mem
        (chain_update_of_not_mem hl.chain hp _) hp none) hp _
    · simp
  · intro a ha
    dsimp only at ha
    rw [hl.head_eq] at ha
    have ha' : ((Function.update c.heap p (some ⟨s, none, none⟩)) a).isSome := by
      cases hf : firstAddr xs none with
      | none => simpa [hf] using ha
      | some hd => simpa [hf] using ha
    rcases Heap.isSome_update ha' with h | rfl
    · exact List.mem_cons_of_mem _ (hl.owned a h)
    · exact List.mem_cons_self

/-- Closing the context `p` of socket `s`: it leaves the list, its memory is
freed, and its socket is closed when asked. -/
theorem closeConnection_connList {ys zs : List (ℕ × ℕ)} {p s : ℕ}
    (hl : ConnList c (ys ++ (p, s) :: zs)) (closeSock : Bool) :
    ∃ c', (closeConnection c p closeSock).run [] = some (c', []) ∧ ConnList c' (ys ++ zs) ∧
      c'.closed = c.closed ++ (if closeSock then [s] else []) := by
  obtain ⟨hys, hcell, -⟩ := (chain_middle _ none none ys zs p s).mp hl.chain
  obtain ⟨hpys, hpzs⟩ := not_mem_of_nodup_middle hl.nodup
  have hprev : c.heap.prev p = lastAddr none ys := by rw [Heap.prev_of_eq hcell]
  have hnext : c.heap.next p = firstAddr zs none := by rw [Heap.next_of_eq hcell]
  have hpout : p ∉ (ys ++ zs).map Prod.fst := by
    rw [List.map_append, List.mem_append, not_or]
    exact ⟨hpys, hpzs⟩
  -- the context is not its own neighbour, so unlinking leaves its cell
  have hself : c.heap.unlink p p = c.heap p := by
    refine Heap.unlink_self _ (fun h => ?_) (fun h => ?_)
    · rw [hprev] at h
      rcases lastAddr_eq_some h with h | h
      · exact hpys h
      · cases h
    · rw [hnext] at h
      cases zs with
      | nil => cases h
      | cons z zs' =>
        obtain ⟨r, w⟩ := z
        rw [firstAddr_cons, Option.some.injEq] at h
        exact hpzs (h ▸ List.mem_cons_self)
  rw [closeConnection, bind_run_of_some (removeConnectionFromActiveList_run c p)]
  refine ⟨_, rfl, ⟨?_, ?_, ?_, ?_⟩, ?_⟩
  · exact hl.nodup.sublist (((List.sublist_cons_self (p, s) zs).append_left ys).map Prod.fst)
  · -- the head moves only when `p` was first
    dsimp only [cleanupAndFreeConnectionCtx]
    rw [hprev]
    cases ys with
    | nil =>
      rw [lastAddr_nil, if_pos rfl, hnext]
      rfl
    | cons y ys' =>
      have hlast : lastAddr none (y :: ys') ≠ none := by
        obtain ⟨a, w⟩ := y
        rw [lastAddr_cons]
        simp [lastAddr]
      rw [if_neg hlast, hl.head_eq]
      rfl
  · exact chain_update_of_not_mem (chain_unlink hl.chain hl.nodup) hpout none
  · intro a ha
    obtain ⟨hsome, hap⟩ := Heap.isSome_update_none (Heap.isSome_unlink c.heap p) ha
    exact mem_addrs_of_ne_middle (hl.owned a hsome) hap
  · dsimp only [cleanupAndFreeConnectionCtx]
    rw [hself, hcell]
    cases closeSock <;> simp

end Spec

/-! ## Runs -/

/-- What an event does to the open connections, each an address and its
socket, newest first: the connections after it, and the sockets it closes. -/
def connAbsStep (xs : List (ℕ × ℕ)) : ConnEvent → List (ℕ × ℕ) × List ℕ
  | .accept none _ _ => (xs, [])
  | .accept (some s) block recvBufOk =>
    match block, recvBufOk with
    | some p, true => ((p, s) :: xs, [])
    | _, _ => (xs, [s])
  | .close p closeSock =>
    (xs.filter (·.1 ≠ p),
      if closeSock then ((xs.find? (·.1 = p)).map Prod.snd).toList else [])

/-- The events a run can meet: an allocation returns a block no open
connection uses, and the receive loop closes only open connections. -/
def ConnEvent.Valid (xs : List (ℕ × ℕ)) : ConnEvent → Prop
  | .accept _ block _ => ∀ p, block = some p → p ∉ xs.map Prod.fst
  | .close p _ => p ∈ xs.map Prod.fst

/-- The abstract run: the open connections at the end, and every socket
closed, in order. -/
def connAbsRun (xs : List (ℕ × ℕ)) : List ConnEvent → List (ℕ × ℕ) × List ℕ
  | [] => (xs, [])
  | e :: es =>
    ((connAbsRun (connAbsStep xs e).1 es).1,
      (connAbsStep xs e).2 ++ (connAbsRun (connAbsStep xs e).1 es).2)

/-- Every event of the run is valid where it happens. -/
def ValidConnRun (xs : List (ℕ × ℕ)) : List ConnEvent → Prop
  | [] => True
  | e :: es => e.Valid xs ∧ ValidConnRun (connAbsStep xs e).1 es

theorem filter_ne_middle {ys zs : List (ℕ × ℕ)} {p s : ℕ}
    (hnd : ((ys ++ (p, s) :: zs).map Prod.fst).Nodup) :
    (ys ++ (p, s) :: zs).filter (·.1 ≠ p) = ys ++ zs := by
  obtain ⟨hpys, hpzs⟩ := not_mem_of_nodup_middle hnd
  have hkeep : ∀ l : List (ℕ × ℕ), p ∉ l.map Prod.fst → l.filter (·.1 ≠ p) = l := fun l hl =>
    List.filter_eq_self.mpr fun x hx => by
      simpa using fun h => hl (List.mem_map.mpr ⟨x, hx, h⟩)
  rw [List.filter_append, List.filter_cons_of_neg (by simp), hkeep ys hpys, hkeep zs hpzs]

theorem find_fst_middle {ys zs : List (ℕ × ℕ)} {p s : ℕ}
    (hnd : ((ys ++ (p, s) :: zs).map Prod.fst).Nodup) :
    (ys ++ (p, s) :: zs).find? (·.1 = p) = some (p, s) := by
  obtain ⟨hpys, -⟩ := not_mem_of_nodup_middle hnd
  rw [List.find?_append, List.find?_eq_none.mpr, Option.none_or, List.find?_cons_of_pos (by simp)]
  intro x hx
  simpa using fun h => hpys (List.mem_map.mpr ⟨x, hx, h⟩)

section Step

variable {c : NodeCommConns} {xs : List (ℕ × ℕ)}

/-- An accept: the new connection goes in front when both allocations
succeed; otherwise the accepted socket is closed. -/
theorem acceptConnection_connList (hl : ConnList c xs) (accepted block : Option ℕ)
    (recvBufOk : Bool) (hv : (ConnEvent.accept accepted block recvBufOk).Valid xs) :
    ∃ c', (acceptConnection c accepted block recvBufOk).run [] = some (c', []) ∧
      ConnList c' (connAbsStep xs (.accept accepted block recvBufOk)).1 ∧
      c'.closed = c.closed ++ (connAbsStep xs (.accept accepted block recvBufOk)).2 := by
  cases accepted with
  | none => exact ⟨c, rfl, hl, by simp [connAbsStep]⟩
  | some s =>
    -- the three outcomes of `_create_connection_ctx`
    rcases block with _ | p
    · exact ⟨_, rfl, ⟨hl.nodup, hl.head_eq, hl.chain, hl.owned⟩, rfl⟩
    · cases recvBufOk with
      | false => exact ⟨_, rfl, ⟨hl.nodup, hl.head_eq, hl.chain, hl.owned⟩, rfl⟩
      | true =>
        obtain ⟨c', hrun, hl', hclosed⟩ := addConnection_connList (s := s) hl (hv p rfl)
        exact ⟨c', hrun, hl', by rw [hclosed]; simp [connAbsStep]⟩

/-- A close by the receive loop of an open connection. -/
theorem closeConnection_connList_of_mem (hl : ConnList c xs) {p : ℕ} (closeSock : Bool)
    (hp : p ∈ xs.map Prod.fst) :
    ∃ c', (closeConnection c p closeSock).run [] = some (c', []) ∧
      ConnList c' (connAbsStep xs (.close p closeSock)).1 ∧
      c'.closed = c.closed ++ (connAbsStep xs (.close p closeSock)).2 := by
  obtain ⟨ys, s, zs, rfl⟩ := exists_middle hp
  obtain ⟨c', hrun, hl', hclosed⟩ := closeConnection_connList hl closeSock
  refine ⟨c', hrun, ?_, ?_⟩
  · rw [connAbsStep, filter_ne_middle hl.nodup]
    exact hl'
  · rw [hclosed, connAbsStep, find_fst_middle hl.nodup]
    rfl

/-- One valid event keeps the list standing for the open connections. -/
theorem connStep_refines (hl : ConnList c xs) (e : ConnEvent) (hv : e.Valid xs) :
    ∃ c', (connStep c e).run [] = some (c', []) ∧ ConnList c' (connAbsStep xs e).1 ∧
      c'.closed = c.closed ++ (connAbsStep xs e).2 := by
  cases e with
  | accept accepted block recvBufOk => exact acceptConnection_connList hl accepted block recvBufOk hv
  | close p closeSock => exact closeConnection_connList_of_mem hl closeSock hv

end Step

/-- Over every run of accepted connections and of connections the receive
loop closes, from a list that stands for the open connections `xs`: each
call returns holding no lock, the list from `active_connections_head` holds
exactly the connections the abstract run leaves open, newest first and each
once, the heap holds nothing else, and the sockets closed are exactly those
the abstract run closes, in order. Induction on the events. -/
theorem connRun_refines {c : NodeCommConns} {xs : List (ℕ × ℕ)} (hl : ConnList c xs)
    (es : List ConnEvent) (hv : ValidConnRun xs es) :
    ∃ c', (connRun c es).run [] = some (c', []) ∧ ConnList c' (connAbsRun xs es).1 ∧
      c'.closed = c.closed ++ (connAbsRun xs es).2 := by
  induction es generalizing c xs with
  | nil => exact ⟨c, rfl, hl, by simp [connAbsRun]⟩
  | cons e es ih =>
    obtain ⟨hve, hvs⟩ := hv
    obtain ⟨c₁, hrun₁, hl₁, hclosed₁⟩ := connStep_refines hl e hve
    obtain ⟨c₂, hrun₂, hl₂, hclosed₂⟩ := ih hl₁ hvs
    refine ⟨c₂, ?_, hl₂, ?_⟩
    · rw [connRun, bind_run_of_some hrun₁, hrun₂]
    · rw [hclosed₂, hclosed₁, connAbsRun, List.append_assoc]

/-! ## Disconnecting -/

/-- The search meets the contexts of a chain ending in `NULL` in order, and
stops at the first whose socket is `s`, given fuel for the whole chain. -/
theorem findConnectionBySock_chain {heap : Heap ℕ} {pr : Option ℕ} {xs : List (ℕ × ℕ)}
    (hc : Chain heap pr xs none) (s k : ℕ) :
    findConnectionBySock heap s (xs.length + k) (firstAddr xs none) =
      some ((xs.find? (·.2 = s)).map Prod.fst) := by
  induction xs generalizing pr with
  | nil => cases k <;> rfl
  | cons x xs ih =>
    obtain ⟨p, v⟩ := x
    obtain ⟨hp, hrest⟩ := hc
    rw [List.length_cons, Nat.add_right_comm, firstAddr_cons, findConnectionBySock, hp]
    dsimp only
    by_cases hv : v = s
    · rw [if_pos hv, List.find?_cons_of_pos (by simpa using hv)]
      rfl
    · rw [if_neg hv, List.find?_cons_of_neg (by simpa using hv), ih hrest]

/-- `xsan_node_comm_disconnect` of the socket of an open connection never
returns: it finds the context holding `active_connections_lock`, and
`_remove_connection_from_active_list` locks that default mutex again. -/
theorem xsan_node_comm_disconnect_relocks {c : NodeCommConns} {xs : List (ℕ × ℕ)}
    (hl : ConnList c xs) {s : ℕ} (hs : s ∈ xs.map Prod.snd) (k : ℕ) :
    (xsanNodeCommDisconnect c (some s) (xs.length + k)).run [] = none := by
  obtain ⟨x, hx⟩ : ∃ x, xs.find? (·.2 = s) = some x := by
    obtain ⟨y, hy, rfl⟩ := List.mem_map.mp hs
    exact Option.isSome_iff_exists.mp (List.find?_isSome.mpr ⟨y, hy, by simp⟩)
  rw [xsanNodeCommDisconnect, bind_run_of_some (acquire_run_of_not_mem List.not_mem_nil)]
  rw [hl.head_eq, findConnectionBySock_chain hl.chain, hx]
  exact bind_run_of_none (removeConnectionFromActiveList_run_of_held c x.1 List.mem_cons_self)

/-- One open connection, of socket `7`, its context at `10`. -/
def oneConnection : NodeCommConns :=
  ⟨true, some 1, Function.update (fun _ => none) 10 (some ⟨7, none, none⟩), some 10, []⟩

theorem connList_oneConnection : ConnList oneConnection [(10, 7)] where
  nodup := List.nodup_singleton 10
  head_eq := rfl
  chain := ⟨by simp [oneConnection], trivial⟩
  owned := fun a h => by
    by_cases ha : a = 10
    · simp [ha]
    · simp [oneConnection, ha] at h

theorem xsan_node_comm_disconnect_relocks_one :
    (xsanNodeCommDisconnect oneConnection (some 7) ([(10, 7)].length + 0)).run [] = none :=
  xsan_node_comm_disconnect_relocks connList_oneConnection (by simp) 0

/-! ## Finalising -/

/-- What `xsan_node_comm_fini`'s loop leaves of `c` after the contexts `xs`:
their memory freed and their sockets closed, in order. -/
def freeContexts (c : NodeCommConns) (xs : List (ℕ × ℕ)) : NodeCommConns :=
  { c with
    heap := fun a => if a ∈ xs.map Prod.fst then none else c.heap a
    closed := c.closed ++ xs.map Prod.snd }

theorem freeContexts_nil (c : NodeCommConns) : freeContexts c [] = c := by
  simp [freeContexts]

theorem freeContexts_cleanup {c : NodeCommConns} {p v : ℕ} {cell : Cell ℕ} (hp : c.heap p = some cell)
    (hv : cell.value = v) (xs : List (ℕ × ℕ)) :
    freeContexts (cleanupAndFreeConnectionCtx c p true) xs = freeContexts c ((p, v) :: xs) := by
  simp only [freeContexts, cleanupAndFreeConnectionCtx, hp, hv, if_true, List.map_cons,
    List.mem_cons, List.append_assoc, List.singleton_append, NodeCommConns.mk.injEq, true_and]
  constructor
  · funext a
    by_cases ha : a = p
    · simp [ha]
    · by_cases hx : a ∈ xs.map Prod.fst <;> simp [ha, hx]
  · trivial

/-- The loop frees the contexts of a chain ending in `NULL` and closes their
sockets, each once and in order, reading each `next` before the free. -/
theorem finiLoop_chain {c : NodeCommConns} {pr : Option ℕ} {xs : List (ℕ × ℕ)}
    (hc : Chain c.heap pr xs none) (hnd : (xs.map Prod.fst).Nodup) (k : ℕ) :
    finiLoop c (xs.length + k) (firstAddr xs none) = some (freeContexts c xs) := by
  induction xs generalizing c pr with
  | nil =>
    rw [freeContexts_nil]
    cases k <;> rfl
  | cons x xs ih =>
    obtain ⟨p, v⟩ := x
    obtain ⟨hp, hrest⟩ := hc
    have hpxs : p ∉ xs.map Prod.fst := (List.nodup_cons.mp hnd).1
    rw [List.length_cons, Nat.add_right_comm, firstAddr_cons, finiLoop, Heap.next_of_eq hp]
    rw [ih (c := cleanupAndFreeConnectionCtx c p true) (chain_update_of_not_mem hrest hpxs none)
      (List.nodup_cons.mp hnd).2, freeContexts_cleanup hp rfl]

/-- `xsan_node_comm_fini` of an initialised module closes the socket of every
open connection once, in list order, then the listening socket, frees every
context, empties the list, and returns holding no lock. -/
theorem xsanNodeCommFini_closes_all {c : NodeCommConns} {xs : List (ℕ × ℕ)} (hl : ConnList c xs)
    (hinit : c.moduleInitialized = true) (k : ℕ) :
    ∃ c', (xsanNodeCommFini c (xs.length + k)).run [] = some (c', []) ∧
      c'.closed = c.closed ++ xs.map Prod.snd ++ c.listenerSock.toList ∧
      (∀ a, c'.heap a = none) ∧ c'.activeConnectionsHead = none := by
  rw [xsanNodeCommFini, if_neg (by simp [hinit]), bind_run_of_some
    (acquire_run_of_not_mem List.not_mem_nil)]
  dsimp only
  rw [hl.head_eq, finiLoop_chain hl.chain hl.nodup]
  dsimp only
  rw [bind_run_of_some (release_run _ _), List.erase_cons_head]
  refine ⟨_, rfl, ?_, fun a => ?_, rfl⟩
  · cases hls : c.listenerSock <;> simp [freeContexts, hls]
  · -- a context outside the list was never allocated
    show (if a ∈ xs.map Prod.fst then none else c.heap a) = none
    split_ifs with ha
    · rfl
    · exact hl.heap_of_not_mem ha

theorem xsanNodeCommFini_closes_all_one :
    ∃ c', (xsanNodeCommFini oneConnection ([(10, 7)].length + 0)).run [] = some (c', []) ∧
      c'.closed = oneConnection.closed ++ [(10, 7)].map Prod.snd ++ oneConnection.listenerSock.toList ∧
      (∀ a, c'.heap a = none) ∧ c'.activeConnectionsHead = none :=
  xsanNodeCommFini_closes_all connList_oneConnection rfl 0

/-- No connection is open before the first accept. -/
def nodeCommConnsEmpty : NodeCommConns := ⟨true, some 1, fun _ => none, none, []⟩

theorem connList_empty : ConnList nodeCommConnsEmpty [] where
  nodup := List.nodup_nil
  head_eq := rfl
  chain := trivial
  owned := fun _ h => by simp [nodeCommConnsEmpty] at h

/-- Two connections accepted at blocks `10` and `11`, and the first closed
by an error. -/
def sampleConnEvents : List ConnEvent :=
  [.accept (some 7) (some 10) true, .accept (some 8) (some 11) true, .close 10 true]

theorem connRun_refines_sample :
    ∃ c', (connRun nodeCommConnsEmpty sampleConnEvents).run [] = some (c', []) ∧
      ConnList c' (connAbsRun [] sampleConnEvents).1 ∧
      c'.closed = nodeCommConnsEmpty.closed ++ (connAbsRun [] sampleConnEvents).2 :=
  connRun_refines connList_empty sampleConnEvents (by
    simp [ValidConnRun, ConnEvent.Valid, sampleConnEvents, connAbsStep])

end Xsan
