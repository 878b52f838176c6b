import Xsan.Lib.DLinked
import Xsan.Common.Error
import Mathlib.Data.List.Nodup
import Mathlib.Data.List.InsertIdx

/-!
# The doubly linked list `xsan_list_t`

A model of `src/common/list.c`. The list header (`head`, `tail`, `size`) is
a record beside the heap its nodes live in; a node pointer is an address,
`NULL` is `none`. `XSAN_MALLOC` is not modelled as a function: each
allocating call takes the block it returned as an argument (`none` for
`NULL`), and a run supplies, for each call, a block that is not in use.
Value destructors are calls on the values only and are left out.

Abstractly the list is the sequence of its nodes, each an address and a
value; the operations act on it by position (`absStep`). `Represents l xs`
is the invariant: the heap holds the nodes of `xs` and nothing else, linked
both ways, with `head`, `tail` and `size` matching.

Results:
* one spec lemma per operation, `append_spec` … `clear_spec`: from a list
  that represents `xs`, the call returns what `absStep` returns and leaves a
  list that represents the new sequence.
* `listRun_represents`: the same over any run of calls.
-/

namespace Xsan

open DLinked

variable {α : Type}

/-- `struct xsan_list` (list.c lines 14–19), with the memory of its nodes. -/
structure XsanList (α : Type) where
  heap : Heap α
  head : Option ℕ
  tail : Option ℕ
  size : ℕ

/-- `xsan_list_create` (lines 21–31), once the header is allocated. -/
def xsanListCreate : XsanList α := ⟨fun _ => none, none, none, 0⟩

/-- `create_new_node` (lines 43–52): the block `XSAN_MALLOC` returned holds a
node with both links `NULL`. -/
def createNewNode (h : Heap α) (value : α) (block : Option ℕ) : Option (Heap α × ℕ) :=
  block.map fun p => (Function.update h p (some ⟨value, none, none⟩), p)

/-- `xsan_list_append` (lines 54–72). -/
def xsanListAppend (l : XsanList α) (value : α) (block : Option ℕ) : XsanList α × Option ℕ :=
  match createNewNode l.heap value block with
  | none => (l, none)
  | some (h, node) =>
    match l.tail with
    | none => ({ l with heap := h, head := some node, tail := some node, size := l.size + 1 },
        some node)
    | some t =>
      -- list->tail->next = node; node->prev = list->tail; list->tail = node
      let h := (h.setNext t (some node)).setPrev node (some t)
      ({ l with heap := h, tail := some node, size := l.size + 1 }, some node)

/-- `xsan_list_prepend` (lines 74–92). -/
def xsanListPrepend (l : XsanList α) (value : α) (block : Option ℕ) : XsanList α × Option ℕ :=
  match createNewNode l.heap value block with
  | none => (l, none)
  | some (h, node) =>
    match l.head with
    | none => ({ l with heap := h, head := some node, tail := some node, size := l.size + 1 },
        some node)
    | some hd =>
      let h := (h.setPrev hd (some node)).setNext node (some hd)
      ({ l with heap := h, head := some node, size := l.size + 1 }, some node)

/-- `xsan_list_insert_after` (lines 94–116). Each pointer is read from the
memory as it stands at that statement. -/
def xsanListInsertAfter (l : XsanList α) (prevNode : Option ℕ) (value : α) (block : Option ℕ) :
    XsanList α × Option ℕ :=
  match prevNode with
  | none => (l, none)
  | some pn =>
    if some pn = l.tail then xsanListAppend l value block
    else
      match createNewNode l.heap value block with
      | none => (l, none)
      | some (h, nn) =>
        let h := h.setNext nn (h.next pn)
        let h := h.setPrev nn (some pn)
        let h := match h.next pn with
          | some q => h.setPrev q (some nn)
          | none => h
        let h := h.setNext pn (some nn)
        ({ l with heap := h, size := l.size + 1 }, some nn)

/-- `xsan_list_insert_before` (lines 118–139). -/
def xsanListInsertBefore (l : XsanList α) (nextNode : Option ℕ) (value : α) (block : Option ℕ) :
    XsanList α × Option ℕ :=
  match nextNode with
  | none => (l, none)
  | some nx =>
    if some nx = l.head then xsanListPrepend l value block
    else
      match createNewNode l.heap value block with
      | none => (l, none)
      | some (h, nn) =>
        let h := h.setPrev nn (h.prev nx)
        let h := h.setNext nn (some nx)
        let h := match h.prev nx with
          | some q => h.setNext q (some nn)
          | none => h
        let h := h.setPrev nx (some nn)
        ({ l with heap := h, size := l.size + 1 }, some nn)

/-- `xsan_list_remove_node` (lines 141–187). The node is freed; `size` is a
`size_t`, decremented. -/
def xsanListRemoveNode (l : XsanList α) (node : Option ℕ) : XsanList α × ℤ :=
  match node with
  | none => (l, xsanErrorInvalidParam)
  | some p =>
    let isHead := decide (some p = l.head)
    let isTail := decide (some p = l.tail)
    let h₁ : Heap α := match l.heap.prev p with
      | some q => l.heap.setNext q (l.heap.next p)
      | none => l.heap
    let h₂ : Heap α := match h₁.next p with
      | some q => h₁.setPrev q (h₁.prev p)
      | none => h₁
    let head := if isHead then h₂.next p else l.head
    let tail := if isTail then h₂.prev p else l.tail
    let size := l.size - 1
    -- an emptied list gets `NULL` ends whatever the links said
    if size = 0 then (⟨Function.update h₂ p none, none, none, size⟩, xsanOk)
    else (⟨Function.update h₂ p none, head, tail, size⟩, xsanOk)

/-- `xsan_list_pop_front` (lines 189–206): the list and the value popped. -/
def xsanListPopFront (l : XsanList α) : XsanList α × Option α :=
  match l.head with
  | none => (l, none)
  | some p =>
    let value := (l.heap p).map Cell.value
    let head := l.heap.next p
    let l' : XsanList α := match head with
      | some q => { l with heap := l.heap.setPrev q none, head := head }
      | none => { l with head := head, tail := none }
    ({ l' with heap := Function.update l'.heap p none, size := l.size - 1 }, value)

/-- `xsan_list_pop_back` (lines 208–225). -/
def xsanListPopBack (l : XsanList α) : XsanList α × Option α :=
  match l.tail with
  | none => (l, none)
  | some p =>
    let value := (l.heap p).map Cell.value
    let tail := l.heap.prev p
    let l' : XsanList α := match tail with
      | some q => { l with heap := l.heap.setNext q none, tail := tail }
      | none => { l with tail := tail, head := none }
    ({ l' with heap := Function.update l'.heap p none, size := l.size - 1 }, value)

/-- The loop of `xsan_list_clear` (lines 258–266) through at most `fuel`
nodes: read `next`, free the node, go on; `none` if the fuel runs out. -/
def clearLoop : ℕ → Heap α → Option ℕ → Option (Heap α)
  | _, h, none => some h
  | 0, _, some _ => none
  | fuel + 1, h, some p => clearLoop fuel (Function.update h p none) (h.next p)

/-- `xsan_list_clear` (lines 254–270). The loop runs until `NULL`; it is
bounded here by `size`, which `clearLoop_chain` shows to be enough on a list
that represents a sequence. -/
def xsanListClear (l : XsanList α) : Option (XsanList α) :=
  (clearLoop l.size l.heap l.head).map fun h => ⟨h, none, none, 0⟩

/-! ## The sequence the list stands for -/

/-- A call on the list; a node argument is the node's address. -/
inductive ListOp (α : Type) where
  | append (value : α)
  | prepend (value : α)
  | insertAfter (node : ℕ) (value : α)
  | insertBefore (node : ℕ) (value : α)
  | removeNode (node : ℕ)
  | popFront
  | popBack
  | clear

/-- What a call returns: a node pointer, a status, a value, or nothing. -/
inductive ListResult (α : Type) where
  | node (p : Option ℕ)
  | status (e : ℤ)
  | value (v : Option α)
  | done
  deriving DecidableEq

/-- The position of node `n` in the sequence `xs`. -/
def nodeIndex (xs : List (ℕ × α)) (n : ℕ) : ℕ := (xs.map Prod.fst).idxOf n

/-- The inserting calls: the node `block` holds `value`, at position `i`;
nothing changes when the allocation failed. -/
def absInsert (xs : List (ℕ × α)) (block : Option ℕ) (i : ℕ) (value : α) :
    List (ℕ × α) × ListResult α :=
  match block with
  | none => (xs, .node none)
  | some p => (xs.insertIdx i (p, value), .node (some p))

/-- Each call as an operation on the sequence of nodes: `append` adds at the
end, `insert_after n` at `n`'s position plus one, `remove_node n` erases the
node at `n`'s position, the pops return the first or last value. -/
def absStep (xs : List (ℕ × α)) (block : Option ℕ) : ListOp α → List (ℕ × α) × ListResult α
  | .append v => absInsert xs block xs.length v
  | .prepend v => absInsert xs block 0 v
  | .insertAfter n v => absInsert xs block (nodeIndex xs n + 1) v
  | .insertBefore n v => absInsert xs block (nodeIndex xs n) v
  | .removeNode n => (xs.eraseIdx (nodeIndex xs n), .status xsanOk)
  | .popFront => (xs.tail, .value (xs.head?.map Prod.snd))
  | .popBack => (xs.dropLast, .value (xs.getLast?.map Prod.snd))
  | .clear => ([], .done)

/-- A block `XSAN_MALLOC` returned is not a node of the list. -/
def BlockFresh (xs : List (ℕ × α)) : Option ℕ → Prop
  | none => True
  | some p => p ∉ xs.map Prod.fst

instance (xs : List (ℕ × α)) : DecidablePred (BlockFresh xs) := fun block =>
  match block with
  | none => isTrue trivial
  | some p => inferInstanceAs (Decidable (p ∉ xs.map Prod.fst))

/-- The calls the list's interface allows: a node argument is a node of the
list, and the block an allocation returns is not in use. -/
def ValidOp (xs : List (ℕ × α)) (block : Option ℕ) : ListOp α → Prop
  | .append _ | .prepend _ => BlockFresh xs block
  | .insertAfter n _ | .insertBefore n _ => n ∈ xs.map Prod.fst ∧ BlockFresh xs block
  | .removeNode n => n ∈ xs.map Prod.fst
  | .popFront | .popBack | .clear => True

instance (xs : List (ℕ × α)) (block : Option ℕ) : (op : ListOp α) → Decidable (ValidOp xs block op)
  | .append _ | .prepend _ => inferInstanceAs (Decidable (BlockFresh xs block))
  | .insertAfter n _ | .insertBefore n _ =>
    inferInstanceAs (Decidable (n ∈ xs.map Prod.fst ∧ BlockFresh xs block))
  | .removeNode n => inferInstanceAs (Decidable (n ∈ xs.map Prod.fst))
  | .popFront | .popBack | .clear => isTrue trivial

/-- One call of the code, with the block its allocation returned. -/
def listStep (l : XsanList α) (block : Option ℕ) : ListOp α → Option (XsanList α × ListResult α)
  | .append v => let r := xsanListAppend l v block; some (r.1, .node r.2)
  | .prepend v => let r := xsanListPrepend l v block; some (r.1, .node r.2)
  | .insertAfter n v => let r := xsanListInsertAfter l (some n) v block; some (r.1, .node r.2)
  | .insertBefore n v => let r := xsanListInsertBefore l (some n) v block; some (r.1, .node r.2)
  | .removeNode n => let r := xsanListRemoveNode l (some n); some (r.1, .status r.2)
  | .popFront => let r := xsanListPopFront l; some (r.1, .value r.2)
  | .popBack => let r := xsanListPopBack l; some (r.1, .value r.2)
  | .clear => (xsanListClear l).map fun l' => (l', .done)

/-- `xs` is the sequence `l` stands for: its nodes, and no others, are
allocated and linked both ways from `head` to `tail`, and `size` counts them. -/
structure Represents (l : XsanList α) (xs : List (ℕ × α)) : Prop where
  nodup : (xs.map Prod.fst).Nodup
  size_eq : l.size = xs.length
  head_eq : l.head = firstAddr xs none
  tail_eq : l.tail = lastAddr none xs
  chain : Chain l.heap none xs none
  owned : ∀ p, (l.heap p).isSome → p ∈ xs.map Prod.fst

theorem represents_create : Represents (xsanListCreate : XsanList α) [] where
  nodup := List.nodup_nil
  size_eq := rfl
  head_eq := rfl
  tail_eq := rfl
  chain := trivial
  owned := fun _ h => by simp [xsanListCreate] at h

/-- The call `op` from `l`, which stands for `xs`, returns what `absStep`
returns and leaves a list standing for the sequence `absStep` gives. -/
def StepMeets (l : XsanList α) (xs : List (ℕ × α)) (block : Option ℕ) (op : ListOp α) : Prop :=
  ∃ l', listStep l block op = some (l', (absStep xs block op).2) ∧
    Represents l' (absStep xs block op).1

/-! ## Facts about a represented list -/

theorem not_mem_of_nodup_middle {ys zs : List (ℕ × α)} {p : ℕ} {v : α}
    (h : ((ys ++ (p, v) :: zs).map Prod.fst).Nodup) :
    p ∉ ys.map Prod.fst ∧ p ∉ zs.map Prod.fst := by
  simp only [List.map_append, List.map_cons] at h
  rw [List.nodup_middle, List.nodup_cons, List.mem_append, not_or] at h
  exact h.1

theorem insertIdx_append_length {β : Type} (ys zs : List β) (i : ℕ) (x : β) :
    (ys ++ zs).insertIdx (ys.length + i) x = ys ++ zs.insertIdx i x := by
  induction ys with
  | nil => simp
  | cons y ys ih =>
    rw [List.cons_append, List.length_cons, Nat.add_right_comm, List.insertIdx_succ_cons, ih]
    rfl

theorem nodeIndex_middle {ys zs : List (ℕ × α)} {n : ℕ} {w : α} (hn : n ∉ ys.map Prod.fst) :
    nodeIndex (ys ++ (n, w) :: zs) n = ys.length := by
  rw [nodeIndex, List.map_append, List.idxOf_append_of_notMem hn, List.length_map]
  simp

theorem exists_middle {xs : List (ℕ × α)} {n : ℕ} (hn : n ∈ xs.map Prod.fst) :
    ∃ ys w zs, xs = ys ++ (n, w) :: zs := by
  obtain ⟨⟨a, w⟩, hmem, rfl⟩ := List.mem_map.mp hn
  obtain ⟨ys, zs, rfl⟩ := List.append_of_mem hmem
  exact ⟨ys, w, zs, rfl⟩

section Represents

variable {l : XsanList α} {xs : List (ℕ × α)}

/-- A node with a predecessor is not the head. -/
theorem Represents.ne_head_of_pred {ys zs : List (ℕ × α)} {q n : ℕ} {u w : α}
    (hr : Represents l (ys ++ [(q, u)] ++ (n, w) :: zs)) : ¬some n = l.head := by
  obtain ⟨hnys, -⟩ := not_mem_of_nodup_middle hr.nodup
  rw [hr.head_eq, firstAddr_append, firstAddr_append]
  intro h
  cases ys with
  | nil => exact hnys (by simp [Option.some.inj h])
  | cons z ys =>
    obtain ⟨a, x⟩ := z
    exact hnys (by simp [Option.some.inj h])

/-- A node with a successor is not the tail. -/
theorem Represents.ne_tail_of_succ {ys zs : List (ℕ × α)} {n r : ℕ} {w y : α}
    (hr : Represents l (ys ++ (n, w) :: (r, y) :: zs)) : ¬some n = l.tail := by
  obtain ⟨-, hnzs⟩ := not_mem_of_nodup_middle hr.nodup
  rw [hr.tail_eq, lastAddr_append, lastAddr_cons, lastAddr_cons]
  intro h
  rcases lastAddr_eq_some h.symm with h' | h'
  · exact hnzs (List.mem_cons_of_mem _ h')
  · exact hnzs (by simp [Option.some.inj h'])

/-- The bookkeeping every inserting call shares: once the new chain and ends
are known, the rest of the invariant follows. -/
theorem represents_insert (hr : Represents l xs) {l' : XsanList α} {p : ℕ}
    (hp : p ∉ xs.map Prod.fst) {i : ℕ} (hi : i ≤ xs.length) (v : α)
    (hsize : l'.size = l.size + 1)
    (hhead : l'.head = firstAddr (xs.insertIdx i (p, v)) none)
    (htail : l'.tail = lastAddr none (xs.insertIdx i (p, v)))
    (hchain : Chain l'.heap none (xs.insertIdx i (p, v)) none)
    (hown : ∀ a, (l'.heap a).isSome → (l.heap a).isSome ∨ a = p) :
    Represents l' (xs.insertIdx i (p, v)) := by
  have hperm : List.Perm ((xs.insertIdx i (p, v)).map Prod.fst) (p :: xs.map Prod.fst) := by
    rw [List.map_insertIdx]
    exact List.perm_insertIdx _ _ (by simpa using hi)
  refine ⟨hperm.nodup_iff.mpr (List.nodup_cons.mpr ⟨hp, hr.nodup⟩), ?_, hhead, htail, hchain, ?_⟩
  · rw [hsize, hr.size_eq, List.length_insertIdx_of_le_length hi]
  · intro a ha
    rw [hperm.mem_iff]
    rcases hown a ha with h | rfl
    · exact List.mem_cons_of_mem _ (hr.owned a h)
    · exact List.mem_cons_self

/-- A failed allocation leaves the list as it was. -/
theorem insert_none_spec (hr : Represents l xs) (op : ListOp α)
    (hop : listStep l none op = some (l, .node none))
    (habs : absStep xs none op = (xs, .node none)) : StepMeets l xs none op := by
  refine ⟨l, ?_, ?_⟩ <;> rw [habs]
  · exact hop
  · exact hr

theorem append_spec (hr : Represents l xs) (v : α) {block : Option ℕ}
    (hv : ValidOp xs block (.append v)) : StepMeets l xs block (.append v) := by
  cases block with
  | none => exact insert_none_spec hr _ rfl rfl
  | some p =>
    have hp : p ∉ xs.map Prod.fst := hv
    simp only [StepMeets, listStep, absStep, absInsert, xsanListAppend, createNewNode,
      Option.map_some]
    rcases List.eq_nil_or_concat' xs with rfl | ⟨ys, ⟨t, w⟩, rfl⟩
    · -- into an empty list: the node is both ends
      have ht : l.tail = none := hr.tail_eq
      rw [ht]
      exact ⟨_, rfl, represents_insert hr hp (Nat.le_refl 0) v rfl rfl rfl (by simp)
        fun a ha => Heap.isSome_update ha⟩
    · -- after the tail `t`: relink `t` forward and the new node back
      have ht : l.tail = some t := by rw [hr.tail_eq]; simp
      have htys : t ∉ ys.map Prod.fst := (not_mem_of_nodup_middle hr.nodup).1
      have hpt : p ≠ t := fun h => hp (by simp [h])
      rw [ht]
      refine ⟨_, rfl, represents_insert hr hp le_rfl v rfl ?_ ?_ ?_ ?_⟩
      · rw [hr.head_eq, List.insertIdx_length_self]
        simp [firstAddr_append]
      · rw [List.insertIdx_length_self, lastAddr_append, lastAddr_singleton]
      · rw [List.insertIdx_length_self, chain_append]
        refine ⟨chain_setPrev_of_not_mem (chain_setNext_last
          (chain_update_of_not_mem hr.chain hp _) htys (some p)) hp (some t), ?_⟩
        simp [Heap.setNext_ne _ _ hpt]
      · intro a ha
        simp only [Heap.isSome_setPrev, Heap.isSome_setNext] at ha
        exact Heap.isSome_update ha

theorem prepend_spec (hr : Represents l xs) (v : α) {block : Option ℕ}
    (hv : ValidOp xs block (.prepend v)) : StepMeets l xs block (.prepend v) := by
  cases block with
  | none => exact insert_none_spec hr _ rfl rfl
  | some p =>
    have hp : p ∉ xs.map Prod.fst := hv
    simp only [StepMeets, listStep, absStep, absInsert, xsanListPrepend, createNewNode,
      Option.map_some]
    cases xs with
    | nil =>
      have hh : l.head = none := hr.head_eq
      rw [hh]
      exact ⟨_, rfl, represents_insert hr hp (Nat.le_refl 0) v rfl rfl rfl (by simp)
        fun a ha => Heap.isSome_update ha⟩
    | cons x zs =>
      -- before the head `hd`: relink `hd` back and the new node forward
      obtain ⟨hd, w⟩ := x
      have hh : l.head = some hd := hr.head_eq
      have hnd : (([] ++ (hd, w) :: zs).map Prod.fst).Nodup := hr.nodup
      have hdzs : hd ∉ zs.map Prod.fst := (not_mem_of_nodup_middle hnd).2
      have hphd : p ≠ hd := fun h => hp (by simp [h])
      rw [hh]
      refine ⟨_, rfl, represents_insert hr hp (Nat.zero_le _) v rfl rfl ?_ ?_ ?_⟩
      · rw [List.insertIdx_zero, lastAddr_cons, hr.tail_eq, lastAddr_cons, lastAddr_cons]
      · rw [List.insertIdx_zero, chain_cons]
        refine ⟨by simp [Heap.setPrev_ne _ _ hphd], ?_⟩
        exact chain_setNext_of_not_mem (chain_setPrev_first
          (chain_update_of_not_mem hr.chain hp _) hdzs (some p)) hp (some hd)
      · intro a ha
        simp only [Heap.isSome_setPrev, Heap.isSome_setNext] at ha
        exact Heap.isSome_update ha

theorem insertAfter_spec (hr : Represents l xs) (n : ℕ) (v : α) {block : Option ℕ}
    (hv : ValidOp xs block (.insertAfter n v)) : StepMeets l xs block (.insertAfter n v) := by
  obtain ⟨hn, hfresh⟩ := hv
  obtain ⟨ys, w, zs, rfl⟩ := exists_middle hn
  obtain ⟨hnys, hnzs⟩ := not_mem_of_nodup_middle hr.nodup
  have hidx : nodeIndex (ys ++ (n, w) :: zs) n = ys.length := nodeIndex_middle hnys
  cases zs with
  | nil =>
    -- `n` is the tail, and the code appends
    have ht : l.tail = some n := by rw [hr.tail_eq]; simp
    have habs : absStep (ys ++ [(n, w)]) block (.insertAfter n v) =
        absStep (ys ++ [(n, w)]) block (.append v) := by
      simp only [absStep, hidx, List.length_append, List.length_singleton]
    obtain ⟨l', hstep, hl'⟩ := append_spec hr v hfresh
    refine ⟨l', ?_, habs ▸ hl'⟩
    rw [habs, ← hstep]
    simp only [listStep, xsanListInsertAfter, ht, if_true]
  | cons y zs =>
    obtain ⟨q, u⟩ := y
    have hnd : (((ys ++ [(n, w)]) ++ (q, u) :: zs).map Prod.fst).Nodup := by simpa using hr.nodup
    obtain ⟨hqys, hqzs⟩ := not_mem_of_nodup_middle hnd
    have hnq : n ≠ q := fun h => hnzs (by simp [h])
    have ht : ¬some n = l.tail := hr.ne_tail_of_succ
    cases block with
    | none => exact insert_none_spec hr _ (by simp [listStep, xsanListInsertAfter, ht, createNewNode]) rfl
    | some p =>
      have hp : p ∉ (ys ++ (n, w) :: (q, u) :: zs).map Prod.fst := hfresh
      have hpn : p ≠ n := fun h => hp (by simp [h])
      have hpq : p ≠ q := fun h => hp (by simp [h])
      obtain ⟨-, hncell, hqcell, -⟩ := (chain_middle _ _ _ ys _ n w).mp hr.chain
      simp only [StepMeets, listStep, absStep, absInsert, xsanListInsertAfter, if_neg ht,
        createNewNode, Option.map_some, hidx, Heap.next_setPrev, Heap.next_setNext_ne _ _ hpn.symm,
        Heap.next_update_ne _ _ hpn.symm, Heap.next_of_eq hncell, firstAddr_cons]
      have hins : (ys ++ (n, w) :: (q, u) :: zs).insertIdx (ys.length + 1) (p, v) =
          ys ++ (n, w) :: (p, v) :: (q, u) :: zs := by
        rw [insertIdx_append_length, List.insertIdx_succ_cons, List.insertIdx_zero]
      refine ⟨_, rfl, represents_insert hr hp (by simp) v rfl ?_ ?_ ?_ ?_⟩
      · rw [hr.head_eq, hins, firstAddr_append, firstAddr_append]
        rfl
      · rw [hr.tail_eq, hins]
        simp [lastAddr_cons]
      · rw [hins]
        refine chain_insert_between hr.chain hr.nodup hp ?_ ?_ ?_ ?_
        · intro c hcn hcq hcp
          simp [Heap.setNext_ne _ _ hcn, Heap.setPrev_ne _ _ hcq, Heap.setPrev_ne _ _ hcp,
            Heap.setNext_ne _ _ hcp, Function.update_of_ne hcp]
        · simp [hncell, Heap.setPrev_ne _ _ hnq, Heap.setPrev_ne _ _ hpn.symm,
            Heap.setNext_ne _ _ hpn.symm, Function.update_of_ne hpn.symm]
        · simp [Heap.setNext_ne _ _ hpn, Heap.setPrev_ne _ _ hpq]
        · simp [hqcell, Heap.setNext_ne _ _ hnq.symm, Heap.setPrev_ne _ _ hpq.symm,
            Heap.setNext_ne _ _ hpq.symm, Function.update_of_ne hpq.symm]
      · intro a ha
        simp only [Heap.isSome_setPrev, Heap.isSome_setNext] at ha
        exact Heap.isSome_update ha

theorem insertBefore_spec (hr : Represents l xs) (n : ℕ) (v : α) {block : Option ℕ}
    (hv : ValidOp xs block (.insertBefore n v)) : StepMeets l xs block (.insertBefore n v) := by
  obtain ⟨hn, hfresh⟩ := hv
  obtain ⟨ys, w, zs, rfl⟩ := exists_middle hn
  obtain ⟨hnys, hnzs⟩ := not_mem_of_nodup_middle hr.nodup
  have hidx : nodeIndex (ys ++ (n, w) :: zs) n = ys.length := nodeIndex_middle hnys
  rcases List.eq_nil_or_concat' ys with rfl | ⟨ys, ⟨q, u⟩, rfl⟩
  · -- `n` is the head, and the code prepends
    have hh : l.head = some n := hr.head_eq
    have habs : absStep ([] ++ (n, w) :: zs) block (.insertBefore n v) =
        absStep ([] ++ (n, w) :: zs) block (.prepend v) := by
      simp only [absStep, hidx, List.length_nil]
    obtain ⟨l', hstep, hl'⟩ := prepend_spec hr v hfresh
    refine ⟨l', ?_, habs ▸ hl'⟩
    rw [habs, ← hstep]
    simp only [listStep, xsanListInsertBefore, hh, if_true]
  · have hnd : ((ys ++ (q, u) :: (n, w) :: zs).map Prod.fst).Nodup := by simpa using hr.nodup
    obtain ⟨hqys, hqzs⟩ := not_mem_of_nodup_middle hnd
    have hnq : n ≠ q := fun h => hqzs (by simp [h])
    have hh : ¬some n = l.head := hr.ne_head_of_pred
    cases block with
    | none => exact insert_none_spec hr _ (by simp [listStep, xsanListInsertBefore, hh, createNewNode]) rfl
    | some p =>
      have hp : p ∉ (ys ++ (q, u) :: (n, w) :: zs).map Prod.fst := by
        have h : p ∉ (ys ++ [(q, u)] ++ (n, w) :: zs).map Prod.fst := hfresh
        simpa using h
      have hpn : p ≠ n := fun h => hp (by simp [h])
      have hpq : p ≠ q := fun h => hp (by simp [h])
      have hchain : Chain l.heap none (ys ++ (q, u) :: (n, w) :: zs) none := by simpa using hr.chain
      obtain ⟨-, hqcell, hncell, -⟩ := (chain_middle _ _ _ ys _ q u).mp hchain
      simp only [StepMeets, listStep, absStep, absInsert, xsanListInsertBefore, if_neg hh,
        createNewNode, Option.map_some, hidx, Heap.prev_setNext, Heap.prev_setPrev_ne _ _ hpn.symm,
        Heap.prev_update_ne _ _ hpn.symm, Heap.prev_of_eq hncell]
      have hins : (ys ++ [(q, u)] ++ (n, w) :: zs).insertIdx (ys ++ [(q, u)]).length (p, v) =
          ys ++ (q, u) :: (p, v) :: (n, w) :: zs := by
        rw [← Nat.add_zero (ys ++ [(q, u)]).length, insertIdx_append_length, List.insertIdx_zero]
        simp
      have hsame : ys ++ [(q, u)] ++ (n, w) :: zs = ys ++ (q, u) :: (n, w) :: zs := by simp
      refine ⟨_, rfl, represents_insert hr hfresh (by simp) v rfl ?_ ?_ ?_ ?_⟩
      · rw [hr.head_eq, hins, hsame, firstAddr_append, firstAddr_append]
        rfl
      · rw [hr.tail_eq, hins, hsame]
        simp [lastAddr_cons]
      · rw [hins]
        refine chain_insert_between hchain hnd hp ?_ ?_ ?_ ?_
        · intro c hcq hcn hcp
          simp [Heap.setNext_ne _ _ hcq, Heap.setPrev_ne _ _ hcn, Heap.setPrev_ne _ _ hcp,
            Heap.setNext_ne _ _ hcp, Function.update_of_ne hcp]
        · simp [hqcell, Heap.setPrev_ne _ _ hnq.symm, Heap.setNext_ne _ _ hpq.symm,
            Heap.setPrev_ne _ _ hpq.symm, Function.update_of_ne hpq.symm]
        · simp [Heap.setPrev_ne _ _ hpn, Heap.setNext_ne _ _ hpq]
        · simp [hncell, Heap.setNext_ne _ _ hnq, Heap.setNext_ne _ _ hpn.symm,
            Heap.setPrev_ne _ _ hpn.symm, Function.update_of_ne hpn.symm]
      · intro a ha
        simp only [Heap.isSome_setPrev, Heap.isSome_setNext] at ha
        exact Heap.isSome_update ha

/-- The bookkeeping of a removal: once the chain without `p` and the new ends
are known, the rest of the invariant follows. -/
theorem represents_remove {ys zs : List (ℕ × α)} {p : ℕ} {v : α}
    (hr : Represents l (ys ++ (p, v) :: zs)) {l' : XsanList α} (hsize : l'.size = l.size - 1)
    (hhead : l'.head = firstAddr (ys ++ zs) none) (htail : l'.tail = lastAddr none (ys ++ zs))
    (hchain : Chain l'.heap none (ys ++ zs) none)
    (hown : ∀ a, (l'.heap a).isSome → (l.heap a).isSome ∧ a ≠ p) : Represents l' (ys ++ zs) := by
  have hsub : List.Sublist ((ys ++ zs).map Prod.fst) ((ys ++ (p, v) :: zs).map Prod.fst) :=
    ((List.sublist_cons_self (p, v) zs).append_left ys).map Prod.fst
  refine ⟨hr.nodup.sublist hsub, ?_, hhead, htail, hchain, ?_⟩
  · rw [hsize, hr.size_eq]
    simp
  · intro a ha
    obtain ⟨hsome, hap⟩ := hown a ha
    exact mem_addrs_of_ne_middle (hr.owned a hsome) hap

theorem removeNode_spec (hr : Represents l xs) (n : ℕ) {block : Option ℕ}
    (hv : ValidOp xs block (.removeNode n)) : StepMeets l xs block (.removeNode n) := by
  obtain ⟨ys, w, zs, rfl⟩ := exists_middle hv
  obtain ⟨hnys, hnzs⟩ := not_mem_of_nodup_middle hr.nodup
  have hidx : nodeIndex (ys ++ (n, w) :: zs) n = ys.length := nodeIndex_middle hnys
  have herase : (ys ++ (n, w) :: zs).eraseIdx ys.length = ys ++ zs := by
    rw [List.eraseIdx_append_of_length_le (le_refl _), Nat.sub_self, List.eraseIdx_zero]
    rfl
  obtain ⟨hys, hcell, hzs⟩ := (chain_middle _ _ _ ys zs n w).mp hr.chain
  have hsize : l.size - 1 = ys.length + zs.length := by rw [hr.size_eq]; simp
  simp only [StepMeets, listStep, absStep, xsanListRemoveNode, hidx, herase, Heap.prev_of_eq hcell,
    Heap.next_of_eq hcell, hsize]
  rcases List.eq_nil_or_concat' ys with rfl | ⟨ys, ⟨q, u⟩, rfl⟩
  · cases zs with
    | nil =>
      -- the only node: the list is left empty
      simp only [lastAddr_nil, firstAddr_nil, List.length_nil, Nat.add_zero, if_true,
        Heap.next_of_eq hcell, Heap.prev_of_eq hcell]
      refine ⟨_, rfl, represents_remove hr (by rw [hsize]; rfl) rfl rfl trivial ?_⟩
      intro a ha
      exact Heap.isSome_update_none (fun b => rfl) ha
    | cons z zs =>
      -- the head of a longer list: its successor becomes the head
      obtain ⟨r, y⟩ := z
      have hnd : (([] ++ (r, y) :: zs).map Prod.fst).Nodup := (List.nodup_cons.mp hr.nodup).2
      have hrzs : r ∉ zs.map Prod.fst := (not_mem_of_nodup_middle hnd).2
      have hh : l.head = some n := hr.head_eq
      have ht : ¬some n = l.tail := hr.ne_tail_of_succ
      simp only [lastAddr_nil, firstAddr_cons, Heap.next_of_eq hcell, Heap.prev_of_eq hcell,
        Heap.next_setPrev, hh, ht, decide_true, decide_false, Bool.false_eq_true, if_true,
        if_false, List.length_nil, List.length_cons, Nat.zero_add, Nat.succ_ne_zero]
      refine ⟨_, rfl, represents_remove hr (by rw [hsize]; simp) rfl ?_ ?_ ?_⟩
      · rw [hr.tail_eq]
        simp [lastAddr_cons]
      · exact chain_update_of_not_mem (chain_setPrev_first hzs hrzs none) hnzs none
      · intro a ha
        exact Heap.isSome_update_none (fun b => Heap.isSome_setPrev _ _ _ b) ha
  · cases zs with
    | nil =>
      -- the tail of a longer list: its predecessor becomes the tail
      have hnd : ((ys ++ (q, u) :: [(n, w)]).map Prod.fst).Nodup := by simpa using hr.nodup
      have hqys : q ∉ ys.map Prod.fst := (not_mem_of_nodup_middle hnd).1
      have hnq : n ≠ q := fun h => (not_mem_of_nodup_middle hnd).2 (by simp [h])
      have hh : ¬some n = l.head := hr.ne_head_of_pred
      have ht : l.tail = some n := by rw [hr.tail_eq, lastAddr_append, lastAddr_singleton]
      simp only [lastAddr_append, lastAddr_singleton, firstAddr_nil, Heap.next_of_eq hcell,
        Heap.prev_of_eq hcell, Heap.next_setNext_ne _ _ hnq, Heap.prev_setNext, hh, ht,
        decide_true, decide_false, Bool.false_eq_true, if_true, if_false]
      rw [if_neg (by simp)]
      refine ⟨_, rfl, represents_remove hr (by rw [hsize]) ?_ ?_ ?_ ?_⟩
      · rw [hr.head_eq, List.append_nil, firstAddr_append, firstAddr_append, firstAddr_append]
        rfl
      · simp
      · rw [List.append_nil]
        exact chain_update_of_not_mem (chain_setNext_last hys hqys none) hnys none
      · intro a ha
        exact Heap.isSome_update_none (fun b => Heap.isSome_setNext _ _ _ b) ha
    | cons z zs =>
      -- an inner node: its neighbours are linked to each other
      obtain ⟨r, y⟩ := z
      have hnd : ((ys ++ (q, u) :: (n, w) :: (r, y) :: zs).map Prod.fst).Nodup := by
        simpa using hr.nodup
      have hnd' : (((ys ++ [(q, u), (n, w)]) ++ (r, y) :: zs).map Prod.fst).Nodup := by
        simpa using hr.nodup
      obtain ⟨hqys, hqzs⟩ := not_mem_of_nodup_middle hnd
      obtain ⟨hrys, hrzs⟩ := not_mem_of_nodup_middle hnd'
      have hnq : n ≠ q := fun h => hqzs (by simp [h])
      have hnr : n ≠ r := fun h => hnzs (by simp [h])
      have hqr : q ≠ r := fun h => hqzs (by simp [h])
      have hh : ¬some n = l.head := hr.ne_head_of_pred
      have ht : ¬some n = l.tail := hr.ne_tail_of_succ
      simp only [lastAddr_append, lastAddr_singleton, firstAddr_cons, Heap.next_of_eq hcell,
        Heap.prev_of_eq hcell, Heap.next_setNext_ne _ _ hnq, Heap.prev_setNext, hh, ht,
        decide_false, Bool.false_eq_true, if_false]
      rw [if_neg (by simp)]
      have hsplit : ys ++ [(q, u)] ++ (r, y) :: zs = (ys ++ [(q, u)]) ++ (r, y) :: zs := rfl
      refine ⟨_, rfl, represents_remove hr (by rw [hsize]) ?_ ?_ ?_ ?_⟩
      · rw [hr.head_eq, firstAddr_append, firstAddr_append, firstAddr_append, firstAddr_append]
        rfl
      · rw [hr.tail_eq]
        simp [lastAddr_cons]
      · rw [chain_append]
        refine ⟨?_, ?_⟩
        · have h1 := chain_setNext_last hys hqys (some r)
          have hrq : r ∉ (ys ++ [(q, u)]).map Prod.fst := by
            intro h
            apply hrys
            simp only [List.map_append, List.map_cons, List.mem_append, List.mem_cons] at h ⊢
            tauto
          exact chain_update_of_not_mem (chain_setPrev_of_not_mem h1 hrq _) (by simpa using hnys) none
        · rw [lastAddr_append, lastAddr_singleton]
          have h1 := chain_setNext_of_not_mem hzs (fun h => hqzs (List.mem_cons_of_mem _ h)) (some r)
          exact chain_update_of_not_mem (chain_setPrev_first h1 hrzs (some q)) hnzs none
      · intro a ha
        exact Heap.isSome_update_none
          (fun b => (Heap.isSome_setPrev _ _ _ b).trans (Heap.isSome_setNext _ _ _ b)) ha

theorem popFront_spec (hr : Represents l xs) (block : Option ℕ) :
    StepMeets l xs block .popFront := by
  simp only [StepMeets, listStep, absStep, xsanListPopFront]
  cases xs with
  | nil =>
    have hh : l.head = none := hr.head_eq
    rw [hh]
    exact ⟨l, rfl, hr⟩
  | cons x zs =>
    obtain ⟨p, v⟩ := x
    have hh : l.head = some p := hr.head_eq
    have hnd : (([] ++ (p, v) :: zs).map Prod.fst).Nodup := hr.nodup
    have hr' : Represents l ([] ++ (p, v) :: zs) := hr
    obtain ⟨hpzs, hzs⟩ := hr.chain
    have hsize : l.size - 1 = zs.length := by rw [hr.size_eq]; simp
    simp only [hh, hpzs, Option.map_some, Heap.next_of_eq hpzs, List.tail_cons, List.head?_cons]
    cases zs with
    | nil =>
      -- the last node: both ends become `NULL`
      refine ⟨_, rfl, represents_remove hr' (by rw [hsize]) rfl rfl trivial ?_⟩
      intro a ha
      exact Heap.isSome_update_none (fun b => rfl) ha
    | cons z zs =>
      -- the next node becomes the head
      obtain ⟨r, y⟩ := z
      have hnd' : (([] ++ (r, y) :: zs).map Prod.fst).Nodup := (List.nodup_cons.mp hnd).2
      have hrzs : r ∉ zs.map Prod.fst := (not_mem_of_nodup_middle hnd').2
      refine ⟨_, rfl, represents_remove hr' (by rw [hsize]) rfl ?_ ?_ ?_⟩
      · rw [hr.tail_eq, lastAddr_cons]
        rfl
      · exact chain_update_of_not_mem (chain_setPrev_first hzs hrzs none)
          (not_mem_of_nodup_middle hnd).2 none
      · intro a ha
        exact Heap.isSome_update_none (fun b => Heap.isSome_setPrev _ _ _ b) ha

theorem popBack_spec (hr : Represents l xs) (block : Option ℕ) :
    StepMeets l xs block .popBack := by
  simp only [StepMeets, listStep, absStep, xsanListPopBack]
  rcases List.eq_nil_or_concat' xs with rfl | ⟨ys, ⟨p, v⟩, rfl⟩
  · have ht : l.tail = none := hr.tail_eq
    rw [ht]
    exact ⟨l, rfl, hr⟩
  · have ht : l.tail = some p := by rw [hr.tail_eq, lastAddr_append, lastAddr_singleton]
    have hr' : Represents l (ys ++ (p, v) :: []) := hr
    obtain ⟨hpys, -⟩ := not_mem_of_nodup_middle hr'.nodup
    obtain ⟨hys, hcell, -⟩ := (chain_middle _ _ _ ys [] p v).mp hr'.chain
    have hsize : l.size - 1 = ys.length + ([] : List (ℕ × α)).length := by rw [hr.size_eq]; simp
    simp only [ht, hcell, Option.map_some, Heap.prev_of_eq hcell, List.dropLast_concat,
      List.getLast?_concat]
    rcases List.eq_nil_or_concat' ys with rfl | ⟨ys, ⟨q, u⟩, rfl⟩
    · -- the last node: both ends become `NULL`
      refine ⟨_, rfl, represents_remove hr' (by rw [hsize]) rfl rfl trivial ?_⟩
      intro a ha
      exact Heap.isSome_update_none (fun b => rfl) ha
    · -- the previous node becomes the tail
      have hq : q ∉ ys.map Prod.fst := (not_mem_of_nodup_middle
        (show ((ys ++ (q, u) :: [(p, v)]).map Prod.fst).Nodup by simpa using hr.nodup)).1
      simp only [lastAddr_append, lastAddr_singleton]
      rw [← List.append_nil (ys ++ [(q, u)])]
      refine ⟨_, rfl, represents_remove hr' (by rw [hsize]) ?_ ?_ ?_ ?_⟩
      · rw [hr.head_eq, List.append_nil, firstAddr_append, firstAddr_append, firstAddr_append]
        rfl
      · simp
      · rw [List.append_nil]
        exact chain_update_of_not_mem (chain_setNext_last hys hq none) hpys none
      · intro a ha
        exact Heap.isSome_update_none (fun b => Heap.isSome_setNext _ _ _ b) ha

theorem clearLoop_none (fuel : ℕ) (h : Heap α) : clearLoop fuel h none = some h := by
  cases fuel <;> rfl

/-- The loop of `xsan_list_clear` from the first node of a chain ending in
`NULL` frees exactly the chain's nodes, given fuel for as many. -/
theorem clearLoop_chain {h : Heap α} {pr : Option ℕ} {xs : List (ℕ × α)}
    (hc : Chain h pr xs none) (hnd : (xs.map Prod.fst).Nodup) (k : ℕ) :
    clearLoop (xs.length + k) h (firstAddr xs none) =
      some fun a => if a ∈ xs.map Prod.fst then none else h a := by
  induction xs generalizing h pr with
  | nil => simp [clearLoop_none]
  | cons x xs ih =>
    obtain ⟨p, v⟩ := x
    obtain ⟨hp, hrest⟩ := hc
    obtain ⟨hpxs, hnd'⟩ := List.nodup_cons.mp hnd
    rw [List.length_cons, Nat.add_right_comm, firstAddr_cons, clearLoop, Heap.next_of_eq hp,
      ih (chain_update_of_not_mem hrest hpxs none) hnd']
    -- freeing `p` first and the rest after frees the whole chain
    congr 1
    funext a
    by_cases hap : a = p
    · subst hap
      simp [hpxs]
    · by_cases hmem : a ∈ xs.map Prod.fst <;> simp [hmem, hap]

theorem clear_spec (hr : Represents l xs) (block : Option ℕ) : StepMeets l xs block .clear := by
  have hloop := clearLoop_chain hr.chain hr.nodup 0
  rw [Nat.add_zero, ← hr.size_eq, ← hr.head_eq] at hloop
  refine ⟨⟨fun a => if a ∈ xs.map Prod.fst then none else l.heap a, none, none, 0⟩,
    by simp [listStep, absStep, xsanListClear, hloop], List.nodup_nil, rfl, rfl, rfl, trivial,
    fun a ha => ?_⟩
  -- what is still allocated was allocated before and is not a node of the list
  by_cases hmem : a ∈ xs.map Prod.fst
  · simp [hmem] at ha
  · simp only [hmem, if_false] at ha
    exact absurd (hr.owned a ha) hmem

/-- Every call the interface allows meets `absStep`. -/
theorem step_spec (hr : Represents l xs) {block : Option ℕ} {op : ListOp α}
    (hv : ValidOp xs block op) : StepMeets l xs block op := by
  cases op with
  | append v => exact append_spec hr v hv
  | prepend v => exact prepend_spec hr v hv
  | insertAfter n v => exact insertAfter_spec hr n v hv
  | insertBefore n v => exact insertBefore_spec hr n v hv
  | removeNode n => exact removeNode_spec hr n hv
  | popFront => exact popFront_spec hr block
  | popBack => exact popBack_spec hr block
  | clear => exact clear_spec hr block

theorem Represents.prev_head (hr : Represents l xs) {p : ℕ} (hp : l.head = some p) :
    l.heap.prev p = none := by
  rw [hr.head_eq] at hp
  cases xs with
  | nil => cases hp
  | cons x xs =>
    obtain ⟨a, v⟩ := x
    cases hp
    exact Heap.prev_of_eq hr.chain.1

theorem Represents.next_tail (hr : Represents l xs) {p : ℕ} (hp : l.tail = some p) :
    l.heap.next p = none := by
  rw [hr.tail_eq] at hp
  rcases List.eq_nil_or_concat' xs with rfl | ⟨ys, ⟨a, v⟩, rfl⟩
  · cases hp
  · rw [lastAddr_append, lastAddr_singleton] at hp
    cases hp
    exact Heap.next_of_eq ((chain_middle _ _ _ ys [] p v).mp hr.chain).2.1

theorem Represents.walkNext_head (hr : Represents l xs) :
    walkNext l.heap l.size l.head = some xs := by
  have h := walkNext_chain hr.chain 0
  rwa [Nat.add_zero, ← hr.size_eq, ← hr.head_eq] at h

theorem Represents.walkPrev_tail (hr : Represents l xs) :
    walkPrev l.heap l.size l.tail = some xs.reverse := by
  have h := walkPrev_chain hr.chain 0
  rwa [Nat.add_zero, ← hr.size_eq, ← hr.tail_eq] at h

theorem Represents.ends_eq_none_iff (hr : Represents l xs) :
    (l.head = none ∧ l.tail = none) ↔ l.size = 0 := by
  rw [hr.head_eq, hr.tail_eq, hr.size_eq, List.length_eq_zero_iff]
  rcases List.eq_nil_or_concat' xs with rfl | ⟨ys, ⟨a, v⟩, rfl⟩
  · simp
  · simp

end Represents

/-! ## Runs -/

/-- A run of calls, each with the block its allocation returned; `none`
once a call gets stuck, which only the bounded loop of `clear` can. -/
def listRun (l : XsanList α) : List (ListOp α × Option ℕ) → Option (XsanList α × List (ListResult α))
  | [] => some (l, [])
  | (op, block) :: ops =>
    match listStep l block op with
    | none => none
    | some (l', r) => (listRun l' ops).map fun lr => (lr.1, r :: lr.2)

/-- The same run on the sequence of nodes. -/
def absRun (xs : List (ℕ × α)) : List (ListOp α × Option ℕ) → List (ℕ × α) × List (ListResult α)
  | [] => (xs, [])
  | (op, block) :: ops =>
    let r := absStep xs block op
    let rest := absRun r.1 ops
    (rest.1, r.2 :: rest.2)

/-- Every call of the run is allowed where it is made. -/
def ValidRun : List (ℕ × α) → List (ListOp α × Option ℕ) → Prop
  | _, [] => True
  | xs, (op, block) :: ops => ValidOp xs block op ∧ ValidRun (absStep xs block op).1 ops

instance decValidRun : (xs : List (ℕ × α)) → (ops : List (ListOp α × Option ℕ)) →
    Decidable (ValidRun xs ops)
  | _, [] => isTrue trivial
  | xs, (op, block) :: ops =>
    have := decValidRun (absStep xs block op).1 ops
    inferInstanceAs (Decidable (ValidOp xs block op ∧ ValidRun (absStep xs block op).1 ops))

/-- The shape the list's pointers keep: `head`'s `prev` and `tail`'s `next`
are `NULL`; for every node, the `prev` of its `next` is itself; the forward
walk from `head` meets exactly `size` nodes, `xs`, and ends at `tail`; both
ends are `NULL` exactly when `size` is 0; and the backward walk from `tail`
meets the same nodes in reverse. -/
structure WellFormed (l : XsanList α) (xs : List (ℕ × α)) : Prop where
  prev_head : ∀ p, l.head = some p → l.heap.prev p = none
  next_tail : ∀ p, l.tail = some p → l.heap.next p = none
  prev_next : ∀ p q, p ∈ xs.map Prod.fst → l.heap.next p = some q → l.heap.prev q = some p
  walk_forward : walkNext l.heap l.size l.head = some xs
  walk_length : xs.length = l.size
  walk_ends : lastAddr none xs = l.tail
  ends_null : (l.head = none ∧ l.tail = none) ↔ l.size = 0
  walk_backward : walkPrev l.heap l.size l.tail = some xs.reverse

theorem Represents.wellFormed {l : XsanList α} {xs : List (ℕ × α)} (hr : Represents l xs) :
    WellFormed l xs where
  prev_head _ hp := hr.prev_head hp
  next_tail _ hp := hr.next_tail hp
  prev_next _ _ hp hq := chain_next_prev hr.chain hp hq
  walk_forward := hr.walkNext_head
  walk_length := hr.size_eq.symm
  walk_ends := hr.tail_eq.symm
  ends_null := hr.ends_eq_none_iff
  walk_backward := hr.walkPrev_tail

/-- The run lemma: over any allowed run the list keeps standing for the
sequence `absRun` computes, and every call returns what `absRun` says. -/
theorem listRun_represents {l : XsanList α} {xs : List (ℕ × α)} (hr : Represents l xs)
    {ops : List (ListOp α × Option ℕ)} (hv : ValidRun xs ops) :
    ∃ l', listRun l ops = some (l', (absRun xs ops).2) ∧ Represents l' (absRun xs ops).1 := by
  induction ops generalizing l xs with
  | nil => exact ⟨l, rfl, hr⟩
  | cons step ops ih =>
    obtain ⟨op, block⟩ := step
    obtain ⟨hvop, hvrest⟩ := hv
    obtain ⟨l₁, hstep, hr₁⟩ := step_spec hr hvop
    obtain ⟨l₂, hrun, hr₂⟩ := ih hr₁ hvrest
    refine ⟨l₂, ?_, hr₂⟩
    simp [listRun, absRun, hstep, hrun]

/-- Every run of calls the interface allows, from an empty list: each call
returns, with what the sequence model returns, and the list is well formed
and stands for the sequence the model computes. -/
theorem list_ops_refine_sequence (ops : List (ListOp α × Option ℕ)) (hv : ValidRun [] ops) :
    ∃ l, listRun xsanListCreate ops = some (l, (absRun [] ops).2) ∧
      WellFormed l (absRun [] ops).1 := by
  obtain ⟨l, hrun, hr⟩ := listRun_represents represents_create hv
  exact ⟨l, hrun, hr.wellFormed⟩

theorem list_ops_refine_sequence_mixed :
    ValidRun [] [(ListOp.append 10, some 1), (.append 30, some 2), (.insertAfter 1 20, some 3),
      (.popFront, none), (.removeNode 2, none), (.prepend 5, some 1), (.clear, none)] ∧
    ∃ l, listRun xsanListCreate [(ListOp.append 10, some 1), (.append 30, some 2),
        (.insertAfter 1 20, some 3), (.popFront, none), (.removeNode 2, none),
        (.prepend 5, some 1), (.clear, none)] =
      some (l, (absRun [] [(ListOp.append 10, some 1), (.append 30, some 2),
        (.insertAfter 1 20, some 3), (.popFront, none), (.removeNode 2, none),
        (.prepend 5, some 1), (.clear, none)]).2) ∧
      WellFormed l (absRun [] [(ListOp.append (10 : ℕ), some 1), (.append 30, some 2),
        (.insertAfter 1 20, some 3), (.popFront, none), (.removeNode 2, none),
        (.prepend 5, some 1), (.clear, none)]).1 :=
  ⟨by decide, list_ops_refine_sequence _ (by decide)⟩

end Xsan
