import Mathlib.Logic.Function.Basic
import Mathlib.Data.List.Basic
import Mathlib.Data.Option.Basic
import Mathlib.Data.List.Induction

/-!
# Doubly linked cells in a heap

A heap maps addresses to cells, each with a value and nullable `prev` and
`next` pointers (`none` is `NULL`). `Chain h pr xs nx` says that the cells at
the addresses of `xs`, in order, hold the values of `xs` and are linked both
ways, the first one's `prev` being `pr` and the last one's `next` being `nx`:
the usual list segment, read in both directions.

Results:
* `chain_append`, `chain_middle`: a chain splits at any point, or around any
  of its cells.
* `chain_frame`: a chain only reads the cells at its own addresses.
* `chain_setNext_last`, `chain_setPrev_first`: relinking an end cell moves
  the end of the chain and keeps the rest.
* `walkNext_chain`, `walkPrev_chain`: a chain ending in `NULL` is what the
  forward walk from its first cell returns, and a chain starting in `NULL`
  reversed is what the backward walk from its last cell returns, in exactly
  as many steps as it has cells.
* `chain_next_prev`: in a chain, the `prev` of the cell after `p` is `p`.
* `chain_cons_front`, `chain_unlink`: linking a cell in front of a chain, and
  unlinking any cell of it, give the chain with that cell added or removed.
-/

namespace DLinked

/-- A heap cell: a value and two nullable addresses. -/
structure Cell (α : Type) where
  value : α
  prev : Option ℕ
  next : Option ℕ
  deriving DecidableEq, Repr

/-- Memory: the cell at each address, `none` where nothing is allocated. -/
abbrev Heap (α : Type) := ℕ → Option (Cell α)

variable {α : Type}

namespace Heap

/-- `p->next = q`; a write through a dangling `p` changes nothing. -/
def setNext (h : Heap α) (p : ℕ) (q : Option ℕ) : Heap α :=
  Function.update h p ((h p).map fun c => { c with next := q })

/-- `p->prev = q`. -/
def setPrev (h : Heap α) (p : ℕ) (q : Option ℕ) : Heap α :=
  Function.update h p ((h p).map fun c => { c with prev := q })

/-- `p->next`, read as `NULL` through a dangling `p`. -/
def next (h : Heap α) (p : ℕ) : Option ℕ := (h p).bind Cell.next

/-- `p->prev`. -/
def prev (h : Heap α) (p : ℕ) : Option ℕ := (h p).bind Cell.prev

@[simp] theorem setNext_self (h : Heap α) (p : ℕ) (q : Option ℕ) :
    h.setNext p q p = (h p).map fun c => { c with next := q } := by
  simp [setNext]

@[simp] theorem setNext_ne (h : Heap α) {p a : ℕ} (q : Option ℕ) (hne : a ≠ p) :
    h.setNext p q a = h a := by
  simp [setNext, hne]

@[simp] theorem setPrev_self (h : Heap α) (p : ℕ) (q : Option ℕ) :
    h.setPrev p q p = (h p).map fun c => { c with prev := q } := by
  simp [setPrev]

@[simp] theorem setPrev_ne (h : Heap α) {p a : ℕ} (q : Option ℕ) (hne : a ≠ p) :
    h.setPrev p q a = h a := by
  simp [setPrev, hne]

@[simp] theorem isSome_setNext (h : Heap α) (p : ℕ) (q : Option ℕ) (a : ℕ) :
    (h.setNext p q a).isSome = (h a).isSome := by
  by_cases hap : a = p
  · subst hap; simp
  · simp [hap]

@[simp] theorem isSome_setPrev (h : Heap α) (p : ℕ) (q : Option ℕ) (a : ℕ) :
    (h.setPrev p q a).isSome = (h a).isSome := by
  by_cases hap : a = p
  · subst hap; simp
  · simp [hap]

@[simp] theorem next_setPrev (h : Heap α) (p : ℕ) (q : Option ℕ) (a : ℕ) :
    (h.setPrev p q).next a = h.next a := by
  by_cases hap : a = p
  · subst hap
    cases hc : h a <;> simp [next, hc]
  · simp [next, hap]

@[simp] theorem prev_setNext (h : Heap α) (p : ℕ) (q : Option ℕ) (a : ℕ) :
    (h.setNext p q).prev a = h.prev a := by
  by_cases hap : a = p
  · subst hap
    cases hc : h a <;> simp [prev, hc]
  · simp [prev, hap]

theorem next_setNext_ne (h : Heap α) {p a : ℕ} (q : Option ℕ) (hne : a ≠ p) :
    (h.setNext p q).next a = h.next a := by
  simp [next, hne]

theorem prev_setPrev_ne (h : Heap α) {p a : ℕ} (q : Option ℕ) (hne : a ≠ p) :
    (h.setPrev p q).prev a = h.prev a := by
  simp [prev, hne]

theorem next_update_ne (h : Heap α) {p a : ℕ} (c : Option (Cell α)) (hne : a ≠ p) :
    Heap.next (Function.update h p c) a = h.next a := by
  simp [next, hne]

theorem prev_update_ne (h : Heap α) {p a : ℕ} (c : Option (Cell α)) (hne : a ≠ p) :
    Heap.prev (Function.update h p c) a = h.prev a := by
  simp [prev, hne]

theorem isSome_update {h : Heap α} {p a : ℕ} {c : Option (Cell α)}
    (ha : (Function.update h p c a).isSome) : (h a).isSome ∨ a = p := by
  by_cases hap : a = p
  · exact Or.inr hap
  · rw [Function.update_of_ne hap] at ha
    exact Or.inl ha

theorem isSome_update_none {h h' : Heap α} {p a : ℕ} (hsame : ∀ b, (h' b).isSome = (h b).isSome)
    (ha : (Function.update h' p none a).isSome) : (h a).isSome ∧ a ≠ p := by
  by_cases hap : a = p
  · subst hap; simp at ha
  · rw [Function.update_of_ne hap, hsame] at ha
    exact ⟨ha, hap⟩

theorem next_of_eq {h : Heap α} {p : ℕ} {c : Cell α} (hp : h p = some c) : h.next p = c.next := by
  simp [next, hp]

theorem prev_of_eq {h : Heap α} {p : ℕ} {c : Cell α} (hp : h p = some c) : h.prev p = c.prev := by
  simp [prev, hp]

/-- Unlink the cell at `p` from its neighbours: `p->prev->next = p->next`
when there is a previous cell, then `p->next->prev = p->prev` when there is
a next one. The cell at `p` itself is left as it is. -/
def unlink (h : Heap α) (p : ℕ) : Heap α :=
  let h₁ := match h.prev p with
    | some q => h.setNext q (h.next p)
    | none => h
  match h₁.next p with
  | some r => h₁.setPrev r (h₁.prev p)
  | none => h₁

@[simp] theorem isSome_unlink (h : Heap α) (p a : ℕ) : (h.unlink p a).isSome = (h a).isSome := by
  unfold unlink
  cases h.prev p with
  | none =>
    dsimp only
    cases h.next p <;> simp
  | some q =>
    dsimp only
    cases (h.setNext q (h.next p)).next p <;> simp

/-- Unlinking `p` leaves the cell at `p` itself alone, when it is not its own
neighbour. -/
theorem unlink_self (h : Heap α) {p : ℕ} (hprev : h.prev p ≠ some p) (hnext : h.next p ≠ some p) :
    h.unlink p p = h p := by
  unfold unlink
  cases hq : h.prev p with
  | none =>
    dsimp only
    cases hr : h.next p with
    | none => rfl
    | some r => exact setPrev_ne _ _ fun e => hnext (e ▸ hr)
  | some q =>
    have hqp : p ≠ q := fun e => hprev (e ▸ hq)
    dsimp only
    rw [next_setNext_ne _ _ hqp]
    cases hr : h.next p with
    | none => exact setNext_ne _ _ hqp
    | some r =>
      dsimp only
      rw [setPrev_ne _ _ fun e : p = r => hnext (e ▸ hr), setNext_ne _ _ hqp]

end Heap

/-- The first address of `xs`, or `nx` when `xs` is empty. -/
def firstAddr (xs : List (ℕ × α)) (nx : Option ℕ) : Option ℕ :=
  match xs with
  | [] => nx
  | (p, _) :: _ => some p

/-- The last address of `xs`, or `pr` when `xs` is empty. -/
def lastAddr (pr : Option ℕ) (xs : List (ℕ × α)) : Option ℕ :=
  (xs.getLast?.map Prod.fst).or pr

@[simp] theorem firstAddr_nil (nx : Option ℕ) : firstAddr ([] : List (ℕ × α)) nx = nx := rfl

@[simp] theorem firstAddr_cons (p : ℕ) (v : α) (xs : List (ℕ × α)) (nx : Option ℕ) :
    firstAddr ((p, v) :: xs) nx = some p := rfl

@[simp] theorem lastAddr_nil (pr : Option ℕ) : lastAddr pr ([] : List (ℕ × α)) = pr := rfl

theorem lastAddr_eq_some {pr : Option ℕ} {xs : List (ℕ × α)} {a : ℕ} (h : lastAddr pr xs = some a) :
    a ∈ xs.map Prod.fst ∨ pr = some a := by
  unfold lastAddr at h
  cases hl : xs.getLast? with
  | none => exact Or.inr (by simpa [hl] using h)
  | some z =>
    rw [hl] at h
    obtain ⟨b, w⟩ := z
    simp only [Option.map_some, Option.some_or, Option.some.injEq] at h
    subst h
    exact Or.inl (List.mem_map.mpr ⟨(b, w), List.mem_of_getLast? hl, rfl⟩)

theorem firstAddr_append (xs ys : List (ℕ × α)) (nx : Option ℕ) :
    firstAddr (xs ++ ys) nx = firstAddr xs (firstAddr ys nx) := by
  cases xs with
  | nil => rfl
  | cons x xs => rfl

@[simp] theorem lastAddr_append (pr : Option ℕ) (xs ys : List (ℕ × α)) :
    lastAddr pr (xs ++ ys) = lastAddr (lastAddr pr xs) ys := by
  simp [lastAddr, Option.map_or, Option.or_assoc]

@[simp] theorem lastAddr_singleton (pr : Option ℕ) (p : ℕ) (v : α) :
    lastAddr pr [(p, v)] = some p := rfl

theorem lastAddr_cons (pr : Option ℕ) (p : ℕ) (v : α) (xs : List (ℕ × α)) :
    lastAddr pr ((p, v) :: xs) = lastAddr (some p) xs := by
  rw [← List.singleton_append, lastAddr_append, lastAddr_singleton]

/-! ## Chains -/

/-- The cells at the addresses of `xs` hold its values, each linked to its
neighbours; `pr` and `nx` are the pointers out of the two ends. -/
def Chain (h : Heap α) : Option ℕ → List (ℕ × α) → Option ℕ → Prop
  | _, [], _ => True
  | pr, (p, v) :: xs, nx => h p = some ⟨v, pr, firstAddr xs nx⟩ ∧ Chain h (some p) xs nx

@[simp] theorem chain_nil (h : Heap α) (pr nx : Option ℕ) : Chain h pr [] nx := trivial

@[simp] theorem chain_cons (h : Heap α) (pr nx : Option ℕ) (p : ℕ) (v : α) (xs : List (ℕ × α)) :
    Chain h pr ((p, v) :: xs) nx ↔ h p = some ⟨v, pr, firstAddr xs nx⟩ ∧ Chain h (some p) xs nx :=
  Iff.rfl

theorem chain_append (h : Heap α) (pr nx : Option ℕ) (xs ys : List (ℕ × α)) :
    Chain h pr (xs ++ ys) nx ↔ Chain h pr xs (firstAddr ys nx) ∧ Chain h (lastAddr pr xs) ys nx := by
  induction xs generalizing pr with
  | nil => simp
  | cons x xs ih =>
    obtain ⟨p, v⟩ := x
    rw [List.cons_append, chain_cons, chain_cons, ih, firstAddr_append, lastAddr_cons]
    exact and_assoc.symm

/-- A chain around one of its cells. -/
theorem chain_middle (h : Heap α) (pr nx : Option ℕ) (xs ys : List (ℕ × α)) (p : ℕ) (v : α) :
    Chain h pr (xs ++ (p, v) :: ys) nx ↔
      Chain h pr xs (some p) ∧ h p = some ⟨v, lastAddr pr xs, firstAddr ys nx⟩ ∧
        Chain h (some p) ys nx := by
  rw [chain_append, firstAddr_cons, chain_cons]

/-- A chain only reads the cells at its own addresses. -/
theorem chain_frame {h h' : Heap α} {pr nx : Option ℕ} {xs : List (ℕ × α)}
    (hc : Chain h pr xs nx) (hsame : ∀ q ∈ xs.map Prod.fst, h' q = h q) : Chain h' pr xs nx := by
  induction xs generalizing pr with
  | nil => trivial
  | cons x xs ih =>
    obtain ⟨p, v⟩ := x
    obtain ⟨hp, hrest⟩ := hc
    refine ⟨(hsame p (by simp)).trans hp, ih hrest fun q hq => hsame q ?_⟩
    exact List.mem_cons_of_mem _ hq

/-- Following `next` from a cell of a chain that ends in `NULL`, and then
`prev`, comes back. -/
theorem chain_next_prev {h : Heap α} {pr : Option ℕ} {xs : List (ℕ × α)}
    (hc : Chain h pr xs none) {p q : ℕ} (hp : p ∈ xs.map Prod.fst)
    (hnext : h.next p = some q) : h.prev q = some p := by
  induction xs generalizing pr with
  | nil => simp at hp
  | cons x xs ih =>
    obtain ⟨a, v⟩ := x
    obtain ⟨ha, hrest⟩ := hc
    rcases List.mem_cons.mp hp with rfl | hp'
    · -- the cell after the first one is the first cell of the rest
      rw [Heap.next_of_eq ha] at hnext
      cases xs with
      | nil => simp at hnext
      | cons y ys =>
        obtain ⟨b, w⟩ := y
        simp only [firstAddr_cons, Option.some.injEq] at hnext
        subst hnext
        exact Heap.prev_of_eq hrest.1
    · exact ih hrest hp'

/-! ## Writes and chains -/

theorem chain_update_of_not_mem {h : Heap α} {pr nx : Option ℕ} {xs : List (ℕ × α)}
    (hc : Chain h pr xs nx) {p : ℕ} (hp : p ∉ xs.map Prod.fst) (c : Option (Cell α)) :
    Chain (Function.update h p c) pr xs nx := by
  refine chain_frame hc fun q hq => ?_
  have hqp : q ≠ p := fun hqp => hp (hqp ▸ hq)
  exact Function.update_of_ne hqp c h

theorem chain_setNext_of_not_mem {h : Heap α} {pr nx : Option ℕ} {xs : List (ℕ × α)}
    (hc : Chain h pr xs nx) {p : ℕ} (hp : p ∉ xs.map Prod.fst) (q : Option ℕ) :
    Chain (h.setNext p q) pr xs nx :=
  chain_update_of_not_mem hc hp _

theorem chain_setPrev_of_not_mem {h : Heap α} {pr nx : Option ℕ} {xs : List (ℕ × α)}
    (hc : Chain h pr xs nx) {p : ℕ} (hp : p ∉ xs.map Prod.fst) (q : Option ℕ) :
    Chain (h.setPrev p q) pr xs nx :=
  chain_update_of_not_mem hc hp _

/-- Rewriting the `next` of the last cell moves the chain's right end. -/
theorem chain_setNext_last {h : Heap α} {pr nx : Option ℕ} {ys : List (ℕ × α)} {q : ℕ} {u : α}
    (hc : Chain h pr (ys ++ [(q, u)]) nx) (hq : q ∉ ys.map Prod.fst) (nx' : Option ℕ) :
    Chain (h.setNext q nx') pr (ys ++ [(q, u)]) nx' := by
  obtain ⟨hys, hcell, -⟩ := (chain_middle h pr nx ys [] q u).mp hc
  refine (chain_middle _ pr nx' ys [] q u).mpr ⟨chain_setNext_of_not_mem hys hq nx', ?_, trivial⟩
  rw [Heap.setNext_self, hcell]
  rfl

/-- Rewriting the `prev` of the first cell moves the chain's left end. -/
theorem chain_setPrev_first {h : Heap α} {pr nx : Option ℕ} {zs : List (ℕ × α)} {r : ℕ} {w : α}
    (hc : Chain h pr ((r, w) :: zs) nx) (hr : r ∉ zs.map Prod.fst) (pr' : Option ℕ) :
    Chain (h.setPrev r pr') pr' ((r, w) :: zs) nx := by
  obtain ⟨hcell, hzs⟩ := hc
  refine ⟨?_, chain_setPrev_of_not_mem hzs hr pr'⟩
  rw [Heap.setPrev_self, hcell]
  rfl

/-- Splicing a cell `p` in between two neighbours `a` and `b` of a chain: `a`
now points forward to `p`, `b` back to `p`, and every other cell is as before. -/
theorem chain_insert_between {h h' : Heap α} {pr nx : Option ℕ} {ys zs : List (ℕ × α)}
    {a b p : ℕ} {x y v : α} (hc : Chain h pr (ys ++ (a, x) :: (b, y) :: zs) nx)
    (hnd : ((ys ++ (a, x) :: (b, y) :: zs).map Prod.fst).Nodup)
    (hp : p ∉ (ys ++ (a, x) :: (b, y) :: zs).map Prod.fst)
    (hout : ∀ c, c ≠ a → c ≠ b → c ≠ p → h' c = h c)
    (ha : h' a = some ⟨x, lastAddr pr ys, some p⟩) (hpc : h' p = some ⟨v, some a, some b⟩)
    (hb : h' b = some ⟨y, some p, firstAddr zs nx⟩) :
    Chain h' pr (ys ++ (a, x) :: (p, v) :: (b, y) :: zs) nx := by
  obtain ⟨hys, -, hb', hzs⟩ := (chain_middle h pr nx ys ((b, y) :: zs) a x).mp hc
  -- every address other than the three lies in `ys` or `zs`, away from them
  have hnd' := hnd
  simp only [List.map_append, List.map_cons, List.nodup_append, List.nodup_cons, List.mem_cons,
    List.mem_append] at hnd' hp
  refine (chain_middle h' pr nx ys _ a x).mpr ⟨?_, ha, hpc, hb, ?_⟩
  · refine chain_frame hys fun c hmem => hout c ?_ ?_ ?_ <;> rintro rfl
    · exact hnd'.2.2 _ hmem _ (Or.inl rfl) rfl
    · exact hnd'.2.2 _ hmem _ (Or.inr (Or.inl rfl)) rfl
    · exact hp (Or.inl hmem)
  · refine chain_frame hzs fun c hmem => hout c ?_ ?_ ?_ <;> rintro rfl
    · exact hnd'.2.1.1 (Or.inr hmem)
    · exact hnd'.2.1.2.1 hmem
    · exact hp (Or.inr (Or.inr (Or.inr hmem)))

/-- Linking a cell `p` in front of a chain that ends in `NULL`: with `p`'s
cell already `⟨v, NULL, head⟩`, setting `head->prev = p` makes `p` the new
first cell. -/
theorem chain_cons_front {h : Heap α} {xs : List (ℕ × α)} {p : ℕ} {v : α}
    (hc : Chain h none xs none) (hp : p ∉ xs.map Prod.fst) (hnd : (xs.map Prod.fst).Nodup)
    (hcell : h p = some ⟨v, none, firstAddr xs none⟩) :
    Chain (match firstAddr xs none with
      | some hd => h.setPrev hd (some p)
      | none => h) none ((p, v) :: xs) none := by
  cases xs with
  | nil => exact ⟨hcell, trivial⟩
  | cons x ys =>
    obtain ⟨hd, w⟩ := x
    have hne : p ≠ hd := fun h' => hp (h' ▸ List.mem_cons_self)
    have hhd : hd ∉ ys.map Prod.fst := (List.nodup_cons.mp hnd).1
    refine ⟨?_, chain_setPrev_first hc hhd (some p)⟩
    dsimp only [firstAddr_cons]
    rw [Heap.setPrev_ne _ _ hne, hcell]
    rfl

/-- An address of `ys ++ (p, v) :: zs` other than `p` is one of `ys ++ zs`. -/
theorem mem_addrs_of_ne_middle {ys zs : List (ℕ × α)} {p a : ℕ} {v : α}
    (ha : a ∈ (ys ++ (p, v) :: zs).map Prod.fst) (hap : a ≠ p) : a ∈ (ys ++ zs).map Prod.fst := by
  simp only [List.map_append, List.map_cons, List.mem_append, List.mem_cons] at ha ⊢
  rcases ha with h | h | h
  · exact Or.inl h
  · exact absurd h hap
  · exact Or.inr h

/-- Unlinking a cell of a chain that starts and ends in `NULL` leaves the
chain without it. The cases are whether the cell has a neighbour on either
side. -/
theorem chain_unlink {h : Heap α} {ys zs : List (ℕ × α)} {p : ℕ} {v : α}
    (hc : Chain h none (ys ++ (p, v) :: zs) none)
    (hnd : ((ys ++ (p, v) :: zs).map Prod.fst).Nodup) :
    Chain (h.unlink p) none (ys ++ zs) none := by
  obtain ⟨hys, hcell, hzs⟩ := (chain_middle h none none ys zs p v).mp hc
  have hprev : h.prev p = lastAddr none ys := by rw [Heap.prev_of_eq hcell]
  have hnext : h.next p = firstAddr zs none := by rw [Heap.next_of_eq hcell]
  have hnd' : ((ys ++ zs).map Prod.fst).Nodup :=
    hnd.sublist (((List.sublist_cons_self (p, v) zs).append_left ys).map Prod.fst)
  have hpys : p ∉ ys.map Prod.fst := fun hmem => by
    rw [List.map_append, List.map_cons] at hnd
    exact (List.nodup_append.mp hnd).2.2 p hmem p List.mem_cons_self rfl
  unfold Heap.unlink
  rcases List.eq_nil_or_concat' ys with rfl | ⟨ys', ⟨q, u⟩, rfl⟩
  · -- `p` is the first cell: the head moves to its successor
    rw [hprev]
    dsimp only [lastAddr_nil]
    rw [hnext]
    cases zs with
    | nil => trivial
    | cons z zs' =>
      obtain ⟨r, w⟩ := z
      dsimp only [firstAddr_cons]
      rw [hprev]
      exact chain_setPrev_first hzs (List.nodup_cons.mp (by simpa using hnd')).1 none
  · -- `p` has a predecessor `q`, whose `next` now skips `p`
    rw [List.map_append] at hnd'
    have hsplit := List.nodup_append.mp hnd'
    have hqp : p ≠ q := fun h' => hpys (by simp [h'])
    have hq : q ∉ ys'.map Prod.fst := by
      have := hsplit.1
      rw [List.map_append, List.map_singleton] at this
      exact fun hmem => (List.nodup_append.mp this).2.2 q hmem q List.mem_cons_self rfl
    have hys₁ := chain_setNext_last hys hq (firstAddr zs none)
    rw [hprev, lastAddr_append, lastAddr_singleton]
    dsimp only
    rw [Heap.next_setNext_ne _ _ hqp, hnext]
    cases zs with
    | nil => simpa using hys₁
    | cons z zs' =>
      obtain ⟨r, w⟩ := z
      dsimp only [firstAddr_cons]
      rw [Heap.prev_setNext, hprev, lastAddr_append, lastAddr_singleton]
      -- `r`'s `prev` now points back to `q`
      have hr : r ∉ (ys' ++ [(q, u)]).map Prod.fst := fun hmem =>
        hsplit.2.2 r hmem r (by simp) rfl
      have hqz : q ∉ ((r, w) :: zs').map Prod.fst := fun hmem =>
        hsplit.2.2 q (by simp) q hmem rfl
      have hrz : r ∉ zs'.map Prod.fst := (List.nodup_cons.mp (by simpa using hsplit.2.1)).1
      refine (chain_append _ none none _ _).mpr ⟨?_, ?_⟩
      · exact chain_setPrev_of_not_mem hys₁ hr (some q)
      · rw [lastAddr_append, lastAddr_singleton]
        exact chain_setPrev_first (chain_setNext_of_not_mem hzs hqz (some r)) hrz (some q)

/-! ## Walks -/

/-- Follow `next` from `cur` through at most `fuel` cells: the cells met
before `NULL`, or `none` when the fuel runs out or a pointer dangles. -/
def walkNext (h : Heap α) : ℕ → Option ℕ → Option (List (ℕ × α))
  | _, none => some []
  | 0, some _ => none
  | fuel + 1, some p =>
    match h p with
    | none => none
    | some c => (walkNext h fuel c.next).map ((p, c.value) :: ·)

/-- Follow `prev` from `cur` through at most `fuel` cells. -/
def walkPrev (h : Heap α) : ℕ → Option ℕ → Option (List (ℕ × α))
  | _, none => some []
  | 0, some _ => none
  | fuel + 1, some p =>
    match h p with
    | none => none
    | some c => (walkPrev h fuel c.prev).map ((p, c.value) :: ·)

@[simp] theorem walkNext_none (h : Heap α) (fuel : ℕ) : walkNext h fuel none = some [] := by
  cases fuel <;> rfl

@[simp] theorem walkPrev_none (h : Heap α) (fuel : ℕ) : walkPrev h fuel none = some [] := by
  cases fuel <;> rfl

theorem walkNext_some {h : Heap α} {p : ℕ} {c : Cell α} (hp : h p = some c) (fuel : ℕ) :
    walkNext h (fuel + 1) (some p) = (walkNext h fuel c.next).map ((p, c.value) :: ·) := by
  rw [walkNext, hp]

theorem walkPrev_some {h : Heap α} {p : ℕ} {c : Cell α} (hp : h p = some c) (fuel : ℕ) :
    walkPrev h (fuel + 1) (some p) = (walkPrev h fuel c.prev).map ((p, c.value) :: ·) := by
  rw [walkPrev, hp]

/-- The forward walk from the first cell of a chain ending in `NULL` meets
exactly its cells, given fuel for as many. -/
theorem walkNext_chain {h : Heap α} {pr : Option ℕ} {xs : List (ℕ × α)}
    (hc : Chain h pr xs none) (k : ℕ) : walkNext h (xs.length + k) (firstAddr xs none) = some xs := by
  induction xs generalizing pr with
  | nil => simp
  | cons x xs ih =>
    obtain ⟨p, v⟩ := x
    obtain ⟨hp, hrest⟩ := hc
    rw [List.length_cons, Nat.add_right_comm, firstAddr_cons, walkNext_some hp, ih hrest]
    rfl

/-- The backward walk from the last cell of a chain starting in `NULL` meets
its cells in reverse order. -/
theorem walkPrev_chain {h : Heap α} {nx : Option ℕ} {xs : List (ℕ × α)}
    (hc : Chain h none xs nx) (k : ℕ) :
    walkPrev h (xs.length + k) (lastAddr none xs) = some xs.reverse := by
  induction xs using List.reverseRec generalizing nx with
  | nil => simp
  | append_singleton xs x ih =>
    obtain ⟨p, v⟩ := x
    obtain ⟨hxs, hp, -⟩ := (chain_middle h none nx xs [] p v).mp hc
    rw [List.length_append, List.length_singleton, Nat.add_right_comm, lastAddr_append,
      lastAddr_singleton, walkPrev_some hp, ih hxs]
    simp

end DLinked
