import Mathlib

/-!
# Acquisitions and releases in stack order

A trace of calls that acquire and release resources (bring subsystems up and
down, open and close handles) is replayed on the stack of what it holds, the
latest acquisition on top. An acquisition pushes its resource; a release must
find its resource on top, or the replay fails; every other call leaves the
stack alone.

Results:
* `run_append`: a trace in two parts replays the first part, then the second.
* `run_releases`: releasing the top of a stack in order pops it.
-/

namespace Bracket

/-- What a call does to the resources held. -/
inductive Effect (ρ : Type*)
  | acquire (r : ρ)
  | release (r : ρ)
  | other

variable {ρ : Type*} [DecidableEq ρ]

/-- Replay a trace on the stack `held`: `none` when a release does not find
its resource on top. -/
def run : List ρ → List (Effect ρ) → Option (List ρ)
  | held, [] => some held
  | held, .acquire r :: es => run (r :: held) es
  | r' :: held, .release r :: es => if r = r' then run held es else none
  | [], .release _ :: _ => none
  | held, .other :: es => run held es

section Run

variable {held : List ρ} {r : ρ} {es es' : List (Effect ρ)}

@[simp] theorem run_acquire : run held (.acquire r :: es) = run (r :: held) es := by
  rw [run]

@[simp] theorem run_release_top : run (r :: held) (.release r :: es) = run held es := by
  rw [run, if_pos rfl]

@[simp] theorem run_other : run held (.other :: es) = run held es := by
  cases held <;> rw [run]

/-- A release of anything but the top fails. -/
theorem run_release_of_ne {r' : ρ} (h : r ≠ r') : run (r' :: held) (.release r :: es) = none := by
  rw [run, if_neg h]

/-- The replay of `es ++ es'` is that of `es`, then that of `es'` from where
it stopped. Induction on `es`, with the stack generalised. -/
theorem run_append : run held (es ++ es') = (run held es).bind (run · es') := by
  induction es generalizing held with
  | nil => rfl
  | cons e es ih =>
    cases e with
    | acquire r => simp only [List.cons_append, run_acquire, ih]
    | other => simp only [List.cons_append, run_other, ih]
    | release r =>
      cases held with
      | nil => simp only [List.cons_append, run, Option.bind_none]
      | cons r' held =>
        by_cases h : r = r'
        · subst h
          simp only [List.cons_append, run_release_top, ih]
        · simp only [List.cons_append, run_release_of_ne h, Option.bind_none]

end Run

/-- Releasing the top `rs` of a stack, top first, leaves what is under them. -/
theorem run_releases (rs held : List ρ) : run (rs ++ held) (rs.map .release) = some held := by
  induction rs with
  | nil => rfl
  | cons r rs ih => rw [List.map_cons, List.cons_append, run_release_top, ih]

end Bracket
