import Xsan.Network.EventLoop
import Xsan.Common.ErrorMap

/-!
# Polling the event loop

`xsan_event_loop_poll` (`src/network/event_loop.c`, lines 221–250) waits on
the epoll instance and, for each ready event, calls the callback the loop's
map holds for the event's descriptor, with the event mask translated by
`epoll_to_xsan_events` (lines 44–52). The descriptors and their masks live in
the kernel: `xsan_event_loop_add_fd`, `modify_fd` and `remove_fd` keep the
map beside the kernel's interest list through `epoll_ctl`.

The model runs the loop of `Xsan.Network.EventLoop` next to an interest
list (`EventSystem`), with `epoll_ctl` as epoll_ctl(2) describes it: `ADD`
of a watched descriptor fails with `EEXIST`, `MOD` and `DEL` of an unwatched
one with `ENOENT`, any call may fail for another reason (`EpollFailure`),
and closing a descriptor drops it from the list. What `epoll_wait` returns is
an input, as are the allocations. A callback is taken not to call the loop
while the poll runs.

What the callers have registered is read off the calls and the codes they
returned (`registrations`); the loop and the kernel agree with it
(`EventAgrees`) along every run.

Results:
* `eventSystemRun_agrees`: along every run of calls from a new loop, each
  descriptor the kernel watches is registered, with the mask of its events,
  and the map holds the callback and `user_data` of its registration.
* `poll_runs_registered_callbacks`: after any run, a poll runs, for each ready
  event in order, the callback and `user_data` of the last call on that
  descriptor that returned `XSAN_OK`, and drops no event.
-/

namespace Xsan

/-! ## Event masks -/

/-- `XSAN_EVENT_TYPE_READ`, `WRITE`, `ERROR`, `HANGUP` (`xsan_event_loop.h`, lines 19–26). -/
def xsanEventTypeRead : UInt32 := 1
def xsanEventTypeWrite : UInt32 := 2
def xsanEventTypeError : UInt32 := 4
def xsanEventTypeHangup : UInt32 := 8

/-- Linux's `EPOLLIN`, `EPOLLOUT`, `EPOLLERR`, `EPOLLHUP`. -/
def epollin : UInt32 := 0x001
def epollout : UInt32 := 0x004
def epollerr : UInt32 := 0x008
def epollhup : UInt32 := 0x010

/-- `xsan_to_epoll_events` (lines 32–41). -/
def xsanToEpollEvents (xsanEvents : UInt32) : UInt32 :=
  (if xsanEvents &&& xsanEventTypeRead ≠ 0 then epollin else 0) |||
    (if xsanEvents &&& xsanEventTypeWrite ≠ 0 then epollout else 0) |||
    (if xsanEvents &&& xsanEventTypeError ≠ 0 then epollerr else 0) |||
    (if xsanEvents &&& xsanEventTypeHangup ≠ 0 then epollhup else 0)

/-- `epoll_to_xsan_events` (lines 44–52). -/
def epollToXsanEvents (epEvents : UInt32) : UInt32 :=
  (if epEvents &&& epollin ≠ 0 then xsanEventTypeRead else 0) |||
    (if epEvents &&& epollout ≠ 0 then xsanEventTypeWrite else 0) |||
    (if epEvents &&& epollerr ≠ 0 then xsanEventTypeError else 0) |||
    (if epEvents &&& epollhup ≠ 0 then xsanEventTypeHangup else 0)

/-! ## The kernel's interest list -/

/-- An error `epoll_ctl` reports for a reason other than the interest list
itself (epoll_ctl(2)): a bad descriptor, a descriptor epoll cannot watch, an
exhausted kernel. -/
inductive EpollFailure
  | ebadf
  | einval
  | eloop
  | enomem
  | enospc
  | eperm
  deriving DecidableEq, Repr

/-- Linux's `errno` for each. -/
def EpollFailure.errno : EpollFailure → ℤ
  | .ebadf => 9
  | .einval => Xsan.einval
  | .eloop => 40
  | .enomem => Xsan.enomem
  | .enospc => Xsan.enospc
  | .eperm => Xsan.eperm

theorem EpollFailure.errno_ne_zero (f : EpollFailure) : f.errno ≠ 0 := by
  cases f <;> decide

/-- The operations of `epoll_ctl`. -/
inductive EpollCtlOp
  | add
  | mod
  | del
  deriving DecidableEq, Repr

/-- The interest list: the epoll mask of each watched descriptor. -/
abbrev EpollInterest := ℤ → Option UInt32

/-- `epoll_ctl(epfd, op, fd, &ev)` on the interest list: the `errno` of a
failure (`none` for success) and the list afterwards. -/
def epollCtl (interest : EpollInterest) (op : EpollCtlOp) (fd : ℤ) (events : UInt32)
    (failure : Option EpollFailure) : Option ℤ × EpollInterest :=
  match failure with
  | some f => (some f.errno, interest)
  | none =>
    match op, interest fd with
    | .add, some _ => (some eexist, interest)
    | .add, none => (none, Function.update interest fd (some events))
    | .mod, none => (some enoent, interest)
    | .mod, some _ => (none, Function.update interest fd (some events))
    | .del, none => (some enoent, interest)
    | .del, some _ => (none, Function.update interest fd none)

/-- A failed `epoll_ctl` reports a nonzero `errno` and leaves the list alone;
a successful one writes `fd` only: its mask for `ADD` and `MOD`, nothing for
`DEL`. -/
theorem epollCtl_cases (interest : EpollInterest) (op : EpollCtlOp) (fd : ℤ) (events : UInt32)
    (failure : Option EpollFailure) :
    (∃ e, (epollCtl interest op fd events failure).1 = some e ∧ e ≠ 0 ∧
        (epollCtl interest op fd events failure).2 = interest) ∨
      ((epollCtl interest op fd events failure).1 = none ∧
        (epollCtl interest op fd events failure).2 =
          Function.update interest fd (if op = .del then none else some events)) := by
  unfold epollCtl
  cases failure with
  | some f => exact .inl ⟨f.errno, rfl, f.errno_ne_zero, rfl⟩
  | none =>
    cases op <;> cases interest fd
    all_goals first
      | exact .inl ⟨_, rfl, by decide, rfl⟩
      | exact .inr ⟨rfl, rfl⟩

/-! ## The loop beside the kernel -/

/-- A loop and the interest list of its epoll instance. -/
structure EventSystem where
  loop : XsanEventLoop
  interest : EpollInterest

/-- The calls on a loop's descriptors, with what the system does in them, and
the application closing a descriptor. -/
inductive SystemCall
  | addFd (fd : ℤ) (events : UInt32) (callback userData : ℕ) (callocOk : Bool)
      (failure : Option EpollFailure)
  | modifyFd (fd : ℤ) (events : UInt32) (callback userData : ℕ) (callocOk : Bool)
      (failure : Option EpollFailure)
  | removeFd (fd : ℤ) (failure : Option EpollFailure)
  | close (fd : ℤ)

/-- The interest list after `xsan_event_loop_add_fd` or `modify_fd`
(lines 141–157, 166–194): `epoll_ctl` runs once the arguments pass the check
and the map covers `fd`. -/
def setFdInterest (loop : XsanEventLoop) (interest : EpollInterest) (op : EpollCtlOp) (fd : ℤ)
    (events : UInt32) (callback : ℕ) (callocOk : Bool) (failure : Option EpollFailure)
    (fuel : ℕ) : EpollInterest :=
  if fd < 0 ∨ callback = 0 then interest
  else
    match ensureFdMapCapacity loop fd callocOk fuel with
    | some (err, _) =>
      if err ≠ xsanOk then interest
      else (epollCtl interest op fd (xsanToEpollEvents events) failure).2
    | none => interest

section Step

variable (fuel : ℕ)

/-- `add_fd` and `modify_fd` on the system: the code and the system afterwards,
`none` while `ensure_fd_map_capacity` still runs. -/
def systemSetFd (s : EventSystem) (op : EpollCtlOp) (fd : ℤ) (events : UInt32) (callback userData : ℕ)
    (callocOk : Bool) (failure : Option EpollFailure) : Option (ℤ × EventSystem) :=
  (eventLoopSetFd xsanErrorFromErrno s.loop fd callback userData callocOk
      (epollCtl s.interest op fd (xsanToEpollEvents events) failure).1 fuel).map fun r =>
    (r.1, ⟨r.2, setFdInterest s.loop s.interest op fd events callback callocOk failure fuel⟩)

/-- One call: its code (`0` for a close) and the system afterwards. -/
def eventSystemStep (s : EventSystem) : SystemCall → Option (ℤ × EventSystem)
  | .addFd fd events cb ud callocOk failure => systemSetFd fuel s .add fd events cb ud callocOk failure
  | .modifyFd fd events cb ud callocOk failure =>
    systemSetFd fuel s .mod fd events cb ud callocOk failure
  | .removeFd fd failure =>
    -- `epoll_ctl(EPOLL_CTL_DEL)` runs for every `fd ≥ 0` (line 209)
    let ctl := epollCtl s.interest .del fd 0 failure
    let r := xsanEventLoopRemoveFd xsanErrorFromErrno s.loop fd ctl.1
    some (r.1, ⟨r.2, if fd < 0 then s.interest else ctl.2⟩)
  | .close fd => some (xsanOk, ⟨s.loop, Function.update s.interest fd none⟩)

/-- A run of calls: the system afterwards and the code of each call. -/
def eventSystemRun (s : EventSystem) : List SystemCall → Option (EventSystem × List ℤ)
  | [] => some (s, [])
  | call :: calls =>
    (eventSystemStep fuel s call).bind fun (code, s₁) =>
      (eventSystemRun s₁ calls).map fun (s', codes) => (s', code :: codes)

end Step

/-! ## What the callers registered -/

/-- A registration: the callback and `user_data`, and the events asked for. -/
abbrev Registration := XsanFdEventData × UInt32

/-- How a call that returned `code` changes what is registered: a successful
`add_fd` or `modify_fd` registers its callback, `user_data` and events, a
successful `remove_fd` or a close drops the descriptor. -/
def regStep (reg : ℤ → Option Registration) : SystemCall → ℤ → ℤ → Option Registration
  | .addFd fd events cb ud _ _, code | .modifyFd fd events cb ud _ _, code =>
    if code = xsanOk then Function.update reg fd (some (⟨cb, ud⟩, events)) else reg
  | .removeFd fd _, code => if code = xsanOk then Function.update reg fd none else reg
  | .close fd, _ => Function.update reg fd none

/-- What the calls of a run registered, given the codes they returned. -/
def registrations (reg : ℤ → Option Registration) : List SystemCall → List ℤ → ℤ → Option Registration
  | call :: calls, code :: codes => registrations (regStep reg call code) calls codes
  | _, _ => reg

/-- `loop->fd_data_map[fd]`, read as the poll reads it: only for
`0 ≤ fd < fd_data_map_capacity`. -/
def fdEntry (loop : XsanEventLoop) (fd : ℤ) : Option XsanFdEventData :=
  if 0 ≤ fd ∧ fd < loop.fdDataMapCapacity then loop.fdDataMap.bind (·[fd.toNat]?) else none

/-- The loop and the kernel agree with the registrations: the kernel watches
exactly the registered descriptors, each with the epoll mask of its events,
and the map holds each one's callback, which is not `NULL`. -/
structure EventAgrees (s : EventSystem) (reg : ℤ → Option Registration) : Prop where
  map : FdMapInv s.loop
  interest : ∀ fd, s.interest fd = (reg fd).map fun r => xsanToEpollEvents r.2
  entry : ∀ fd r, reg fd = some r → fdEntry s.loop fd = some r.1 ∧ r.1.callback ≠ 0

/-- A new loop and an empty interest list agree with no registration. -/
theorem eventAgrees_create :
    EventAgrees ⟨⟨some (List.replicate 1024 .zero), 1024⟩, fun _ => none⟩ fun _ => none :=
  ⟨fdMapInv_create, fun _ => rfl, fun _ _ h => absurd h (by simp)⟩

/-! ## Reading the map -/

section Entries

variable {loop loop' : XsanEventLoop}

theorem fdEntry_of_map {m : List XsanFdEventData} (hm : loop.fdDataMap = some m) {fd : ℤ}
    (h0 : 0 ≤ fd) (hfd : fd < loop.fdDataMapCapacity) : fdEntry loop fd = m[fd.toNat]? := by
  rw [fdEntry, if_pos ⟨h0, hfd⟩, hm, Option.bind_some]

theorem fdEntry_bounds {fd : ℤ} {e : XsanFdEventData} (h : fdEntry loop fd = some e) :
    0 ≤ fd ∧ fd < loop.fdDataMapCapacity := by
  unfold fdEntry at h
  split_ifs at h with hb
  exact hb

/-- A map that starts with the old one reads the same at every descriptor
the old one covered. -/
theorem fdEntry_of_prefix (hinv : FdMapInv loop) (hinv' : FdMapInv loop')
    {m m' : List XsanFdEventData} (hm : loop.fdDataMap = some m) (hm' : loop'.fdDataMap = some m')
    (hpre : m <+: m') {fd : ℤ} {e : XsanFdEventData} (h : fdEntry loop fd = some e) :
    fdEntry loop' fd = some e := by
  obtain ⟨h0, hfd⟩ := fdEntry_bounds h
  obtain ⟨m₀, hm₀, hlen⟩ := hinv.map_length
  obtain ⟨m₀', hm₀', hlen'⟩ := hinv'.map_length
  obtain rfl : m₀ = m := Option.some.inj (hm₀.symm.trans hm)
  obtain rfl : m₀' = m' := Option.some.inj (hm₀'.symm.trans hm')
  have hlt : fd.toNat < m₀.length := by omega
  have hle := hpre.length_le
  rw [fdEntry_of_map hm h0 hfd, List.prefix_iff_eq_take.mp hpre, List.getElem?_take_of_lt hlt] at h
  rw [fdEntry_of_map hm' h0 (by omega)]
  exact h

/-- Writing the entry of `fd` into an allocated map. -/
theorem fdEntry_set {m : List XsanFdEventData} (hm : loop.fdDataMap = some m)
    (hlen : m.length = loop.fdDataMapCapacity.toNat) {fd : ℤ} (h0 : 0 ≤ fd)
    (hfd : fd < loop.fdDataMapCapacity) (e : XsanFdEventData) (fd' : ℤ) :
    fdEntry { loop with fdDataMap := some (m.set fd.toNat e) } fd' =
      if fd' = fd then some e else fdEntry loop fd' := by
  by_cases hb : 0 ≤ fd' ∧ fd' < loop.fdDataMapCapacity
  · rw [fdEntry, if_pos hb, fdEntry, if_pos hb, Option.bind_some, hm, Option.bind_some]
    by_cases he : fd' = fd
    · rw [if_pos he, he, List.getElem?_set_self (by omega)]
    · rw [if_neg he, List.getElem?_set_ne (by omega)]
  · have hne : fd' ≠ fd := fun he => hb ⟨he ▸ h0, he ▸ hfd⟩
    rw [fdEntry, if_neg hb, if_neg hne, fdEntry, if_neg hb]

end Entries

/-! ## One call -/

section Calls

variable {fuel : ℕ}

/-- Everything `add_fd` or `modify_fd` can do to the system: fail, leaving the
interest list alone and keeping every entry of the map, or succeed, having
watched `fd` with the mask of `events` and written its entry and no other. -/
theorem systemSetFd_cases {s : EventSystem} (hinv : FdMapInv s.loop) {op : EpollCtlOp}
    (hop : op ≠ .del) {fd : ℤ} {events : UInt32} {cb ud : ℕ} {callocOk : Bool}
    {failure : Option EpollFailure} {code : ℤ} {s' : EventSystem}
    (h : systemSetFd fuel s op fd events cb ud callocOk failure = some (code, s')) :
    FdMapInv s'.loop ∧
      ((code ≠ xsanOk ∧ s'.interest = s.interest ∧
          ∀ fd' e, fdEntry s.loop fd' = some e → fdEntry s'.loop fd' = some e) ∨
        (code = xsanOk ∧ cb ≠ 0 ∧
          s'.interest = Function.update s.interest fd (some (xsanToEpollEvents events)) ∧
          fdEntry s'.loop fd = some ⟨cb, ud⟩ ∧
          ∀ fd' e, fdEntry s.loop fd' = some e → fd' ≠ fd → fdEntry s'.loop fd' = some e)) := by
  unfold systemSetFd at h
  rw [Option.map_eq_some_iff] at h
  obtain ⟨⟨code₁, loop₁⟩, hset, hout⟩ := h
  obtain ⟨rfl, rfl⟩ := Prod.mk.inj hout
  refine ⟨eventLoopSetFd_inv _ hinv hset, ?_⟩
  -- the branches of the source: the argument check, the capacity, `epoll_ctl`
  unfold eventLoopSetFd at hset
  unfold setFdInterest
  by_cases hbad : fd < 0 ∨ cb = 0
  · rw [if_pos hbad, Option.some.injEq, Prod.mk.injEq] at hset
    obtain ⟨rfl, rfl⟩ := hset
    rw [if_pos hbad]
    exact .inl ⟨(by decide : xsanErrorConfigParse ≠ xsanOk), rfl, fun _ _ h => h⟩
  rw [if_neg hbad] at hset ⊢
  have hcb : cb ≠ 0 := fun h0 => hbad (.inr h0)
  cases hens : ensureFdMapCapacity s.loop fd callocOk fuel with
  | none =>
    rw [hens] at hset
    cases hset
  | some p =>
    obtain ⟨err, loop₂⟩ := p
    rw [hens, Option.map_some, Option.some.injEq] at hset
    dsimp only
    rcases ensureFdMapCapacity_outcome hinv hens with ⟨rfl, hfd, hinv₂, m, m₂, hm, hm₂, hpre⟩ | ⟨rfl, rfl⟩
    · dsimp only at hset hfd hinv₂ hm₂
      have hok : ¬(xsanOk ≠ xsanOk) := fun h => h rfl
      rw [if_neg hok] at hset ⊢
      rcases epollCtl_cases s.interest op fd (xsanToEpollEvents events) failure with
        ⟨e, he, hne, hk⟩ | ⟨he, hk⟩
      · -- `epoll_ctl` failed: the map has grown, and nothing else changed
        rw [he, Prod.mk.injEq] at hset
        obtain ⟨rfl, rfl⟩ := hset
        exact .inl ⟨xsanErrorFromErrno_ne_ok hne, hk,
          fun _ _ h => fdEntry_of_prefix hinv hinv₂ hm hm₂ hpre h⟩
      · -- `epoll_ctl` succeeded: the entry of `fd` is written
        rw [he, Prod.mk.injEq] at hset
        obtain ⟨rfl, rfl⟩ := hset
        obtain ⟨m₃, hm₃, hlen₃⟩ := hinv₂.map_length
        obtain rfl : m₃ = m₂ := Option.some.inj (hm₃.symm.trans hm₂)
        have h0 : 0 ≤ fd := by omega
        rw [hk, if_neg hop, hm₂, Option.map_some]
        refine .inr ⟨rfl, hcb, rfl, ?_, fun fd' e h hne => ?_⟩
        · rw [fdEntry_set hm₂ hlen₃ h0 hfd, if_pos rfl]
        · rw [fdEntry_set hm₂ hlen₃ h0 hfd, if_neg hne]
          exact fdEntry_of_prefix hinv hinv₂ hm hm₂ hpre h
    · -- no memory for the map: nothing changed
      dsimp only at hset
      have hnm : xsanErrorNoMemory ≠ xsanOk := by decide
      rw [if_pos hnm, Prod.mk.injEq] at hset
      obtain ⟨rfl, rfl⟩ := hset
      rw [if_pos hnm]
      exact .inl ⟨hnm, rfl, fun _ _ h => h⟩

/-- Everything `remove_fd` can do: fail, changing nothing, or succeed, having
dropped `fd` from the interest list and left every other entry of the map. -/
theorem systemRemoveFd_cases {s : EventSystem} (hinv : FdMapInv s.loop) (fd : ℤ)
    (failure : Option EpollFailure) :
    let ctl := epollCtl s.interest .del fd 0 failure
    let r := xsanEventLoopRemoveFd xsanErrorFromErrno s.loop fd ctl.1
    FdMapInv r.2 ∧
      ((r.1 ≠ xsanOk ∧ (if fd < 0 then s.interest else ctl.2) = s.interest ∧ r.2 = s.loop) ∨
        (r.1 = xsanOk ∧ (if fd < 0 then s.interest else ctl.2) = Function.update s.interest fd none ∧
          ∀ fd' e, fdEntry s.loop fd' = some e → fd' ≠ fd → fdEntry r.2 fd' = some e)) := by
  intro ctl r
  refine ⟨xsanEventLoopRemoveFd_inv _ hinv fd ctl.1, ?_⟩
  by_cases h0 : fd < 0
  · -- a negative descriptor is refused before `epoll_ctl`
    have hr : r = (xsanErrorConfigParse, s.loop) := by
      simp only [r, xsanEventLoopRemoveFd, if_pos h0]
    rw [hr, if_pos h0]
    exact .inl ⟨(by decide : xsanErrorConfigParse ≠ xsanOk), rfl, rfl⟩
  rw [if_neg h0]
  rcases epollCtl_cases s.interest .del fd 0 failure with ⟨e, he, hne, hk⟩ | ⟨he, hk⟩
  · have hr : r = (xsanErrorFromErrno e, s.loop) := by
      simp only [r, ctl, xsanEventLoopRemoveFd, if_neg h0, he]
    rw [hr]
    exact .inl ⟨xsanErrorFromErrno_ne_ok hne, hk, rfl⟩
  · have hr : r = if fd < s.loop.fdDataMapCapacity then
        (xsanOk, { s.loop with fdDataMap := s.loop.fdDataMap.map (·.set fd.toNat .zero) })
        else (xsanOk, s.loop) := by
      simp only [r, ctl, xsanEventLoopRemoveFd, if_neg h0, he]
    refine .inr ⟨by rw [hr]; split_ifs <;> rfl, by rw [hk]; rfl, fun fd' e h hne => ?_⟩
    rw [hr]
    split_ifs with hcap
    · -- the entry of `fd` is cleared, the others kept
      obtain ⟨m, hm, hlen⟩ := hinv.map_length
      simp only [hm, Option.map_some]
      rw [fdEntry_set hm hlen (by omega) hcap, if_neg hne]
      exact h
    · exact h

end Calls

/-! ## Runs agree with the registrations -/

section Agree

variable {fuel : ℕ}

theorem systemSetFd_agrees {s : EventSystem} {reg : ℤ → Option Registration}
    (hag : EventAgrees s reg) {op : EpollCtlOp} (hop : op ≠ .del) {fd : ℤ} {events : UInt32}
    {cb ud : ℕ} {callocOk : Bool} {failure : Option EpollFailure} {code : ℤ} {s' : EventSystem}
    (h : systemSetFd fuel s op fd events cb ud callocOk failure = some (code, s')) :
    EventAgrees s' (if code = xsanOk then Function.update reg fd (some (⟨cb, ud⟩, events)) else reg) := by
  obtain ⟨hinv', hcases⟩ := systemSetFd_cases hag.map hop h
  rcases hcases with ⟨hne, hint, hkeep⟩ | ⟨hok, hcb, hint, hentry, hframe⟩
  · rw [if_neg hne]
    refine ⟨hinv', fun fd' => by rw [hint]; exact hag.interest fd', fun fd' r hr => ?_⟩
    obtain ⟨he, hcb'⟩ := hag.entry fd' r hr
    exact ⟨hkeep fd' r.1 he, hcb'⟩
  · rw [if_pos hok]
    refine ⟨hinv', fun fd' => ?_, fun fd' r hr => ?_⟩
    · rw [hint]
      by_cases he : fd' = fd
      · subst he
        simp
      · rw [Function.update_of_ne he, Function.update_of_ne he]
        exact hag.interest fd'
    · by_cases he : fd' = fd
      · subst he
        rw [Function.update_self, Option.some.injEq] at hr
        subst hr
        exact ⟨hentry, hcb⟩
      · rw [Function.update_of_ne he] at hr
        obtain ⟨he', hcb'⟩ := hag.entry fd' r hr
        exact ⟨hframe fd' r.1 he' he, hcb'⟩

/-- One call keeps the system in agreement with the registrations. -/
theorem eventSystemStep_agrees {s : EventSystem} {reg : ℤ → Option Registration}
    (hag : EventAgrees s reg) {call : SystemCall} {code : ℤ} {s' : EventSystem}
    (h : eventSystemStep fuel s call = some (code, s')) : EventAgrees s' (regStep reg call code) := by
  cases call with
  | addFd fd events cb ud callocOk failure =>
    exact systemSetFd_agrees hag (by decide) h
  | modifyFd fd events cb ud callocOk failure =>
    exact systemSetFd_agrees hag (by decide) h
  | removeFd fd failure =>
    rw [eventSystemStep, Option.some.injEq, Prod.mk.injEq] at h
    obtain ⟨rfl, rfl⟩ := h
    obtain ⟨hinv', hcases⟩ := systemRemoveFd_cases hag.map fd failure
    rcases hcases with ⟨hne, hint, hloop⟩ | ⟨hok, hint, hframe⟩
    · rw [regStep, if_neg hne]
      refine ⟨hinv', fun fd' => ?_, fun fd' r hr => ?_⟩
      · dsimp only
        rw [hint]
        exact hag.interest fd'
      · dsimp only
        rw [hloop]
        exact hag.entry fd' r hr
    · rw [regStep, if_pos hok]
      refine ⟨hinv', fun fd' => ?_, fun fd' r hr => ?_⟩
      · dsimp only
        rw [hint]
        by_cases he : fd' = fd
        · subst he
          simp
        · rw [Function.update_of_ne he, Function.update_of_ne he]
          exact hag.interest fd'
      · have he : fd' ≠ fd := by
          rintro rfl
          rw [Function.update_self] at hr
          cases hr
        rw [Function.update_of_ne he] at hr
        obtain ⟨he', hcb'⟩ := hag.entry fd' r hr
        exact ⟨hframe fd' r.1 he' he, hcb'⟩
  | close fd =>
    rw [eventSystemStep, Option.some.injEq, Prod.mk.injEq] at h
    obtain ⟨rfl, rfl⟩ := h
    refine ⟨hag.map, fun fd' => ?_, fun fd' r hr => ?_⟩
    · by_cases he : fd' = fd
      · subst he
        simp [regStep]
      · simp only [regStep, Function.update_of_ne he]
        exact hag.interest fd'
    · have he : fd' ≠ fd := by
        rintro rfl
        simp [regStep] at hr
      rw [regStep, Function.update_of_ne he] at hr
      exact hag.entry fd' r hr

/-- The run lemma: every run keeps the agreement; induction on the calls. -/
theorem eventSystemRun_agrees_from {calls : List SystemCall} :
    ∀ {s : EventSystem} {reg : ℤ → Option Registration} {s' : EventSystem} {codes : List ℤ},
      EventAgrees s reg → eventSystemRun fuel s calls = some (s', codes) →
        EventAgrees s' (registrations reg calls codes) := by
  induction calls with
  | nil =>
    intro s reg s' codes hag h
    rw [eventSystemRun, Option.some.injEq, Prod.mk.injEq] at h
    obtain ⟨rfl, rfl⟩ := h
    exact hag
  | cons call calls ih =>
    intro s reg s' codes hag h
    rw [eventSystemRun, Option.bind_eq_some_iff] at h
    obtain ⟨⟨code, s₁⟩, h₁, h₂⟩ := h
    rw [Option.map_eq_some_iff] at h₂
    obtain ⟨⟨s₂, codes₂⟩, hrun, hout⟩ := h₂
    obtain ⟨rfl, rfl⟩ := Prod.mk.inj hout
    exact ih (eventSystemStep_agrees hag h₁) hrun

/-- Along every run of calls from a new loop, whose epoll instance starts with
an empty interest list, the kernel watches exactly the descriptors that the
calls which returned `XSAN_OK` left registered, each with the epoll mask of its
events, and the map holds each one's callback and `user_data`. -/
theorem eventSystemRun_agrees {maxEventsPerPoll : ℤ} {mallocOk epollOk eventsBufOk callocOk : Bool}
    {fuel₀ : ℕ} {loop : XsanEventLoop}
    (hcreate : xsanEventLoopCreate maxEventsPerPoll mallocOk epollOk eventsBufOk callocOk fuel₀ = some loop)
    {calls : List SystemCall} {s' : EventSystem} {codes : List ℤ}
    (hrun : eventSystemRun fuel ⟨loop, fun _ => none⟩ calls = some (s', codes)) :
    EventAgrees s' (registrations (fun _ => none) calls codes) := by
  rw [xsanEventLoopCreate_eq_some hcreate] at hrun
  exact eventSystemRun_agrees_from eventAgrees_create hrun

/-- A descriptor added, modified, added again (refused with `EEXIST`), and a
second one added and closed. -/
def sampleSystemCalls : List SystemCall :=
  [.addFd 5 xsanEventTypeRead 100 7 true none, .modifyFd 5 3 200 8 true none,
    .addFd 5 xsanEventTypeRead 300 9 true none, .addFd 6 xsanEventTypeWrite 400 1 true none,
    .close 6]

theorem eventSystemRun_agrees_sample :
    xsanEventLoopCreate 64 true true true true 20 = some ⟨some (List.replicate 1024 .zero), 1024⟩ ∧
      ∃ s' codes, eventSystemRun 20 ⟨⟨some (List.replicate 1024 .zero), 1024⟩, fun _ => none⟩
          sampleSystemCalls = some (s', codes) ∧
        EventAgrees s' (registrations (fun _ => none) sampleSystemCalls codes) := by
  have hcreate := xsanEventLoopCreate_of_pos (by decide : (0 : ℤ) < 64) 20
  exact ⟨hcreate, _, _, rfl, eventSystemRun_agrees hcreate rfl⟩

end Agree

/-! ## The poll -/

/-- What `epoll_wait` returned: `-1` with `errno`, or the ready events, each the
`data.fd` the loop stored for the descriptor and the mask. -/
inductive EpollWaitResult
  | failed (errno : ℤ)
  | ready (events : List (ℤ × UInt32))

/-- A callback the poll runs: `callback(loop, fd, events, user_data)`. -/
structure PollCallback where
  callback : ℕ
  fd : ℤ
  events : UInt32
  userData : ℕ
  deriving DecidableEq, Repr

/-- The callback the poll runs for one ready event (lines 239–245), if any:
the map's entry for a descriptor inside it with a callback set. -/
def pollEvent (loop : XsanEventLoop) (ev : ℤ × UInt32) : Option PollCallback :=
  match fdEntry loop ev.1 with
  | some e =>
    if e.callback ≠ 0 then some ⟨e.callback, ev.1, epollToXsanEvents ev.2, e.userData⟩ else none
  | none => none

/-- `xsan_event_loop_poll(loop, timeout_ms)` (lines 221–250): what it returns
and the callbacks it runs, in order. An interrupted wait returns `0`. -/
def xsanEventLoopPoll (loop : XsanEventLoop) : EpollWaitResult → ℤ × List PollCallback
  | .failed errno => (if errno = eintr then 0 else -1, [])
  | .ready events => (events.length, events.filterMap (pollEvent loop))

/-- The callback run for a ready event is the one of the descriptor's
registration, told of the event's mask. -/
def PolledAs (reg : ℤ → Option Registration) (ev : ℤ × UInt32) (cb : PollCallback) : Prop :=
  ∃ r, reg ev.1 = some r ∧ cb = ⟨r.1.callback, ev.1, epollToXsanEvents ev.2, r.1.userData⟩

/-- On a system that agrees with the registrations, a poll whose events are on
watched descriptors runs one callback per event, in order, each the
registered one. -/
theorem xsanEventLoopPoll_agrees {s : EventSystem} {reg : ℤ → Option Registration}
    (hag : EventAgrees s reg) (events : List (ℤ × UInt32))
    (hw : ∀ ev ∈ events, s.interest ev.1 ≠ none) :
    List.Forall₂ (PolledAs reg) events (xsanEventLoopPoll s.loop (.ready events)).2 := by
  induction events with
  | nil => exact .nil
  | cons ev events ih =>
    -- a watched descriptor is registered, and its entry has the callback
    obtain ⟨r, hr⟩ : ∃ r, reg ev.1 = some r := by
      have hint := hag.interest ev.1
      cases hreg : reg ev.1 with
      | none => rw [hreg] at hint; exact absurd hint (hw ev List.mem_cons_self)
      | some r => exact ⟨r, rfl⟩
    obtain ⟨hentry, hcb⟩ := hag.entry ev.1 r hr
    have hpoll : pollEvent s.loop ev = some ⟨r.1.callback, ev.1, epollToXsanEvents ev.2, r.1.userData⟩ := by
      rw [pollEvent, hentry]
      exact if_pos hcb
    rw [xsanEventLoopPoll, List.filterMap_cons_some hpoll]
    exact .cons ⟨r, hr, rfl⟩ (ih fun ev' hev' => hw ev' (List.mem_cons_of_mem _ hev'))

/-- After any run of calls from a new loop, a poll whose ready events are on
descriptors the kernel watches returns their number and runs, for each event
in order, the callback and `user_data` that the last call on its descriptor
that returned `XSAN_OK` registered, told of the event's mask: no event is
dropped or sent elsewhere. -/
theorem poll_runs_registered_callbacks {fuel : ℕ} {maxEventsPerPoll : ℤ}
    {mallocOk epollOk eventsBufOk callocOk : Bool} {fuel₀ : ℕ} {loop : XsanEventLoop}
    (hcreate : xsanEventLoopCreate maxEventsPerPoll mallocOk epollOk eventsBufOk callocOk fuel₀ = some loop)
    {calls : List SystemCall} {s' : EventSystem} {codes : List ℤ}
    (hrun : eventSystemRun fuel ⟨loop, fun _ => none⟩ calls = some (s', codes))
    (events : List (ℤ × UInt32)) (hw : ∀ ev ∈ events, s'.interest ev.1 ≠ none) :
    (xsanEventLoopPoll s'.loop (.ready events)).1 = events.length ∧
      List.Forall₂ (PolledAs (registrations (fun _ => none) calls codes)) events
        (xsanEventLoopPoll s'.loop (.ready events)).2 := by
  rw [xsanEventLoopCreate_eq_some hcreate] at hrun
  exact ⟨rfl, xsanEventLoopPoll_agrees (eventSystemRun_agrees_from eventAgrees_create hrun) events hw⟩

/-- After the sample calls, a ready read on descriptor 5 runs the callback of
the `modify_fd`, the last call on it that returned `XSAN_OK`. -/
theorem poll_runs_registered_callbacks_sample :
    xsanEventLoopCreate 64 true true true true 20 = some ⟨some (List.replicate 1024 .zero), 1024⟩ ∧
      ∃ s' codes, eventSystemRun 20 ⟨⟨some (List.replicate 1024 .zero), 1024⟩, fun _ => none⟩
          sampleSystemCalls = some (s', codes) ∧
        (∀ ev ∈ [((5 : ℤ), epollin)], s'.interest ev.1 ≠ none) ∧
        ((xsanEventLoopPoll s'.loop (.ready [(5, epollin)])).1 = [((5 : ℤ), epollin)].length ∧
          List.Forall₂ (PolledAs (registrations (fun _ => none) sampleSystemCalls codes))
            [(5, epollin)] (xsanEventLoopPoll s'.loop (.ready [(5, epollin)])).2) := by
  have hcreate := xsanEventLoopCreate_of_pos (by decide : (0 : ℤ) < 64) 20
  refine ⟨hcreate, _, _, rfl, ?_, poll_runs_registered_callbacks hcreate rfl _ ?_⟩ <;>
    · intro ev hev
      rw [List.mem_singleton.mp hev]
      decide

end Xsan
