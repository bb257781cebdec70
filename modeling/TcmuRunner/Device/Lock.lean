import TcmuRunner.Device.Recovery
import TcmuRunner.Device.Schedule

/-!
# The lock thread and `lock_state` (`tcmur_device.c:46-105`, `204-247`)

`lock_state` is `LOCKING` from the lock acquisition that creates the lock thread until that
thread ends. Nothing in `tcmur_device.c` moves it out of `LOCKING`: `tcmu_notify_lock_lost` and
lines 77-80 of `__tcmu_reopen_dev` force `UNLOCKED` only when it is not `LOCKING`, and a lock
acquisition starts only from `UNLOCKED`. So `LOCKING` is held by the lock thread for its whole
life, in the lock code and in any `tcmu_reopen_dev` it calls from there, and
`rdev->lock_thread` names it. `LockInv` says so, with what a thread past the critical section
of `tcmu_cancel_lock_thread` reads and joins.

Results:
* `step_lockInv`, `reachable_lockInv`: every step keeps `LockInv`, so every reachable state has
  it.
* **`lock_thread_runs_while_locking`**: in every reachable state `LOCKING` is set exactly while a
  lock thread runs, `rdev->lock_thread` names every lock thread that runs, so at most one does;
  and the `pthread_join` of `tcmu_cancel_lock_thread` is never given an unset handle (unlike the
  one of `tcmu_cancel_recovery`, `recovery_thread_handle_misused`).
* **`lock_path_run_joins_itself`**: every run the lock thread starts from the lock code, once
  past its check, finds `LOCKING` at line 70 and goes on to join `rdev->lock_thread`, which is
  the lock thread itself, so the join returns `EDEADLK`; and lines 77-80 of that run leave
  `LOCKING` set. The schedule of `lock_thread_join_misused` is one case of it.
-/

namespace TcmuRunner.Device

/-- The lock thread, running: in the lock code, or in a `tcmu_reopen_dev` it called from there
(the `__tcmu_reopen_dev` run, and the `tcmu_cancel_lock_thread` that run calls). -/
def Pc.lockAlive : Pc → Bool
  | .lockBody _ | .reopen .lockPath _ | .lockJoinCall (some .lockPath)
  | .lockJoin (some .lockPath) _ => true
  | _ => false

/-- Past the critical section of `tcmu_cancel_lock_thread`: about to read `rdev->lock_thread`,
or in `pthread_join` on it. -/
def Pc.joiningLock : Pc → Bool
  | .lockJoinCall _ | .lockJoin _ _ => true
  | _ => false

theorem Pc.reopen_lockAlive (c : Caller) (l l' : ReopenAt) :
    (Pc.reopen c l).lockAlive = (Pc.reopen c l').lockAlive := by
  cases c <;> rfl

theorem Caller.ret_lockAlive (c : Caller) (ret : Int) (l : ReopenAt) :
    (c.ret ret).lockAlive = (Pc.reopen c l).lockAlive := by
  cases c <;> rfl

theorem lockJoinCall_lockAlive (c : Caller) (l : ReopenAt) :
    (Pc.lockJoinCall (some c)).lockAlive = (Pc.reopen c l).lockAlive := by
  cases c <;> rfl

theorem lockCancelled_lockAlive (k : Option Caller) (ret : Int) (h : Option Tid) :
    (lockCancelled k ret).lockAlive = (Pc.lockJoin k h).lockAlive := by
  rcases k with _ | ⟨_ | _ | _⟩ <;> rfl

@[simp] theorem Caller.ret_joiningLock (c : Caller) (ret : Int) :
    (c.ret ret).joiningLock = false := by
  cases c <;> rfl

@[simp] theorem lockCancelled_joiningLock (k : Option Caller) (ret : Int) :
    (lockCancelled k ret).joiningLock = false := by
  cases k <;> rfl

/-- **`LOCKING` belongs to the lock thread.** -/
structure LockInv (s : St) : Prop where
  /-- A running lock thread finds `LOCKING`, and `rdev->lock_thread` names it. -/
  alive : ∀ w, (s.pc w).lockAlive → s.lockState = .locking ∧ s.lockThread = some w
  /-- While `LOCKING` is set a lock thread runs. -/
  running : s.lockState = .locking → ∃ w, (s.pc w).lockAlive
  /-- A thread that passed the critical section of `tcmu_cancel_lock_thread` reads a set handle. -/
  called : ∀ t k, s.pc t = .lockJoinCall k → s.lockThread.isSome
  /-- It joins a set handle; the lock thread's own run joins the lock thread. -/
  joins : ∀ t k h, s.pc t = .lockJoin k h → h.isSome ∧ (k = some .lockPath → h = some t)

theorem init_lockInv : LockInv init :=
  ⟨fun _ h => by simp [init, Pc.lockAlive] at h, fun h => by simp [init] at h,
    fun _ _ h => by simp [init] at h, fun _ _ _ h => by simp [init] at h⟩

namespace LockInv

variable {s s' : St} {t w : Tid} {p : Pc}

/-- Two running lock threads are one. -/
theorem unique (hi : LockInv s) (hw : (s.pc w).lockAlive) (ht : (s.pc t).lockAlive) : w = t :=
  Option.some.inj ((hi.alive w hw).2.symm.trans (hi.alive t ht).2)

/-- A step that changes neither `lock_state`, nor `rdev->lock_thread`, nor any thread's place. -/
theorem congr (hi : LockInv s) (h₁ : s'.lockState = s.lockState)
    (h₂ : s'.lockThread = s.lockThread) (h₃ : s'.pc = s.pc) : LockInv s' :=
  ⟨h₁ ▸ h₂ ▸ h₃ ▸ hi.alive, h₁ ▸ h₃ ▸ hi.running, h₂ ▸ h₃ ▸ hi.called, h₃ ▸ hi.joins⟩

/-- A thread moves without starting or ending the lock thread; if it moves into
`tcmu_cancel_lock_thread`'s join, what it reads and joins is as `LockInv` says. -/
theorem move (hi : LockInv s) (h₁ : p.lockAlive = (s.pc t).lockAlive)
    (h₂ : ∀ k, p = .lockJoinCall k → s.lockThread.isSome)
    (h₃ : ∀ k h, p = .lockJoin k h → h.isSome ∧ (k = some .lockPath → h = some t)) :
    LockInv (s.setPc t p) where
  alive u hu := by
    rw [St.setPc_pc] at hu
    split at hu
    · subst u; exact hi.alive t (h₁ ▸ hu)
    · exact hi.alive u hu
  running hl := (hi.running hl).imp fun u hu => by
    rw [St.setPc_pc]; split
    · subst u; rw [h₁]; exact hu
    · exact hu
  called u k hu := by
    rw [St.setPc_pc] at hu
    split at hu
    · exact h₂ k hu
    · exact hi.called u k hu
  joins u k h hu := by
    rw [St.setPc_pc] at hu
    split at hu
    · subst u; exact h₃ k h hu
    · exact hi.joins u k h hu

/-- A thread moves without starting or ending the lock thread, and not into
`tcmu_cancel_lock_thread`'s join. -/
theorem setPc (hi : LockInv s) (h₁ : p.lockAlive = (s.pc t).lockAlive) (h₂ : p.joiningLock = false) :
    LockInv (s.setPc t p) :=
  hi.move h₁ (fun _ e => by simp [e, Pc.joiningLock] at h₂)
    (fun _ _ e => by simp [e, Pc.joiningLock] at h₂)

/-- Outside `LOCKING` no lock thread runs. -/
theorem not_alive (hi : LockInv s) (hl : s.lockState ≠ .locking) (u : Tid) :
    (s.pc u).lockAlive = false :=
  Bool.eq_false_iff.mpr fun hu => hl (hi.alive u hu).1

/-- Outside `LOCKING`, `lock_state` may be set to anything but `LOCKING`. -/
theorem setLockState (hi : LockInv s) (hl : s.lockState ≠ .locking) {l : LockState}
    (hl' : l ≠ .locking) : LockInv { s with lockState := l } :=
  ⟨fun u hu => by simp [hi.not_alive hl u] at hu, fun h => absurd h hl', hi.called, hi.joins⟩

/-- `tcmu_notify_lock_lost` and lines 77-80 of `__tcmu_reopen_dev`: `UNLOCKED` unless `LOCKING`. -/
theorem unlockUnlessLocking (hi : LockInv s) :
    LockInv { s with lockState := if s.lockState ≠ .locking then .unlocked else s.lockState } := by
  by_cases hl : s.lockState = .locking
  · exact hi.congr (by simp [hl]) rfl rfl
  · simp only [if_pos hl]; exact hi.setLockState hl (by decide)

/-- A run ends and returns to its caller. -/
theorem reopenDone {c : Caller} {l : ReopenAt} {ret : Int} (hi : LockInv s)
    (ht : s.pc t = .reopen c l) : LockInv (Device.reopenDone s t c ret) :=
  LockInv.setPc (hi.congr rfl rfl rfl) (by rw [ht]; exact Caller.ret_lockAlive c ret l)
    (Caller.ret_joiningLock c ret)

/-- The critical section of `tcmu_cancel_lock_thread` found `LOCKING`, so the handle is set. -/
theorem enterJoinCall (hi : LockInv s) {k : Option Caller}
    (h₁ : (Pc.lockJoinCall k).lockAlive = (s.pc t).lockAlive) (hl : s.lockState = .locking) :
    LockInv (s.setPc t (.lockJoinCall k)) :=
  hi.move h₁ (fun _ _ => by obtain ⟨u, hu⟩ := hi.running hl; simp [(hi.alive u hu).2])
    (fun _ _ e => Pc.noConfusion e)

/-- Line 243 reads `rdev->lock_thread`: a set handle, the thread itself for the lock thread. -/
theorem enterJoin (hi : LockInv s) {k : Option Caller} (ht : s.pc t = .lockJoinCall k) :
    LockInv (s.setPc t (.lockJoin k s.lockThread)) :=
  hi.move (by rw [ht]; rcases k with _ | ⟨_ | _ | _⟩ <;> rfl) (fun _ e => Pc.noConfusion e)
    fun k' h e => by
      cases e
      exact ⟨hi.called t k ht, fun hk => (hi.alive t (by rw [ht, hk]; rfl)).2⟩

/-- `pthread_join` leaves `LockInv` and the caller's place alone. -/
theorem pthreadJoin {h : Option Tid} {ret : Int} (hi : LockInv s)
    (hj : Device.pthreadJoin s t h = some (s', ret)) : LockInv s' ∧ s'.pc t = s.pc t := by
  rcases pthreadJoin_cases hj with rfl | ⟨w, -, hw, he, -, rfl⟩
  · exact ⟨hi, rfl⟩
  · exact ⟨(hi.setPc (t := w) (p := .joined) (he ▸ rfl) rfl).congr rfl rfl rfl,
      by simp [St.reclaim_pc, St.setPc_pc, Ne.symm hw]⟩

/-- A lock acquisition from outside `LOCKING` starts the lock thread `w`. -/
theorem acquire {r : Int} (hi : LockInv s) (hl : s.lockState ≠ .locking) (ht : s.pc t = .idle r)
    (hw : s.pc w = .unborn) :
    LockInv ((({ s with lockState := .locking, lockThread := some w } : St).setPc w
      (.lockBody 0)).setPc t (.idle 0)) := by
  have htw : t ≠ w := fun e => by simp [e, hw] at ht
  refine ⟨fun u hu => ?_, fun _ => ⟨w, by simp [St.setPc_pc, Ne.symm htw, Pc.lockAlive]⟩,
    fun _ _ _ => rfl, fun u k h hu => ?_⟩
  · simp only [St.setPc_pc] at hu ⊢
    split at hu
    · simp [Pc.lockAlive] at hu
    · split at hu
      · exact ⟨rfl, by subst u; rfl⟩
      · simp [hi.not_alive hl u] at hu
  · simp only [St.setPc_pc] at hu
    split at hu
    · cases hu
    · split at hu
      · cases hu
      · exact hi.joins u k h hu

/-- The lock thread `t` ends, leaving `lock_state` anything but `LOCKING`. -/
theorem release (hi : LockInv s) (ht : (s.pc t).lockAlive) {l : LockState} (hl : l ≠ .locking)
    (hp : p.lockAlive = false) (hpj : p.joiningLock = false) :
    LockInv (({ s with lockState := l } : St).setPc t p) := by
  refine ⟨fun u hu => ?_, fun h => absurd h hl, fun u k hu => ?_, fun u k h hu => ?_⟩
  all_goals (rw [St.setPc_pc] at hu; split at hu)
  · simp [hp] at hu
  · exact absurd (hi.unique hu ht) ‹_›
  · simp [hu, Pc.joiningLock] at hpj
  · exact hi.called u k hu
  · simp [hu, Pc.joiningLock] at hpj
  · exact hi.joins u k h hu

end LockInv

/-- Every step keeps `LockInv`. -/
theorem step_lockInv {s s' : St} (hst : Step s s') (hi : LockInv s) : LockInv s' := by
  cases hst with
  | born h | devInRecovery h | resetTpgs h => exact hi.setPc (h ▸ rfl) rfl
  | recoveryJoinCall h => exact LockInv.setPc (hi.congr rfl rfl rfl) (h ▸ rfl) rfl
  | shutDown h =>
    unfold setShuttingDown; exact LockInv.setPc (hi.congr rfl rfl rfl) (h ▸ rfl) rfl
  | notifyLockLost h =>
    unfold tcmuNotifyLockLost; exact LockInv.setPc hi.unlockUnlessLocking (h ▸ rfl) rfl
  | cancelRecovery h => unfold tcmuCancelRecovery; split <;> exact hi.setPc (h ▸ rfl) rfl
  | reopenDev h | lockPathReopen h =>
    unfold tcmuReopenDev; split <;> exact LockInv.setPc (hi.congr rfl rfl rfl) (h ▸ rfl) rfl
  | @notifyConnLost t _ w ok ht hw =>
    have htw : t ≠ w := fun e => by simp_all
    unfold tcmuNotifyConnLost; split
    · exact hi.setPc (ht ▸ rfl) rfl
    · split
      · exact LockInv.setPc (LockInv.setPc (hi.congr rfl rfl rfl) (hw ▸ rfl) rfl)
          (by rw [St.setPc_pc, if_neg htw, ht]; rfl) rfl
      · exact hi.setPc (ht ▸ rfl) rfl
  | acquireLock ok ht hw =>
    unfold acquireLock; split
    · next hc => exact hi.acquire (by rw [hc.1]; decide) ht hw
    · exact hi.setPc (ht ▸ rfl) rfl
  | cancelLockThread h =>
    unfold tcmuCancelLockThread; split
    · exact hi.setPc (h ▸ rfl) rfl
    · exact hi.enterJoinCall (h ▸ rfl) (of_not_not ‹_›)
  | reopenCancelLock h =>
    unfold tcmuCancelLockThread; split
    · exact hi.setPc (h ▸ Pc.reopen_lockAlive _ _ _) rfl
    · exact hi.enterJoinCall (h ▸ lockJoinCall_lockAlive _ _) (of_not_not ‹_›)
  | lockJoinCall h => exact LockInv.enterJoin (s := s.callJoin _ s.lockThread) (hi.congr rfl rfl rfl) h
  | lockJoinReturn h hj =>
    obtain ⟨hi', hpc⟩ := hi.pthreadJoin hj
    exact hi'.setPc (hpc ▸ h ▸ lockCancelled_lockAlive _ _ _) (lockCancelled_joiningLock _ _)
  | recoveryJoinReturn h hj =>
    obtain ⟨hi', hpc⟩ := hi.pthreadJoin hj
    exact hi'.setPc (hpc ▸ h ▸ rfl) rfl
  | recoveryPoll h =>
    unfold cancelRecoveryPoll; split
    · exact hi
    · exact hi.setPc (h ▸ rfl) rfl
  | drain ret h =>
    unfold reopenDrain; split
    · exact hi.reopenDone h
    · split
      · exact hi.reopenDone h
      · exact hi.setPc (h ▸ Pc.reopen_lockAlive _ _ _) rfl
  | resetLock h =>
    unfold reopenResetLock
    exact LockInv.setPc hi.unlockUnlessLocking (h ▸ Pc.reopen_lockAlive _ _ _) rfl
  | close h =>
    unfold reopenClose; split
    · exact LockInv.reopenDone (hi.congr rfl rfl rfl) h
    · exact LockInv.setPc (hi.congr rfl rfl rfl) (h ▸ Pc.reopen_lockAlive _ _ _) rfl
  | reopenOpen ret h =>
    have hi' : LockInv (if ret = 0 then { s with isOpen := true } else s) := by
      split <;> exact hi.congr rfl rfl rfl
    have hpc : (if ret = 0 then { s with isOpen := true } else s).pc = s.pc := by split <;> rfl
    dsimp only [Device.reopenOpen]; split
    · exact hi'.setPc (by rw [hpc, h]) rfl
    · exact hi'.reopenDone (by rw [hpc, h])
  | lockDone locked h =>
    unfold lockThreadDone
    exact hi.release (h ▸ rfl) (by cases locked <;> decide) rfl rfl

theorem reachable_lockInv {s : St} (hs : Reachable s) : LockInv s := by
  induction hs with
  | refl => exact init_lockInv
  | tail _ hst ih => exact step_lockInv hst ih

/-- **`LOCKING` is the lock thread's life.** In every reachable state, `LOCKING` is set exactly
while a lock thread runs; `rdev->lock_thread` names every lock thread that runs, so no two run at
once; and a thread in the `pthread_join` of `tcmu_cancel_lock_thread` joins a set handle. -/
theorem lock_thread_runs_while_locking {s : St} (hs : Reachable s) :
    (s.lockState = .locking ↔ ∃ w, (s.pc w).lockAlive) ∧
      (∀ w, (s.pc w).lockAlive → s.lockThread = some w) ∧
      (∀ w w', (s.pc w).lockAlive → (s.pc w').lockAlive → w = w') ∧
      ∀ t k h, s.pc t = .lockJoin k h → h.isSome := by
  have hi := reachable_lockInv hs
  exact ⟨⟨hi.running, fun ⟨w, hw⟩ => (hi.alive w hw).1⟩, fun w hw => (hi.alive w hw).2,
    fun _ _ => hi.unique, fun t k h ht => (hi.joins t k h ht).1⟩

/-- Lock thread 5 is in the join of the run it started, and thread 1 in the join of a direct
`tcmu_cancel_lock_thread`, both on lock thread 5. -/
theorem lock_thread_runs_while_locking_in_joins :
    let ops : List (Tid × Op) := [(0, .born), (1, .born), (0, .acquireLock true 5),
      (5, .reopenDev), (5, .drain 0), (5, .cancelLockThread), (5, .joinCall),
      (1, .cancelLockThread), (1, .joinCall)]
    let s := (run init ops).getD init
    Reachable s ∧ s.pc 5 = .lockJoin (some .lockPath) (some 5) ∧
      s.pc 1 = .lockJoin none (some 5) ∧
      ((s.lockState = .locking ↔ ∃ w, (s.pc w).lockAlive) ∧
        (∀ w, (s.pc w).lockAlive → s.lockThread = some w) ∧
        (∀ w w', (s.pc w).lockAlive → (s.pc w').lockAlive → w = w') ∧
        ∀ t k h, s.pc t = .lockJoin k h → h.isSome) := by
  intro ops s
  have hs : Reachable s := reachable_of_run (show run init ops = some s from rfl)
  exact ⟨hs, rfl, rfl, lock_thread_runs_while_locking hs⟩

/-- **The lock thread's own run joins itself.** In every reachable state, a run the lock thread
started from the lock code finds `LOCKING` at line 70 and goes on to join; the handle it joins is
its own thread, so `pthread_join` returns `EDEADLK`; and at lines 77-80 it finds `LOCKING` and
leaves it. -/
theorem lock_path_run_joins_itself {s : St} (hs : Reachable s) (t : Tid) :
    (s.pc t = .reopen .lockPath .cancelLock →
        tcmuCancelLockThread s t (some .lockPath) = s.setPc t (.lockJoinCall (some .lockPath))) ∧
      (∀ h, s.pc t = .lockJoin (some .lockPath) h → pthreadJoin s t h = some (s, EDEADLK)) ∧
      (s.pc t = .reopen .lockPath .resetLock →
        (reopenResetLock s t .lockPath).lockState = .locking) := by
  have hi := reachable_lockInv hs
  have hl : ∀ l, s.pc t = .reopen .lockPath l → s.lockState = .locking :=
    fun l ht => (hi.alive t (by rw [ht]; rfl)).1
  refine ⟨fun ht => by simp [tcmuCancelLockThread, hl _ ht], fun h ht => ?_,
    fun ht => by simp [reopenResetLock, hl _ ht]⟩
  obtain rfl := (hi.joins t _ h ht).2 rfl
  simp [pthreadJoin]

/-- Lock thread 5 in the join of the run it started. -/
theorem lock_path_run_joins_itself_in_join :
    let ops : List (Tid × Op) := [(0, .born), (0, .acquireLock true 5), (5, .reopenDev),
      (5, .drain 0), (5, .cancelLockThread), (5, .joinCall)]
    let s := (run init ops).getD init
    Reachable s ∧ s.pc 5 = .lockJoin (some .lockPath) (some 5) ∧
      ((s.pc 5 = .reopen .lockPath .cancelLock →
          tcmuCancelLockThread s 5 (some .lockPath) = s.setPc 5 (.lockJoinCall (some .lockPath))) ∧
        (∀ h, s.pc 5 = .lockJoin (some .lockPath) h → pthreadJoin s 5 h = some (s, EDEADLK)) ∧
        (s.pc 5 = .reopen .lockPath .resetLock →
          (reopenResetLock s 5 .lockPath).lockState = .locking)) := by
  intro ops s
  have hs : Reachable s := reachable_of_run (show run init ops = some s from rfl)
  exact ⟨hs, rfl, lock_path_run_joins_itself hs 5⟩

end TcmuRunner.Device
