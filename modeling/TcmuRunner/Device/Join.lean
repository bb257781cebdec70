import TcmuRunner.Device.Schedule

/-!
# Joining the recovery and lock threads (`tcmur_device.c:126-247`)

`tcmu_cancel_recovery` joins `rdev->recovery_thread` whenever it finds `IN_RECOVERY` set, and
`tcmu_cancel_lock_thread` joins `rdev->lock_thread` whenever it finds `LOCKING`. Neither flag says
that the handle holds a thread this caller may join:

* `IN_RECOVERY` is also set by `tcmu_reopen_dev`, which creates no thread, so a teardown racing a
  reconfigure joins a handle no `pthread_create` ever wrote.
* A recovery thread is joined only by `tcmu_cancel_recovery`, so after one recovery has finished,
  the next connection loss stores a new thread over the old one, which nobody will ever join.
* `LOCKING` is exactly when the lock thread runs, and the lock thread itself may call
  `tcmu_reopen_dev` (the comment at lines 72-76 provides for it): its run then joins the lock
  thread, that is, itself.
* A run of `__tcmu_reopen_dev` and a direct `tcmu_cancel_lock_thread` both find `LOCKING` and join
  the same lock thread.

`recovery_thread_handle_misused` shows the first two and `lock_thread_join_misused` the last two,
each by a schedule from `init` played by `run`.
-/

namespace TcmuRunner.Device

/-- **The recovery-thread handle is not used linearly.** A teardown racing a reconfigure calls
`pthread_join` on a `rdev->recovery_thread` no thread was stored in; and after a recovery thread
has returned unjoined, a second connection loss stores a new thread over it. -/
theorem recovery_thread_handle_misused :
    (∃ s, Reachable s ∧ s.recoveryThread = none ∧ s.pc 1 = .recoveryJoin none) ∧
      ∃ s, Reachable s ∧ s.recoveryThread = some 2 ∧ s.pc 2 = .exited ∧
        Step s (tcmuNotifyConnLost s 0 true 3) ∧
        (tcmuNotifyConnLost s 0 true 3).recoveryThread = some 3 := by
  refine ⟨⟨_, reachable_of_run (rfl : run init [(0, .born), (1, .born), (0, .reopenDev),
    (1, .cancelRecovery), (1, .joinCall)] = some _), rfl, rfl⟩, ?_⟩
  refine ⟨_, reachable_of_run (rfl : run init [(0, .born), (0, .notifyConnLost true 2),
    (2, .resetTpgs), (2, .drain 1)] = some _), rfl, rfl, .notifyConnLost true rfl rfl, rfl⟩

/-- **The lock thread is joined by itself, and twice.** The lock thread's own `tcmu_reopen_dev`
ends up in `pthread_join` on the lock thread; and a reconfigure's run and a direct
`tcmu_cancel_lock_thread` are both in `pthread_join` on the same lock thread. -/
theorem lock_thread_join_misused :
    (∃ s, Reachable s ∧ s.lockThread = some 5 ∧ s.pc 5 = .lockJoin (some .lockPath) (some 5)) ∧
      ∃ s, Reachable s ∧ s.pc 0 = .lockJoin (some .api) (some 5) ∧ s.pc 1 = .lockJoin none (some 5) := by
  refine ⟨⟨_, reachable_of_run (rfl : run init [(0, .born), (0, .acquireLock true 5),
    (5, .reopenDev), (5, .drain 0), (5, .cancelLockThread), (5, .joinCall)] = some _), rfl, rfl⟩,
    ⟨_, reachable_of_run (rfl : run init [(0, .born), (1, .born), (0, .acquireLock true 5),
    (0, .reopenDev), (0, .drain 0), (0, .cancelLockThread), (0, .joinCall), (1, .cancelLockThread),
    (1, .joinCall)] = some _), rfl, rfl⟩⟩

end TcmuRunner.Device
