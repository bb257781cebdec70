import Mathlib.Logic.Relation

/-!
# The device record and its threads (`src/tcmur_device.c`)

Model of the recovery and lock-cancellation code of `tcmur_device.c`: `tcmu_dev_in_recovery`,
`__tcmu_reopen_dev`, `tcmu_reopen_dev`, `tcmu_cancel_recovery`, `tcmu_notify_conn_lost`,
`tcmu_notify_lock_lost` and `tcmu_cancel_lock_thread`, as a transition system over the fields of
`struct tcmur_device` they touch and the places of any number of threads.

* Every `state_lock` critical section is one atomic step. So is each call that runs without the
  lock: the queue drain (`aio_wait_for_empty_queue`, any result), the handler's `close()` and
  `open()` (`open()` with any result), the read of a thread handle, and `pthread_join`.
* A thread's place (`Pc`) says which function it is in and where. A `__tcmu_reopen_dev` run
  remembers its caller (`Caller`): it returns to an outside thread, to the lock thread, or to the
  end of the recovery thread.
* `pthread_create` hands out an identity never used before (an `unborn` one). `pthread_join`
  blocks while its target runs, on the target's exit futex, which the kernel wakes for the first
  waiter only (`joinWaiter`); a target that has returned is reclaimed (`joined`) by the first of
  its joiners to return. A thread queued behind another, or still in a `pthread_join` of a thread
  another joiner reclaimed, has lost its join (`joinLost`): POSIX leaves a second join undefined,
  and glibc 2.36 leaves that joiner blocked on the futex. Joining oneself returns `EDEADLK`, and
  a handle that names no joinable thread, when the join is called, returns `ESRCH`: POSIX leaves
  both undefined, and glibc reports them so.

Three pieces of the system are not in `src/`, and are modelled from the spec: the body of the
recovery thread (`tcmu_reset_tpgs`, one `__tcmu_reopen_dev` run of the device), the lock thread
(spawned by a lock acquisition while `UNLOCKED`; it may call `tcmu_reopen_dev` from the lock code
path, and ends by setting `LOCKED` or `UNLOCKED`), and the teardown that sets `SHUTTING_DOWN`.

`Step` is the one-step relation of the whole system and `Reachable` its closure from `init`, the
record of a device just registered and opened.
-/

namespace TcmuRunner.Device

/-- A thread identity. -/
abbrev Tid := Nat

/-- `ESRCH`. -/
def ESRCH : Int := 3

/-- `EIO`. -/
def EIO : Int := 5

/-- `EBUSY`. -/
def EBUSY : Int := 16

/-- `EDEADLK`. -/
def EDEADLK : Int := 35

/-- `TCMUR_DEV_LOCK_*`. -/
inductive LockState
  | unlocked
  | locking
  | locked
  deriving DecidableEq, Repr

/-- Who called `__tcmu_reopen_dev`. -/
inductive Caller
  /-- `tcmu_reopen_dev`, from an outside thread (a reconfigure). -/
  | api
  /-- `tcmu_reopen_dev`, from the lock thread. -/
  | lockPath
  /-- The recovery thread `tcmu_notify_conn_lost` spawned. -/
  | recovery
  deriving DecidableEq, Repr

/-- A point of `__tcmu_reopen_dev` (`tcmur_device.c:46-105`) between two atomic steps. -/
inductive ReopenAt
  /-- Line 53: about to drain the queue, then take the lock (lines 55-63). -/
  | drain
  /-- Line 70: about to call `tcmu_cancel_lock_thread`. -/
  | cancelLock
  /-- Lines 77-80: about to force `lock_state` to `UNLOCKED`. -/
  | resetLock
  /-- Line 83: in `rhandler->close`. -/
  | inClose
  /-- Line 92: in `rhandler->open`. -/
  | inOpen
  deriving DecidableEq, Repr

/-- Where a thread is. -/
inductive Pc
  /-- Not started: `pthread_create` may hand this identity out. -/
  | unborn
  /-- An outside thread between calls; `ret` is what its last call returned. -/
  | idle (ret : Int)
  /-- A spawned thread that returned and was not joined. -/
  | exited
  /-- A thread `pthread_join` reclaimed. -/
  | joined
  /-- The recovery thread, in `tcmu_reset_tpgs` before its `__tcmu_reopen_dev`. -/
  | recoveryStart
  /-- The lock thread in the lock code; `ret` is what its last `tcmu_reopen_dev` returned. -/
  | lockBody (ret : Int)
  /-- In a `__tcmu_reopen_dev` run of caller `c`. -/
  | reopen (c : Caller) (loc : ReopenAt)
  /-- In `tcmu_cancel_lock_thread` after its critical section, about to read
  `rdev->lock_thread` (line 243). `k` is the run it was called from, `none` for a direct call. -/
  | lockJoinCall (k : Option Caller)
  /-- In `pthread_join(h)` of `tcmu_cancel_lock_thread`. -/
  | lockJoin (k : Option Caller) (h : Option Tid)
  /-- In `tcmu_cancel_recovery` after its first critical section, about to read
  `rdev->recovery_thread` (line 145). -/
  | recoveryJoinCall
  /-- In `pthread_join(h)` of `tcmu_cancel_recovery`. -/
  | recoveryJoin (h : Option Tid)
  /-- In the polling loop of `tcmu_cancel_recovery` (lines 153-158), `ret` from the join. -/
  | recoveryPoll (ret : Int)
  deriving DecidableEq, Repr

/-- The fields of `struct tcmur_device` these functions touch, and where every thread is. -/
structure St where
  /-- `TCMUR_DEV_FLAG_IN_RECOVERY`. -/
  inRecovery : Bool
  /-- `TCMUR_DEV_FLAG_SHUTTING_DOWN`. -/
  shuttingDown : Bool
  /-- `TCMUR_DEV_FLAG_IS_OPEN`. -/
  isOpen : Bool
  /-- `rdev->lock_state`. -/
  lockState : LockState
  /-- `rdev->recovery_thread`; `none` until a `pthread_create` writes it. -/
  recoveryThread : Option Tid
  /-- `rdev->lock_thread`. -/
  lockThread : Option Tid
  /-- Where each thread is. -/
  pc : Tid → Pc
  /-- The first thread to wait in `pthread_join` on each thread's exit. -/
  joinWaiter : Tid → Option Tid
  /-- The threads whose `pthread_join` never returns: queued behind another waiter, or left in a
  join of a thread another joiner reclaimed. -/
  joinLost : Tid → Bool

/-- A device just registered and opened: no thread has started. -/
def init : St where
  inRecovery := false
  shuttingDown := false
  isOpen := true
  lockState := .unlocked
  recoveryThread := none
  lockThread := none
  pc := fun _ => .unborn
  joinWaiter := fun _ => none
  joinLost := fun _ => false

/-- Returned: a thread with nothing left to do. -/
def Pc.finished : Pc → Bool
  | .exited | .joined => true
  | _ => false

/-- Started and not returned: a `pthread_join` of it waits. -/
def Pc.running : Pc → Bool
  | .unborn | .exited | .joined => false
  | _ => true

/-- The handle a thread in `pthread_join` joins. -/
def Pc.joinTarget : Pc → Option (Option Tid)
  | .lockJoin _ h | .recoveryJoin h => some h
  | _ => none

namespace St

/-- Thread `t` moves to `p`. -/
def setPc (s : St) (t : Tid) (p : Pc) : St := { s with pc := fun u => if u = t then p else s.pc u }

variable (s : St) (t u : Tid) (p : Pc)

theorem setPc_pc : (s.setPc t p).pc u = if u = t then p else s.pc u := rfl

@[simp] theorem setPc_pc_self : (s.setPc t p).pc t = p := if_pos rfl

@[simp] theorem setPc_inRecovery : (s.setPc t p).inRecovery = s.inRecovery := rfl
@[simp] theorem setPc_shuttingDown : (s.setPc t p).shuttingDown = s.shuttingDown := rfl
@[simp] theorem setPc_isOpen : (s.setPc t p).isOpen = s.isOpen := rfl
@[simp] theorem setPc_lockState : (s.setPc t p).lockState = s.lockState := rfl
@[simp] theorem setPc_recoveryThread : (s.setPc t p).recoveryThread = s.recoveryThread := rfl
@[simp] theorem setPc_lockThread : (s.setPc t p).lockThread = s.lockThread := rfl
@[simp] theorem setPc_joinWaiter : (s.setPc t p).joinWaiter = s.joinWaiter := rfl
@[simp] theorem setPc_joinLost : (s.setPc t p).joinLost = s.joinLost := rfl

/-- The thread `t`'s `pthread_join(h)` waits on: the target, if it is another thread and runs. -/
def waitsOn (s : St) (t : Tid) : Option Tid → Option Tid
  | some w => if w ≠ t ∧ (s.pc w).running then some w else none
  | none => none

/-- `t` calls `pthread_join(h)`. Where it waits, it becomes the target's first waiter, or, if the
target has one already, it has lost its join: the kernel will wake the first. -/
def callJoin (s : St) (t : Tid) (h : Option Tid) : St :=
  { s with
    joinWaiter := fun w =>
      if s.waitsOn t h = some w ∧ s.joinWaiter w = none then some t else s.joinWaiter w
    joinLost := fun u => s.joinLost u || (u == t && ((s.waitsOn t h).bind s.joinWaiter).isSome) }

theorem callJoin_joinLost (h : Option Tid) : (s.callJoin t h).joinLost u =
    (s.joinLost u || (u == t && ((s.waitsOn t h).bind s.joinWaiter).isSome)) := rfl

/-- `t`'s `pthread_join` reclaims the returned thread `w`: `w` is joined, and every other thread
then in a `pthread_join` of `w` has lost its join. -/
def reclaim (s : St) (t w : Tid) : St :=
  ({ s with joinLost := fun u => s.joinLost u || (u != t && (s.pc u).joinTarget == some (some w)) } :
    St).setPc w .joined

theorem reclaim_pc : (s.reclaim t u).pc = (s.setPc u .joined).pc := rfl

theorem reclaim_joinLost (w : Tid) : (s.reclaim t u).joinLost w =
    (s.joinLost w || (w != t && (s.pc w).joinTarget == some (some u))) := rfl

@[simp] theorem reclaim_inRecovery : (s.reclaim t u).inRecovery = s.inRecovery := rfl
@[simp] theorem reclaim_shuttingDown : (s.reclaim t u).shuttingDown = s.shuttingDown := rfl
@[simp] theorem reclaim_isOpen : (s.reclaim t u).isOpen = s.isOpen := rfl
@[simp] theorem reclaim_lockState : (s.reclaim t u).lockState = s.lockState := rfl
@[simp] theorem reclaim_recoveryThread : (s.reclaim t u).recoveryThread = s.recoveryThread := rfl
@[simp] theorem reclaim_lockThread : (s.reclaim t u).lockThread = s.lockThread := rfl

end St

/-! ## The functions, one critical section or call at a time -/

/-- Where `__tcmu_reopen_dev` returns `ret` to: the outside caller of `tcmu_reopen_dev`, the lock
code, or the end of the recovery thread (`dev_recovery_thread_fn` returns `NULL`). -/
def Caller.ret : Caller → Int → Pc
  | .api, ret => .idle ret
  | .lockPath, ret => .lockBody ret
  | .recovery, _ => .exited

/-- `tcmu_dev_in_recovery` (`tcmur_device.c:31-41`). -/
def tcmuDevInRecovery (s : St) (t : Tid) : St :=
  s.setPc t (.idle (if s.inRecovery then 1 else 0))

/-- `tcmu_reopen_dev` (`tcmur_device.c:111-124`): `-EBUSY` while `IN_RECOVERY` is set, else set
it and run `__tcmu_reopen_dev`. -/
def tcmuReopenDev (s : St) (t : Tid) (c : Caller) : St :=
  if s.inRecovery then s.setPc t (c.ret (-EBUSY))
  else { s with inRecovery := true }.setPc t (.reopen c .drain)

/-- `done:` of `__tcmu_reopen_dev` (lines 100-104): clear `IN_RECOVERY` and return `ret`. -/
def reopenDone (s : St) (t : Tid) (c : Caller) (ret : Int) : St :=
  { s with inRecovery := false }.setPc t (c.ret ret)

/-- Lines 53-63 of `__tcmu_reopen_dev`: the drain returned `ret`; under the lock, a failed drain
or a shutdown ends the run. -/
def reopenDrain (s : St) (t : Tid) (c : Caller) (ret : Int) : St :=
  if ret ≠ 0 then reopenDone s t c ret
  else if s.shuttingDown then reopenDone s t c 0
  else s.setPc t (.reopen c .cancelLock)

/-- Where `tcmu_cancel_lock_thread` returns `ret` to: an outside caller, or line 77 of the run
that called it (which ignores `ret`). -/
def lockCancelled : Option Caller → Int → Pc
  | none, ret => .idle ret
  | some c, _ => .reopen c .resetLock

/-- `tcmu_cancel_lock_thread` (`tcmur_device.c:226-247`), its critical section: return `0`
unless the lock is being taken, else go on to join the lock thread. -/
def tcmuCancelLockThread (s : St) (t : Tid) (k : Option Caller) : St :=
  if s.lockState ≠ .locking then s.setPc t (lockCancelled k 0) else s.setPc t (.lockJoinCall k)

/-- `pthread_join(h)` by `t` returning, with its result; `none` while the target runs, and for
good once `t` has lost its join. -/
def pthreadJoin (s : St) (t : Tid) : Option Tid → Option (St × Int)
  | none => some (s, ESRCH)
  | some w =>
    if w = t then some (s, EDEADLK)
    else if s.joinLost t then none
    else match s.pc w with
      | .exited => some (s.reclaim t w, 0)
      | .unborn | .joined => some (s, ESRCH)
      | _ => none

/-- Lines 77-80 of `__tcmu_reopen_dev`: force `UNLOCKED` unless the lock is being taken, then
call `close()`. -/
def reopenResetLock (s : St) (t : Tid) (c : Caller) : St :=
  { s with lockState := if s.lockState ≠ .locking then .unlocked else s.lockState }.setPc t
    (.reopen c .inClose)

/-- `close()` returned (line 83); lines 85-88: clear `IS_OPEN`, `ret = -EIO`, and enter the open
loop unless shutting down. -/
def reopenClose (s : St) (t : Tid) (c : Caller) : St :=
  if s.shuttingDown then reopenDone { s with isOpen := false } t c (- EIO)
  else { s with isOpen := false }.setPc t (.reopen c .inOpen)

/-- `open()` returned `ret` (line 92); lines 94-98: set `IS_OPEN` on success, and loop again on
failure unless shutting down. -/
def reopenOpen (s : St) (t : Tid) (c : Caller) (ret : Int) : St :=
  let s' := if ret = 0 then { s with isOpen := true } else s
  if ret ≠ 0 ∧ s.shuttingDown = false then s'.setPc t (.reopen c .inOpen)
  else reopenDone s' t c ret

/-- `tcmu_cancel_recovery` (`tcmur_device.c:126-162`), its first critical section: return `0`
unless `IN_RECOVERY` is set, else go on to join `rdev->recovery_thread`. -/
def tcmuCancelRecovery (s : St) (t : Tid) : St :=
  if s.inRecovery then s.setPc t .recoveryJoinCall else s.setPc t (.idle 0)

/-- One pass of the polling loop of `tcmu_cancel_recovery` (lines 153-159): sleep on while
`IN_RECOVERY` is set, else return the join's result. -/
def cancelRecoveryPoll (s : St) (t : Tid) (ret : Int) : St :=
  if s.inRecovery then s else s.setPc t (.idle ret)

/-- `tcmu_notify_conn_lost` (`tcmur_device.c:179-202`): unless `IN_RECOVERY` is set, create the
recovery thread `w` into `rdev->recovery_thread` and, if that worked (`ok`), set `IN_RECOVERY`. -/
def tcmuNotifyConnLost (s : St) (t : Tid) (ok : Bool) (w : Tid) : St :=
  if s.inRecovery then s.setPc t (.idle 0)
  else if ok then
    (({ s with inRecovery := true, recoveryThread := some w } : St).setPc w .recoveryStart).setPc t
      (.idle 0)
  else s.setPc t (.idle 0)

/-- `tcmu_notify_lock_lost` (`tcmur_device.c:211-224`): `UNLOCKED` unless the lock is being
taken. -/
def tcmuNotifyLockLost (s : St) (t : Tid) : St :=
  { s with lockState := if s.lockState ≠ .locking then .unlocked else s.lockState }.setPc t
    (.idle 0)

/-- Modelled from the spec: the device teardown sets `SHUTTING_DOWN` under `state_lock` (the
spec's `ShuttingDown (terminal)`); its code is not in `src/`. -/
def setShuttingDown (s : St) (t : Tid) : St :=
  { s with shuttingDown := true }.setPc t (.idle 0)

/-- Modelled from the spec: a lock acquisition ("an optional handle to a running
lock-acquisition task", spawned on demand; its code is not in `src/`). From `UNLOCKED` it sets
`LOCKING` and creates the lock thread `w` into `rdev->lock_thread`, falling back to `UNLOCKED`
if the creation fails; otherwise it leaves the record alone. -/
def acquireLock (s : St) (t : Tid) (ok : Bool) (w : Tid) : St :=
  if s.lockState = .unlocked ∧ ok then
    (({ s with lockState := .locking, lockThread := some w } : St).setPc w (.lockBody 0)).setPc t
      (.idle 0)
  else s.setPc t (.idle 0)

/-- Modelled from the spec: the lock thread ends, leaving `LOCKED` or `UNLOCKED` (`locked`). -/
def lockThreadDone (s : St) (t : Tid) (locked : Bool) : St :=
  { s with lockState := if locked then .locked else .unlocked }.setPc t .exited

/-! ## The system -/

/-- One atomic step of one thread. -/
inductive Step : St → St → Prop
  /-- An outside thread comes along. -/
  | born {s t} : s.pc t = .unborn → Step s (s.setPc t (.idle 0))
  | devInRecovery {s t r} : s.pc t = .idle r → Step s (tcmuDevInRecovery s t)
  | reopenDev {s t r} : s.pc t = .idle r → Step s (tcmuReopenDev s t .api)
  /-- The lock thread calls `tcmu_reopen_dev`. -/
  | lockPathReopen {s t r} : s.pc t = .lockBody r → Step s (tcmuReopenDev s t .lockPath)
  | notifyConnLost {s t r w} (ok : Bool) :
      s.pc t = .idle r → s.pc w = .unborn → Step s (tcmuNotifyConnLost s t ok w)
  | notifyLockLost {s t r} : s.pc t = .idle r → Step s (tcmuNotifyLockLost s t)
  | cancelLockThread {s t r} : s.pc t = .idle r → Step s (tcmuCancelLockThread s t none)
  /-- Line 70 of `__tcmu_reopen_dev`. -/
  | reopenCancelLock {s t c} :
      s.pc t = .reopen c .cancelLock → Step s (tcmuCancelLockThread s t (some c))
  /-- Line 243: read `rdev->lock_thread` and join it. -/
  | lockJoinCall {s t k} : s.pc t = .lockJoinCall k →
      Step s ((s.callJoin t s.lockThread).setPc t (.lockJoin k s.lockThread))
  | lockJoinReturn {s t k h s' ret} : s.pc t = .lockJoin k h → pthreadJoin s t h = some (s', ret) →
      Step s (s'.setPc t (lockCancelled k ret))
  | cancelRecovery {s t r} : s.pc t = .idle r → Step s (tcmuCancelRecovery s t)
  /-- Line 145: read `rdev->recovery_thread` and join it. -/
  | recoveryJoinCall {s t} : s.pc t = .recoveryJoinCall →
      Step s ((s.callJoin t s.recoveryThread).setPc t (.recoveryJoin s.recoveryThread))
  | recoveryJoinReturn {s t h s' ret} : s.pc t = .recoveryJoin h →
      pthreadJoin s t h = some (s', ret) → Step s (s'.setPc t (.recoveryPoll ret))
  | recoveryPoll {s t ret} : s.pc t = .recoveryPoll ret → Step s (cancelRecoveryPoll s t ret)
  | shutDown {s t r} : s.pc t = .idle r → Step s (setShuttingDown s t)
  /-- The recovery thread reaches its `__tcmu_reopen_dev`. -/
  | resetTpgs {s t} : s.pc t = .recoveryStart → Step s (s.setPc t (.reopen .recovery .drain))
  | drain {s t c} (ret : Int) : s.pc t = .reopen c .drain → Step s (reopenDrain s t c ret)
  | resetLock {s t c} : s.pc t = .reopen c .resetLock → Step s (reopenResetLock s t c)
  | close {s t c} : s.pc t = .reopen c .inClose → Step s (reopenClose s t c)
  | reopenOpen {s t c} (ret : Int) : s.pc t = .reopen c .inOpen → Step s (reopenOpen s t c ret)
  | acquireLock {s t r w} (ok : Bool) :
      s.pc t = .idle r → s.pc w = .unborn → Step s (acquireLock s t ok w)
  | lockDone {s t r} (locked : Bool) : s.pc t = .lockBody r → Step s (lockThreadDone s t locked)

/-- The states some interleaving reaches from `init`. -/
def Reachable (s : St) : Prop := Relation.ReflTransGen Step init s

end TcmuRunner.Device
