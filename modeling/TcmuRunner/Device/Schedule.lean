import TcmuRunner.Device.State

/-!
# Running a schedule

`step s t op` is the step thread `t` takes when the scheduler picks it with the environment's
choice `op` (a drain or `open()` result, whether `pthread_create` worked and which identity it
handed out), or `none` when `t` cannot take it from where it is. `run` plays a schedule.

`step_sound` / `run_sound`: every step `step` takes is a `Step`, so every state a schedule from
`init` reaches is `Reachable`. A concrete interleaving is then written as a list of choices and
evaluated, instead of as a chain of `Step` constructors.
-/

namespace TcmuRunner.Device

/-- What the scheduler lets a thread do, with the environment's choices. -/
inductive Op
  | born
  | devInRecovery
  /-- `tcmu_reopen_dev`, from an outside thread or from the lock thread. -/
  | reopenDev
  | notifyConnLost (ok : Bool) (w : Tid)
  | notifyLockLost
  /-- `tcmu_cancel_lock_thread`'s critical section, called directly or from a run. -/
  | cancelLockThread
  | cancelRecovery
  /-- Read a thread handle and call `pthread_join` on it. -/
  | joinCall
  | joinReturn
  | poll
  | shutDown
  | resetTpgs
  | drain (ret : Int)
  | resetLock
  | close
  | openReturn (ret : Int)
  | acquireLock (ok : Bool) (w : Tid)
  | lockDone (locked : Bool)
  deriving DecidableEq, Repr

/-- The step of thread `t` for `op`, if its place allows it. -/
def step (s : St) (t : Tid) : Op → Option St
  | .born => match s.pc t with
    | .unborn => some (s.setPc t (.idle 0))
    | _ => none
  | .devInRecovery => match s.pc t with
    | .idle _ => some (tcmuDevInRecovery s t)
    | _ => none
  | .reopenDev => match s.pc t with
    | .idle _ => some (tcmuReopenDev s t .api)
    | .lockBody _ => some (tcmuReopenDev s t .lockPath)
    | _ => none
  | .notifyConnLost ok w => match s.pc t, s.pc w with
    | .idle _, .unborn => some (tcmuNotifyConnLost s t ok w)
    | _, _ => none
  | .notifyLockLost => match s.pc t with
    | .idle _ => some (tcmuNotifyLockLost s t)
    | _ => none
  | .cancelLockThread => match s.pc t with
    | .idle _ => some (tcmuCancelLockThread s t none)
    | .reopen c .cancelLock => some (tcmuCancelLockThread s t (some c))
    | _ => none
  | .cancelRecovery => match s.pc t with
    | .idle _ => some (tcmuCancelRecovery s t)
    | _ => none
  | .joinCall => match s.pc t with
    | .lockJoinCall k => some ((s.callJoin t s.lockThread).setPc t (.lockJoin k s.lockThread))
    | .recoveryJoinCall =>
      some ((s.callJoin t s.recoveryThread).setPc t (.recoveryJoin s.recoveryThread))
    | _ => none
  | .joinReturn => match s.pc t with
    | .lockJoin k h => (pthreadJoin s t h).map fun r => r.1.setPc t (lockCancelled k r.2)
    | .recoveryJoin h => (pthreadJoin s t h).map fun r => r.1.setPc t (.recoveryPoll r.2)
    | _ => none
  | .poll => match s.pc t with
    | .recoveryPoll ret => some (cancelRecoveryPoll s t ret)
    | _ => none
  | .shutDown => match s.pc t with
    | .idle _ => some (setShuttingDown s t)
    | _ => none
  | .resetTpgs => match s.pc t with
    | .recoveryStart => some (s.setPc t (.reopen .recovery .drain))
    | _ => none
  | .drain ret => match s.pc t with
    | .reopen c .drain => some (reopenDrain s t c ret)
    | _ => none
  | .resetLock => match s.pc t with
    | .reopen c .resetLock => some (reopenResetLock s t c)
    | _ => none
  | .close => match s.pc t with
    | .reopen c .inClose => some (reopenClose s t c)
    | _ => none
  | .openReturn ret => match s.pc t with
    | .reopen c .inOpen => some (reopenOpen s t c ret)
    | _ => none
  | .acquireLock ok w => match s.pc t, s.pc w with
    | .idle _, .unborn => some (acquireLock s t ok w)
    | _, _ => none
  | .lockDone locked => match s.pc t with
    | .lockBody _ => some (lockThreadDone s t locked)
    | _ => none

/-- Play a schedule: each entry names the thread and its step. -/
def run (s : St) : List (Tid × Op) → Option St
  | [] => some s
  | (t, op) :: rest => (step s t op).bind fun s' => run s' rest

/-- Every step the scheduler takes is a step of the system. -/
theorem step_sound {s s' : St} {t : Tid} {op : Op} (h : step s t op = some s') : Step s s' := by
  cases op <;> simp only [step] at h <;> split at h <;> (try exact Option.noConfusion h) <;>
    (try obtain rfl := Option.some.inj h)
  · exact .born ‹_›
  · exact .devInRecovery ‹_›
  · exact .reopenDev ‹_›
  · exact .lockPathReopen ‹_›
  · exact .notifyConnLost _ ‹_› ‹_›
  · exact .notifyLockLost ‹_›
  · exact .cancelLockThread ‹_›
  · exact .reopenCancelLock ‹_›
  · exact .cancelRecovery ‹_›
  · exact .lockJoinCall ‹_›
  · exact .recoveryJoinCall ‹_›
  · obtain ⟨⟨s₁, ret⟩, hj, rfl⟩ := Option.map_eq_some'.mp h
    exact .lockJoinReturn ‹_› hj
  · obtain ⟨⟨s₁, ret⟩, hj, rfl⟩ := Option.map_eq_some'.mp h
    exact .recoveryJoinReturn ‹_› hj
  · exact .recoveryPoll ‹_›
  · exact .shutDown ‹_›
  · exact .resetTpgs ‹_›
  · exact .drain _ ‹_›
  · exact .resetLock ‹_›
  · exact .close ‹_›
  · exact .reopenOpen _ ‹_›
  · exact .acquireLock _ ‹_› ‹_›
  · exact .lockDone _ ‹_›

theorem run_sound {s s' : St} {ops : List (Tid × Op)} (h : run s ops = some s') :
    Relation.ReflTransGen Step s s' := by
  induction ops generalizing s with
  | nil => cases h; exact .refl
  | cons e rest ih =>
    obtain ⟨s₁, h₁, h₂⟩ := Option.bind_eq_some.mp h
    exact .head (step_sound h₁) (ih h₂)

/-- A state a schedule reaches from `init` is reachable. -/
theorem reachable_of_run {s : St} {ops : List (Tid × Op)} (h : run init ops = some s) :
    Reachable s :=
  run_sound h

end TcmuRunner.Device
