import TcmuRunner.Device.Lock
import TcmuRunner.Device.Open

/-!
# The design's state machine, and the code refines it

The design describes the device record of `tcmur_device.c` by its flags alone: the device is
`Recovering` or not, `ShuttingDown` (terminal) or not, open or closed, and `lock_state` is
`Unlocked`, `Locking` or `Locked`. `Flags` is that record, and `Flags.next` what the design lets
happen to it, one `Event` at a time, each under its guard:

* `startRecovery`: `notify_conn_lost` spawns the recovery task, or `reopen` enters the
  sequence, only when not `Recovering`;
* `close`, `reopen`, `endRecovery`: steps (5)-(8) of the reopen sequence, only while
  `Recovering`. The backend's close clears `IsOpen` of an open device, a successful open sets it
  on a closed one, and the sequence ends with the device open or shutting down;
* `shutDown`: the teardown;
* `forceUnlock`: `notify_lock_lost`, and step (4) of the sequence: `Unlocked` unless `Locking`;
* `startLock`, `endLock`: a lock task is spawned from `Unlocked`, and ends `Locked` or
  `Unlocked`.

`St.flags` reads the record off the code's state. The code refines the design: from any
reachable state, a step of any thread moves the record by at most two events (`Flags.Moves`).
Two events happen in one critical section where the open loop sets `IS_OPEN` and leaves the
sequence, and where a run that returns from `close()` finds `SHUTTING_DOWN`. The guards are
what the invariants of `Recovery`, `Open` and `Lock` give.

Results:
* `step_flags`, `reachable_flags`: every step of the code is a run of the design, and every
  reachable record is reached by one from the design's initial record.
* **`code_refines_design`**: both, as one statement.
* `Flags.run_settled`, `Flags.run_shuttingDown`: along every run of the design, the device is
  open outside a recovery episode unless shutting down, and `ShuttingDown` stays set.
* **`design_guarantees`**: both hold of the code, in every reachable state and along every run
  from one.
-/

namespace TcmuRunner.Device

/-- The device record as the design describes it. -/
structure Flags where
  recovering : Bool
  shuttingDown : Bool
  isOpen : Bool
  lockState : LockState
  deriving DecidableEq, Repr

/-- What the design lets happen to the record. -/
inductive Event
  /-- `notify_conn_lost` spawns the recovery task, or `reopen` starts the sequence. -/
  | startRecovery
  /-- Steps (5)-(6) of the reopen sequence: the backend's close, `IsOpen` cleared. -/
  | close
  /-- Step (7): an open succeeded. -/
  | reopen
  /-- Step (8): the sequence ends. -/
  | endRecovery
  /-- The teardown sets `ShuttingDown`. -/
  | shutDown
  /-- `notify_lock_lost`, and step (4) of the sequence. -/
  | forceUnlock
  /-- A lock task is spawned. -/
  | startLock
  /-- The lock task ends, with the lock or without it. -/
  | endLock (locked : Bool)
  deriving DecidableEq, Repr

namespace Flags

/-- A device just registered and opened. -/
def init : Flags := ⟨false, false, true, .unlocked⟩

/-- One event, `none` where the design does not allow it. -/
def next (f : Flags) : Event → Option Flags
  | .startRecovery => if f.recovering then none else some { f with recovering := true }
  | .close => if f.recovering && f.isOpen then some { f with isOpen := false } else none
  | .reopen => if f.recovering && !f.isOpen then some { f with isOpen := true } else none
  | .endRecovery =>
    if f.recovering && (f.isOpen || f.shuttingDown) then some { f with recovering := false }
    else none
  | .shutDown => some { f with shuttingDown := true }
  | .forceUnlock =>
    some { f with lockState := if f.lockState ≠ .locking then .unlocked else f.lockState }
  | .startLock => if f.lockState = .unlocked then some { f with lockState := .locking } else none
  | .endLock locked =>
    if f.lockState = .locking then
      some { f with lockState := if locked then .locked else .unlocked }
    else none

/-- A run of the design: the events in order. -/
def run (f : Flags) : List Event → Option Flags
  | [] => some f
  | e :: es => (f.next e).bind fun f' => f'.run es

/-- A recovery episode closes and reopens the device, and leaves it as it found it. -/
example : init.run [.startRecovery, .close, .reopen, .endRecovery] = some init := rfl

/-- `f'` follows `f` by at most two events. -/
def Moves (f f' : Flags) : Prop := ∃ es : List Event, es.length ≤ 2 ∧ f.run es = some f'

theorem run_append (f : Flags) (es es' : List Event) :
    f.run (es ++ es') = (f.run es).bind fun f' => f'.run es' := by
  induction es generalizing f with
  | nil => rfl
  | cons e es ih => rw [List.cons_append, run, run, Option.bind_assoc]; simp only [ih]

/-- A property that every event keeps holds along every run. -/
theorem run_preserves (P : Flags → Prop) (hP : ∀ {f f' e}, f.next e = some f' → P f → P f') :
    ∀ {f f' : Flags} {es : List Event}, f.run es = some f' → P f → P f'
  | _, _, [], h, hf => Option.some.inj h ▸ hf
  | _, _, _ :: _, h, hf =>
    let ⟨_, h₁, h₂⟩ := Option.bind_eq_some.mp h
    run_preserves P hP h₂ (hP h₁ hf)

/-! ### The guards -/

variable {f : Flags}

theorem next_startRecovery (h : f.recovering = false) :
    f.next .startRecovery = some { f with recovering := true } := by
  simp [next, h]

theorem next_close (h₁ : f.recovering = true) (h₂ : f.isOpen = true) :
    f.next .close = some { f with isOpen := false } := by
  simp [next, h₁, h₂]

theorem next_reopen (h₁ : f.recovering = true) (h₂ : f.isOpen = false) :
    f.next .reopen = some { f with isOpen := true } := by
  simp [next, h₁, h₂]

theorem next_endRecovery (h₁ : f.recovering = true) (h₂ : (f.isOpen || f.shuttingDown) = true) :
    f.next .endRecovery = some { f with recovering := false } := by
  simp [next, h₁, h₂]

theorem next_startLock (h : f.lockState = .unlocked) :
    f.next .startLock = some { f with lockState := .locking } := by
  simp [next, h]

theorem next_endLock (locked : Bool) (h : f.lockState = .locking) :
    f.next (.endLock locked) = some { f with lockState := if locked then .locked else .unlocked } := by
  simp [next, h]

/-! ### What the design guarantees -/

/-- Outside a recovery episode the device is open, unless it is shutting down. -/
def settled (f : Flags) : Bool := f.recovering || f.isOpen || f.shuttingDown

theorem next_settled {f f' : Flags} {e : Event} (h : f.next e = some f') (hf : f.settled) :
    f'.settled := by
  cases e <;> simp only [next] at h <;> (try split at h) <;> cases h <;> simp_all [settled]

theorem next_shuttingDown {f f' : Flags} {e : Event} (h : f.next e = some f')
    (hf : f.shuttingDown = true) : f'.shuttingDown = true := by
  cases e <;> simp only [next] at h <;> (try split at h) <;> cases h <;> simp_all

theorem run_settled {f f' : Flags} {es : List Event} (h : f.run es = some f') (hf : f.settled) :
    f'.settled :=
  run_preserves (fun f => f.settled = true) next_settled h hf

theorem run_shuttingDown {f f' : Flags} {es : List Event} (h : f.run es = some f')
    (hf : f.shuttingDown = true) : f'.shuttingDown = true :=
  run_preserves (fun f => f.shuttingDown = true) next_shuttingDown h hf

/-! ### Moves -/

variable {f' f'' : Flags}

theorem Moves.stutter (h : f' = f) : Moves f f' := ⟨[], by simp, by rw [h]; rfl⟩

theorem Moves.one {e : Event} (h : f.next e = some f') : Moves f f' :=
  ⟨[e], by simp, by simp [run, h]⟩

theorem Moves.two {e e' : Event} (h : f.next e = some f'') (h' : f''.next e' = some f') :
    Moves f f' :=
  ⟨[e, e'], by simp, by simp [run, h, h']⟩

end Flags

/-- The record of the code's state. -/
def St.flags (s : St) : Flags := ⟨s.inRecovery, s.shuttingDown, s.isOpen, s.lockState⟩

@[simp] theorem St.flags_setPc (s : St) (t : Tid) (p : Pc) : (s.setPc t p).flags = s.flags := rfl

@[simp] theorem St.flags_recovering (s : St) : s.flags.recovering = s.inRecovery := rfl
@[simp] theorem St.flags_shuttingDown (s : St) : s.flags.shuttingDown = s.shuttingDown := rfl
@[simp] theorem St.flags_isOpen (s : St) : s.flags.isOpen = s.isOpen := rfl
@[simp] theorem St.flags_lockState (s : St) : s.flags.lockState = s.lockState := rfl

theorem pthreadJoin_flags {s s' : St} {t : Tid} {h : Option Tid} {ret : Int}
    (hj : pthreadJoin s t h = some (s', ret)) : s'.flags = s.flags := by
  rcases pthreadJoin_cases hj with rfl | ⟨w, -, -, -, -, rfl⟩ <;> rfl

/-! ## The refinement -/

/-- Every step of the code, from a reachable state, is at most two events of the design. -/
theorem step_flags {s s' : St} (hs : Reachable s) (hst : Step s s') : s.flags.Moves s'.flags := by
  have hr := reachable_recoveryInv hs
  have ho := reachable_openInv hs
  have hrec : ∀ {t c loc}, s.pc t = .reopen c loc → s.inRecovery = true := fun h =>
    hr.flag.mpr ⟨_, by rw [h]; rfl⟩
  cases hst with
  | born _ | devInRecovery _ | lockJoinCall _ | recoveryJoinCall _ | resetTpgs _ =>
    exact .stutter rfl
  | reopenDev _ | lockPathReopen _ =>
    unfold tcmuReopenDev; split
    · exact .stutter rfl
    · exact .one (Flags.next_startRecovery (Bool.eq_false_iff.mpr ‹_›))
  | notifyConnLost _ _ _ =>
    unfold tcmuNotifyConnLost; split
    · exact .stutter rfl
    · split
      · exact .one (Flags.next_startRecovery (Bool.eq_false_iff.mpr ‹_›))
      · exact .stutter rfl
  | notifyLockLost _ | resetLock _ => exact .one (e := .forceUnlock) rfl
  | shutDown _ => exact .one (e := .shutDown) rfl
  | cancelLockThread _ | reopenCancelLock _ => unfold tcmuCancelLockThread; split <;> exact .stutter rfl
  | cancelRecovery _ => unfold tcmuCancelRecovery; split <;> exact .stutter rfl
  | recoveryPoll _ => unfold cancelRecoveryPoll; split <;> exact .stutter rfl
  | lockJoinReturn _ hj | recoveryJoinReturn _ hj => exact .stutter (by simp [pthreadJoin_flags hj])
  | drain ret h =>
    have hend : (s.isOpen || s.shuttingDown) = true := by
      cases hsd : s.shuttingDown
      · simp [ho.isOpen_of_drain hr h hsd]
      · simp
    unfold reopenDrain; split
    · exact .one (Flags.next_endRecovery (hrec h) hend)
    · split
      · exact .one (Flags.next_endRecovery (hrec h) hend)
      · exact .stutter rfl
  | @close t _ h =>
    have hc := Flags.next_close (f := s.flags) (hrec h) (ho.opened t (by rw [h]; rfl))
    unfold reopenClose; split
    · exact .two hc (Flags.next_endRecovery (hrec h) (by simp [‹s.shuttingDown = true›]))
    · exact .one hc
  | @reopenOpen t _ ret h =>
    dsimp only [reopenOpen]; split
    · rw [if_neg ‹ret ≠ 0 ∧ _›.1]; exact .stutter rfl
    · by_cases h0 : ret = 0
      · rw [if_pos h0]
        exact .two (Flags.next_reopen (f := s.flags) (hrec h) (ho.closed t (by rw [h]; rfl)))
          (Flags.next_endRecovery (hrec h) (by simp))
      · rw [if_neg h0]
        have hsd : s.shuttingDown = true := by
          by_contra hc; exact ‹¬(ret ≠ 0 ∧ _)› ⟨h0, Bool.eq_false_iff.mpr hc⟩
        exact .one (Flags.next_endRecovery (hrec h) (by simp [hsd]))
  | acquireLock _ _ _ =>
    unfold acquireLock; split
    · exact .one (Flags.next_startLock ‹_ ∧ _›.1)
    · exact .stutter rfl
  | @lockDone t _ locked h =>
    exact .one (Flags.next_endLock locked ((reachable_lockInv hs).alive t (by rw [h]; rfl)).1)

/-- Every reachable record is reached by a run of the design. -/
theorem reachable_flags {s : St} (hs : Reachable s) : ∃ es, Flags.init.run es = some s.flags := by
  induction hs with
  | refl => exact ⟨[], rfl⟩
  | tail hs hst ih =>
    obtain ⟨es, hes⟩ := ih
    obtain ⟨es', -, hes'⟩ := step_flags hs hst
    exact ⟨es ++ es', by rw [Flags.run_append, hes]; exact hes'⟩

/-- **The code refines the design.** From a device just registered and opened, the flags and
`lock_state` of every reachable state are reached by a run of the design; and every step of any
thread from a reachable state moves them by at most two events of the design, each under its
guard. -/
theorem code_refines_design {s s' : St} (hs : Reachable s) (hst : Step s s') :
    (∃ es, Flags.init.run es = some s.flags) ∧ s.flags.Moves s'.flags :=
  ⟨reachable_flags hs, step_flags hs hst⟩

/-- The open loop's last `open()` succeeds: `IS_OPEN` is set and the sequence left in one step. -/
theorem code_refines_design_at_reopen :
    let ops : List (Tid × Op) := [(0, .born), (0, .reopenDev), (0, .drain 0), (0, .cancelLockThread),
      (0, .resetLock), (0, .close)]
    let s := (run init ops).getD init
    let s' := (step s 0 (.openReturn 0)).getD s
    Reachable s ∧ Step s s' ∧ s.flags = ⟨true, false, false, .unlocked⟩ ∧ s'.flags = Flags.init ∧
      ((∃ es, Flags.init.run es = some s.flags) ∧ s.flags.Moves s'.flags) := by
  intro ops s s'
  have hs : Reachable s := reachable_of_run (show run init ops = some s from rfl)
  have hst : Step s s' := step_sound (show step s 0 (.openReturn 0) = some s' from rfl)
  exact ⟨hs, hst, rfl, rfl, code_refines_design hs hst⟩

/-- **What the design guarantees holds of the code.** In every reachable state, with
`IN_RECOVERY` clear the device is open unless `SHUTTING_DOWN` is set; and once `SHUTTING_DOWN` is
set, it stays set along every run. -/
theorem design_guarantees {s : St} (hs : Reachable s) :
    (s.inRecovery = false → s.isOpen = true ∨ s.shuttingDown = true) ∧
      ∀ s', Relation.ReflTransGen Step s s' → s.shuttingDown = true → s'.shuttingDown = true := by
  refine ⟨fun hr => ?_, fun s' hrun => ?_⟩
  · obtain ⟨es, hes⟩ := reachable_flags hs
    have := Flags.run_settled hes rfl
    simpa [Flags.settled, St.flags, hr] using this
  · induction hrun with
    | refl => exact id
    | tail hsm hst ih =>
      obtain ⟨_, -, hes⟩ := step_flags (hs.trans hsm) hst
      exact fun h => Flags.run_shuttingDown hes (ih h)

/-- A run closes the device, the teardown comes, and the run returns from `close()`: the device
is left closed, and only `SHUTTING_DOWN` excuses it. -/
theorem design_guarantees_after_teardown :
    let ops : List (Tid × Op) := [(0, .born), (1, .born), (0, .reopenDev), (0, .drain 0),
      (0, .cancelLockThread), (0, .resetLock), (1, .shutDown), (0, .close)]
    let s := (run init ops).getD init
    Reachable s ∧ s.flags = ⟨false, true, false, .unlocked⟩ ∧
      ((s.inRecovery = false → s.isOpen = true ∨ s.shuttingDown = true) ∧
        ∀ s', Relation.ReflTransGen Step s s' → s.shuttingDown = true → s'.shuttingDown = true) := by
  intro ops s
  have hs : Reachable s := reachable_of_run (show run init ops = some s from rfl)
  exact ⟨hs, rfl, design_guarantees hs⟩

end TcmuRunner.Device
