import TcmuRunner.Device.Recovery
import TcmuRunner.Device.Schedule

/-!
# `IS_OPEN` and the handler's `close()`/`open()` (`tcmur_device.c:46-105`)

A run of `__tcmu_reopen_dev` that passes its `SHUTTING_DOWN` check calls the handler's `close()`,
clears `IS_OPEN`, and calls `open()` until it succeeds, setting `IS_OPEN` again, or until
`SHUTTING_DOWN` is set. Only a run touches `IS_OPEN`, and runs are single-flight
(`RecoveryInv`), so the flag follows the one run in progress. `OpenInv` says so: a run past its
check has not closed the device yet and finds `IS_OPEN` set; in the open loop `IS_OPEN` is
clear; and it is clear only there, or once `SHUTTING_DOWN` is set (a run that sees the flag after
`close()` or after a failed `open()` returns with the device closed).

Results:
* `step_openInv`, `reachable_openInv`: from a state with both invariants every step keeps
  `OpenInv`, so every reachable state has it.
* **`handler_sees_is_open`**: `close()` is only called while `IS_OPEN` is set and `open()` only
  while it is clear; until shutdown, `IS_OPEN` is clear exactly while a run is in its open loop.
-/

namespace TcmuRunner.Device

/-- A run past its `SHUTTING_DOWN` check (line 59) whose `close()` has not returned. -/
def Pc.beforeClosed : Pc → Bool
  | .reopen _ .cancelLock | .reopen _ .resetLock | .reopen _ .inClose | .lockJoinCall (some _)
  | .lockJoin (some _) _ => true
  | _ => false

/-- In the open loop of `__tcmu_reopen_dev` (lines 87-98). -/
def Pc.inOpenLoop : Pc → Bool
  | .reopen _ .inOpen => true
  | _ => false

theorem Pc.inOpenLoop_iff {p : Pc} : p.inOpenLoop ↔ ∃ c, p = .reopen c .inOpen := by
  unfold inOpenLoop; split <;> simp_all

theorem Pc.holdsRecovery_of_beforeClosed {p : Pc} (h : p.beforeClosed) : p.holdsRecovery := by
  unfold beforeClosed at h; split at h <;> simp_all [holdsRecovery]

theorem Pc.holdsRecovery_of_inOpenLoop {p : Pc} (h : p.inOpenLoop) : p.holdsRecovery := by
  unfold inOpenLoop at h; split at h <;> simp_all [holdsRecovery]

@[simp] theorem Caller.ret_beforeClosed (c : Caller) (ret : Int) :
    (c.ret ret).beforeClosed = false := by
  cases c <;> rfl

@[simp] theorem Caller.ret_inOpenLoop (c : Caller) (ret : Int) : (c.ret ret).inOpenLoop = false := by
  cases c <;> rfl

theorem lockCancelled_beforeClosed (k : Option Caller) (ret : Int) (h : Option Tid) :
    (lockCancelled k ret).beforeClosed = (Pc.lockJoin k h).beforeClosed := by
  cases k <;> rfl

theorem lockJoin_beforeClosed (k : Option Caller) (h : Option Tid) :
    (Pc.lockJoin k h).beforeClosed = (Pc.lockJoinCall k).beforeClosed := by
  cases k <;> rfl

theorem lockCancelled_inOpenLoop (k : Option Caller) (ret : Int) :
    (lockCancelled k ret).inOpenLoop = false := by
  cases k <;> rfl

/-- **`IS_OPEN` follows the run.** -/
structure OpenInv (s : St) : Prop where
  /-- A run past its check has not closed the device yet. -/
  opened : ∀ t, (s.pc t).beforeClosed → s.isOpen = true
  /-- In the open loop the device is closed. -/
  closed : ∀ t, (s.pc t).inOpenLoop → s.isOpen = false
  /-- The device is closed only in the open loop, or once shutting down. -/
  reopening : s.isOpen = false → s.shuttingDown = true ∨ ∃ t, (s.pc t).inOpenLoop

theorem init_openInv : OpenInv init :=
  ⟨fun _ _ => rfl, fun _ h => by simp [init, Pc.inOpenLoop] at h, fun h => by simp [init] at h⟩

namespace OpenInv

variable {s s' : St} {t : Tid} {p : Pc}

/-- A step that changes neither `IS_OPEN` nor any thread's place, and does not clear
`SHUTTING_DOWN`. -/
theorem congr (hi : OpenInv s) (h₁ : s'.isOpen = s.isOpen)
    (h₂ : s.shuttingDown = true → s'.shuttingDown = true) (h₃ : s'.pc = s.pc) : OpenInv s' :=
  ⟨h₁ ▸ h₃ ▸ hi.opened, h₁ ▸ h₃ ▸ hi.closed,
    fun h => (hi.reopening (h₁ ▸ h)).imp h₂ fun ⟨u, hu⟩ => ⟨u, h₃ ▸ hu⟩⟩

/-- A thread moves without getting past the check or through `close()`, and without entering or
leaving the open loop. -/
theorem setPc (hi : OpenInv s) (h₁ : p.beforeClosed = (s.pc t).beforeClosed)
    (h₂ : p.inOpenLoop = (s.pc t).inOpenLoop) : OpenInv (s.setPc t p) where
  opened u hu := by
    rw [St.setPc_pc] at hu
    split at hu
    · subst u; exact hi.opened t (h₁ ▸ hu)
    · exact hi.opened u hu
  closed u hu := by
    rw [St.setPc_pc] at hu
    split at hu
    · subst u; exact hi.closed t (h₂ ▸ hu)
    · exact hi.closed u hu
  reopening h := (hi.reopening h).imp id fun ⟨u, hu⟩ => ⟨u, by
    rw [St.setPc_pc]; split
    · subst u; rw [h₂]; exact hu
    · exact hu⟩

/-- The run's own thread moves to `p`: no other thread is in a run, so `OpenInv` only asks about
`p`. -/
theorem of_holder (hr : RecoveryInv s) (ht : (s.pc t).holdsRecovery)
    (hpc : s'.pc = (s.setPc t p).pc) (h₁ : p.beforeClosed → s'.isOpen = true)
    (h₂ : p.inOpenLoop → s'.isOpen = false)
    (h₃ : s'.isOpen = false → s'.shuttingDown = true ∨ p.inOpenLoop) : OpenInv s' := by
  have hu : ∀ u, s'.pc u = p ∨ (s'.pc u).holdsRecovery = false := fun u => by
    rw [hpc, St.setPc_pc]; split
    · exact .inl rfl
    · refine .inr (Bool.eq_false_iff.mpr fun h => ‹¬u = t› (hr.unique u t h ht))
  refine ⟨fun u h => ?_, fun u h => ?_, fun h => (h₃ h).imp id fun hp => ⟨t, by
    rw [hpc, St.setPc_pc, if_pos rfl]; exact hp⟩⟩
  · rcases hu u with hp | hn
    · exact h₁ (hp ▸ h)
    · simp [Pc.holdsRecovery_of_beforeClosed h] at hn
  · rcases hu u with hp | hn
    · exact h₂ (hp ▸ h)
    · simp [Pc.holdsRecovery_of_inOpenLoop h] at hn

/-- A run at its drain, with `SHUTTING_DOWN` clear, finds the device open: it is the only run,
and it is not in the open loop. -/
theorem isOpen_of_drain (hi : OpenInv s) (hr : RecoveryInv s) {c : Caller}
    (ht : s.pc t = .reopen c .drain) (hsd : s.shuttingDown = false) : s.isOpen = true := by
  by_contra ho
  rcases hi.reopening (Bool.eq_false_iff.mpr ho) with h | ⟨u, hu⟩
  · simp [hsd] at h
  · obtain rfl := hr.unique u t (Pc.holdsRecovery_of_inOpenLoop hu) (by rw [ht]; rfl)
    simp [ht, Pc.inOpenLoop] at hu

/-- A run that ends at its drain leaves `IS_OPEN` alone. -/
theorem reopenDone (hi : OpenInv s) {c : Caller} {ret : Int} (ht : s.pc t = .reopen c .drain) :
    OpenInv (Device.reopenDone s t c ret) :=
  OpenInv.setPc (hi.congr rfl id rfl) (by rw [ht, Caller.ret_beforeClosed]; rfl)
    (by rw [ht, Caller.ret_inOpenLoop]; rfl)

theorem pthreadJoin {s' : St} {h : Option Tid} {ret : Int} (hi : OpenInv s)
    (hj : Device.pthreadJoin s t h = some (s', ret)) : OpenInv s' ∧ s'.pc t = s.pc t := by
  rcases pthreadJoin_cases hj with rfl | ⟨w, -, hw, he, -, rfl⟩
  · exact ⟨hi, rfl⟩
  · exact ⟨(hi.setPc (he ▸ rfl) (he ▸ rfl)).congr rfl id rfl,
      by simp [St.reclaim_pc, St.setPc_pc, Ne.symm hw]⟩

end OpenInv

/-- Every step keeps `OpenInv`, from a state where the recovery is single-flight. -/
theorem step_openInv {s s' : St} (hst : Step s s') (hr : RecoveryInv s) (hi : OpenInv s) :
    OpenInv s' := by
  cases hst with
  | born h => exact hi.setPc (h ▸ rfl) (h ▸ rfl)
  | devInRecovery h => exact hi.setPc (h ▸ rfl) (h ▸ rfl)
  | shutDown h =>
    unfold setShuttingDown; exact OpenInv.setPc (hi.congr rfl (fun _ => rfl) rfl) (h ▸ rfl) (h ▸ rfl)
  | notifyLockLost h =>
    unfold tcmuNotifyLockLost; exact OpenInv.setPc (hi.congr rfl id rfl) (h ▸ rfl) (h ▸ rfl)
  | cancelRecovery h => unfold tcmuCancelRecovery; split <;> exact hi.setPc (h ▸ rfl) (h ▸ rfl)
  | reopenDev h | lockPathReopen h =>
    unfold tcmuReopenDev; split
    · exact hi.setPc (by rw [h, Caller.ret_beforeClosed]; rfl)
        (by rw [h, Caller.ret_inOpenLoop]; rfl)
    · exact OpenInv.setPc (hi.congr rfl id rfl) (h ▸ rfl) (h ▸ rfl)
  | @notifyConnLost t _ w ok ht hw =>
    have htw : t ≠ w := fun e => by simp_all
    unfold tcmuNotifyConnLost; split
    · exact hi.setPc (ht ▸ rfl) (ht ▸ rfl)
    · split
      · exact OpenInv.setPc (OpenInv.setPc (hi.congr rfl id rfl) (hw ▸ rfl) (hw ▸ rfl))
          (by rw [St.setPc_pc, if_neg htw, ht]; rfl) (by rw [St.setPc_pc, if_neg htw, ht]; rfl)
      · exact hi.setPc (ht ▸ rfl) (ht ▸ rfl)
  | @acquireLock t _ w ok ht hw =>
    have htw : t ≠ w := fun e => by simp_all
    unfold acquireLock; split
    · exact OpenInv.setPc (OpenInv.setPc (hi.congr rfl id rfl) (hw ▸ rfl) (hw ▸ rfl))
        (by rw [St.setPc_pc, if_neg htw, ht]; rfl) (by rw [St.setPc_pc, if_neg htw, ht]; rfl)
    · exact hi.setPc (ht ▸ rfl) (ht ▸ rfl)
  | cancelLockThread h | reopenCancelLock h =>
    unfold tcmuCancelLockThread; split <;> exact hi.setPc (h ▸ rfl) (h ▸ rfl)
  | lockJoinCall h =>
    exact OpenInv.setPc (hi.congr rfl id rfl) (h ▸ lockJoin_beforeClosed _ _) (h ▸ rfl)
  | lockJoinReturn h hj =>
    obtain ⟨hi', hpc⟩ := hi.pthreadJoin hj
    exact hi'.setPc (hpc ▸ h ▸ lockCancelled_beforeClosed _ _ _)
      (hpc ▸ h ▸ lockCancelled_inOpenLoop _ _)
  | recoveryJoinCall h => exact OpenInv.setPc (hi.congr rfl id rfl) (h ▸ rfl) (h ▸ rfl)
  | recoveryJoinReturn h hj =>
    obtain ⟨hi', hpc⟩ := hi.pthreadJoin hj
    exact hi'.setPc (hpc ▸ h ▸ rfl) (hpc ▸ h ▸ rfl)
  | recoveryPoll h =>
    unfold cancelRecoveryPoll; split
    · exact hi
    · exact hi.setPc (h ▸ rfl) (h ▸ rfl)
  | resetTpgs h => exact hi.setPc (h ▸ rfl) (h ▸ rfl)
  | drain ret h =>
    unfold reopenDrain; split
    · exact hi.reopenDone h
    · split
      · exact hi.reopenDone h
      · have ho := hi.isOpen_of_drain hr h (Bool.eq_false_iff.mpr ‹_›)
        exact OpenInv.of_holder hr (h ▸ rfl) rfl (fun _ => ho)
          (fun h' => by simp [Pc.inOpenLoop] at h') (fun h' => by simp [St.setPc, ho] at h')
  | resetLock h =>
    unfold reopenResetLock; exact OpenInv.setPc (hi.congr rfl id rfl) (h ▸ rfl) (h ▸ rfl)
  | close h =>
    unfold reopenClose; split
    · exact OpenInv.of_holder hr (h ▸ rfl) rfl (by simp) (by simp) (fun _ => .inl ‹_›)
    · exact OpenInv.of_holder hr (h ▸ rfl) rfl (fun h' => by simp [Pc.beforeClosed] at h')
        (fun _ => rfl) (fun _ => .inr rfl)
  | reopenOpen ret h =>
    dsimp only [reopenOpen]; split
    · rw [if_neg ‹ret ≠ 0 ∧ _›.1]
      exact hi.setPc (h ▸ rfl) (h ▸ rfl)
    · by_cases h0 : ret = 0
      · rw [if_pos h0]
        exact OpenInv.of_holder hr (h ▸ rfl) rfl (by simp) (by simp)
          (fun h' => by simp [reopenDone, St.setPc] at h')
      · rw [if_neg h0]
        have hsd : s.shuttingDown = true := by
          by_contra hc; exact ‹¬(ret ≠ 0 ∧ _)› ⟨h0, Bool.eq_false_iff.mpr hc⟩
        exact OpenInv.of_holder hr (h ▸ rfl) rfl (by simp) (by simp) (fun _ => .inl hsd)
  | lockDone locked h =>
    unfold lockThreadDone; exact OpenInv.setPc (hi.congr rfl id rfl) (h ▸ rfl) (h ▸ rfl)

theorem reachable_openInv {s : St} (hs : Reachable s) : OpenInv s := by
  induction hs with
  | refl => exact init_openInv
  | tail hs hst ih => exact step_openInv hst (reachable_recoveryInv hs) ih

/-- **The handler sees `IS_OPEN` right.** In every reachable state, a thread in the handler's
`close()` finds `IS_OPEN` set, one in `open()` finds it clear; and until `SHUTTING_DOWN` is set,
`IS_OPEN` is set exactly when no run is in its open loop. -/
theorem handler_sees_is_open {s : St} (hs : Reachable s) :
    (∀ t c, s.pc t = .reopen c .inClose → s.isOpen = true) ∧
      (∀ t c, s.pc t = .reopen c .inOpen → s.isOpen = false) ∧
      (s.shuttingDown = false → (s.isOpen = true ↔ ∀ t c, s.pc t ≠ .reopen c .inOpen)) := by
  have hi := reachable_openInv hs
  refine ⟨fun t c h => hi.opened t (h ▸ rfl), fun t c h => hi.closed t (h ▸ rfl),
    fun hsd => ⟨fun ho t c h => ?_, fun hn => ?_⟩⟩
  · simp [hi.closed t (h ▸ rfl)] at ho
  · by_contra ho
    rcases hi.reopening (Bool.eq_false_iff.mpr ho) with h | ⟨t, ht⟩
    · simp [hsd] at h
    · obtain ⟨c, hc⟩ := Pc.inOpenLoop_iff.mp ht
      exact hn t c hc

/-- Thread 0's reconfigure has closed the device and is in its open loop. -/
theorem handler_sees_is_open_in_open_loop :
    let ops : List (Tid × Op) := [(0, .born), (0, .reopenDev), (0, .drain 0), (0, .cancelLockThread),
      (0, .resetLock), (0, .close)]
    let s := (run init ops).getD init
    Reachable s ∧ s.pc 0 = .reopen .api .inOpen ∧ s.isOpen = false ∧
      ((∀ t c, s.pc t = .reopen c .inClose → s.isOpen = true) ∧
        (∀ t c, s.pc t = .reopen c .inOpen → s.isOpen = false) ∧
        (s.shuttingDown = false → (s.isOpen = true ↔ ∀ t c, s.pc t ≠ .reopen c .inOpen))) := by
  intro ops s
  have hs : Reachable s := reachable_of_run (show run init ops = some s from rfl)
  exact ⟨hs, rfl, rfl, handler_sees_is_open hs⟩

end TcmuRunner.Device
