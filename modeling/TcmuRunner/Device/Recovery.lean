import TcmuRunner.Device.State

/-!
# Recovery is single-flight (`tcmur_device.c:46-202`)

`IN_RECOVERY` is a token. `tcmu_reopen_dev` and `tcmu_notify_conn_lost` take it, under the lock and
only when it is free; the thread that took it (the caller's run, or the spawned recovery thread)
holds it until its `__tcmu_reopen_dev` run gives it back at `done:`. `RecoveryInv` says so:
`IN_RECOVERY` is set exactly when some thread holds the recovery, and no two threads do.

Results:
* `step_recoveryInv`, `reachable_recoveryInv`: every step keeps the invariant, so every
  reachable state has it.
* **`recovery_single_flight`**: in every reachable state at most one thread is in a run or is a
  recovery thread not yet through its run; `IN_RECOVERY` is set exactly when one is; no two
  threads are in the handler's `close()`/`open()` at once; and `tcmu_reopen_dev` called while one
  is returns `-EBUSY` and changes nothing but its caller's place.
-/

namespace TcmuRunner.Device

/-- The thread holds the recovery: it is in a `__tcmu_reopen_dev` run (in the
`tcmu_cancel_lock_thread` the run calls, too), or it is a recovery thread before its run. -/
def Pc.holdsRecovery : Pc → Bool
  | .recoveryStart | .reopen _ _ | .lockJoinCall (some _) | .lockJoin (some _) _ => true
  | _ => false

/-- Between the entry of a `__tcmu_reopen_dev` run and its clearing of `IN_RECOVERY`. -/
def Pc.inRun : Pc → Bool
  | .reopen _ _ | .lockJoinCall (some _) | .lockJoin (some _) _ => true
  | _ => false

/-- In the handler's `close()` or `open()`. -/
def Pc.inBackend : Pc → Bool
  | .reopen _ .inClose | .reopen _ .inOpen => true
  | _ => false

theorem Pc.holdsRecovery_iff (p : Pc) : p.holdsRecovery ↔ p.inRun ∨ p = .recoveryStart := by
  unfold holdsRecovery inRun; split <;> simp_all

theorem Pc.inRun_of_inBackend {p : Pc} (h : p.inBackend) : p.inRun := by
  unfold inBackend at h; split at h <;> simp_all [inRun]

@[simp] theorem Caller.ret_holdsRecovery (c : Caller) (ret : Int) :
    (c.ret ret).holdsRecovery = false := by
  cases c <;> rfl

@[simp] theorem lockCancelled_holdsRecovery (k : Option Caller) (ret : Int) :
    (lockCancelled k ret).holdsRecovery = (Pc.lockJoinCall k).holdsRecovery := by
  cases k <;> rfl

@[simp] theorem lockJoin_holdsRecovery (k : Option Caller) (h : Option Tid) :
    (Pc.lockJoin k h).holdsRecovery = (Pc.lockJoinCall k).holdsRecovery := by
  cases k <;> rfl

/-- **The recovery token.** -/
structure RecoveryInv (s : St) : Prop where
  /-- At most one thread holds the recovery. -/
  unique : ∀ t u, (s.pc t).holdsRecovery → (s.pc u).holdsRecovery → t = u
  /-- `IN_RECOVERY` is set exactly when one does. -/
  flag : s.inRecovery = true ↔ ∃ t, (s.pc t).holdsRecovery

theorem init_recoveryInv : RecoveryInv init :=
  ⟨fun _ _ h => by simp [init, Pc.holdsRecovery] at h, by simp [init, Pc.holdsRecovery]⟩

namespace RecoveryInv

variable {s s' : St} {t : Tid} {p : Pc}

theorem congr (hi : RecoveryInv s) (h₁ : s'.inRecovery = s.inRecovery) (h₂ : s'.pc = s.pc) :
    RecoveryInv s' :=
  ⟨h₂ ▸ hi.unique, h₁ ▸ h₂ ▸ hi.flag⟩

/-- A thread moves without taking or giving back the recovery. -/
theorem setPc (hi : RecoveryInv s) (h : p.holdsRecovery = (s.pc t).holdsRecovery) :
    RecoveryInv (s.setPc t p) := by
  have hu : ∀ u, ((s.setPc t p).pc u).holdsRecovery = (s.pc u).holdsRecovery := fun u => by
    rw [St.setPc_pc]; split <;> simp_all
  exact ⟨fun u v hu' hv' => hi.unique u v ((hu u) ▸ hu') ((hu v) ▸ hv'), by simp [hu, hi.flag]⟩

/-- A thread takes the free recovery. -/
theorem acquire (hi : RecoveryInv s) (h₀ : s.inRecovery = false) (h₁ : s'.inRecovery = true)
    (h₂ : s'.pc = (s.setPc t p).pc) (hp : p.holdsRecovery) : RecoveryInv s' := by
  have hfree : ∀ u, (s.pc u).holdsRecovery = false := fun u => by
    by_contra h; simp at h; exact absurd (hi.flag.mpr ⟨u, h⟩) (by simp [h₀])
  refine ⟨fun u v hu hv => ?_, by simp only [h₁, true_iff]; exact ⟨t, by simp [h₂, hp]⟩⟩
  rw [h₂, St.setPc_pc] at hu hv
  split at hu <;> split at hv <;> simp_all

/-- The holder gives the recovery back. -/
theorem release (hi : RecoveryInv s) (ht : (s.pc t).holdsRecovery) (h₁ : s'.inRecovery = false)
    (h₂ : s'.pc = (s.setPc t p).pc) (hp : p.holdsRecovery = false) : RecoveryInv s' := by
  have hnone : ∀ u, ((s.setPc t p).pc u).holdsRecovery = false := fun u => by
    rw [St.setPc_pc]; split
    · exact hp
    · by_contra h; simp at h; exact ‹¬u = t› (hi.unique u t h ht)
  exact ⟨fun u _ hu => by simp [h₂, hnone] at hu, by simp [h₁, h₂, hnone]⟩

theorem reopenDone {c : Caller} {ret : Int} (hi : RecoveryInv s) (ht : (s.pc t).holdsRecovery) :
    RecoveryInv (Device.reopenDone s t c ret) :=
  hi.release ht rfl rfl (Caller.ret_holdsRecovery c ret)

end RecoveryInv

/-- What `pthread_join` can do to the state: nothing, or reclaim a returned thread other than the
caller, which then has not lost its join. -/
theorem pthreadJoin_cases {s s' : St} {t : Tid} {h : Option Tid} {ret : Int}
    (hj : pthreadJoin s t h = some (s', ret)) :
    s' = s ∨ ∃ w, h = some w ∧ w ≠ t ∧ s.pc w = .exited ∧ s.joinLost t = false ∧
      s' = s.reclaim t w := by
  rcases h with _ | w
  · simp only [pthreadJoin, Option.some.injEq, Prod.mk.injEq] at hj
    exact .inl hj.1.symm
  by_cases hwt : w = t
  · simp only [pthreadJoin, hwt, if_true, Option.some.injEq, Prod.mk.injEq] at hj
    exact .inl hj.1.symm
  cases hl : s.joinLost t
  · cases hw : s.pc w <;> simp only [pthreadJoin, hwt, hl, if_false, hw, Option.some.injEq,
      Prod.mk.injEq, reduceCtorEq, Bool.false_eq_true] at hj
    all_goals first | exact .inl hj.1.symm | exact .inr ⟨w, rfl, hwt, hw, rfl, hj.1.symm⟩
  · simp [pthreadJoin, hwt, hl] at hj

/-- A `pthread_join` that returns at once waits on no thread. -/
theorem waitsOn_of_isSome {s : St} {t : Tid} {h : Option Tid} (hj : (pthreadJoin s t h).isSome) :
    s.waitsOn t h = none := by
  rcases h with _ | w
  · rfl
  by_cases hwt : w = t
  · simp [St.waitsOn, hwt]
  cases hl : s.joinLost t
  · cases hw : s.pc w <;> simp_all [pthreadJoin, St.waitsOn, Pc.running]
  · simp [pthreadJoin, hwt, hl] at hj

theorem pthreadJoin_recoveryInv {s s' : St} {t : Tid} {h : Option Tid} {ret : Int}
    (hj : pthreadJoin s t h = some (s', ret)) (hi : RecoveryInv s) :
    RecoveryInv s' ∧ s'.pc t = s.pc t := by
  rcases pthreadJoin_cases hj with rfl | ⟨w, -, hw, he, -, rfl⟩
  · exact ⟨hi, rfl⟩
  · exact ⟨RecoveryInv.setPc (hi.congr rfl rfl) (by rw [he]; rfl),
      by simp [St.reclaim_pc, St.setPc_pc, Ne.symm hw]⟩

/-- Every step keeps the recovery token. -/
theorem step_recoveryInv {s s' : St} (hst : Step s s') (hi : RecoveryInv s) : RecoveryInv s' := by
  cases hst with
  | born h => exact hi.setPc (h ▸ rfl)
  | devInRecovery h => unfold tcmuDevInRecovery; exact hi.setPc (h ▸ rfl)
  | shutDown h => unfold setShuttingDown; exact RecoveryInv.setPc (hi.congr rfl rfl) (h ▸ rfl)
  | notifyLockLost h => unfold tcmuNotifyLockLost; exact RecoveryInv.setPc (hi.congr rfl rfl) (h ▸ rfl)
  | cancelRecovery h => unfold tcmuCancelRecovery; split <;> exact hi.setPc (h ▸ rfl)
  | reopenDev h | lockPathReopen h =>
    unfold tcmuReopenDev; split
    · exact hi.setPc (h ▸ Caller.ret_holdsRecovery _ _)
    · exact hi.acquire (Bool.eq_false_iff.mpr ‹_›) rfl rfl rfl
  | @notifyConnLost t _ w ok ht hw =>
    have htw : t ≠ w := fun e => by simp_all
    unfold tcmuNotifyConnLost; split
    · exact hi.setPc (ht ▸ rfl)
    · split
      · have hw' : RecoveryInv (({ s with inRecovery := true, recoveryThread := some w } : St).setPc
            w .recoveryStart) := hi.acquire (Bool.eq_false_iff.mpr ‹_›) rfl rfl rfl
        exact hw'.setPc (by rw [St.setPc_pc, if_neg htw, ht]; rfl)
      · exact hi.setPc (ht ▸ rfl)
  | cancelLockThread h | reopenCancelLock h =>
    unfold tcmuCancelLockThread; split <;> exact hi.setPc (h ▸ rfl)
  | lockJoinCall h => exact RecoveryInv.setPc (hi.congr rfl rfl) (h ▸ lockJoin_holdsRecovery _ _)
  | lockJoinReturn h hj =>
    obtain ⟨hi', hpc⟩ := pthreadJoin_recoveryInv hj hi
    exact hi'.setPc (hpc ▸ h ▸ (lockCancelled_holdsRecovery _ _).trans (lockJoin_holdsRecovery _ _).symm)
  | recoveryJoinCall h => exact RecoveryInv.setPc (hi.congr rfl rfl) (h ▸ rfl)
  | recoveryJoinReturn h hj =>
    obtain ⟨hi', hpc⟩ := pthreadJoin_recoveryInv hj hi
    exact hi'.setPc (hpc ▸ h ▸ rfl)
  | recoveryPoll h =>
    unfold cancelRecoveryPoll; split
    · exact hi
    · exact hi.setPc (h ▸ rfl)
  | resetTpgs h => exact hi.setPc (h ▸ rfl)
  | drain ret h =>
    unfold reopenDrain; split
    · exact hi.reopenDone (h ▸ rfl)
    · split
      · exact hi.reopenDone (h ▸ rfl)
      · exact hi.setPc (h ▸ rfl)
  | resetLock h => unfold reopenResetLock; exact RecoveryInv.setPc (hi.congr rfl rfl) (h ▸ rfl)
  | close h =>
    unfold reopenClose; split
    · exact RecoveryInv.reopenDone (hi.congr rfl rfl) (h ▸ rfl)
    · exact RecoveryInv.setPc (hi.congr rfl rfl) (h ▸ rfl)
  | reopenOpen ret h =>
    have hi' : RecoveryInv (if ret = 0 then { s with isOpen := true } else s) := by
      split
      · exact hi.congr rfl rfl
      · exact hi
    have hpc : (if ret = 0 then { s with isOpen := true } else s).pc = s.pc := by split <;> rfl
    dsimp only [reopenOpen]; split
    · exact hi'.setPc (by rw [hpc]; exact h ▸ rfl)
    · exact hi'.reopenDone (by rw [hpc]; exact h ▸ rfl)
  | @acquireLock t _ w ok ht hw =>
    have htw : t ≠ w := fun e => by simp_all
    unfold acquireLock; split
    · exact RecoveryInv.setPc (RecoveryInv.setPc (hi.congr rfl rfl) (hw ▸ rfl))
        (by rw [St.setPc_pc, if_neg htw, ht]; rfl)
    · exact hi.setPc (ht ▸ rfl)
  | lockDone locked h => unfold lockThreadDone; exact RecoveryInv.setPc (hi.congr rfl rfl) (h ▸ rfl)

theorem reachable_recoveryInv {s : St} (hs : Reachable s) : RecoveryInv s := by
  induction hs with
  | refl => exact init_recoveryInv
  | tail _ hst ih => exact step_recoveryInv hst ih

/-- **Recovery is single-flight.** In every reachable state at most one thread is inside a
`__tcmu_reopen_dev` run, and none is while a spawned recovery thread has yet to reach its run;
`IN_RECOVERY` is set exactly when a run is in progress or such a thread exists; no two threads
are in the handler's `close()` or `open()` at once; and `tcmu_reopen_dev`, called meanwhile,
returns `-EBUSY` and changes nothing but its caller's place. -/
theorem recovery_single_flight {s : St} (hs : Reachable s) :
    (∀ t u, (s.pc t).inRun ∨ s.pc t = .recoveryStart → (s.pc u).inRun ∨ s.pc u = .recoveryStart →
        t = u) ∧
      (s.inRecovery = true ↔ ∃ t, (s.pc t).inRun ∨ s.pc t = .recoveryStart) ∧
      (∀ t u, (s.pc t).inBackend → (s.pc u).inBackend → t = u) ∧
      ∀ t c, (∃ u, (s.pc u).inRun ∨ s.pc u = .recoveryStart) →
        tcmuReopenDev s t c = s.setPc t (c.ret (-EBUSY)) := by
  have hi := reachable_recoveryInv hs
  simp only [← Pc.holdsRecovery_iff]
  refine ⟨hi.unique, hi.flag, fun t u ht hu => hi.unique t u ?_ ?_, fun t c hu => ?_⟩
  · exact (Pc.holdsRecovery_iff _).mpr (.inl (Pc.inRun_of_inBackend ht))
  · exact (Pc.holdsRecovery_iff _).mpr (.inl (Pc.inRun_of_inBackend hu))
  · rw [tcmuReopenDev, if_pos (hi.flag.mpr hu)]

/-- During a reconfigure: thread 0's `tcmu_reopen_dev` has started a run. -/
theorem recovery_single_flight_during_reopen :
    let s : St := tcmuReopenDev (init.setPc 0 (.idle 0)) 0 .api
    Reachable s ∧
      ((∀ t u, (s.pc t).inRun ∨ s.pc t = .recoveryStart →
          (s.pc u).inRun ∨ s.pc u = .recoveryStart → t = u) ∧
        (s.inRecovery = true ↔ ∃ t, (s.pc t).inRun ∨ s.pc t = .recoveryStart) ∧
        (∀ t u, (s.pc t).inBackend → (s.pc u).inBackend → t = u) ∧
        ∀ t c, (∃ u, (s.pc u).inRun ∨ s.pc u = .recoveryStart) →
          tcmuReopenDev s t c = s.setPc t (c.ret (-EBUSY))) :=
  have hs : Reachable (tcmuReopenDev (init.setPc 0 (.idle 0)) 0 .api) :=
    (Relation.ReflTransGen.single (@Step.born init 0 rfl)).tail (@Step.reopenDev _ 0 0 rfl)
  ⟨hs, recovery_single_flight hs⟩

end TcmuRunner.Device
