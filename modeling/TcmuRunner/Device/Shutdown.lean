import TcmuRunner.Device.Recovery

/-!
# Teardown: `SHUTTING_DOWN`, then `tcmu_cancel_recovery` (`tcmur_device.c:126-202`)

The teardown sets `SHUTTING_DOWN` and then calls `tcmu_cancel_recovery`, which returns once it
sees `IN_RECOVERY` clear. Neither `tcmu_notify_conn_lost` nor `tcmu_reopen_dev` looks at
`SHUTTING_DOWN`: a connection loss reported after the return still creates a recovery thread and
sets `IN_RECOVERY` again (`conn_lost_after_cancel_recovery`). What stops such a late run is the
check at line 59 of `__tcmu_reopen_dev`, which ends the run before it cancels the lock thread or
touches the handler.

Results:
* `step_quiesced`: once `SHUTTING_DOWN` is set and no run is past its check (`Quiesced`), every
  step keeps it so.
* **`cancel_recovery_after_shutdown`**: when `tcmu_cancel_recovery` returns after `SHUTTING_DOWN`
  was set, `IN_RECOVERY` is clear and no run is in progress; in every later state every run is
  still at its drain (so it stops at the check), and no thread is in `close()` or `open()`.
* `conn_lost_after_cancel_recovery`: a run where, after that return, a connection loss spawns a
  recovery thread and sets `IN_RECOVERY`.
-/

namespace TcmuRunner.Device

/-- A run past its `SHUTTING_DOWN` check (line 59): cancelling the lock thread, resetting the
lock state, or in `close()` or `open()`. -/
def Pc.pastShutdownCheck : Pc → Bool
  | .reopen _ .cancelLock | .reopen _ .resetLock | .reopen _ .inClose | .reopen _ .inOpen
  | .lockJoinCall (some _) | .lockJoin (some _) _ => true
  | _ => false

theorem Pc.holdsRecovery_of_pastShutdownCheck {p : Pc} (h : p.pastShutdownCheck) :
    p.holdsRecovery := by
  unfold pastShutdownCheck at h; split at h <;> simp_all [holdsRecovery]

theorem Pc.pastShutdownCheck_of_inBackend {p : Pc} (h : p.inBackend) : p.pastShutdownCheck := by
  unfold inBackend at h; split at h <;> simp_all [pastShutdownCheck]

@[simp] theorem Caller.ret_pastShutdownCheck (c : Caller) (ret : Int) :
    (c.ret ret).pastShutdownCheck = false := by
  cases c <;> rfl

/-- The steps at which `tcmu_cancel_recovery` returns: its first critical section, or a pass of
its polling loop, finding `IN_RECOVERY` clear. -/
inductive CancelRecoveryReturn (s : St) : St → Prop
  | early {t r} : s.pc t = .idle r → s.inRecovery = false →
      CancelRecoveryReturn s (tcmuCancelRecovery s t)
  | afterPoll {t ret} : s.pc t = .recoveryPoll ret → s.inRecovery = false →
      CancelRecoveryReturn s (cancelRecoveryPoll s t ret)

namespace CancelRecoveryReturn

variable {s s' : St}

theorem step (h : CancelRecoveryReturn s s') : Step s s' := by
  cases h with
  | early h _ => exact .cancelRecovery h
  | afterPoll h _ => exact .recoveryPoll h

theorem inRecovery (h : CancelRecoveryReturn s s') : s'.inRecovery = false := by
  cases h with
  | early _ hc => simp [tcmuCancelRecovery, hc]
  | afterPoll _ hc => simp [cancelRecoveryPoll, hc]

theorem shuttingDown (h : CancelRecoveryReturn s s') : s'.shuttingDown = s.shuttingDown := by
  cases h with
  | early => unfold tcmuCancelRecovery; split <;> rfl
  | afterPoll => unfold cancelRecoveryPoll; split <;> rfl

end CancelRecoveryReturn

/-- `SHUTTING_DOWN` is set and no run is past its check. -/
structure Quiesced (s : St) : Prop where
  shuttingDown : s.shuttingDown = true
  notPast : ∀ u, (s.pc u).pastShutdownCheck = false

namespace Quiesced

variable {s s₀ : St} {t : Tid} {p : Pc}

/-- A thread moves to a place before the check, nothing else moves, and the flag stays. -/
theorem setPc (hq : Quiesced s) (hp : p.pastShutdownCheck = false)
    (h₁ : s₀.shuttingDown = s.shuttingDown) (h₂ : s₀.pc = s.pc) : Quiesced (s₀.setPc t p) :=
  ⟨h₁ ▸ hq.shuttingDown, fun u => by rw [St.setPc_pc, h₂]; split <;> simp [hp, hq.notPast]⟩

theorem move (hq : Quiesced s) (hp : p.pastShutdownCheck = false) : Quiesced (s.setPc t p) :=
  hq.setPc hp rfl rfl

/-- No thread of a quiesced state is past its check. -/
theorem not_at (hq : Quiesced s) (h : s.pc t = p) (hp : p.pastShutdownCheck = true) : False := by
  simpa [h, hp] using hq.notPast t

theorem pthreadJoin (hq : Quiesced s) {s' : St} {h : Option Tid} {ret : Int}
    (hj : Device.pthreadJoin s t h = some (s', ret)) : Quiesced s' ∧ s'.pc t = s.pc t := by
  rcases pthreadJoin_cases hj with rfl | ⟨w, -, hw, he, -, rfl⟩
  · exact ⟨hq, rfl⟩
  · exact ⟨hq.setPc rfl rfl rfl, by simp [St.reclaim_pc, St.setPc_pc, Ne.symm hw]⟩

end Quiesced

/-- Once quiesced, always quiesced: only a drain that finds `SHUTTING_DOWN` clear gets a run past
its check, and nothing clears `SHUTTING_DOWN`. -/
theorem step_quiesced {s s' : St} (hst : Step s s') (hq : Quiesced s) : Quiesced s' := by
  cases hst with
  | born h => exact hq.setPc rfl rfl rfl
  | devInRecovery h => exact hq.setPc rfl rfl rfl
  | reopenDev h | lockPathReopen h =>
    unfold tcmuReopenDev; split
    · exact hq.setPc (Caller.ret_pastShutdownCheck _ _) rfl rfl
    · exact hq.setPc rfl rfl rfl
  | notifyConnLost ok ht hw =>
    unfold tcmuNotifyConnLost; split
    · exact hq.setPc rfl rfl rfl
    · split
      · exact Quiesced.move (hq.setPc rfl rfl rfl) rfl
      · exact hq.setPc rfl rfl rfl
  | acquireLock ok ht hw =>
    unfold acquireLock; split
    · exact Quiesced.move (hq.setPc rfl rfl rfl) rfl
    · exact hq.setPc rfl rfl rfl
  | notifyLockLost h => exact hq.setPc rfl rfl rfl
  | cancelLockThread h => unfold tcmuCancelLockThread; split <;> exact hq.setPc rfl rfl rfl
  | reopenCancelLock h => exact (hq.not_at h rfl).elim
  | @lockJoinCall t k h =>
    cases k with
    | none => exact hq.setPc rfl rfl rfl
    | some c => exact (hq.not_at h rfl).elim
  | @lockJoinReturn t k _ _ _ h hj =>
    obtain ⟨hq', hpc⟩ := hq.pthreadJoin hj
    cases k with
    | none => exact hq'.setPc rfl rfl rfl
    | some c => exact (hq.not_at h rfl).elim
  | cancelRecovery h => unfold tcmuCancelRecovery; split <;> exact hq.setPc rfl rfl rfl
  | recoveryJoinCall h => exact hq.setPc rfl rfl rfl
  | recoveryJoinReturn h hj => exact (hq.pthreadJoin hj).1.setPc rfl rfl rfl
  | recoveryPoll h =>
    unfold cancelRecoveryPoll; split
    · exact hq
    · exact hq.setPc rfl rfl rfl
  | shutDown h => exact hq.setPc rfl hq.shuttingDown.symm rfl
  | resetTpgs h => exact hq.setPc rfl rfl rfl
  | drain ret h =>
    unfold reopenDrain reopenDone; split
    · exact hq.setPc (Caller.ret_pastShutdownCheck _ _) rfl rfl
    · rw [if_pos hq.shuttingDown]
      exact hq.setPc (Caller.ret_pastShutdownCheck _ _) rfl rfl
  | resetLock h | close h | reopenOpen _ h => exact (hq.not_at h rfl).elim
  | lockDone locked h => exact hq.setPc rfl rfl rfl

/-- **`tcmu_cancel_recovery` after `SHUTTING_DOWN`.** When it returns, `IN_RECOVERY` is clear and
no run is in progress. In every later state, whatever calls come after, every run is at its drain
(it will stop at the `SHUTTING_DOWN` check), and no thread is in the handler's `close()` or
`open()`. -/
theorem cancel_recovery_after_shutdown {s₀ s₁ s₂ : St} (h₀ : Reachable s₀)
    (hsd : s₀.shuttingDown = true) (hret : CancelRecoveryReturn s₀ s₁)
    (hlater : Relation.ReflTransGen Step s₁ s₂) :
    s₁.inRecovery = false ∧ (∀ u, (s₁.pc u).inRun = false) ∧
      (∀ u, (s₂.pc u).inRun → ∃ c, s₂.pc u = .reopen c .drain) ∧
      ∀ u, (s₂.pc u).inBackend = false := by
  have hi := reachable_recoveryInv (h₀.tail hret.step)
  have hfree : ∀ u, (s₁.pc u).holdsRecovery = false := fun u =>
    Bool.eq_false_iff.mpr fun h => by simpa [hret.inRecovery] using hi.flag.mpr ⟨u, h⟩
  have hq : Quiesced s₂ :=
    Relation.ReflTransGen.rec ⟨hret.shuttingDown ▸ hsd, fun u => Bool.eq_false_iff.mpr fun h =>
      Bool.false_ne_true ((hfree u).symm.trans (Pc.holdsRecovery_of_pastShutdownCheck h))⟩
      (fun _ hst ih => step_quiesced hst ih) hlater
  refine ⟨hret.inRecovery, fun u => Bool.eq_false_iff.mpr fun h => ?_, fun u hu => ?_,
    fun u => Bool.eq_false_iff.mpr fun h => ?_⟩
  · exact Bool.false_ne_true ((hfree u).symm.trans ((Pc.holdsRecovery_iff _).mpr (.inl h)))
  · have hnp := hq.notPast u
    revert hu hnp
    cases s₂.pc u with
    | reopen c loc => cases loc <;> simp [Pc.pastShutdownCheck]
    | lockJoinCall k => cases k <;> simp [Pc.inRun, Pc.pastShutdownCheck]
    | lockJoin k h => cases k <;> simp [Pc.inRun, Pc.pastShutdownCheck]
    | _ => simp [Pc.inRun]
  · exact Bool.false_ne_true ((hq.notPast u).symm.trans (Pc.pastShutdownCheck_of_inBackend h))

/-- A fresh device whose thread 0 has set `SHUTTING_DOWN`, with thread 1 about to call
`tcmu_cancel_recovery`. -/
def teardownSt : St := (setShuttingDown (init.setPc 0 (.idle 0)) 0).setPc 1 (.idle 0)

theorem reachable_teardownSt : Reachable teardownSt :=
  ((Relation.ReflTransGen.single (@Step.born init 0 rfl)).tail (@Step.shutDown _ 0 0 rfl)).tail
    (@Step.born _ 1 rfl)

/-- The teardown's `tcmu_cancel_recovery` returns at once, and a connection loss reported after
it: the run it starts is at most at its drain, and nothing is in `close()` or `open()`. -/
theorem cancel_recovery_then_conn_lost :
    let s₁ := tcmuCancelRecovery teardownSt 1
    let s₂ := tcmuNotifyConnLost s₁ 0 true 2
    Reachable teardownSt ∧ teardownSt.shuttingDown = true ∧
      CancelRecoveryReturn teardownSt s₁ ∧ Relation.ReflTransGen Step s₁ s₂ ∧
      (s₁.inRecovery = false ∧ (∀ u, (s₁.pc u).inRun = false) ∧
        (∀ u, (s₂.pc u).inRun → ∃ c, s₂.pc u = .reopen c .drain) ∧
        ∀ u, (s₂.pc u).inBackend = false) :=
  have hret : CancelRecoveryReturn teardownSt (tcmuCancelRecovery teardownSt 1) := .early rfl rfl
  have hlater := Relation.ReflTransGen.single (@Step.notifyConnLost _ 0 0 2 true rfl rfl)
  ⟨reachable_teardownSt, rfl, hret, hlater,
    cancel_recovery_after_shutdown reachable_teardownSt rfl hret hlater⟩

/-- After `SHUTTING_DOWN` is set and `tcmu_cancel_recovery` has returned, a connection loss
still creates a recovery thread (`2`) and sets `IN_RECOVERY`. -/
theorem conn_lost_after_cancel_recovery :
    ∃ s₀ s₁ s₂, Reachable s₀ ∧ s₀.shuttingDown = true ∧ CancelRecoveryReturn s₀ s₁ ∧
      Relation.ReflTransGen Step s₁ s₂ ∧ s₁.pc 2 = .unborn ∧ s₂.pc 2 = .recoveryStart ∧
      s₂.inRecovery = true :=
  ⟨teardownSt, _, _, reachable_teardownSt, rfl, @CancelRecoveryReturn.early _ 1 0 rfl rfl,
    .single (@Step.notifyConnLost _ 0 0 2 true rfl rfl), rfl, rfl, rfl⟩

end TcmuRunner.Device
