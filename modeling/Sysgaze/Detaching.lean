import Sysgaze.Signals

/-! # The signals that tracees are detached with

    `detach_all_tracees` waits for a tracee that has not stopped, and reads the
    stop signal off the wait status by itself.  `detach_answers_iff`: what it
    passes on is what the loop would have passed on for the same stop, except
    for the stops that the loop answers with no signal although they have a
    stop signal of their own: group-stops, and the `SIGSTOP` of a newborn.
-/

open Fallible

namespace Sysgaze

/-- The signal that the loop answers a stop with. -/
def answered_signal (newborn : Bool) (stop : Int) (ptrace_event : Nat) (answer : SigInfoAnswer) :
    Int :=
  if stop = SYSCALL_STOP ∨ ptrace_event ≠ 0 ∨ (newborn && stop = SIGSTOP) = true then 0
  else if answer.isOk then stop
  else 0

/-- The stop signal is that of a system call stop, of an event, or of a signal that is
    delivered. -/
def AnsweredAlike (newborn : Bool) (stop : Int) (ptrace_event : Nat) (answer : SigInfoAnswer) :
    Prop :=
  stop = 0 ∨ stop = SYSCALL_STOP ∨ (ptrace_event ≠ 0 ∧ stop = SIGTRAP) ∨
    (ptrace_event = 0 ∧ (newborn && stop = SIGSTOP) = false ∧ answer.isOk = true)

section signal
variable {config : Config} {env : Env} {c : Context} {tracee : Tracee}

/-- **The loop** answers a stop with this signal, whatever it does besides. -/
theorem handle_stop_signal (tracee : Tracee) (stop : Int) (ptrace_event : Nat) (answers : Answers) :
    Holds (handle_stop config env tracee stop ptrace_event answers) c
      (fun result _ => result.1 =
        answered_signal tracee.newborn stop ptrace_event answers.signal_info)
      (fun _ _ => True) := by
  have hanything : ∀ {α : Type} (m : TraceM α) (c : Context),
      Holds m c (fun _ _ => True) (fun _ _ => True) := by
    intro α m c
    unfold Holds
    split
    · trivial
    · trivial
  unfold handle_stop answered_signal
  by_cases hsyscall : stop = SYSCALL_STOP
  · rw [if_pos hsyscall, if_pos (Or.inl hsyscall), holds_bind]
    exact (hanything _ _).mono (fun _ _ _ => rfl) fun _ _ h => h
  · rw [if_neg hsyscall]
    by_cases hevent : ptrace_event = 0
    · rw [hevent, if_neg (by decide), if_neg (by decide)]
      by_cases hnewborn : (tracee.newborn && decide (stop = SIGSTOP)) = true
      · rw [if_pos hnewborn, if_pos (Or.inr (Or.inr hnewborn)), holds_bind, holds_store]
        rfl
      · rw [if_neg hnewborn, if_neg (by simpa [hsyscall] using hnewborn)]
        unfold handle_signal_stop
        rw [holds_bind, holds_measured_ptrace]
        cases answers.signal_info with
        | ok signal_info =>
          simp only [holds_bind, holds_store]
          exact (hanything _ _).mono (fun _ _ _ => rfl) fun _ _ h => h
        | einval =>
          dsimp only
          split
          · rfl
          · trivial
        | failed => trivial
    · rw [if_pos (Or.inr (Or.inl hevent))]
      split
      · split
        · rfl
        · rfl
      · rw [holds_bind]
        exact (hanything _ _).mono (fun _ _ _ => rfl) fun _ _ h => h

/-- The two readings of a stop agree for these stops only. -/
theorem detach_signal_iff (newborn : Bool) (stop : Int) (ptrace_event : Nat)
    (answer : SigInfoAnswer) :
    detach_signal (some (.stopped stop ptrace_event)) =
        some (answered_signal newborn stop ptrace_event answer) ↔
      AnsweredAlike newborn stop ptrace_event answer := by
  unfold detach_signal answered_signal AnsweredAlike
  dsimp only
  rw [Option.some.injEq]
  by_cases hsyscall : stop = SYSCALL_STOP
  · simp [hsyscall]
  · by_cases hevent : ptrace_event = 0
    · -- Without an event the stop signal is passed on.
      rw [if_pos ⟨hsyscall, fun h => h.2 hevent⟩]
      simp only [hsyscall, hevent, not_true_eq_false, false_and, true_and, false_or, ne_eq]
      cases (newborn && decide (stop = SIGSTOP)) with
      | true => simp
      | false => cases answer.isOk <;> simp
    · rw [if_pos (Or.inr (Or.inl hevent))]
      by_cases htrap : stop = SIGTRAP
      · rw [if_neg fun h => h.2 ⟨htrap, hevent⟩]
        simp [htrap, hevent]
      · rw [if_pos ⟨hsyscall, fun h => htrap h.1⟩]
        simp [hsyscall, hevent, htrap]

/-! ### What is asked for -/

/-- The task is detached as `detach_requests` says for its record, and in no other way. -/
theorem detach_all_tracees_requests (hold : c.tracees.lookup tracee.tid = some tracee)
    (answers : Pid → DetachAnswer)
    (hkept : tracee.in_ptrace_stop = true ∨ (answers tracee.tid).interrupt_esrch = false) :
    Holds (detach_all_tracees answers) c
      (fun _ c' => ∃ added, c'.requests = c.requests ++ added ∧
        added.filter (fun request => request.request = .PTRACE_DETACH ∧ request.tid = tracee.tid) =
          detach_requests answers tracee)
      (fun _ _ => False) := by
  apply (detach_all_tracees_adds hold answers hkept).mono
  · intro _ c' hpost
    rcases hpost with ⟨before, after, hadded, hinterrupts, hdetaches, hafter⟩
    refine ⟨before ++ after, hadded, ?_⟩
    have hbefore : before.filter (fun request =>
        request.request = .PTRACE_DETACH ∧ request.tid = tracee.tid) = [] := by
      rw [List.filter_eq_nil_iff]
      intro request hrequest
      simp [(hinterrupts request hrequest).1]
    have hsame : after.filter (fun request =>
        request.request = .PTRACE_DETACH ∧ request.tid = tracee.tid) =
          after.filter fun request => request.tid = tracee.tid := by
      apply List.filter_congr
      intro request hrequest
      simp [hdetaches request hrequest]
    rw [List.filter_append, hbefore, hsame, List.nil_append, hafter]
  · intro _ _ h
    exact h

end signal

/-- The only `PTRACE_DETACH` for the task passes this signal on. -/
def DetachedWith (c : Context) (answers : Pid → DetachAnswer) (tid : Pid) (signal : Int) : Prop :=
  Holds (detach_all_tracees answers) c
    (fun _ c' => ∃ added, c'.requests = c.requests ++ added ∧
      added.filter (fun request => request.request = .PTRACE_DETACH ∧ request.tid = tid) =
        [⟨.PTRACE_DETACH, tid, signal⟩])
    (fun _ _ => False)

/-- **Detaching answers a stop** like the loop if and only if the stop is that of a system
    call, of an event with `SIGTRAP`, or of a signal that is delivered.  A tracee that has
    stopped before is detached with the signal that its record holds. -/
theorem detach_answers_iff {c : Context} {tracee : Tracee}
    (hold : c.tracees.lookup tracee.tid = some tracee) (hphase : tracee.phase ≠ .SG_TRACEE_GONE)
    (answers : Pid → DetachAnswer) :
    (tracee.in_ptrace_stop = true →
      DetachedWith c answers tracee.tid tracee.pending_signal) ∧
    (tracee.in_ptrace_stop = false → ∀ stop ptrace_event,
      (answers tracee.tid).interrupt_esrch = false →
      (answers tracee.tid).status = some (.stopped stop ptrace_event) →
      ∃ signal, DetachedWith c answers tracee.tid signal ∧
        ∀ config env loop_answers delivery_signal listen c₁ c₂,
          (handle_stop config env { tracee with in_ptrace_stop := true, phase := .SG_TRACEE_STOPPED }
            stop ptrace_event loop_answers).exec c₁ = (.ok (delivery_signal, listen), c₂) →
          (signal = delivery_signal ↔
            AnsweredAlike tracee.newborn stop ptrace_event loop_answers.signal_info)) := by
  constructor
  · intro hstopped
    have hrequests := detach_all_tracees_requests hold answers (Or.inl hstopped)
    unfold detach_requests at hrequests
    rw [if_neg hphase, if_pos hstopped] at hrequests
    exact hrequests
  · intro hrunning stop ptrace_event hinterrupt hstatus
    have hrequests := detach_all_tracees_requests hold answers (Or.inr hinterrupt)
    unfold detach_requests at hrequests
    rw [if_neg hphase, if_neg (by rw [hrunning]; decide), hstatus] at hrequests
    obtain ⟨signal, hsignal⟩ : ∃ signal,
        detach_signal (some (.stopped stop ptrace_event)) = some signal := ⟨_, rfl⟩
    rw [hsignal] at hrequests
    refine ⟨signal, hrequests, ?_⟩
    intro config env loop_answers delivery_signal listen c₁ c₂ hloop
    have hdelivery : delivery_signal =
        answered_signal tracee.newborn stop ptrace_event loop_answers.signal_info :=
      (handle_stop_signal _ stop ptrace_event loop_answers).of_ok hloop
    rw [← detach_signal_iff, hsignal, hdelivery, Option.some.injEq]

/-- A task that is interrupted, and then found in a stop. -/
def found_stopped (stop : Int) (ptrace_event : Nat) : Pid → DetachAnswer :=
  fun _ => ⟨false, some (.stopped stop ptrace_event)⟩

/-- A task that has been seized. -/
def Context.seized (tid : Pid) : Context := finalState (add_tracee .reliable tid tid true true) .init

theorem seized_lookup {tid : Pid} (htid : 0 < tid) :
    (Context.seized tid).tracees.lookup (Tracee.registered tid tid true true).tid =
      some (Tracee.registered tid tid true true) := by
  have hadd : Holds (add_tracee .reliable tid tid true true) .init
      (fun _ c => c.tracees.lookup tid = some (Tracee.registered tid tid true true))
      (fun _ _ => False) := by
    apply (add_tracee_spec tid tid true true).mono
    · intro _ c hpost
      rcases hpost with ⟨_, _, hreg⟩
      rw [hreg.lookup, if_pos ⟨rfl, rfl⟩]
    · intro _ c hpost
      rcases hpost with ⟨_, hwhy⟩
      obtain h | h | h := hwhy
      · exact absurd htid (not_lt.mpr h)
      · exact absurd htid (not_lt.mpr h)
      · have h : calloc_slots true 16 = false := h
        exact absurd h (by decide)
  obtain ⟨⟨⟩, c, hrun, h⟩ := hadd.exists_ok
  unfold Context.seized finalState
  rw [hrun]
  exact h

theorem detach_answers_iff_interrupted : ∃ signal,
    DetachedWith (.seized 100) (found_stopped SIGTRAP PTRACE_EVENT_STOP) 100 signal := by
  have hold := seized_lookup (by decide : (0 : Pid) < 100)
  obtain ⟨signal, hdetached, -⟩ := (detach_answers_iff hold (show TraceePhase.SG_TRACEE_NEW ≠
    .SG_TRACEE_GONE by decide) (found_stopped SIGTRAP PTRACE_EVENT_STOP)).2 rfl _ _ rfl rfl
  exact ⟨signal, hdetached⟩

/-- **A group-stop is answered in two ways**: the loop passes no signal on, and detaching passes
    `SIGSTOP` on. -/
theorem group_stop_detached_with_signal : ¬∀ (c : Context) (tracee : Tracee),
    c.tracees.lookup tracee.tid = some tracee → tracee.phase ≠ .SG_TRACEE_GONE →
    tracee.attached = true → tracee.in_ptrace_stop = false →
    ∀ (answers : Pid → DetachAnswer) (stop : Int) (ptrace_event : Nat),
      (answers tracee.tid).interrupt_esrch = false →
      (answers tracee.tid).status = some (.stopped stop ptrace_event) →
      ∀ config env loop_answers delivery_signal listen c₁ c₂,
        (handle_stop config env { tracee with in_ptrace_stop := true, phase := .SG_TRACEE_STOPPED }
          stop ptrace_event loop_answers).exec c₁ = (.ok (delivery_signal, listen), c₂) →
        DetachedWith c answers tracee.tid delivery_signal := by
  intro h
  have hold := seized_lookup (by decide : (0 : Pid) < 100)
  have hloop := h (.seized 100) _ hold
    (show TraceePhase.SG_TRACEE_NEW ≠ .SG_TRACEE_GONE by decide) rfl rfl
    (found_stopped SIGSTOP PTRACE_EVENT_STOP) SIGSTOP PTRACE_EVENT_STOP rfl rfl
    .following .reliable (.plain none) 0 true .init _ rfl
  have hdetach := detach_all_tracees_requests hold (found_stopped SIGSTOP PTRACE_EVENT_STOP)
    (Or.inr rfl)
  obtain ⟨_, c', _, ⟨added, hadded, hzero⟩, added', hadded', hstop⟩ :=
    ((hloop.and hdetach).mono (fun _ _ h => h) fun _ _ h => h.1).exists_ok
  rw [List.append_cancel_left (hadded.symm.trans hadded')] at hzero
  rw [hzero] at hstop
  exact absurd hstop (by decide)

end Sysgaze
