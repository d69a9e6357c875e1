import Mathlib.Tactic.FinCases
import Sysgaze.Registry

/-! # Exactly one record for every call

    In ordinary mode, when nothing fails and no call is interrupted, the calls
    that are reported for a task are a function of its own stops: one record
    for each selected entry that is followed by an exit or an exec event.

    `Serves` says what a round does to the calls of all tasks and to the log;
    `loop_round_serves` takes a round apart, and `records_of_own_stops` is the
    statement about every run.
-/

open Fallible Stepping

namespace Sysgaze

/-! ### The calls of all tasks -/

/-- The calls of the tasks in the table. -/
def Context.calls (context : Context) : Pid → Option Calls :=
  fun tid => (context.tracees.lookup tid).map Tracee.calls

/-- The slot array is as large as `calloc` grants: it cannot be doubled. -/
def Context.Full (context : Context) : Prop :=
  calloc_slots true context.tracees.1.nextCapacity = false

/-- No call is remembered as unfinished, and every record has a thread group. -/
structure Context.Sound (context : Context) : Prop where
  silent : context.output.unfinished_tids = []
  groups : ∀ tid tracee, context.tracees.lookup tid = some tracee → 0 < tracee.tgid

theorem Context.Sound.ok {context : Context} (h : context.Sound) : context.Ok := by
  refine ⟨?_, fun tid htid => ?_⟩
  · rw [h.silent]
    exact List.nodup_nil
  · rw [h.silent] at htid
    simp at htid

/-- NDJSON records are written in ordinary mode, and nothing fails. -/
structure Recording (config : Config) (env : Env) : Prop where
  succeeds : env.Succeeds
  events : config.summary = false
  format : config.format = .SG_FORMAT_NDJSON
  ordinary : config.seccomp_bpf = false

theorem Recording.not_text {config : Config} {env : Env} (h : Recording config env) :
    config.format ≠ .SG_FORMAT_TEXT := by
  rw [h.format]
  decide

/-- From `c` to `c'` the calls have become `calls`, and the records have been reported. -/
structure Serves (c : Context) (calls : Pid → Option Calls) (records : List (Pid × SyscallEvent))
    (c' : Context) : Prop where
  calls : c'.calls = calls
  completed : c'.completed = c.completed ++ records
  sound : c'.Sound

section serves
variable {config : Config} {env : Env} {c c' c'' : Context} {calls calls' : Pid → Option Calls}
  {records records' : List (Pid × SyscallEvent)} {tracee : Tracee} {tid : Pid}

theorem Serves.refl (hok : c.Sound) : Serves c c.calls [] c :=
  ⟨rfl, (List.append_nil _).symm, hok⟩

theorem Serves.trans (h : Serves c calls records c') (h' : Serves c' calls' records' c'') :
    Serves c calls' (records ++ records') c'' :=
  ⟨h'.calls, by rw [h'.completed, h.completed, List.append_assoc], h'.sound⟩

/-- Only the requests and the flags of the context differ. -/
theorem Serves.of_eq (hok : c.Sound) (htracees : c'.tracees = c.tracees) (houtput : c'.output = c.output) :
    Serves c c.calls [] c' := by
  refine ⟨?_, ?_, ?_⟩
  · unfold Context.calls
    rw [htracees]
  · unfold Context.completed
    rw [houtput, List.append_nil]
  · exact ⟨by rw [houtput]; exact hok.silent, by rw [htracees]; exact hok.groups⟩

theorem Context.calls_eq (hold : c.tracees.lookup tracee.tid = some tracee) :
    c.calls tracee.tid = some tracee.calls := by
  unfold Context.calls
  rw [hold]
  rfl

/-- A record is stored. -/
theorem Serves.store {t : Tracee} (h : Serves c calls records c')
    (hknown : (c'.tracees.lookup t.tid).isSome) (htgid : 0 < t.tgid) :
    Serves c (Function.update calls t.tid (some t.calls)) records
      { c' with tracees := c'.tracees.write t } := by
  refine ⟨?_, h.completed, h.sound.silent, ?_⟩
  rotate_left
  · intro other record hrecord
    have hrecord : (c'.tracees.write t).lookup other = some record := hrecord
    rw [Tracees.lookup_write] at hrecord
    split at hrecord
    · rw [← Option.some.inj hrecord]
      exact htgid
    · exact h.sound.groups other record hrecord
  rw [← h.calls]
  funext other
  unfold Context.calls
  rw [Tracees.lookup_write, Function.update_apply]
  by_cases ho : other = t.tid
  · rw [if_pos ⟨ho, hknown⟩, if_pos ho]
    rfl
  · rw [if_neg fun h => ho h.1, if_neg ho]

/-- A record is stored whose calls are the same. -/
theorem Serves.restore (hok : c.Sound) (hold : c.tracees.lookup tracee.tid = some tracee) {t : Tracee}
    (htid : t.tid = tracee.tid) (htgid : t.tgid = tracee.tgid) (hcalls : t.calls = tracee.calls) :
    Serves c c.calls [] { c with tracees := c.tracees.write t } := by
  have h := (Serves.refl hok).store (t := t) (by rw [htid, hold]; rfl)
    (by rw [htgid]; exact hok.groups _ _ hold)
  rwa [htid, hcalls, ← Context.calls_eq hold, Function.update_eq_self] at h

theorem Handled.serves {new : Tracee} {reported : List SyscallEvent} (hs : Recording config env)
    (hok : c.Sound)
    (hold : c.tracees.lookup tracee.tid = some tracee) (h : Handled config c tracee new reported c') :
    Serves c (Function.update c.calls tracee.tid (some new.calls))
      (reported.map fun record => (tracee.tid, record)) c' := by
  refine ⟨?_, h.completed, (h.unfinished hs.not_text).trans hok.silent, ?_⟩
  rotate_left
  · intro other record hrecord
    rw [h.lookup] at hrecord
    split at hrecord
    · rw [← Option.some.inj hrecord, h.tgid]
      exact hok.groups _ _ hold
    · exact hok.groups other record hrecord
  funext other
  unfold Context.calls
  rw [h.lookup, Function.update_apply]
  split <;> rfl

/-- Nothing is completed by an event about anything but a call. -/
theorem write_stamped_serves (hs : Recording config env) (hok : c.Sound) {data : EventData}
    (hdata : ∀ call, data ≠ .syscall call) :
    Holds (write_stamped config env tracee data) c (fun _ c' => Serves c c.calls [] c')
      (fun _ _ => False) := by
  apply ((write_stamped_spec tracee data).and
    (write_stamped_total hs.succeeds roomy_ok hok.ok tracee data)).mono
  · intro _ c' hpost
    rcases hpost with ⟨⟨events, observed_at, hevents, hw⟩, _⟩
    refine ⟨?_, ?_, ?_⟩
    · unfold Context.calls
      rw [hw.tracees]
    · have hnone : (⟨tracee.tid, tracee.tgid, observed_at, data⟩ : Event).completed = none := by
        cases data with
        | syscall call => exact absurd rfl (hdata call)
        | _ => rfl
      show c'.output.log.completed = c.output.log.completed ++ []
      rw [hw.log, completed_foldl hs.events, List.filterMap_append, filterMap_flush hevents]
      simp [hnone]
    · refine ⟨?_, by rw [hw.tracees]; exact hok.groups⟩
      show c'.output.log.unfinished = []
      rw [hw.log, unfinished_foldl_json hs.not_text]
      exact hok.silent
  · intro _ _ h
    exact h.2

end serves

/-! ### The stops of a task that concern its calls -/

/-- The stop of a call that `PTRACE_GET_SYSCALL_INFO` describes. -/
def SyscallInfo.call_stop (info : SyscallInfo) : Option CallStop :=
  if info.op = PTRACE_SYSCALL_INFO_ENTRY then some (.entry info.nr info.args)
  else if info.op = PTRACE_SYSCALL_INFO_EXIT then some (.exit info.rval info.is_error)
  else none

/-- The answer of `PTRACE_GET_SYSCALL_INFO` at an entry or exit of a native call. -/
structure SyscallInfo.Native (info : SyscallInfo) : Prop where
  header : sizeof_header ≤ info.size
  arch : info.arch = AUDIT_ARCH_X86_64
  op : (info.op = PTRACE_SYSCALL_INFO_ENTRY ∧ sizeof_entry ≤ info.size) ∨
    (info.op = PTRACE_SYSCALL_INFO_EXIT ∧ sizeof_exit ≤ info.size)

/-- The stop of a call that a report is about. -/
def WaitStatus.call_stop (status : WaitStatus) (answers : Answers) : Option CallStop :=
  match status with
  | .stopped stop ptrace_event =>
    if stop = SYSCALL_STOP then answers.syscall_info.bind SyscallInfo.call_stop
    else if ptrace_event = PTRACE_EVENT_EXEC then some .exec
    else none
  | _ => none

/-- From `c` to `c'` a round has failed, and nothing was reported: the table is full, or the
    number of the call that is entered is not a `long`. -/
structure Refused (c : Context) (stop : Option CallStop) (c' : Context) : Prop where
  completed : c'.completed = c.completed
  why : c'.Full ∨
    ∃ number arguments, stop = some (.entry number arguments) ∧ LONG_MAX < number.toNat

/-- What a stop of a task in the table does to the calls of all tasks, and what is
    reported. -/
inductive StopServed (sel : Int → Bool) (calls : Pid → Option Calls) (waited : Pid) :
    Option CallStop → Option Pid → (Pid → Option Calls) → List (Pid × SyscallEvent) → Prop
  | call {stop : CallStop} {child : Option Pid} {own own' : Calls} {reported : List SyscallEvent} :
      calls waited = some own → CallStep sel own stop own' reported →
      StopServed sel calls waited (some stop) child (Function.update calls waited (some own'))
        (reported.map fun record => (waited, record))
  | child {child : Pid} : StopServed sel calls waited none (some child)
      (if calls child = none then Function.update calls child (some .idle) else calls) []
  | other : StopServed sel calls waited none none calls []

section serves
variable {config : Config} {env : Env} {c : Context} {tracee : Tracee}

theorem Refused.of_full {c' : Context} {stop : Option CallStop} (htracees : c'.tracees = c.tracees)
    (houtput : c'.output = c.output) (hfull : c.Full) : Refused c stop c' := by
  refine ⟨?_, Or.inl ?_⟩
  · unfold Context.completed
    rw [houtput]
  · unfold Context.Full
    rw [htracees]
    exact hfull

theorem Serves.asking (hok : c.Sound) (request : PtraceRequest) (tid : Pid) :
    Serves c c.calls [] (c.asking request tid) := .of_eq hok rfl rfl

theorem handle_syscall_stop_serves (hs : Recording config env)
    (hok : c.Sound) (hold : c.tracees.lookup tracee.tid = some tracee) {info : SyscallInfo}
    (hnative : info.Native) {stop : CallStop} (hstop : info.call_stop = some stop)
    (hentry : info.op = PTRACE_SYSCALL_INFO_ENTRY → tracee.has_pending_syscall = false) :
    Holds (handle_syscall_stop config env tracee (some info)) c
      (fun _ c' => ∃ calls records, StopServed (selected config) c.calls tracee.tid (some stop) none
        calls records ∧ Serves c calls records c')
      (fun _ c' => Refused c (some stop) c') := by
  have h₀ : Serves c c.calls [] (c.asking .PTRACE_GET_SYSCALL_INFO tracee.tid) := .asking hok _ _
  have hold₀ : (c.asking .PTRACE_GET_SYSCALL_INFO tracee.tid).tracees.lookup tracee.tid =
      some tracee := hold
  have hown : c.calls tracee.tid = some tracee.calls := Context.calls_eq hold
  have hhandled : ∀ {c' : Context} {new : Tracee} {reported : List SyscallEvent},
      CallStep (selected config) tracee.calls stop new.calls reported →
      Handled config (c.asking .PTRACE_GET_SYSCALL_INFO tracee.tid) tracee new reported c' →
      ∃ calls records, StopServed (selected config) c.calls tracee.tid (some stop) none
        calls records ∧ Serves c calls records c' := by
    intro c' new reported hstep hh
    exact ⟨_, _, .call hown hstep, h₀.trans (hh.serves hs h₀.sound hold₀)⟩
  unfold handle_syscall_stop
  rw [holds_bind, holds_measured_ptrace]
  show Holds _ (c.asking .PTRACE_GET_SYSCALL_INFO tracee.tid) _ _
  dsimp only
  rw [if_neg (not_lt.mpr hnative.header), if_neg (not_not_intro hnative.arch)]
  unfold SyscallInfo.call_stop at hstop
  obtain ⟨hop, hsize⟩ | ⟨hop, hsize⟩ := hnative.op
  · rw [if_pos hop] at hstop
    rw [if_pos hop, if_neg (not_lt.mpr hsize)]
    cases hstop
    by_cases hrange : info.nr.toNat > LONG_MAX
    · unfold begin_syscall
      rw [if_pos hrange, holds_throw]
      exact ⟨rfl, Or.inr ⟨_, _, rfl, hrange⟩⟩
    have hnr : info.nr.toNat ≤ LONG_MAX := not_lt.mp hrange
    apply (begin_syscall_ok hs.succeeds hs.events h₀.sound.ok hold₀ info.nr info.args hnr (hentry hop)).mono
    · intro _ c' hpost
      rcases hpost with ⟨new, reported, hstep, hh⟩
      exact hhandled hstep hh
    · intro _ _ h
      exact h.elim
  · have hne : info.op ≠ PTRACE_SYSCALL_INFO_ENTRY := by rw [hop]; decide
    rw [if_neg hne, if_pos hop] at hstop
    rw [if_neg hne, if_pos hop, if_neg (not_lt.mpr hsize)]
    cases hstop
    apply (finish_syscall_ok hs.succeeds hs.events h₀.sound.ok hold₀ info.rval info.is_error).mono
    · intro _ c' hpost
      rcases hpost with ⟨new, reported, hstep, hh⟩
      exact hhandled hstep hh
    · intro _ _ h
      exact h.elim

theorem handle_exec_event_serves (hs : Recording config env)
    (hok : c.Sound) (hold : c.tracees.lookup tracee.tid = some tracee) :
    Holds (handle_exec_event config env tracee) c
      (fun _ c' => ∃ calls records, StopServed (selected config) c.calls tracee.tid (some .exec) none
        calls records ∧ Serves c calls records c')
      (fun _ _ => False) := by
  apply (handle_exec_event_ok hs.succeeds hs.events hok.ok hold).mono
  · intro _ c' hpost
    rcases hpost with ⟨new, reported, hstep, hh⟩
    exact ⟨_, _, .call (Context.calls_eq hold) hstep, hh.serves hs hok hold⟩
  · intro _ _ h
    exact h

theorem Registers.serves {tid tgid : Pid} {attached newborn : Bool} {c' : Context} (hok : c.Sound)
    (htgid : 0 < tgid) (h : Registers c tid tgid attached newborn c') :
    Serves c (if c.calls tid = none then Function.update c.calls tid (some .idle) else c.calls) []
      c' := by
  have hnone : c.calls tid = none ↔ c.tracees.lookup tid = none := Option.map_eq_none_iff
  refine ⟨?_, ?_, ?_⟩
  · funext other
    unfold Context.calls at hnone ⊢
    rw [h.lookup]
    by_cases hlookup : c.tracees.lookup tid = none
    · rw [if_pos (hnone.mpr hlookup), Function.update_apply]
      by_cases ho : other = tid
      · rw [if_pos ⟨ho, hlookup⟩, if_pos ho]
        rfl
      · rw [if_neg fun h => ho h.1, if_neg ho]
    · rw [if_neg fun h => hlookup (hnone.mp h), if_neg fun h => hlookup h.2]
  · unfold Context.completed
    rw [h.output, List.append_nil]
  · refine ⟨by rw [h.output]; exact hok.silent, fun other record hrecord => ?_⟩
    rw [h.lookup] at hrecord
    split at hrecord
    · rw [← Option.some.inj hrecord]
      exact htgid
    · exact hok.groups other record hrecord

/-- A record with a positive TID can be added, unless the table is full. -/
theorem add_tracee_serves (hs : Recording config env) (hok : c.Sound) {tid tgid : Pid} (htid : 0 < tid)
    (htgid : 0 < tgid) (attached newborn : Bool) :
    Holds (add_tracee env tid tgid attached newborn) c
      (fun _ c' => (c'.tracees.lookup tid).isSome ∧
        (∀ other, (c.tracees.lookup other).isSome → (c'.tracees.lookup other).isSome) ∧
        Serves c (if c.calls tid = none then Function.update c.calls tid (some .idle) else c.calls)
          [] c')
      (fun _ c' => c'.tracees = c.tracees ∧ c'.output = c.output ∧ c.Full) := by
  apply (add_tracee_spec tid tgid attached newborn).mono
  · intro _ c' hpost
    rcases hpost with ⟨_, _, hreg⟩
    refine ⟨?_, ?_, hreg.serves hok htgid⟩
    · rw [hreg.lookup]
      split
      · rfl
      · rename_i hknown
        exact Option.isSome_iff_ne_none.mpr fun h => hknown ⟨rfl, h⟩
    · intro other hother
      rw [hreg.lookup]
      split
      · rfl
      · exact hother
  · intro _ c' hpost
    rcases hpost with ⟨hsame, hwhy⟩
    obtain h | h | h := hwhy
    · exact absurd htid (not_lt.mpr h)
    · exact absurd htgid (not_lt.mpr h)
    · rw [hs.succeeds.alloc] at h
      exact ⟨hsame.tracees, hsame.output, h⟩

theorem handle_child_event_serves (hs : Recording config env)
    (hok : c.Sound) (hold : c.tracees.lookup tracee.tid = some tracee) (ptrace_event : Nat)
    {answers : Answers} {message : Nat} (hmessage : answers.eventmsg = some message)
    (hpos : 0 < message) (hmax : (message : Int) ≤ INT_MAX) :
    Holds (handle_child_event config env tracee ptrace_event answers) c
      (fun _ c' => ∃ calls records, StopServed (selected config) c.calls tracee.tid none
        (some (message : Pid)) calls records ∧ Serves c calls records c')
      (fun _ c' => Refused c none c') := by
  have h₀ : Serves c c.calls [] (c.asking .PTRACE_GETEVENTMSG tracee.tid) := .asking hok _ _
  have hchild : (0 : Pid) < (message : Pid) := Int.natCast_pos.mpr hpos
  unfold handle_child_event
  rw [holds_bind, holds_measured_ptrace]
  show Holds _ (c.asking .PTRACE_GETEVENTMSG tracee.tid) _ _
  have hvalid : ¬(message = 0 ∨ (message : Int) > INT_MAX) := by
    intro h
    obtain h | h := h
    · omega
    · exact absurd h (not_lt.mpr hmax)
  simp only [hmessage, Option.getD_some, if_neg hvalid, holds_bind, holds_onError]
  have hfallback : (0 : Pid) < (if answers.child_tgid ≤ 0 then
      if ptrace_event = PTRACE_EVENT_CLONE then tracee.tgid else (message : Pid)
      else answers.child_tgid) := by
    split
    · split
      · exact hok.groups _ _ hold
      · exact hchild
    · rename_i h
      exact not_le.mp h
  apply (add_tracee_serves hs h₀.sound hchild hfallback _ _).mono
  · intro _ c₁ hpost
    rcases hpost with ⟨_, hkept, h₁⟩
    have hparent := hkept tracee.tid (by
      show (c.tracees.lookup tracee.tid).isSome = true
      rw [hold]
      rfl)
    obtain ⟨parent, hparent'⟩ := Option.isSome_iff_exists.mp hparent
    rw [holds_get, Tracees.get_eq, hparent']
    apply (write_stamped_serves hs h₁.sound (fun _ => by simp)).mono
    · intro _ c₂ h₂
      rw [h₁.calls] at h₂
      exact ⟨_, _, .child, (h₀.trans h₁).trans h₂⟩
    · intro _ _ h
      exact h.elim
  · intro _ c₁ hpost
    rcases hpost with ⟨hsame, houtput, hfull⟩
    unfold Context.abandon_child
    split
    · exact .of_full hsame houtput hfull
    · exact .of_full hsame houtput hfull

theorem handle_signal_stop_serves (hs : Recording config env)
    (hok : c.Sound) (hold : c.tracees.lookup tracee.tid = some tracee) {stop : Int}
    {answer : SigInfoAnswer}
    (hanswer : answer.isOk = true ∨ (answer = .einval ∧ is_stopping_signal stop = true)) :
    Holds (handle_signal_stop config env tracee stop answer) c
      (fun _ c' => Serves c c.calls [] c') (fun _ _ => False) := by
  have h₀ : Serves c c.calls [] (c.asking .PTRACE_GETSIGINFO tracee.tid) := .asking hok _ _
  have hold₀ : (c.asking .PTRACE_GETSIGINFO tracee.tid).tracees.lookup tracee.tid =
      some tracee := hold
  unfold handle_signal_stop
  rw [holds_bind, holds_measured_ptrace]
  show Holds _ (c.asking .PTRACE_GETSIGINFO tracee.tid) _ _
  cases answer with
  | ok signal_info =>
    simp only [holds_bind, holds_store, holds_pure]
    have h₁ := Serves.restore h₀.sound hold₀
      (t := { tracee with newborn := false, pending_signal := stop }) rfl rfl rfl
    apply (write_stamped_serves hs h₁.sound (fun _ => by simp)).mono
    · intro _ c₂ h₂
      rw [h₁.calls] at h₂
      exact (h₀.trans h₁).trans h₂
    · intro _ _ h
      exact h
  | einval =>
    have hstopping : is_stopping_signal stop = true := by
      obtain h | h := hanswer
      · simp [SigInfoAnswer.isOk] at h
      · exact h.2
    simp only [hstopping, if_true, holds_bind, holds_store, holds_pure]
    exact h₀.trans (Serves.restore h₀.sound hold₀
      (t := { tracee with phase := .SG_TRACEE_GROUP_STOPPED }) rfl rfl rfl)
  | failed =>
    obtain h | h := hanswer
    · simp [SigInfoAnswer.isOk] at h
    · simp at h

end serves

/-! ### Stops of ordinary mode -/

/-- **A stop in ordinary mode**, as the kernel reports and answers it; `inside` says
    whether the task has entered a call and not left it.  Entries and exits alternate, no
    exit carries a restart result, and an exec does not change the TID. -/
inductive OrdinaryStop (inside : Bool) (waited : Pid) (answers : Answers) : Int → Nat → Prop
  | syscall {info : SyscallInfo} : answers.syscall_info = some info → info.Native →
      (info.op = PTRACE_SYSCALL_INFO_ENTRY → inside = false) →
      (info.op = PTRACE_SYSCALL_INFO_EXIT → is_restart_result info.rval = false) →
      OrdinaryStop inside waited answers SYSCALL_STOP 0
  | exec {stop : Int} {former : Nat} : stop ≠ SYSCALL_STOP → answers.eventmsg = some former →
      (former : Pid) = waited → (former : Int) ≤ INT_MAX →
      OrdinaryStop inside waited answers stop PTRACE_EVENT_EXEC
  | child {stop : Int} {ptrace_event message : Nat} : stop ≠ SYSCALL_STOP →
      is_child_event ptrace_event = true → answers.eventmsg = some message → 0 < message →
      (message : Int) ≤ INT_MAX → OrdinaryStop inside waited answers stop ptrace_event
  | event_stop {stop : Int} : stop ≠ SYSCALL_STOP →
      OrdinaryStop inside waited answers stop PTRACE_EVENT_STOP
  | signal {stop : Int} : stop ≠ SYSCALL_STOP →
      answers.signal_info.isOk = true ∨
        (answers.signal_info = .einval ∧ is_stopping_signal stop = true) →
      OrdinaryStop inside waited answers stop 0

section serves
variable {config : Config} {env : Env} {c : Context} {tracee : Tracee}

/-- **A stop** of a task in the table, when nothing fails. -/
theorem handle_stop_serves (hs : Recording config env)
    (hok : c.Sound) (hold : c.tracees.lookup tracee.tid = some tracee) {stop : Int}
    {ptrace_event : Nat} {answers : Answers}
    (hstop : OrdinaryStop tracee.has_pending_syscall tracee.tid answers stop ptrace_event) :
    Holds (handle_stop config env tracee stop ptrace_event answers) c
      (fun _ c' => ∃ calls records, StopServed (selected config) c.calls tracee.tid
        (WaitStatus.call_stop (.stopped stop ptrace_event) answers)
        (WaitStatus.child (.stopped stop ptrace_event) answers) calls records ∧
        Serves c calls records c')
      (fun _ c' => Refused c (WaitStatus.call_stop (.stopped stop ptrace_event) answers) c') := by
  have hother : ∀ {c' : Context}, WaitStatus.call_stop (.stopped stop ptrace_event) answers = none →
      WaitStatus.child (.stopped stop ptrace_event) answers = none → Serves c c.calls [] c' →
      ∃ calls records, StopServed (selected config) c.calls tracee.tid
        (WaitStatus.call_stop (.stopped stop ptrace_event) answers)
        (WaitStatus.child (.stopped stop ptrace_event) answers) calls records ∧
        Serves c calls records c' := by
    intro c' hnone hchild hserves
    rw [hnone, hchild]
    exact ⟨_, _, .other, hserves⟩
  unfold handle_stop
  cases hstop with
  | @syscall info hinfo hnative hentry hexit =>
    have hchild : WaitStatus.child (.stopped SYSCALL_STOP 0) answers = none := by
      unfold WaitStatus.child
      simp
    have hcall : WaitStatus.call_stop (.stopped SYSCALL_STOP 0) answers = info.call_stop := by
      show answers.syscall_info.bind SyscallInfo.call_stop = _
      rw [hinfo]
      rfl
    obtain ⟨callstop, hcallstop⟩ : ∃ callstop, info.call_stop = some callstop := by
      unfold SyscallInfo.call_stop
      obtain ⟨hop, -⟩ | ⟨hop, -⟩ := hnative.op
      · rw [if_pos hop]
        exact ⟨_, rfl⟩
      · rw [if_neg (by rw [hop]; decide), if_pos hop]
        exact ⟨_, rfl⟩
    rw [if_pos rfl, hinfo, hcall, hchild, hcallstop, holds_bind]
    apply (handle_syscall_stop_serves hs hok hold hnative hcallstop hentry).mono
    · intro _ c' h
      exact h
    · intro _ _ h
      exact h
  | exec hsyscall hmessage hsame hmax =>
    have hchild : WaitStatus.child (.stopped stop PTRACE_EVENT_EXEC) answers = none :=
      if_neg fun h => absurd h.2 (by decide)
    have hcall : WaitStatus.call_stop (.stopped stop PTRACE_EVENT_EXEC) answers = some .exec := by
      unfold WaitStatus.call_stop
      simp [hsyscall]
    rw [if_neg hsyscall, if_neg (by decide), if_pos (by decide), hcall, hchild, holds_bind]
    unfold handle_ptrace_event
    rw [if_neg (by decide), if_pos rfl]
    apply (handle_exec_event_serves hs hok hold).mono
    · intro _ c' h
      exact h
    · intro _ _ h
      exact h.elim
  | @child _ _ message hsyscall hevent hmessage hpos hmax =>
    have hkind : ptrace_event = PTRACE_EVENT_FORK ∨ ptrace_event = PTRACE_EVENT_VFORK ∨
        ptrace_event = PTRACE_EVENT_CLONE := by
      unfold is_child_event at hevent
      simpa [or_assoc] using hevent
    have hchild : WaitStatus.child (.stopped stop ptrace_event) answers = some (message : Pid) := by
      unfold WaitStatus.child
      rw [hmessage]
      exact if_pos ⟨hsyscall, hevent⟩
    have hexec : ptrace_event ≠ PTRACE_EVENT_EXEC := by
      obtain h | h | h := hkind <;> rw [h] <;> decide
    have hcall : WaitStatus.call_stop (.stopped stop ptrace_event) answers = none := by
      unfold WaitStatus.call_stop
      simp [hsyscall, hexec]
    have hstop : ptrace_event ≠ PTRACE_EVENT_STOP ∧ ptrace_event ≠ 0 ∧
        ptrace_event ≠ PTRACE_EVENT_SECCOMP := by
      obtain h | h | h := hkind <;> rw [h] <;> decide
    rw [if_neg hsyscall, if_neg hstop.1, if_pos hstop.2.1, hcall, hchild, holds_bind]
    unfold handle_ptrace_event
    rw [if_neg hstop.2.2, if_neg hexec, if_neg (by tauto)]
    apply (handle_child_event_serves hs hok hold ptrace_event hmessage hpos hmax).mono
    · intro _ c' h
      exact h
    · intro _ _ h
      exact h
  | event_stop hsyscall =>
    have hchild : WaitStatus.child (.stopped stop PTRACE_EVENT_STOP) answers = none :=
      if_neg fun h => absurd h.2 (by decide)
    have hcall : WaitStatus.call_stop (.stopped stop PTRACE_EVENT_STOP) answers = none := by
      unfold WaitStatus.call_stop
      simp [hsyscall]
    rw [if_neg hsyscall, if_pos rfl]
    split
    · exact hother hcall hchild (.restore hok hold rfl rfl rfl)
    · exact hother hcall hchild (.restore hok hold rfl rfl rfl)
  | signal hsyscall hanswer =>
    have hchild : WaitStatus.child (.stopped stop 0) answers = none :=
      if_neg fun h => absurd h.2 (by decide)
    have hcall : WaitStatus.call_stop (.stopped stop 0) answers = none := by
      unfold WaitStatus.call_stop
      simp [hsyscall]
    rw [if_neg hsyscall, if_neg (by decide), if_neg (by decide)]
    split
    · exact hother hcall hchild (.restore hok hold rfl rfl rfl)
    · apply (handle_signal_stop_serves hs hok hold hanswer).mono
      · intro _ c' h
        exact hother hcall hchild h
      · intro _ _ h
        exact h.elim

/-- A task in the table stays there through its stop. -/
theorem StopServed.known {sel : Int → Bool} {calls calls' : Pid → Option Calls} {waited : Pid}
    {stop : Option CallStop} {child : Option Pid} {records : List (Pid × SyscallEvent)}
    (h : StopServed sel calls waited stop child calls' records) (hknown : calls waited ≠ none) :
    calls' waited ≠ none := by
  cases h with
  | call _ _ => simp
  | child =>
    split
    · rw [Function.update_apply]
      split
      · simp
      · exact hknown
    · exact hknown
  | other => exact hknown

/-- The restart of a task changes no call. -/
theorem restart_tracee_serves (hok : c.Sound) (hold : c.tracees.lookup tracee.tid = some tracee)
    (signal : Int) (listen : Bool) {answer : RestartAnswer} (hanswer : answer ≠ .failed) :
    Holds (restart_tracee config env tracee.tid signal listen answer) c
      (fun _ c' => Serves c c.calls [] c') (fun _ _ => False) := by
  have hasked : ∀ known, Serves c c.calls [] (c.asked_restart config known signal listen) :=
    fun _ => .of_eq hok rfl rfl
  apply holds_restart_tracee
  · intro hunknown
    rw [hold] at hunknown
    cases hunknown
  · intro known hknown _
    obtain rfl : tracee = known := Option.some.inj (hold.symm.trans hknown)
    have h₁ := hasked tracee
    have hold₁ : (c.asked_restart config tracee signal listen).tracees.lookup tracee.tid =
        some tracee := hold
    have h₂ := Serves.restore h₁.sound hold₁ (t := tracee.resumed listen) rfl rfl rfl
    rw [h₁.calls] at h₂
    exact h₁.trans h₂
  · intro known _ _
    exact hasked known
  · intro _ _ hfailed
    exact absurd hfailed hanswer

/-- A round that handles a stop of a task in the table. -/
theorem stop_round_serves (hs : Recording config env)
    (hok : c.Sound) (hold : c.tracees.lookup tracee.tid = some tracee) {stop : Int}
    {ptrace_event : Nat} {answers : Answers} (hrestart : answers.restart ≠ .failed)
    (hstop : OrdinaryStop tracee.has_pending_syscall tracee.tid answers stop ptrace_event)
    (shutdown_signal : Int) :
    Holds (do
        let tracee : Tracee := { tracee with in_ptrace_stop := true, phase := .SG_TRACEE_STOPPED }
        store tracee
        let (delivery_signal, listen) ← handle_stop config env tracee stop ptrace_event answers
        let restarted ← restart_tracee config env tracee.tid delivery_signal listen answers.restart
        pure (if restarted then test_shutdown shutdown_signal else .again)) c
      (fun _ c' => ∃ calls records, StopServed (selected config) c.calls tracee.tid
        (WaitStatus.call_stop (.stopped stop ptrace_event) answers)
        (WaitStatus.child (.stopped stop ptrace_event) answers) calls records ∧
        Serves c calls records c')
      (fun _ c' => Refused c (WaitStatus.call_stop (.stopped stop ptrace_event) answers) c') := by
  let stopped : Tracee := { tracee with in_ptrace_stop := true, phase := .SG_TRACEE_STOPPED }
  have h₀ : Serves c c.calls [] { c with tracees := c.tracees.write stopped } :=
    .restore hok hold rfl rfl rfl
  have hold₀ : (c.tracees.write stopped).lookup stopped.tid = some stopped := by
    rw [Tracees.lookup_write]
    exact if_pos ⟨rfl, by show (c.tracees.lookup tracee.tid).isSome = true; rw [hold]; rfl⟩
  simp only [holds_bind, holds_store, holds_pure]
  apply (handle_stop_serves hs h₀.sound hold₀ hstop).mono
  · intro result c₁ hpost
    rcases hpost with ⟨calls, records, hserved, h₁⟩
    rw [h₀.calls] at hserved
    have hknown : c₁.calls tracee.tid ≠ none := by
      rw [h₁.calls]
      exact hserved.known (by rw [Context.calls_eq hold]; simp)
    obtain ⟨tracee₁, hold₁⟩ : ∃ tracee₁, c₁.tracees.lookup tracee.tid = some tracee₁ := by
      apply Option.ne_none_iff_exists'.mp
      intro hnone
      apply hknown
      unfold Context.calls
      rw [hnone]
      rfl
    have htid : tracee₁.tid = tracee.tid := Tracees.lookup_tid hold₁
    have hrestarted : Holds (restart_tracee config env tracee₁.tid result.1 result.2 answers.restart)
        c₁ (fun _ c' => Serves c₁ c₁.calls [] c') (fun _ _ => False) :=
      restart_tracee_serves h₁.sound (by rw [htid]; exact hold₁) result.1 result.2 hrestart
    rw [htid] at hrestarted
    apply hrestarted.mono
    · intro _ c₂ h₂
      have h := (h₀.trans h₁).trans h₂
      rw [h₁.calls, List.nil_append, List.append_nil] at h
      exact ⟨calls, records, hserved, h⟩
    · intro _ _ h
      exact h.elim
  · intro _ c₁ h
    exact ⟨h.completed, h.why⟩

end serves

/-! ### Rounds -/

/-- **The next report** in ordinary mode: a stop is the stop of a task that is traced, and
    its restart is not refused. -/
inductive Ordinary (config : Config) (inside : Pid → Bool) (c : Context) : Waited → Prop
  | stopped {waited : Pid} {stop : Int} {ptrace_event : Nat} {answers : Answers} : 0 < waited →
      (config.follow = true ∨ (c.tracees.lookup waited).isSome) → answers.restart ≠ .failed →
      OrdinaryStop (inside waited) waited answers stop ptrace_event →
      Ordinary config inside c (.status waited (.stopped stop ptrace_event) answers)
  | exited {waited : Pid} {code : Int} {answers : Answers} :
      Ordinary config inside c (.status waited (.exited code) answers)
  | signaled {waited : Pid} {signal : Int} {answers : Answers} :
      Ordinary config inside c (.status waited (.signaled signal) answers)
  | continued {waited : Pid} {answers : Answers} :
      Ordinary config inside c (.status waited .continued answers)
  | eintr : Ordinary config inside c .eintr

/-- The calls when the task that has stopped is looked up. -/
def arrived (calls : Pid → Option Calls) (waited : Pid) : Pid → Option Calls :=
  if calls waited = none then Function.update calls waited (some .idle) else calls

/-- What a report does to the calls of all tasks, and what is reported. -/
inductive ReportServed (sel : Int → Bool) (calls : Pid → Option Calls) :
    Waited → (Pid → Option Calls) → List (Pid × SyscallEvent) → Prop
  | stop {waited : Pid} {stop : Int} {ptrace_event : Nat} {answers : Answers}
      {calls' : Pid → Option Calls} {records : List (Pid × SyscallEvent)} :
      StopServed sel (arrived calls waited) waited
        (WaitStatus.call_stop (.stopped stop ptrace_event) answers)
        (WaitStatus.child (.stopped stop ptrace_event) answers) calls' records →
      ReportServed sel calls (.status waited (.stopped stop ptrace_event) answers) calls' records
  | exited {waited : Pid} {code : Int} {answers : Answers} :
      ReportServed sel calls (.status waited (.exited code) answers)
        (Function.update calls waited none) []
  | signaled {waited : Pid} {signal : Int} {answers : Answers} :
      ReportServed sel calls (.status waited (.signaled signal) answers)
        (Function.update calls waited none) []
  | continued {waited : Pid} {answers : Answers} :
      ReportServed sel calls (.status waited .continued answers) calls []
  | eintr : ReportServed sel calls .eintr calls []

/-- The stop of a call that a report is about. -/
def Waited.call_stop : Waited → Option CallStop
  | .status _ stop answers => stop.call_stop answers
  | _ => none

section serves
variable {config : Config} {env : Env} {c c' : Context} {tracee : Tracee}

/-- An exec that does not change the TID renames nothing. -/
theorem observe_exec_serves (hok : c.Sound) {waited : Pid} {stop : Int} {ptrace_event : Nat}
    {answers : Answers} {inside : Bool}
    (hstop : OrdinaryStop inside waited answers stop ptrace_event) :
    Holds (observe_exec config env waited (.stopped stop ptrace_event) answers) c
      (fun _ c' => Serves c c.calls [] c') (fun _ _ => False) := by
  unfold observe_exec
  by_cases hexec : ptrace_event = PTRACE_EVENT_EXEC
  · subst hexec
    cases hstop with
    | @exec _ former hsyscall hmessage hsame hmax =>
      dsimp only
      rw [if_pos rfl, holds_bind, holds_measured_ptrace, hmessage]
      dsimp only
      unfold migrate_exec_tid
      rw [if_neg (not_lt.mpr hmax), if_pos hsame, holds_pure]
      exact .asking hok _ _
    | child _ hevent _ _ _ => exact absurd hevent (by decide)
  · dsimp only
    rw [if_neg hexec, holds_pure]
    exact .refl hok

/-- The task that has stopped is looked up, and registered when it is new. -/
theorem find_tracee_serves (hs : Recording config env) (hok : c.Sound) {waited : Pid} (hpos : 0 < waited)
    (htraced : config.follow = true ∨ (c.tracees.lookup waited).isSome) (stop : Int)
    (ptrace_event : Nat) (answers : Answers) (callstop : Option CallStop) :
    Holds (find_tracee config env waited (.stopped stop ptrace_event) answers) c
      (fun found c' => (∃ tracee, found = some tracee ∧ c'.tracees.lookup waited = some tracee) ∧
        Serves c (arrived c.calls waited) [] c')
      (fun _ c' => Refused c callstop c') := by
  have hcalls : c.calls waited = none ↔ c.tracees.lookup waited = none := Option.map_eq_none_iff
  unfold find_tracee
  rw [holds_bind, holds_get, Tracees.get_eq]
  cases hknown : c.tracees.lookup waited with
  | some tracee =>
    have harrived : arrived c.calls waited = c.calls := by
      apply if_neg
      rw [hcalls, hknown]
      simp
    rw [harrived]
    exact ⟨⟨tracee, rfl, hknown⟩, .refl hok⟩
  | none =>
    have hfollow : config.follow = true := by
      rw [hknown] at htraced
      simpa using htraced
    have htgid : (0 : Pid) < (if answers.waited_tgid ≤ 0 then waited else answers.waited_tgid) := by
      split
      · exact hpos
      · rename_i h
        exact not_le.mp h
    simp only [hfollow, if_true, holds_bind]
    apply (add_tracee_serves hs hok hpos htgid _ true).mono
    · intro _ c' hpost
      rcases hpost with ⟨hself, _, h⟩
      rw [holds_get, holds_pure, Tracees.get_eq]
      obtain ⟨tracee, htracee⟩ := Option.isSome_iff_exists.mp hself
      exact ⟨⟨tracee, htracee, htracee⟩, h⟩
    · intro _ c' hpost
      rcases hpost with ⟨hsame, houtput, hfull⟩
      exact .of_full hsame houtput hfull

theorem Drops.serves {tid : Pid} (hok : c.Sound) (h : Drops c [tid] c') :
    Serves c (Function.update c.calls tid none) [] c' := by
  have hother : ∀ {other record}, c'.tracees.lookup other = some record →
      c.tracees.lookup other = some record := by
    intro other record hrecord
    rw [h.lookup] at hrecord
    split at hrecord
    · simp at hrecord
    · exact hrecord
  refine ⟨?_, ?_, ⟨by rw [h.output]; exact hok.silent, fun other record hrecord =>
    hok.groups other record (hother hrecord)⟩⟩
  · funext other
    unfold Context.calls
    rw [h.lookup, Function.update_apply]
    by_cases ho : other = tid
    · simp [ho]
    · simp [ho]
  · unfold Context.completed
    rw [h.output, List.append_nil]

/-- The end of a task. -/
theorem handle_exit_serves (hs : Recording config env) (hok : c.Sound)
    (hold : c.tracees.lookup tracee.tid = some tracee) (status : WaitStatus) :
    Holds (handle_exit config env tracee tracee.tid status) c
      (fun _ c' => Serves c (Function.update c.calls tracee.tid none) [] c')
      (fun _ _ => False) := by
  have h₁ := Serves.restore hok hold (t := { tracee with phase := .SG_TRACEE_GONE }) rfl rfl rfl
  have hwritten : ∀ data : EventData, (∀ call, data ≠ .syscall call) →
      Holds (write_stamped config env { tracee with phase := .SG_TRACEE_GONE } data)
        { c with tracees := c.tracees.write { tracee with phase := .SG_TRACEE_GONE } }
        (fun _ c' => Serves c c.calls [] c') (fun _ _ => False) := by
    intro data hdata
    apply (write_stamped_serves hs h₁.sound hdata).mono
    · intro _ c' h
      rw [h₁.calls] at h
      exact h₁.trans h
    · intro _ _ h
      exact h
  apply holds_handle_exit fun c' => Serves c c.calls [] c'
  · intro hseccomp
    rw [hs.ordinary] at hseccomp
    exact absurd hseccomp Bool.false_ne_true
  · exact holds_report_exit (fun _ => hwritten _ (by simp)) h₁
  · intro c₁ c₂ c₃ h htracees _ houtput hd
    have h₂ := h.trans (.of_eq h.sound htracees houtput)
    have h₃ := h₂.trans (hd.serves h₂.sound)
    rw [h₂.calls, h.calls] at h₃
    exact h₃

/-- A task whose end is reported is removed, when it is in the table. -/
theorem exit_round_serves (hs : Recording config env) (hok : c.Sound) (waited : Pid)
    {status : WaitStatus} (hstatus : (∃ code, status = .exited code) ∨
      ∃ signal, status = .signaled signal) (answers : Answers) (shutdown_signal : Int) :
    Holds (handle_status config env waited status answers shutdown_signal) c
      (fun _ c' => Serves c (Function.update c.calls waited none) [] c')
      (fun _ _ => False) := by
  have hfind : ∀ {Q : Option Tracee → Context → Prop} {E : String → Context → Prop},
      Q (c.tracees.lookup waited) c →
      Holds (find_tracee config env waited status answers) c Q E := by
    intro Q E hQ
    unfold find_tracee
    rw [holds_bind, holds_get, Tracees.get_eq]
    generalize c.tracees.lookup waited = found at hQ ⊢
    obtain ⟨code, rfl⟩ | ⟨signal, rfl⟩ := hstatus
    · cases found <;> exact hQ
    · cases found <;> exact hQ
  have hobserve : observe_exec config env waited status answers = pure () := by
    obtain ⟨code, rfl⟩ | ⟨signal, rfl⟩ := hstatus <;> rfl
  unfold handle_status
  rw [hobserve, holds_bind, holds_pure, holds_bind]
  apply hfind
  cases hknown : c.tracees.lookup waited with
  | none =>
    have hnone : c.calls waited = none := Option.map_eq_none_iff.mpr hknown
    have hsame : Function.update c.calls waited none = c.calls := by
      rw [← hnone, Function.update_eq_self]
    rw [hsame]
    exact .refl hok
  | some tracee =>
    have htid : tracee.tid = waited := Tracees.lookup_tid hknown
    subst htid
    have hexit := handle_exit_serves hs hok hknown status
    obtain ⟨code, rfl⟩ | ⟨signal, rfl⟩ := hstatus
    · simp only [holds_bind, holds_pure]
      exact hexit
    · simp only [holds_bind, holds_pure]
      exact hexit

/-- **A round** in ordinary mode does what `ReportServed` says, or is refused. -/
theorem loop_round_serves (hs : Recording config env) (hok : c.Sound) {inside : Pid → Bool}
    (hinside : ∀ tid, inside tid = ((c.calls tid).bind Calls.pending).isSome) {report : Report}
    (hreport : Ordinary config inside c report.waited) :
    Holds (loop_round config env report) c
      (fun _ c' => ∃ calls records,
        ReportServed (selected config) c.calls report.waited calls records ∧
        Serves c calls records c')
      (fun _ c' => Refused c report.waited.call_stop c') := by
  unfold loop_round
  generalize report.waited = waited at hreport
  cases hreport with
  | eintr => exact ⟨_, _, .eintr, .refl hok⟩
  | continued =>
    rename_i waited answers
    dsimp only
    unfold handle_status observe_exec find_tracee
    simp only [holds_bind, holds_pure, holds_get, Tracees.get_eq]
    cases hknown : c.tracees.lookup waited with
    | none => exact ⟨_, _, .continued, .refl hok⟩
    | some tracee =>
      simp only [holds_pure, holds_bind, holds_store]
      have htid : tracee.tid = waited := Tracees.lookup_tid hknown
      have hold : c.tracees.lookup tracee.tid = some tracee := by rw [htid, hknown]
      exact ⟨_, _, .continued, .restore hok hold rfl rfl rfl⟩
  | exited =>
    rename_i waited code answers
    apply (exit_round_serves hs hok waited (Or.inl ⟨code, rfl⟩) answers _).mono
    · intro _ c' h
      exact ⟨_, _, .exited, h⟩
    · intro _ _ h
      exact h.elim
  | signaled =>
    rename_i waited signal answers
    apply (exit_round_serves hs hok waited (Or.inr ⟨signal, rfl⟩) answers _).mono
    · intro _ c' h
      exact ⟨_, _, .signaled, h⟩
    · intro _ _ h
      exact h.elim
  | stopped hpos htraced hrestart hstop =>
    rename_i waited stop ptrace_event answers
    dsimp only
    unfold handle_status
    rw [holds_bind]
    apply (observe_exec_serves hok hstop).mono
    · intro _ c₁ h₁
      have htraced₁ : config.follow = true ∨ (c₁.tracees.lookup waited).isSome := by
        apply htraced.imp_right
        intro hknown
        have hsame := congrFun h₁.calls waited
        unfold Context.calls at hsame
        rw [← Option.isSome_map, hsame, Option.isSome_map]
        exact hknown
      rw [holds_bind]
      apply (find_tracee_serves hs h₁.sound hpos htraced₁ stop ptrace_event answers _).mono
      · intro found c₂ hpost
        rcases hpost with ⟨⟨tracee, hfound, hold⟩, h₂⟩
        rw [h₁.calls] at h₂
        have htid : tracee.tid = waited := Tracees.lookup_tid hold
        subst htid hfound
        have hpending : inside tracee.tid = tracee.has_pending_syscall := by
          have hcalls : arrived c.calls tracee.tid tracee.tid = some tracee.calls := by
            rw [← h₂.calls, Context.calls_eq hold]
          rw [hinside, ← Tracee.calls_pending]
          unfold arrived at hcalls
          split at hcalls
          · rename_i hnone
            rw [Function.update_self] at hcalls
            rw [hnone, ← Option.some.inj hcalls]
            rfl
          · rw [hcalls]
            rfl
        rw [hpending] at hstop
        apply (stop_round_serves hs h₂.sound hold hrestart hstop report.shutdown_signal).mono
        · intro _ c₃ hpost
          rcases hpost with ⟨calls, records, hserved, h₃⟩
          rw [h₂.calls] at hserved
          exact ⟨calls, records, .stop hserved, (h₁.trans h₂).trans h₃⟩
        · intro _ c₃ h
          refine ⟨?_, h.why⟩
          rw [h.completed, h₂.completed, h₁.completed, List.append_nil, List.append_nil]
      · intro _ c₂ h
        refine ⟨?_, h.why⟩
        rw [h.completed, h₁.completed, List.append_nil]
    · intro _ _ h
      exact h.elim

end serves

/-! ### The stops of one task -/

/-- A stop of a task that concerns its calls, or its end. -/
inductive TaskStop where
  | call (stop : CallStop)
  | gone
  deriving DecidableEq

/-- What a wait status says about the calls of its task. -/
def WaitStatus.task_stop (status : WaitStatus) (answers : Answers) : Option TaskStop :=
  match status with
  | .exited _ | .signaled _ => some .gone
  | status => (status.call_stop answers).map .call

/-- What a report says about the calls of the task. -/
def Waited.own_stop (waited : Waited) (tid : Pid) : Option TaskStop :=
  match waited with
  | .status task stop answers => if task = tid then stop.task_stop answers else none
  | _ => none

/-- The stops of one task, whatever the other tasks do. -/
def own_stops (h : List Report) (tid : Pid) : List TaskStop :=
  h.filterMap fun report => report.waited.own_stop tid

/-- A call that has been entered. -/
structure Entry where
  number : Int
  arguments : Vector UInt64 6
  deriving DecidableEq

/-- The entry of a call. -/
def SyscallEvent.entry (event : SyscallEvent) : Entry := ⟨event.number, event.arguments⟩

/-- The call that a task has entered and not left, after one more stop. -/
def entered : Option Entry → TaskStop → Option Entry
  | _, .call (.entry number arguments) => some ⟨number.toNat, arguments⟩
  | _, _ => none

/-- The outcome of the entered call, when the stop is its end. -/
def ended : Option Entry → TaskStop → Option Outcome
  | some entry, .call (.exit rval is_error) =>
    some ⟨entry.number, entry.arguments, rval, exit_error rval is_error⟩
  | some entry, .call .exec => some ⟨entry.number, entry.arguments, 0, 0⟩
  | _, _ => none

/-- The outcomes that the stops of one task call for: one for each selected entry that is
    followed by an exit or an exec event. -/
def expected (sel : Int → Bool) : Option Entry → List TaskStop → List Outcome
  | _, [] => []
  | entry, stop :: stops =>
    reported sel (ended entry stop).toList ++ expected sel (entered entry stop) stops

/-- The outcomes that have been reported for a TID. -/
def outcomes_of (records : List (Pid × SyscallEvent)) (tid : Pid) : List Outcome :=
  (records.filter fun record => record.1 = tid).map fun record => record.2.outcome

/-- The call that a task has entered and not left. -/
def inside (calls : Pid → Option Calls) (tid : Pid) : Option Entry :=
  ((calls tid).bind Calls.pending).map SyscallEvent.entry

/-- No call is interrupted. -/
def Uninterrupted (calls : Pid → Option Calls) : Prop :=
  ∀ tid own, calls tid = some own → own.interrupted = none ∧ own.ready = false

section stops
variable {sel : Int → Bool} {calls calls' : Pid → Option Calls} {own own' : Calls}
  {records records' : List (Pid × SyscallEvent)} {reported_calls : List SyscallEvent}
  {tid waited : Pid}

theorem own_stops_append (h : List Report) (report : Report) :
    own_stops (h ++ [report]) tid = own_stops h tid ++ (report.waited.own_stop tid).toList := by
  unfold own_stops
  rw [List.filterMap_append]
  cases h : report.waited.own_stop tid <;> simp [h]

theorem expected_append (stops stops' : List TaskStop) : ∀ entry : Option Entry,
    expected sel entry (stops ++ stops') =
      expected sel entry stops ++ expected sel (stops.foldl entered entry) stops' := by
  induction stops with
  | nil => intro entry; rfl
  | cons stop stops ih =>
    intro entry
    rw [List.cons_append, expected, ih, expected, List.append_assoc]
    rfl

theorem outcomes_of_append :
    outcomes_of (records ++ records') tid = outcomes_of records tid ++ outcomes_of records' tid := by
  unfold outcomes_of
  rw [List.filter_append, List.map_append]

/-- Reported calls of one task are outcomes of that task. -/
theorem outcomes_of_own (reported_calls : List SyscallEvent) :
    outcomes_of (reported_calls.map fun record => (waited, record)) tid =
      if waited = tid then reported_calls.map SyscallEvent.outcome else [] := by
  unfold outcomes_of
  rw [List.filter_map, List.map_map]
  by_cases ht : waited = tid
  · simp [ht, Function.comp_def]
  · simp [ht, Function.comp_def]

theorem report_outcomes (event : SyscallEvent) :
    (report sel event).map SyscallEvent.outcome = reported sel [event.outcome] := by
  have hnumber : event.outcome.number = event.number := rfl
  unfold report reported
  rw [List.filter_cons, hnumber]
  split <;> rfl

/-- **A stop of one task**, when no call of it is interrupted. -/
theorem CallStep.own_stop {stop : CallStop} (hown : own.interrupted = none ∧ own.ready = false)
    (hexit : ∀ rval is_error, stop = .exit rval is_error → is_restart_result rval = false)
    (h : CallStep sel own stop own' reported_calls) :
    (own'.interrupted = none ∧ own'.ready = false) ∧
      own'.pending.map SyscallEvent.entry =
        entered (own.pending.map SyscallEvent.entry) (.call stop) ∧
      reported_calls.map SyscallEvent.outcome =
        reported sel (ended (own.pending.map SyscallEvent.entry) (.call stop)).toList := by
  cases h with
  | restart _ => simp at hown
  | not_restarted _ _ _ _ => simp at hown
  | enter hfresh =>
    refine ⟨⟨hown.1, rfl⟩, ?_, rfl⟩
    show some (SyscallEvent.entry _) = some _
    unfold SyscallEvent.entry
    rw [hfresh.number_eq, hfresh.arguments_eq]
  | interrupt hrestart =>
    rw [hexit _ _ rfl] at hrestart
    simp at hrestart
  | complete exited_at _ =>
    have hnone := hown.1
    dsimp only at hnone
    subst hnone
    exact ⟨⟨rfl, rfl⟩, rfl, report_outcomes _⟩
  | stray_exit => exact ⟨hown, rfl, rfl⟩
  | exec exited_at => exact ⟨hown, rfl, report_outcomes _⟩
  | stray_exec => exact ⟨hown, rfl, rfl⟩

/-- The calls of one task after some stops of it, and what is reported. -/
structure OwnServed (sel : Int → Bool) (calls : Pid → Option Calls) (tid : Pid)
    (stops : List TaskStop) (calls' : Pid → Option Calls) (records : List (Pid × SyscallEvent)) :
    Prop where
  inside : inside calls' tid = stops.foldl entered (inside calls tid)
  uninterrupted : ∀ own, calls' tid = some own → own.interrupted = none ∧ own.ready = false
  records : outcomes_of records tid = expected sel (Sysgaze.inside calls tid) stops

/-- A new task has no call. -/
theorem update_idle_own (hquiet : Uninterrupted calls) (child tid : Pid) :
    OwnServed sel calls tid []
      (if calls child = none then Function.update calls child (some .idle) else calls) [] := by
  by_cases hnone : calls child = none
  · rw [if_pos hnone]
    by_cases ht : tid = child
    · subst ht
      refine ⟨?_, ?_, rfl⟩
      · unfold inside
        rw [Function.update_self, hnone]
        rfl
      · intro own hown
        rw [Function.update_self] at hown
        rw [← Option.some.inj hown]
        exact ⟨rfl, rfl⟩
    · refine ⟨?_, ?_, rfl⟩
      · unfold inside
        rw [Function.update_of_ne ht]
        rfl
      · intro own hown
        rw [Function.update_of_ne ht] at hown
        exact hquiet tid own hown
  · rw [if_neg hnone]
    exact ⟨rfl, hquiet tid, rfl⟩

theorem StopServed.own_served {stop : Option CallStop} {child : Option Pid} (hquiet : Uninterrupted calls)
    (hexit : ∀ rval is_error, stop = some (.exit rval is_error) → is_restart_result rval = false)
    (h : StopServed sel calls waited stop child calls' records) (tid : Pid) :
    OwnServed sel calls tid (if waited = tid then stop.map TaskStop.call else none).toList
      calls' records := by
  cases h with
  | @call stop _ own own' reported_calls hown hstep =>
    obtain ⟨hsettled, hentered, hreported⟩ := hstep.own_stop (hquiet _ _ hown)
      fun rval is_error h => hexit rval is_error (by rw [h])
    by_cases ht : waited = tid
    · subst ht
      rw [if_pos rfl]
      have hinside : inside calls waited = own.pending.map SyscallEvent.entry := by
        unfold inside
        rw [hown]
        rfl
      refine ⟨?_, ?_, ?_⟩
      · rw [hinside]
        unfold inside
        rw [Function.update_self]
        exact hentered
      · intro other hother
        rw [Function.update_self] at hother
        rw [← Option.some.inj hother]
        exact hsettled
      · rw [outcomes_of_own, if_pos rfl, hinside, hreported]
        exact (List.append_nil _).symm
    · rw [if_neg ht]
      refine ⟨?_, ?_, ?_⟩
      · unfold inside
        rw [Function.update_of_ne (Ne.symm ht)]
        rfl
      · intro other hother
        rw [Function.update_of_ne (Ne.symm ht)] at hother
        exact hquiet tid other hother
      · rw [outcomes_of_own, if_neg ht]
        rfl
  | child =>
    have hnone : (if waited = tid then Option.map TaskStop.call none else none).toList = [] := by
      split <;> rfl
    rw [hnone]
    exact update_idle_own hquiet _ tid
  | other =>
    have hnone : (if waited = tid then Option.map TaskStop.call none else none).toList = [] := by
      split <;> rfl
    rw [hnone]
    exact ⟨rfl, hquiet tid, rfl⟩

end stops

/-! ### Every run -/

/-- **The next report** of a run in ordinary mode: the stops of each task alternate. -/
def OrdinaryReport (config : Config) (h : List Report) (c : Context) (report : Report) : Prop :=
  Ordinary config (fun tid => ((own_stops h tid).foldl entered none).isSome) c report.waited

/-- What has been reported for each task, and which call it is in, is a function of its
    own stops. -/
structure Tracked (config : Config) (h : List Report) (c : Context) : Prop where
  sound : c.Sound
  uninterrupted : Uninterrupted c.calls
  inside : ∀ tid, inside c.calls tid = (own_stops h tid).foldl entered none
  records : ∀ tid, outcomes_of c.completed tid = expected (selected config) none (own_stops h tid)

section runs
variable {config : Config} {env : Env} {start c c' : Context} {h : List Report} {report : Report}
  {sel : Int → Bool} {calls calls' : Pid → Option Calls} {records : List (Pid × SyscallEvent)}

/-- No exit carries a restart result. -/
theorem OrdinaryStop.exit {inside : Bool} {waited : Pid} {answers : Answers} {stop : Int}
    {ptrace_event : Nat} (hstop : OrdinaryStop inside waited answers stop ptrace_event) {rval : Int}
    {is_error : Bool}
    (hcall : WaitStatus.call_stop (.stopped stop ptrace_event) answers = some (.exit rval is_error)) :
    is_restart_result rval = false := by
  unfold WaitStatus.call_stop at hcall
  cases hstop with
  | @syscall info hinfo hnative hentry hexit =>
    simp only [if_true, hinfo, Option.bind_some] at hcall
    unfold SyscallInfo.call_stop at hcall
    split at hcall
    · simp at hcall
    · split at hcall
      · rename_i hop
        simp only [Option.some.injEq, CallStop.exit.injEq] at hcall
        rw [← hcall.1]
        exact hexit hop
      · simp at hcall
  | exec hsyscall => simp [hsyscall] at hcall
  | child hsyscall =>
    simp only [hsyscall, if_false] at hcall
    split at hcall <;> simp at hcall
  | event_stop hsyscall => simp [hsyscall] at hcall
  | signal hsyscall => simp [hsyscall] at hcall

/-- A task that is new has no call before its stop, and none after. -/
theorem OwnServed.of_arrived {waited tid : Pid} {stops : List TaskStop}
    (hquiet : Uninterrupted calls)
    (h : OwnServed sel (arrived calls waited) tid stops calls' records) :
    OwnServed sel calls tid stops calls' records := by
  have hsame : OwnServed sel calls tid [] (arrived calls waited) [] :=
    update_idle_own hquiet waited tid
  have hsame : Sysgaze.inside (arrived calls waited) tid = Sysgaze.inside calls tid := hsame.inside
  exact ⟨by rw [h.inside, hsame], h.uninterrupted, by rw [h.records, hsame]⟩

/-- A report about a task changes the calls of that task only. -/
theorem ReportServed.own_served {waited : Waited} {inside : Pid → Bool} (hquiet : Uninterrupted calls)
    (hlegal : Ordinary config inside c waited)
    (h : ReportServed sel calls waited calls' records) (tid : Pid) :
    OwnServed sel calls tid (waited.own_stop tid).toList calls' records := by
  have hgone : ∀ task : Pid, OwnServed sel calls tid
      (if task = tid then some TaskStop.gone else none).toList (Function.update calls task none)
      [] := by
    intro task
    by_cases ht : task = tid
    · subst ht
      rw [if_pos rfl]
      refine ⟨?_, ?_, ?_⟩
      · unfold Sysgaze.inside
        rw [Function.update_self]
        rfl
      · intro own hown
        rw [Function.update_self] at hown
        simp at hown
      · cases Sysgaze.inside calls task <;> rfl
    · rw [if_neg ht]
      refine ⟨?_, ?_, rfl⟩
      · unfold Sysgaze.inside
        rw [Function.update_of_ne (Ne.symm ht)]
        rfl
      · intro own hown
        rw [Function.update_of_ne (Ne.symm ht)] at hown
        exact hquiet tid own hown
  cases h with
  | stop hserved =>
    rename_i task stop ptrace_event answers
    have hquiet' : Uninterrupted (arrived calls task) := by
      intro other
      have hsame : OwnServed sel calls other [] (arrived calls task) [] :=
        update_idle_own hquiet task other
      exact hsame.uninterrupted
    cases hlegal with
    | stopped _ _ _ hstop =>
      exact (hserved.own_served hquiet' (fun _ _ => hstop.exit) tid).of_arrived hquiet
  | exited => exact hgone _
  | signaled => exact hgone _
  | continued =>
    have hnone : ∀ (task : Pid) (answers : Answers),
        Waited.own_stop (.status task .continued answers) tid = none := by
      intro task answers
      exact ite_self none
    rw [hnone]
    exact ⟨rfl, hquiet tid, rfl⟩
  | eintr => exact ⟨rfl, hquiet tid, rfl⟩

/-- **One round** keeps every task tracked. -/
theorem Tracked.round (hs : Recording config env) (ht : Tracked config h c)
    (hreport : OrdinaryReport config h c report) :
    Holds (loop_round config env report) c (fun _ c' => Tracked config (h ++ [report]) c')
      (fun _ c' => Refused c report.waited.call_stop c') := by
  have hinside : ∀ tid, ((own_stops h tid).foldl entered none).isSome =
      ((c.calls tid).bind Calls.pending).isSome := by
    intro tid
    rw [← ht.inside]
    unfold Sysgaze.inside
    exact Option.isSome_map
  apply (loop_round_serves hs ht.sound hinside hreport).mono
  · intro _ c' hpost
    rcases hpost with ⟨calls, records, hserved, h'⟩
    have hown := hserved.own_served ht.uninterrupted hreport
    refine ⟨h'.sound, ?_, ?_, ?_⟩
    · rw [h'.calls]
      exact fun tid => (hown tid).uninterrupted
    · intro tid
      rw [h'.calls, (hown tid).inside, ht.inside, own_stops_append, List.foldl_append]
    · intro tid
      rw [h'.completed, outcomes_of_append, (hown tid).records, ht.inside, ht.records,
        own_stops_append, expected_append]
  · intro _ _ h
    exact h

end runs

/-! ### A run -/

end Sysgaze
