import Sysgaze.GroupStops

/-! # The tasks that an attach seizes (`trace.c`)

    The target creates and loses threads while `prepare_attach` seizes them, so
    no listing of its task directory is complete.  What counts is what
    `PTRACE_SEIZE` has answered: `Attempts` says of a part of `prepare_attach`
    which calls of `PTRACE_SEIZE` it makes and that the tasks that come to the
    table are those of the calls that succeed.
-/

open Fallible

namespace Sysgaze

/-- A call of `PTRACE_SEIZE`: the round of `prepare_attach` and the task. -/
structure SeizeCall where
  round : Nat
  tid : Pid
  deriving DecidableEq, Repr

/-- The request that the call makes. -/
def SeizeCall.request (config : Config) (call : SeizeCall) : Request :=
  ⟨.PTRACE_SEIZE, call.tid, ptrace_options config false⟩

/-- What the call answers. -/
def AttachAnswers.of (answers : AttachAnswers) (call : SeizeCall) : RestartAnswer :=
  answers.seize call.round call.tid

/-- The task is in the listing of the round. -/
def AttachAnswers.lists (answers : AttachAnswers) (round : Nat) (tid : Pid) : Prop :=
  ∃ ids, answers.task_ids round = .ok ids ∧ tid ∈ ids

/-- The error of a call that fails for another reason than that the task is gone. -/
def cannot_seize (env : Env) (tid : Pid) : String :=
  s!"cannot seize TID {tid}: {env.strerror} (check ptrace_scope/Yama)"

/-- One of the calls has seized the task. -/
def seizes (answers : AttachAnswers) (calls : List SeizeCall) (tid : Pid) : Prop :=
  ∃ call ∈ calls, call.tid = tid ∧ answers.of call = .ok

/-- From `c` to `c'` these calls have been made, and the tasks that have come to the
    table are those that they have seized. -/
structure Attempts (config : Config) (answers : AttachAnswers) (c : Context)
    (calls : List SeizeCall) (c' : Context) : Prop where
  requests : c'.requests = c.requests ++ calls.map (SeizeCall.request config)
  table : ∀ tid, (c'.tracees.lookup tid).isSome ↔
    (c.tracees.lookup tid).isSome ∨ seizes answers calls tid
  /-- A task that has been seized is not tried again. -/
  once : calls.Pairwise fun earlier later => earlier.tid = later.tid → answers.of earlier ≠ .ok
  /-- No call is made for a task that is in the table already. -/
  unknown : ∀ call ∈ calls, ¬(c.tracees.lookup call.tid).isSome

section attempts
variable {config : Config} {env : Env} {answers : AttachAnswers} {c c' c'' : Context}
  {calls calls' : List SeizeCall} {tid attach_pid : Pid} {round : Nat} {ids : List Pid}

theorem seizes_append :
    seizes answers (calls ++ calls') tid ↔ seizes answers calls tid ∨ seizes answers calls' tid := by
  simp only [seizes, List.mem_append, or_and_right, exists_or]

theorem not_seizes_nil : ¬seizes answers [] tid := by
  simp [seizes]

theorem Attempts.refl (c : Context) : Attempts config answers c [] c :=
  ⟨(List.append_nil _).symm, fun _ => by simp [not_seizes_nil], .nil, by simp⟩

theorem Attempts.trans (h : Attempts config answers c calls c')
    (h' : Attempts config answers c' calls' c'') :
    Attempts config answers c (calls ++ calls') c'' where
  requests := by rw [h'.requests, h.requests, List.map_append, List.append_assoc]
  table tid := by rw [h'.table, h.table, seizes_append, or_assoc]
  once := by
    refine List.pairwise_append.mpr ⟨h.once, h'.once, ?_⟩
    intro earlier hearlier later hlater hsame hok
    -- The task is in the table once it has been seized, and no later call is for it.
    have hknown : (c'.tracees.lookup later.tid).isSome :=
      (h.table later.tid).mpr (Or.inr ⟨earlier, hearlier, hsame, hok⟩)
    exact h'.unknown later hlater hknown
  unknown := by
    intro call hcall hknown
    rcases List.mem_append.mp hcall with hcall | hcall
    · exact h.unknown call hcall hknown
    · exact h'.unknown call hcall ((h.table call.tid).mpr (Or.inl hknown))

/-- Nothing has been seized. -/
theorem Unchanged.attempts (h : Unchanged c c') : Attempts config answers c [] c' where
  requests := by rw [requests_of_rest h.rest, List.map_nil, List.append_nil]
  table tid := by rw [h.tracees]; simp [not_seizes_nil]
  once := .nil
  unknown := by simp

section one
variable {c₁ : Context} (hnone : c.tracees.lookup tid = none)
include hnone

/-- The task has been put in the table and seized. -/
theorem Registers.attempts (hreg : Registers c tid attach_pid true true c₁)
    (hok : answers.of ⟨round, tid⟩ = .ok) :
    Attempts config answers c [⟨round, tid⟩]
      { c₁ with requests := c₁.requests ++ [⟨.PTRACE_SEIZE, tid, ptrace_options config false⟩] } where
  requests := by rw [requests_of_rest hreg.rest]; rfl
  table other := by
    show (c₁.tracees.lookup other).isSome ↔ _
    rw [hreg.lookup]
    by_cases ho : other = tid
    · simp [ho, hnone, seizes, hok]
    · have hother : tid ≠ other := fun h => ho h.symm
      simp [ho, hother, seizes]
  once := List.pairwise_singleton _ _
  unknown := by simp [hnone]

/-- The task has been put in the table, could not be seized, and is taken out again. -/
theorem Drops.attempts (hreg : Registers c tid attach_pid true true c₁)
    (hdrops : Drops
      { c₁ with requests := c₁.requests ++ [⟨.PTRACE_SEIZE, tid, ptrace_options config false⟩] }
      [tid] c') (hfails : answers.of ⟨round, tid⟩ ≠ .ok) :
    Attempts config answers c [⟨round, tid⟩] c' where
  requests := by
    rw [hdrops.requests]
    show c₁.requests ++ _ = _
    rw [requests_of_rest hreg.rest]
    rfl
  table other := by
    rw [hdrops.lookup]
    show (if other ∈ [tid] then none else c₁.tracees.lookup other).isSome ↔ _
    rw [hreg.lookup]
    by_cases ho : other = tid
    · simp [ho, hnone, seizes, hfails]
    · have hother : tid ≠ other := fun h => ho h.symm
      simp [ho, hother, seizes]
  once := List.pairwise_singleton _ _
  unknown := by simp [hnone]

end one

/-- A task of the listing is in the table, or a call of the round has found it gone. -/
def Accounted (answers : AttachAnswers) (round : Nat) (c : Context) (calls : List SeizeCall)
    (tid : Pid) : Prop :=
  (c.tracees.lookup tid).isSome ∨ (⟨round, tid⟩ ∈ calls ∧ answers.seize round tid = .esrch)

/-- One round of the inner loop tries the task unless it is in the table. -/
theorem seize_task_attempts (round : Nat) (tid : Pid) (c : Context) :
    Holds (seize_task config env attach_pid (answers.seize round tid) tid) c
      (fun seized c' => ∃ calls, Attempts config answers c calls c' ∧
        (∀ call ∈ calls, call = ⟨round, tid⟩ ∧ answers.of call ≠ .failed) ∧
        (seized = false → (∀ call ∈ calls, answers.of call = .esrch) ∧
          Accounted answers round c calls tid))
      (fun error c' => ∃ calls, Attempts config answers c calls c' ∧
        ∀ call ∈ calls, call = ⟨round, tid⟩ ∧
          (answers.of call = .failed → error = cannot_seize env call.tid)) := by
  unfold seize_task
  rw [holds_bind, holds_get, Tracees.get_eq]
  cases hlookup : c.tracees.lookup tid with
  | some tracee =>
    have hknown : (c.tracees.lookup tid).isSome := by simp [hlookup]
    exact ⟨[], .refl c, by simp, fun _ => ⟨by simp, Or.inl hknown⟩⟩
  | none =>
    dsimp only
    rw [holds_bind]
    apply (add_tracee_spec tid attach_pid true true).mono
    · intro _ c₁ hpost
      rcases hpost with ⟨_, _, hreg⟩
      rw [holds_bind, holds_measured_ptrace]
      cases hanswer : answers.seize round tid with
      | ok =>
        have hok : answers.of ⟨round, tid⟩ = .ok := hanswer
        refine ⟨[⟨round, tid⟩], hreg.attempts hlookup hok, ?_, by simp⟩
        simp [hok]
      | esrch =>
        rw [holds_bind]
        have hgone : answers.of ⟨round, tid⟩ = .esrch := hanswer
        apply (remove_tracee_spec tid).mono
        · intro _ c₂ hdrops
          refine ⟨[⟨round, tid⟩], hdrops.attempts hlookup hreg (by simp [hgone]), ?_, fun _ => ?_⟩
          · simp [hgone]
          · exact ⟨by simp [hgone], Or.inr ⟨by simp, hanswer⟩⟩
        · intro _ _ h
          exact h
      | failed =>
        rw [holds_bind]
        have hfailed : answers.of ⟨round, tid⟩ = .failed := hanswer
        apply (remove_tracee_spec tid).mono
        · intro _ c₂ hdrops
          refine ⟨[⟨round, tid⟩], hdrops.attempts hlookup hreg (by simp [hfailed]), ?_⟩
          intro call hcall
          rw [List.mem_singleton.mp hcall]
          exact ⟨rfl, fun _ => rfl⟩
        · intro _ _ h
          exact h
    · intro _ c₁ hpost
      rcases hpost with ⟨hsame, _⟩
      exact ⟨[], hsame.attempts, by simp⟩

/-- The inner loop goes through the listing of the round.  Where no task is new, each is
    accounted for: it was in the table before the round, for none came to it since. -/
theorem seize_tasks_attempts (round : Nat) (ids : List Pid) : ∀ c : Context,
    Holds (seize_tasks config env attach_pid (answers.seize round) ids) c
      (fun added c' => ∃ calls, Attempts config answers c calls c' ∧
        (∀ call ∈ calls, call.round = round ∧ call.tid ∈ ids ∧ answers.of call ≠ .failed) ∧
        (added = 0 → (∀ call ∈ calls, answers.of call = .esrch) ∧
          ∀ tid ∈ ids, Accounted answers round c calls tid))
      (fun error c' => ∃ calls, Attempts config answers c calls c' ∧
        ∀ call ∈ calls, call.round = round ∧ call.tid ∈ ids ∧
          (answers.of call = .failed → error = cannot_seize env call.tid)) := by
  induction ids with
  | nil => exact fun c => ⟨[], .refl c, by simp, by simp⟩
  | cons tid ids ih =>
    intro c
    rw [seize_tasks, holds_bind]
    apply (seize_task_attempts round tid c).mono
    · intro seized c₁ hpost
      rcases hpost with ⟨calls, hfirst, hcalls, hquiet⟩
      rw [holds_bind]
      apply (ih c₁).mono
      · intro added c₂ hpost
        rcases hpost with ⟨calls', hrest, hcalls', hquiet'⟩
        refine ⟨calls ++ calls', hfirst.trans hrest, ?_, ?_⟩
        · intro call hcall
          rcases List.mem_append.mp hcall with hcall | hcall
          · obtain ⟨rfl, hanswer⟩ := hcalls call hcall
            exact ⟨rfl, by simp, hanswer⟩
          · obtain ⟨hround, hmem, hanswer⟩ := hcalls' call hcall
            exact ⟨hround, List.mem_cons_of_mem _ hmem, hanswer⟩
        · cases seized with
          | true => simp
          | false =>
            intro hadded
            obtain ⟨hgone, hhead⟩ := hquiet rfl
            obtain ⟨hgone', htail⟩ := hquiet' hadded
            refine ⟨fun call hcall => ?_, fun other hother => ?_⟩
            · rcases List.mem_append.mp hcall with hcall | hcall
              · exact hgone call hcall
              · exact hgone' call hcall
            · rcases List.mem_cons.mp hother with rfl | hother
              · rcases hhead with hknown | ⟨hmem, hesrch⟩
                · exact Or.inl hknown
                · exact Or.inr ⟨List.mem_append_left _ hmem, hesrch⟩
              · rcases htail other hother with hknown | ⟨hmem, hesrch⟩
                · rcases (hfirst.table other).mp hknown with hknown | ⟨call, hcall, _, hok⟩
                  · exact Or.inl hknown
                  · rw [hgone call hcall] at hok
                    exact absurd hok (by decide)
                · exact Or.inr ⟨List.mem_append_right _ hmem, hesrch⟩
      · intro error c₂ hpost
        rcases hpost with ⟨calls', hrest, hcalls'⟩
        refine ⟨calls ++ calls', hfirst.trans hrest, fun call hcall => ?_⟩
        rcases List.mem_append.mp hcall with hcall | hcall
        · obtain ⟨rfl, hanswer⟩ := hcalls call hcall
          exact ⟨rfl, by simp, fun hfailed => absurd hfailed hanswer⟩
        · obtain ⟨hround, hmem, herror⟩ := hcalls' call hcall
          exact ⟨hround, List.mem_cons_of_mem _ hmem, herror⟩
    · intro error c₁ hpost
      rcases hpost with ⟨calls, hfirst, hcalls⟩
      refine ⟨calls, hfirst, fun call hcall => ?_⟩
      obtain ⟨rfl, herror⟩ := hcalls call hcall
      exact ⟨rfl, by simp, herror⟩

/-! ### The rounds -/

/-- The calls are those of these rounds, in this order, and for tasks of their listings. -/
structure InRounds (answers : AttachAnswers) (first last : Nat) (calls : List SeizeCall) : Prop where
  bounds : ∀ call ∈ calls, first ≤ call.round ∧ call.round < last
  listed : ∀ call ∈ calls, answers.lists call.round call.tid
  ordered : calls.Pairwise fun earlier later => earlier.round ≤ later.round

theorem InRounds.nil (first last : Nat) : InRounds answers first last [] :=
  ⟨by simp, by simp, .nil⟩

/-- The calls of one round are followed by those of the later ones. -/
theorem InRounds.cons {last : Nat} (hids : answers.task_ids round = .ok ids)
    (hcalls : ∀ call ∈ calls, call.round = round ∧ call.tid ∈ ids)
    (hlast : round < last) (h : InRounds answers (round + 1) last calls') :
    InRounds answers round last (calls ++ calls') where
  bounds := by
    intro call hcall
    rcases List.mem_append.mp hcall with hcall | hcall
    · rw [(hcalls call hcall).1]
      exact ⟨le_refl round, hlast⟩
    · obtain ⟨hfirst, hbound⟩ := h.bounds call hcall
      exact ⟨Nat.le_of_succ_le hfirst, hbound⟩
  listed := by
    intro call hcall
    rcases List.mem_append.mp hcall with hcall | hcall
    · obtain ⟨hround, hmem⟩ := hcalls call hcall
      exact ⟨ids, hround ▸ hids, hmem⟩
    · exact h.listed call hcall
  ordered := by
    refine List.pairwise_append.mpr ⟨?_, h.ordered, ?_⟩
    · refine List.pairwise_of_forall_mem_list fun earlier hearlier later hlater => ?_
      rw [(hcalls earlier hearlier).1, (hcalls later hlater).1]
    · intro earlier hearlier later hlater
      rw [(hcalls earlier hearlier).1]
      exact Nat.le_of_succ_le (h.bounds later hlater).1

/-- Every task of the listing was in the table when the round began, from the start or
    since an earlier round has seized it, or a call of the round has found it gone. -/
def Settled (answers : AttachAnswers) (c : Context) (calls : List SeizeCall) (round : Nat) : Prop :=
  ∃ ids, answers.task_ids round = .ok ids ∧ ∀ tid ∈ ids,
    (c.tracees.lookup tid).isSome ∨
    (∃ call ∈ calls, call.round < round ∧ call.tid = tid ∧ answers.of call = .ok) ∨
    (⟨round, tid⟩ ∈ calls ∧ answers.seize round tid = .esrch)

/-- What is settled from `c'` on is settled from `c` on, with the calls of the round between. -/
theorem Settled.after {last : Nat} (hstep : Attempts config answers c calls c')
    (hcalls : ∀ call ∈ calls, call.round < last) (h : Settled answers c' calls' last) :
    Settled answers c (calls ++ calls') last := by
  obtain ⟨ids, hids, hall⟩ := h
  refine ⟨ids, hids, fun tid htid => ?_⟩
  rcases hall tid htid with hknown | ⟨call, hcall, hearlier⟩ | ⟨hcall, hesrch⟩
  · rcases (hstep.table tid).mp hknown with hknown | ⟨call, hcall, hseized⟩
    · exact Or.inl hknown
    · exact Or.inr (Or.inl ⟨call, List.mem_append_left _ hcall, hcalls call hcall, hseized⟩)
  · exact Or.inr (Or.inl ⟨call, List.mem_append_right _ hcall, hearlier⟩)
  · exact Or.inr (Or.inr ⟨List.mem_append_right _ hcall, hesrch⟩)

/-- The rounds of `prepare_attach`: they end in the first that finds no new task. -/
theorem seize_rounds_attempts (rounds : Nat) : ∀ (round : Nat) (c : Context),
    Holds (seize_rounds config env attach_pid answers rounds round) c
      (fun stable c' => ∃ calls, Attempts config answers c calls c' ∧
        InRounds answers round (round + rounds) calls ∧
        (∀ call ∈ calls, answers.of call ≠ .failed) ∧
        (stable = true → ∃ last, round ≤ last ∧ last < round + rounds ∧
          (∀ call ∈ calls, call.round ≤ last) ∧ Settled answers c calls last))
      (fun error c' => ∃ calls, Attempts config answers c calls c' ∧
        InRounds answers round (round + rounds) calls ∧
        ∀ call ∈ calls, answers.of call = .failed → error = cannot_seize env call.tid) := by
  induction rounds with
  | zero => exact fun round c => ⟨[], .refl c, .nil _ _, by simp, by simp⟩
  | succ rounds ih =>
    intro round c
    have hbound : round + 1 + rounds = round + (rounds + 1) := by omega
    have hlast : round < round + (rounds + 1) := by omega
    rw [seize_rounds]
    cases hids : answers.task_ids round with
    | error error => exact ⟨[], .refl c, .nil _ _, by simp⟩
    | ok ids =>
      dsimp only
      rw [holds_bind]
      apply (seize_tasks_attempts round ids c).mono
      · intro added c₁ hpost
        rcases hpost with ⟨calls, hstep, hcalls, hquiet⟩
        have hlisted : ∀ call ∈ calls, call.round = round ∧ call.tid ∈ ids :=
          fun call hcall => ⟨(hcalls call hcall).1, (hcalls call hcall).2.1⟩
        have hnone : ∀ call ∈ calls, answers.of call ≠ .failed :=
          fun call hcall => (hcalls call hcall).2.2
        rw [holds_ite]
        refine ⟨fun hadded => ?_, fun _ => ?_⟩
        · obtain ⟨_, haccounted⟩ := hquiet hadded
          have hin := InRounds.cons hids hlisted hlast (.nil (round + 1) _)
          rw [List.append_nil] at hin
          refine ⟨calls, hstep, hin, hnone, fun _ => ⟨round, le_refl round, hlast, ?_, ids, hids, ?_⟩⟩
          · exact fun call hcall => (hlisted call hcall).1.le
          · intro tid htid
            rcases haccounted tid htid with hknown | hgone
            · exact Or.inl hknown
            · exact Or.inr (Or.inr hgone)
        · apply (ih (round + 1) c₁).mono
          · intro stable c₂ hpost
            rcases hpost with ⟨calls', hrest, hin, hnone', hsettled⟩
            rw [hbound] at hin hsettled
            refine ⟨calls ++ calls', hstep.trans hrest, .cons hids hlisted hlast hin, ?_, ?_⟩
            · intro call hcall
              rcases List.mem_append.mp hcall with hcall | hcall
              · exact hnone call hcall
              · exact hnone' call hcall
            · intro hstable
              obtain ⟨last, hfirst, hlast', hall, hset⟩ := hsettled hstable
              have hbefore : ∀ call ∈ calls, call.round < last := by
                intro call hcall
                rw [(hlisted call hcall).1]
                exact hfirst
              refine ⟨last, Nat.le_of_succ_le hfirst, hlast', ?_, hset.after hstep hbefore⟩
              intro call hcall
              rcases List.mem_append.mp hcall with hcall | hcall
              · exact (hbefore call hcall).le
              · exact hall call hcall
          · intro error c₂ hpost
            rcases hpost with ⟨calls', hrest, hin, herror⟩
            rw [hbound] at hin
            refine ⟨calls ++ calls', hstep.trans hrest, .cons hids hlisted hlast hin, ?_⟩
            intro call hcall hfailed
            rcases List.mem_append.mp hcall with hcall | hcall
            · exact absurd hfailed (hnone call hcall)
            · exact herror call hcall hfailed
      · intro error c₁ hpost
        rcases hpost with ⟨calls, hstep, hcalls⟩
        have hin := InRounds.cons hids (fun call hcall => ⟨(hcalls call hcall).1, (hcalls call hcall).2.1⟩)
          hlast (.nil (round + 1) _)
        rw [List.append_nil] at hin
        exact ⟨calls, hstep, hin, fun call hcall => (hcalls call hcall).2.2⟩

/-- Only the listings and the answers of the rounds are asked for. -/
theorem seize_rounds_congr {answers' : AttachAnswers} (rounds : Nat) : ∀ round : Nat,
    (∀ r, round ≤ r → r < round + rounds →
      answers'.task_ids r = answers.task_ids r ∧ answers'.seize r = answers.seize r) →
    seize_rounds config env attach_pid answers' rounds round =
      seize_rounds config env attach_pid answers rounds round := by
  induction rounds with
  | zero => exact fun _ _ => rfl
  | succ rounds ih =>
    intro round hsame
    obtain ⟨hids, hseize⟩ := hsame round (le_refl round) (by omega)
    have hrest := ih (round + 1) fun r hfirst hlast => hsame r (by omega) (by omega)
    rw [seize_rounds, seize_rounds, hids, hseize, hrest]

/-! ### The return -/

/-- What `prepare_attach` leaves behind, however it returns: the table holds the tasks that
    the calls have seized, each once, and the calls are those of the 64 rounds. -/
structure AttachReturns (config : Config) (answers : AttachAnswers) (c : Context)
    (calls : List SeizeCall) (c' : Context) : Prop where
  requests : ∃ interrupted : List Pid, c'.requests =
    c.requests ++ calls.map (SeizeCall.request config) ++
      interrupted.map fun tid => ⟨.PTRACE_INTERRUPT, tid, 0⟩
  table : ∀ tid, (c'.tracees.lookup tid).isSome ↔ seizes answers calls tid
  once : calls.Pairwise fun earlier later => earlier.tid = later.tid → answers.of earlier ≠ .ok
  rounds : InRounds answers 0 64 calls

/-- In the round every task of the listing had been seized before, or was found gone. -/
def Complete (answers : AttachAnswers) (calls : List SeizeCall) (round : Nat) : Prop :=
  ∃ ids, answers.task_ids round = .ok ids ∧ ∀ tid ∈ ids,
    (∃ call ∈ calls, call.round < round ∧ call.tid = tid ∧ answers.of call = .ok) ∨
    (⟨round, tid⟩ ∈ calls ∧ answers.seize round tid = .esrch)

/-- From `c` to `c'` nothing has been done to the tasks but that some were interrupted. -/
structure Interrupts (c c' : Context) : Prop where
  tracees : c'.tracees = c.tracees
  requests : ∃ interrupted : List Pid,
    c'.requests = c.requests ++ interrupted.map fun tid => ⟨.PTRACE_INTERRUPT, tid, 0⟩

theorem Interrupts.of_eq (htracees : c'.tracees = c.tracees) (hrequests : c'.requests = c.requests) :
    Interrupts c c' :=
  ⟨htracees, [], by rw [hrequests, List.map_nil, List.append_nil]⟩

theorem Interrupts.and_one (h : Interrupts c c') (tid : Pid) :
    Interrupts c { c' with requests := c'.requests ++ [⟨.PTRACE_INTERRUPT, tid, 0⟩] } := by
  obtain ⟨interrupted, hrequests⟩ := h.requests
  refine ⟨h.tracees, interrupted ++ [tid], ?_⟩
  show c'.requests ++ _ = _
  rw [hrequests, List.map_append, List.append_assoc]
  rfl

/-- The last loop of `prepare_attach` makes nothing but interrupts. -/
theorem interrupt_tasks_spec (interrupt : Pid → RestartAnswer) (tids : List Pid)
    (h : Interrupts c c') :
    Holds (tids.forM fun tid => interrupt_task env (interrupt tid) tid) c'
      (fun _ c'' => Interrupts c c'') (fun _ c'' => Interrupts c c'') := by
  have hround : ∀ tid ∈ tids, ∀ c₁, Interrupts c c₁ →
      Holds (interrupt_task env (interrupt tid) tid) c₁ (fun _ c₂ => Interrupts c c₂)
        (fun _ c₂ => Interrupts c c₂) := by
    intro tid _ c₁ h₁
    unfold interrupt_task
    rw [holds_bind, holds_measured_ptrace]
    cases interrupt tid with
    | ok => exact h₁.and_one tid
    | esrch => exact h₁.and_one tid
    | failed => exact h₁.and_one tid
  exact holds_forM tids _ hround h

/-- The interrupts leave the table as the rounds have left it. -/
theorem Attempts.returns (hempty : c.tracees.count = 0) (h : Attempts config answers c calls c')
    (hin : InRounds answers 0 64 calls) (hinterrupts : Interrupts c' c'') :
    AttachReturns config answers c calls c'' where
  requests := by
    rw [← h.requests]
    exact hinterrupts.requests
  table tid := by
    rw [hinterrupts.tracees, h.table, Tracees.count_eq_zero.mp hempty tid]
    simp
  once := h.once
  rounds := hin

/-- From an empty table on, only the tasks that have been seized are in it. -/
theorem Settled.complete (hempty : c.tracees.count = 0) (h : Settled answers c calls round) :
    Complete answers calls round := by
  obtain ⟨ids, hids, hall⟩ := h
  refine ⟨ids, hids, fun tid htid => ?_⟩
  rcases hall tid htid with hknown | hround
  · rw [Tracees.count_eq_zero.mp hempty tid] at hknown
    exact absurd hknown (by simp)
  · exact hround

/-- **At every return** of `prepare_attach` the table holds the tasks that `PTRACE_SEIZE`
    has seized.  It succeeds only when no call has failed and a round has found every task
    of its listing seized or gone; a call that fails is the error, and no listing after
    the 64th is looked at. -/
theorem prepare_attach_exact (hempty : c.tracees.count = 0) :
    Holds (prepare_attach config env attach_pid answers) c
      (fun _ c' => ∃ calls, AttachReturns config answers c calls c' ∧ c'.tracees.count ≠ 0 ∧
        (∀ call ∈ calls, answers.of call ≠ .failed) ∧
        ∃ last < 64, (∀ call ∈ calls, call.round ≤ last) ∧ Complete answers calls last)
      (fun error c' => ∃ calls, AttachReturns config answers c calls c' ∧
        ∀ call ∈ calls, answers.of call = .failed → error = cannot_seize env call.tid) ∧
    ∀ answers' : AttachAnswers, answers'.invalid = answers.invalid →
      answers'.interrupt = answers.interrupt →
      (∀ round < 64, answers'.task_ids round = answers.task_ids round ∧
        answers'.seize round = answers.seize round) →
      prepare_attach config env attach_pid answers' = prepare_attach config env attach_pid answers := by
  constructor
  · unfold prepare_attach
    cases answers.invalid with
    | some error =>
      have hnothing : Attempts config answers c [] c := .refl c
      exact ⟨[], hnothing.returns hempty (.nil 0 64) (.of_eq rfl rfl), by simp⟩
    | none =>
      dsimp only
      rw [holds_bind]
      apply (seize_rounds_attempts 64 0 c).mono
      · intro stable c₁ hpost
        rcases hpost with ⟨calls, hcalls, hin, hnone, hstable⟩
        have hreturns : ∀ c₂, Interrupts c₁ c₂ → AttachReturns config answers c calls c₂ :=
          fun c₂ hinterrupts => hcalls.returns hempty hin hinterrupts
        -- No call has failed once the rounds are over: what fails then is another error.
        have herror : ∀ error : String, ∀ call ∈ calls, answers.of call = .failed →
            error = cannot_seize env call.tid :=
          fun error call hcall hfailed => absurd hfailed (hnone call hcall)
        simp only [holds_bind, holds_get, holds_ite, holds_throw, holds_context_ask, holds_modify]
        refine ⟨fun _ => ?_, fun hready => ⟨fun _ => ?_, fun _ => ?_⟩⟩
        · exact ⟨calls, hreturns _ (.of_eq rfl rfl), herror _⟩
        · exact ⟨calls, hreturns _ (.of_eq rfl rfl), herror _⟩
        · obtain ⟨hstable', hcount⟩ : stable = true ∧ c₁.tracees.count ≠ 0 := by
            simpa using hready
          obtain ⟨last, _, hlast, hall, hsettled⟩ := hstable hstable'
          have hbefore : Interrupts c₁ { c₁ with asked := c₁.asked + 1 } := .of_eq rfl rfl
          apply (interrupt_tasks_spec answers.interrupt _ hbefore).mono
          · intro _ c₂ hinterrupts
            have hfound : c₂.tracees.count ≠ 0 := by
              rw [hinterrupts.tracees]
              exact hcount
            exact ⟨calls, hreturns _ ⟨hinterrupts.tracees, hinterrupts.requests⟩, hfound, hnone, last,
              by omega, hall, hsettled.complete hempty⟩
          · intro error c₂ hinterrupts
            exact ⟨calls, hreturns c₂ hinterrupts, herror error⟩
      · intro error c₁ hpost
        rcases hpost with ⟨calls, hcalls, hin, herror⟩
        exact ⟨calls, hcalls.returns hempty hin (.of_eq rfl rfl), herror⟩
  · intro answers' hinvalid hinterrupt hsame
    have hrounds : seize_rounds config env attach_pid answers' 64 0 =
        seize_rounds config env attach_pid answers 64 0 :=
      seize_rounds_congr 64 0 fun r _ hr => hsame r (by omega)
    unfold prepare_attach
    rw [hinvalid, hinterrupt, hrounds]

end attempts

/-- A task is gone when it is seized, and another has come in the next round. -/
def AttachAnswers.changing : AttachAnswers where
  invalid := none
  task_ids round := .ok (if round = 0 then [100, 101] else [100, 102])
  seize _ tid := if tid = 101 then .esrch else .ok
  interrupt _ := .ok

theorem prepare_attach_exact_changing : ∃ start calls,
    AttachReturns .attaching .changing .init calls start ∧
      (∃ last < 64, Complete .changing calls last) ∧
      seizes .changing calls 102 ∧ ¬seizes .changing calls 101 := by
  let attach : TraceM Unit := prepare_attach .attaching .reliable 100 .changing
  let start : Context := attach.finalState .init
  have hsucceeds : attach.succeeds .init = true := by decide +kernel
  have hempty : Context.init.tracees.count = 0 := rfl
  have hafter := (prepare_attach_exact hempty).1.of_ok (exec_of_succeeds hsucceeds)
  obtain ⟨calls, hreturns, -, -, last, hlast, -, hcomplete⟩ := hafter
  have hcame : (start.tracees.lookup 102).isSome = true := by decide +kernel
  have hgone : (start.tracees.lookup 101).isSome = false := by decide +kernel
  refine ⟨start, calls, hreturns, ⟨last, hlast, hcomplete⟩, (hreturns.table 102).mp hcame, ?_⟩
  rw [← hreturns.table, hgone]
  decide

end Sysgaze
