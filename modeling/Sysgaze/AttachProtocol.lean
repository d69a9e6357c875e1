import Sysgaze.Lib.Enumeration
import Sysgaze.ProcFiles

/-! # Attaching while threads come and go (`trace.c`)

    `prepare_attach` lists the tasks of a process and seizes them, again and again, until a
    list has no new one in it.  Meanwhile the tasks run on: they end, and they begin new ones.

    The tracer and the threads of the process are one system here (`Attach.Step`), with the
    code of `seize_task` and `collect_task_ids` as its steps.  `attach_protocol`: in whatever
    order the steps come, the tracer ends as `seize_rounds` ends on the answers that it has
    got.  When it ends, every thread that has been there since its last look is in the
    table, and with `-f` every thread is traced, unless an untraced one has left meanwhile;
    and it gives up only after 63 new threads.

    The kernel gives no number twice while the attach takes place, and no thread but the
    first executes another program.
-/

open Fallible Enumeration

namespace Sysgaze

/-- Where `seize_rounds` is. -/
inductive AttachPoint where
  /-- Before `opendir`. -/
  | opening (round : Nat)
  /-- In the loop over the directory. -/
  | reading (round : Nat)
  /-- Before the first of these tasks; `added` are new in this round. -/
  | seizing (round : Nat) (ids : List Pid) (added : Nat)
  /-- A round has found no new task. -/
  | stable
  /-- There are no rounds left. -/
  | unstable
  | failed (error : String)

/-- The system: the tracer, and the threads of the process with what is known about them.  A thread
    is marked when it is traced; `seized` are those that the tracer has seized itself. -/
structure Attach where
  point : AttachPoint
  threads : Scan Pid
  seized : Finset Pid
  context : Context

/-- The tasks in the directory: those that have been there all the time, at least. -/
structure Listing (tasks : List Nat) (present : Finset Pid) : Prop where
  distinct : tasks.Nodup
  numbers : ∀ tid ∈ tasks, 0 < tid ∧ (tid : Int) ≤ INT_MAX
  present : ∀ tid ∈ present, ∃ task ∈ tasks, (task : Int) = tid

section model
variable (config : Config) (env : Env) (strerror : Int → String) (attach_pid : Pid)
  (answers : AttachAnswers)

/-- What is left of `seize_rounds` at a point. -/
def AttachPoint.rest : AttachPoint → TraceM Bool
  | .opening round => seize_rounds config env attach_pid answers (64 - round) round
  | .reading round => seize_rounds config env attach_pid answers (64 - round) round
  | .seizing round ids added => do
    let more ← seize_tasks config env attach_pid (answers.seize round) ids
    if added + more = 0 then pure true
    else seize_rounds config env attach_pid answers (63 - round) (round + 1)
  | .stable => pure true
  | .unstable => pure false
  | .failed error => throw error

/-- The end of a round. -/
def AttachPoint.next (round added : Nat) : AttachPoint :=
  if added = 0 then .stable else if round + 1 = 64 then .unstable else .opening (round + 1)

namespace Attach

/-- Before the first round. -/
def start (members : Finset Pid) : Attach := ⟨.opening 0, .start members, ∅, .init⟩

/-- The code for the next task, and what it comes to. -/
def seize (s : Attach) (round : Nat) (tid : Pid) : Except String Bool × Context :=
  (seize_task config env attach_pid (answers.seize round tid) tid).exec s.context

/-- Does a traced thread begin traced ones?  The bit is that of `PTRACE_O_TRACECLONE`. -/
def inherits : Bool := (ptrace_options config false).testBit 3

/-- One step of a thread or of the tracer. -/
inductive Step (s : Attach) : Attach → Prop
  | moves {threads : Scan Pid} : s.threads.Move (inherits config) threads →
      Step s { s with threads := threads }
  | opens {round : Nat} : s.point = .opening round → Step s { s with
      point := .reading round
      threads := s.threads.begin }
  | lists {round : Nat} {realloc : Nat → Bool} {tasks : List Nat} {ids : List Pid} :
      s.point = .reading round → Listing tasks s.threads.present →
      answers.task_ids round =
        collect_task_ids realloc strerror attach_pid (.ok (task_directory tasks)) →
      answers.task_ids round = .ok ids →
      Step s { s with point := .seizing round ids 0 }
  | cannot_list {round : Nat} {realloc : Nat → Bool} {opened : Except Int Directory}
      {error : String} : s.point = .opening round ∨ s.point = .reading round →
      answers.task_ids round = collect_task_ids realloc strerror attach_pid opened →
      answers.task_ids round = .error error →
      Step s { s with point := .failed error }
  -- `PTRACE_SEIZE` succeeds for a thread that is there and that nobody traces.
  | seizes {round : Nat} {tid : Pid} {ids : List Pid} {added : Nat} :
      s.point = .seizing round (tid :: ids) added →
      (s.seize config env attach_pid answers round tid).1 = .ok true →
      tid ∈ s.threads.members → tid ∉ s.threads.marked →
      Step s { s with
        point := .seizing round ids (added + 1)
        threads := s.threads.mark tid
        seized := insert tid s.seized
        context := (s.seize config env attach_pid answers round tid).2 }
  -- The task is in the table, or it is gone.
  | passes {round : Nat} {tid : Pid} {ids : List Pid} {added : Nat} :
      s.point = .seizing round (tid :: ids) added →
      (s.seize config env attach_pid answers round tid).1 = .ok false →
      (s.context.tracees.lookup tid).isSome ∨ tid ∉ s.threads.members →
      Step s { s with
        point := .seizing round ids added
        context := (s.seize config env attach_pid answers round tid).2 }
  | cannot_seize {round : Nat} {tid : Pid} {ids : List Pid} {added : Nat} {error : String} :
      s.point = .seizing round (tid :: ids) added →
      (s.seize config env attach_pid answers round tid).1 = .error error →
      Step s { s with
        point := .failed error
        context := (s.seize config env attach_pid answers round tid).2 }
  | ends {round added : Nat} : s.point = .seizing round [] added →
      Step s { s with point := .next round added }

/-- The states that can be reached from a process with these threads. -/
inductive Runs (members : Finset Pid) : Attach → Prop
  | start : Runs members (.start members)
  | step {s s' : Attach} : Runs members s → Step config env strerror attach_pid answers s s' →
      Runs members s'

/-- What holds at every moment of an attach. -/
structure Sound (members : Finset Pid) (s : Attach) : Prop where
  /-- The steps are those of the code. -/
  code : (s.point.rest config env attach_pid answers).exec s.context =
    (seize_rounds config env attach_pid answers 64 0).exec .init
  /-- The tasks in the table are traced. -/
  table : ∀ tid, (s.context.tracees.lookup tid).isSome → tid ∈ s.threads.marked
  /-- Whoever has been there since the last look is in the table. -/
  listed : s.point = .stable → ∀ tid ∈ s.threads.present, (s.context.tracees.lookup tid).isSome
  /-- Nobody escapes, and nobody will. -/
  complete : s.point = .stable → config.follow = true → s.threads.lost = ∅ → s.threads.Complete
  /-- The tracer gives up only when the process keeps beginning threads. -/
  unstable : s.point = .unstable → 63 ≤ (s.threads.marked \ members).card

end Attach

end model

section protocol
variable {config : Config} {env : Env} {strerror : Int → String} {attach_pid tid : Pid}
  {answers : AttachAnswers} {c c' : Context} {round added : Nat} {ids : List Pid}

/-! ### The code -/

/-- What the code for a task does to the table. -/
theorem seize_task_table (answer : RestartAnswer) (c : Context) :
    Holds (seize_task config env attach_pid answer tid) c
      (fun new c' => ∀ other, (c'.tracees.lookup other).isSome ↔
        new = true ∧ other = tid ∨ (c.tracees.lookup other).isSome)
      (fun _ c' => ∀ other, (c'.tracees.lookup other).isSome ↔
        (c.tracees.lookup other).isSome) := by
  unfold seize_task
  rw [holds_bind, holds_get, Tracees.get_eq]
  cases hknown : c.tracees.lookup tid with
  | some _ => simp
  | none =>
    dsimp only
    rw [holds_bind]
    apply (add_tracee_spec tid attach_pid true true).mono
    · intro _ c₁ hpost
      rcases hpost with ⟨_, _, hreg⟩
      -- A task that is taken out again has not been there before.
      have hback : ∀ c₂ c₃ : Context, Drops c₂ [tid] c₃ → c₂.tracees = c₁.tracees → ∀ other,
          (c₃.tracees.lookup other).isSome ↔ (c.tracees.lookup other).isSome := by
        intro c₂ c₃ hdrops hsame other
        rw [hdrops.lookup, hsame]
        by_cases ho : other = tid
        · rw [if_pos (List.mem_singleton.mpr ho), ho, hknown]
        · rw [if_neg fun hmem => ho (List.mem_singleton.mp hmem), hreg.lookup,
            if_neg fun hnew => ho hnew.1]
      -- `PTRACE_SEIZE` decides, and only then the record may go again.
      rw [holds_bind, holds_measured_ptrace]
      cases answer with
      | ok =>
        rw [holds_pure]
        intro other
        dsimp only
        rw [hreg.lookup]
        by_cases ho : other = tid
        · rw [if_pos ⟨ho, hknown⟩]
          exact ⟨fun _ => Or.inl ⟨rfl, ho⟩, fun _ => rfl⟩
        · rw [if_neg fun hnew => ho hnew.1]
          exact ⟨Or.inr, fun hnew => hnew.resolve_left fun h => ho h.2⟩
      | esrch =>
        rw [holds_bind]
        apply (remove_tracee_spec (E := fun _ _ => False) tid).mono
        · intro _ c₃ hdrops
          rw [holds_pure]
          intro other
          rw [hback _ c₃ hdrops rfl other]
          simp
        · exact fun _ _ hnone => hnone.elim
      | failed =>
        rw [holds_bind]
        apply (remove_tracee_spec (E := fun _ _ => False) tid).mono
        · intro _ c₃ hdrops
          rw [holds_throw]
          exact hback _ c₃ hdrops rfl
        · exact fun _ _ hnone => hnone.elim
    · intro _ c₁ hpost other
      rw [hpost.1.tracees]

namespace AttachPoint

/-- A list that fails. -/
theorem rest_cannot_list {error : String} (h : answers.task_ids round = .error error)
    (hround : round < 64) (c : Context) :
    (seize_rounds config env attach_pid answers (64 - round) round).exec c = (.error error, c) := by
  rw [show 64 - round = 63 - round + 1 by omega, seize_rounds, h]
  rfl

/-- A list that has been read. -/
theorem rest_lists (h : answers.task_ids round = .ok ids) (hround : round < 64) (c : Context) :
    ((seizing round ids 0).rest config env attach_pid answers).exec c =
      (seize_rounds config env attach_pid answers (64 - round) round).exec c := by
  rw [show 64 - round = 63 - round + 1 by omega, seize_rounds, h, rest]
  simp only [Nat.zero_add]

/-- A task whose code has succeeded. -/
theorem rest_seizes {new : Bool} (h : (seize_task config env attach_pid (answers.seize round tid)
      tid).exec c = (.ok new, c')) :
    ((seizing round (tid :: ids) added).rest config env attach_pid answers).exec c =
      ((seizing round ids (if new then added + 1 else added)).rest config env attach_pid
        answers).exec c' := by
  have hcount : ∀ more, added + (if new then more + 1 else more) =
      (if new then added + 1 else added) + more := by
    intro more
    cases new with
    | true => simp only [if_true]; omega
    | false => simp
  rw [rest, rest, seize_tasks, bind_assoc, exec_bind_of_ok h, bind_assoc]
  simp only [pure_bind, hcount]

/-- A task whose code has failed. -/
theorem rest_cannot_seize {error : String} (h : (seize_task config env attach_pid
      (answers.seize round tid) tid).exec c = (.error error, c')) :
    ((seizing round (tid :: ids) added).rest config env attach_pid answers).exec c =
      (.error error, c') := by
  rw [rest, seize_tasks, bind_assoc, exec_bind, h]

/-- The end of a round. -/
theorem rest_ends (c : Context) :
    ((next round added).rest config env attach_pid answers).exec c =
      ((seizing round [] added).rest config env attach_pid answers).exec c := by
  have hdone : ((seizing round [] added).rest config env attach_pid answers).exec c =
      (if added = 0 then pure true
        else seize_rounds config env attach_pid answers (63 - round) (round + 1)).exec c := rfl
  rw [hdone]
  unfold next
  split
  · rfl
  · split
    · rename_i hlast
      rw [show 63 - round = 0 by omega]
      rfl
    · rw [rest, show 64 - (round + 1) = 63 - round by omega]

end AttachPoint

/-! ### The invariant -/

namespace Attach
variable {members seized : Finset Pid} {s s' : Attach} {threads threads' : Scan Pid}

/-- Every round before this one has taken a task, and every one of them but the first a task that
    was not there at the start. -/
structure Counts (members : Finset Pid) (threads : Scan Pid) (seized : Finset Pid)
    (round added : Nat) : Prop where
  limit : round < 64
  caught : 0 < round → ∀ tid ∈ threads.members, tid ∈ members → tid ∈ seized
  count : round + min added 1 ≤ (seized \ members).card + 1

/-- What a list that has been begun is good for. -/
structure Looks (config : Config) (members : Finset Pid) (threads : Scan Pid) (added : Nat) :
    Prop where
  early : threads.Early members
  rooted : added = 0 → config.follow = true → threads.Rooted

/-- What holds at a point. -/
def At (config : Config) (members : Finset Pid) (threads : Scan Pid) (seized : Finset Pid) :
    AttachPoint → Prop
  | .opening round => Counts members threads seized round 0
  | .reading round => Counts members threads seized round 0 ∧ Looks config members threads 0
  | .seizing round ids added =>
    Counts members threads seized round added ∧ Looks config members threads added ∧
      threads.Awaits ids seized
  | .stable => threads.Awaits [] seized ∧
    (config.follow = true → threads.lost = ∅ → threads.Complete)
  | .unstable => 63 ≤ (seized \ members).card
  | .failed _ => True

/-- The invariant. -/
structure Inv (config : Config) (env : Env) (attach_pid : Pid) (answers : AttachAnswers)
    (members : Finset Pid) (s : Attach) : Prop where
  code : (s.point.rest config env attach_pid answers).exec s.context =
    (seize_rounds config env attach_pid answers 64 0).exec .init
  ok : s.threads.Ok
  table : ∀ tid, (s.context.tracees.lookup tid).isSome ↔ tid ∈ s.seized
  seized : s.seized ⊆ s.threads.marked
  known : members ⊆ s.threads.known
  point : At config members s.threads s.seized s.point

theorem inherits_follow : inherits config = config.follow := by
  unfold inherits ptrace_options
  cases config.follow <;> cases config.seccomp_bpf <;> rfl

/-! ### The threads -/

theorem Counts.move (h : Counts members threads seized round added) (hknown : members ⊆ threads.known)
    (hmove : threads.Move (inherits config) threads') :
    Counts members threads' seized round added :=
  ⟨h.limit, fun hround tid hmem hstart =>
    h.caught hround tid (hmove.back (hknown hstart) hmem) hstart, h.count⟩

theorem Looks.move (h : Looks config members threads added) (hok : threads.Ok)
    (hknown : members ⊆ threads.known) (hmove : threads.Move (inherits config) threads') :
    Looks config members threads' added := by
  refine ⟨h.early.move hknown hmove, fun hnone hfollow => ?_⟩
  rw [inherits_follow, hfollow] at hmove
  exact (h.rooted hnone hfollow).move hok hmove

/-- **The threads** run on, wherever the tracer is. -/
theorem At.move {point : AttachPoint} (h : At config members threads seized point) (hok : threads.Ok)
    (hknown : members ⊆ threads.known) (hmove : threads.Move (inherits config) threads') :
    At config members threads' seized point := by
  cases point with
  | opening round => exact Counts.move h hknown hmove
  | reading round => exact ⟨h.1.move hknown hmove, h.2.move hok hknown hmove⟩
  | seizing round ids added =>
    obtain ⟨hcounts, hlooks, hawaits⟩ := h
    exact ⟨hcounts.move hknown hmove, hlooks.move hok hknown hmove, hawaits.move hmove⟩
  | stable =>
    obtain ⟨hawaits, hcomplete⟩ := h
    refine ⟨hawaits.move hmove, fun hfollow hlost => ?_⟩
    -- Nobody had been lost before, either.
    have hbefore : threads.lost = ∅ := Finset.subset_empty.mp (hlost ▸ hmove.lost)
    rw [inherits_follow, hfollow] at hmove
    exact (hcomplete hfollow hbefore).move hmove
  | unstable => exact h
  | failed error => trivial

/-! ### The tracer -/

/-- A task is seized that was not in the table. -/
theorem Counts.seize (h : Counts members threads seized round added) (hmem : tid ∈ threads.members)
    (hnew : tid ∉ seized) :
    Counts members (threads.mark tid) (insert tid seized) round (added + 1) := by
  refine ⟨h.limit, fun hround other hother hstart =>
    Finset.mem_insert_of_mem (h.caught hround other hother hstart), ?_⟩
  by_cases hround : 0 < round
  · -- It has begun meanwhile: those of the start have been taken in the first round.
    have hlate : tid ∉ members := fun hstart => hnew (h.caught hround tid hmem hstart)
    have hcard : (insert tid seized \ members).card = (seized \ members).card + 1 := by
      rw [Finset.insert_sdiff_of_notMem _ hlate, Finset.card_insert_of_notMem]
      exact fun hin => hnew (Finset.mem_sdiff.mp hin).1
    have hcount := h.count
    omega
  · omega

/-- The end of a round. -/
theorem At.ends (h : At config members threads seized (.seizing round [] added))
    (hseized : seized ⊆ threads.marked) : At config members threads seized (.next round added) := by
  obtain ⟨hcounts, hlooks, hawaits⟩ := h
  have hcount := hcounts.count
  unfold AttachPoint.next
  split
  · rename_i hnone
    exact ⟨hawaits, fun hfollow hlost =>
      (hlooks.rooted hnone hfollow).complete hawaits hseized hlost⟩
  · split
    · rename_i hadded hlast
      show 63 ≤ (seized \ members).card
      omega
    · rename_i hadded hlast
      have hround := hcounts.limit
      refine ⟨by omega, fun _ tid hmem hstart => ?_, by omega⟩
      exact (hawaits tid (hlooks.early tid hmem hstart)).resolve_left List.not_mem_nil

theorem Inv.start (members : Finset Pid) :
    Inv config env attach_pid answers members (.start members) where
  code := rfl
  ok := .start members
  table tid := by
    have hnone : Context.init.tracees.lookup tid = none := Tracees.count_eq_zero.mp rfl tid
    show (Context.init.tracees.lookup tid).isSome = true ↔ tid ∈ (∅ : Finset Pid)
    rw [hnone]
    simp
  seized := Finset.empty_subset _
  known := Finset.Subset.refl _
  point := ⟨by omega, fun hround => absurd hround (Nat.lt_irrefl 0), by omega⟩

/-- **Every step** keeps the invariant. -/
theorem Inv.step (h : Inv config env attach_pid answers members s)
    (hstep : Step config env strerror attach_pid answers s s') :
    Inv config env attach_pid answers members s' := by
  have hcode := h.code
  have hat := h.point
  -- One case for each step; the rest of the code stays the same from step to step.
  cases hstep with
  | moves hmove =>
    exact ⟨hcode, h.ok.move hmove, h.table, h.seized.trans hmove.marked, h.known.trans hmove.known,
      hat.move h.ok h.known hmove⟩
  | opens hpoint =>
    rw [hpoint] at hcode hat
    exact ⟨hcode, h.ok.begin, h.table, h.seized, h.known,
      ⟨hat.limit, hat.caught, hat.count⟩, .begin, fun _ _ => .begin⟩
  | @lists round realloc tasks ids hpoint hlisting hread hids =>
    rw [hpoint] at hcode hat
    obtain ⟨hcounts, hlooks⟩ := hat
    refine ⟨?_, h.ok, h.table, h.seized, h.known, hcounts, hlooks, fun tid hmem => Or.inl ?_⟩
    · exact (AttachPoint.rest_lists hids hcounts.limit s.context).trans hcode
    · -- The numbers that are read are those of the tasks in the directory.
      obtain ⟨directory, hopened, hread, -⟩ := (collect_task_ids_iff _ _ _).mp (hread.symm.trans hids)
      obtain rfl : task_directory tasks = directory := Except.ok.inj hopened
      rw [hread, task_directory_ids hlisting.numbers]
      obtain ⟨task, htask, rfl⟩ := hlisting.present tid hmem
      exact List.mem_map.mpr ⟨task, htask, rfl⟩
  | @cannot_list round realloc opened error hpoint hread herror =>
    refine ⟨?_, h.ok, h.table, h.seized, h.known, trivial⟩
    obtain hpoint | hpoint := hpoint
    · rw [hpoint] at hcode hat
      exact (AttachPoint.rest_cannot_list herror hat.limit s.context).symm.trans hcode
    · rw [hpoint] at hcode hat
      exact (AttachPoint.rest_cannot_list herror hat.1.limit s.context).symm.trans hcode
  | @seizes round tid ids added hpoint hok hmem hfree =>
    rw [hpoint] at hcode hat
    obtain ⟨hcounts, hlooks, hawaits⟩ := hat
    have hexec : (seize_task config env attach_pid (answers.seize round tid) tid).exec s.context =
        (.ok true, (s.seize config env attach_pid answers round tid).2) := Prod.ext hok rfl
    have htable := (seize_task_table (answers.seize round tid) s.context).of_ok hexec
    -- A task can be seized once only, so that it is new in the table.
    have hnew : tid ∉ s.seized := fun hin => hfree (h.seized hin)
    rw [AttachPoint.rest_seizes hexec] at hcode
    refine ⟨hcode, h.ok.mark hmem, fun other => ?_, fun other hother => ?_, h.known,
      hcounts.seize hmem hnew, ⟨hlooks.early, fun hnone => absurd hnone (Nat.succ_ne_zero _)⟩,
      hawaits.next⟩
    · rw [htable other, h.table other, Finset.mem_insert]
      simp
    · exact Scan.mem_marked_mark.mpr
        ((Finset.mem_insert.mp hother).imp_right fun hin => h.seized hin)
  | @passes round tid ids added hpoint hok hgone =>
    rw [hpoint] at hcode hat
    obtain ⟨hcounts, hlooks, hawaits⟩ := hat
    have hexec : (seize_task config env attach_pid (answers.seize round tid) tid).exec s.context =
        (.ok false, (s.seize config env attach_pid answers round tid).2) := Prod.ext hok rfl
    have htable := (seize_task_table (answers.seize round tid) s.context).of_ok hexec
    rw [AttachPoint.rest_seizes hexec] at hcode
    -- The task is gone, or has a record already: nothing is missed by passing over it.
    refine ⟨hcode, h.ok, fun other => ?_, h.seized, h.known, hcounts, hlooks,
      hawaits.skip h.ok (hgone.imp_left (h.table tid).mp)⟩
    rw [htable other, h.table other]
    simp
  | @cannot_seize round tid ids added error hpoint herror =>
    rw [hpoint] at hcode
    have hexec : (seize_task config env attach_pid (answers.seize round tid) tid).exec s.context =
        (.error error, (s.seize config env attach_pid answers round tid).2) := Prod.ext herror rfl
    have htable := (seize_task_table (answers.seize round tid) s.context).of_error hexec
    rw [AttachPoint.rest_cannot_seize hexec] at hcode
    exact ⟨hcode, h.ok, fun other => (htable other).trans (h.table other), h.seized, h.known,
      trivial⟩
  | @ends round added hpoint =>
    rw [hpoint] at hcode hat
    exact ⟨(AttachPoint.rest_ends s.context).trans hcode, h.ok, h.table, h.seized, h.known,
      hat.ends h.seized⟩

/-- A thread that was traced from its beginning and has not reported yet cannot be seized: when it
    is in a list, the attach fails. -/
theorem Step.inherited (hstep : Step config env strerror attach_pid answers s s')
    (hpoint : s.point = .seizing round (tid :: ids) added) (hmem : tid ∈ s.threads.members)
    (hmarked : tid ∈ s.threads.marked) (hunknown : s.context.tracees.lookup tid = none) :
    (∃ threads, s' = { s with threads := threads }) ∨ ∃ error, s'.point = .failed error := by
  cases hstep with
  | moves hmove => exact Or.inl ⟨_, rfl⟩
  | opens hother => simp [hpoint] at hother
  | lists hother => simp [hpoint] at hother
  | cannot_list hother => simp [hpoint] at hother
  | seizes hother hok hthere hfree =>
    rw [hpoint] at hother
    injection hother with hround hids
    injection hids with htid
    exact absurd (htid ▸ hmarked) hfree
  | passes hother hok hgone =>
    rw [hpoint] at hother
    injection hother with hround hids
    injection hids with htid
    obtain hknown | hleft := hgone
    · rw [← htid, hunknown] at hknown
      simp at hknown
    · exact absurd (htid ▸ hmem) hleft
  | cannot_seize hother herror => exact Or.inr ⟨_, rfl⟩
  | ends hother => simp [hpoint] at hother

theorem Runs.inv (hrun : Runs config env strerror attach_pid answers members s) :
    Inv config env attach_pid answers members s := by
  induction hrun with
  | start => exact .start members
  | step _ hstep ih => exact ih.step hstep

end Attach

/-- **Attaching** to a process whose threads come and go.  In every order of the steps the tracer
    does what `seize_rounds` does; the tasks in its table are traced; when it is done, every
    thread that has been there since its last look is in the table, and with `-f` every
    thread of the process is traced, then and later, unless one has left untraced since
    that look; and it gives up only when at least 63 threads that it traces were not there
    at the start. -/
theorem attach_protocol {members : Finset Pid} {s : Attach}
    (hrun : Attach.Runs config env strerror attach_pid answers members s) :
    s.Sound config env attach_pid answers members := by
  have h := hrun.inv
  have hat := h.point
  refine ⟨h.code, fun tid hknown => h.seized ((h.table tid).mp hknown),
    fun hpoint tid hmem => ?_, fun hpoint => ?_, fun hpoint => ?_⟩
  · rw [hpoint] at hat
    exact (h.table tid).mpr ((hat.1 tid hmem).resolve_left List.not_mem_nil)
  · rw [hpoint] at hat
    exact hat.2
  · rw [hpoint] at hat
    have hcount : 63 ≤ (s.seized \ members).card := hat
    exact hcount.trans (Finset.card_le_card (Finset.sdiff_subset_sdiff h.seized (Finset.Subset.refl _)))

end protocol

/-! ### A thread that the first list misses -/

/-- Attaching with `-f`. -/
def Config.attaching_all : Config :=
  { Config.plain .SG_FORMAT_TEXT with mode := .SG_RUN_ATTACH, follow := true }

/-- Task 8 is in the directory from the second round on. -/
def AttachAnswers.late : AttachAnswers where
  invalid := none
  task_ids round := if round = 0 then .ok [7] else .ok [7, 8]
  seize _ _ := .ok
  interrupt _ := .ok

theorem ok_of_toOption {result : Except String Bool} {new : Bool} (h : result.toOption = some new) :
    result = .ok new := by
  cases result with
  | error error => simp [Except.toOption] at h
  | ok value => exact congrArg Except.ok (Option.some.inj h)

/-- The runs with these answers. -/
abbrev LateRuns (s : Attach) : Prop :=
  Attach.Runs .attaching_all .reliable (fun _ => "") 7 .late {7} s

theorem late_thread_runs : ∃ s, LateRuns s ∧ s.point = .stable ∧ s.threads.lost = ∅ ∧
    s.threads.members = {8, 7} := by
  have hmemory : ∀ count : Nat, count ≤ 2 → HasMemory (fun _ => true) count :=
    fun count hcount => ⟨by omega, fun _ _ => rfl⟩
  have hfirst : collect_task_ids (fun _ => true) (fun _ => "") 7 (.ok (task_directory [7])) =
      .ok [7] := collect_task_directory (by decide) (hmemory 1 (by omega)) 7
  have hsecond : collect_task_ids (fun _ => true) (fun _ => "") 7 (.ok (task_directory [7, 8])) =
      .ok [7, 8] := collect_task_directory (by decide) (hmemory 2 (by omega)) 7
  have h₀ : LateRuns (.start {7}) := .start
  have h₁ := h₀.step (.opens rfl)
  -- Task 8 begins behind the cursor.
  have h₂ := h₁.step (.moves (.comes (by decide : (7 : Pid) ∈ _) (by decide : (8 : Pid) ∉ _)))
  have h₃ := h₂.step (.lists rfl ⟨by decide, by decide, by decide⟩ hfirst.symm rfl)
  have h₄ := h₃.step (.seizes rfl (ok_of_toOption (by decide +kernel)) (by decide) (by decide))
  have h₅ := h₄.step (.ends rfl)
  have h₆ := h₅.step (.opens rfl)
  have h₇ := h₆.step (.lists rfl ⟨by decide, by decide, by decide⟩ hsecond.symm rfl)
  have h₈ := h₇.step (.passes rfl (ok_of_toOption (by decide +kernel)) (Or.inl (by decide +kernel)))
  have h₉ := h₈.step (.seizes rfl (ok_of_toOption (by decide +kernel)) (by decide) (by decide))
  have h₁₀ := h₉.step (.ends rfl)
  have h₁₁ := h₁₀.step (.opens rfl)
  have h₁₂ := h₁₁.step (.lists rfl ⟨by decide, by decide, by decide⟩ hsecond.symm rfl)
  have h₁₃ := h₁₂.step (.passes rfl (ok_of_toOption (by decide +kernel)) (Or.inl (by decide +kernel)))
  have h₁₄ := h₁₃.step (.passes rfl (ok_of_toOption (by decide +kernel)) (Or.inl (by decide +kernel)))
  have h₁₅ := h₁₄.step (.ends rfl)
  exact ⟨_, h₁₅, rfl, rfl, rfl⟩

/-- Task 8 begins while the first list is taken, and is not in it; it is traced in the end. -/
theorem attach_protocol_late_thread : ∃ s, LateRuns s ∧ s.point = .stable ∧
    8 ∈ s.threads.members ∧ 8 ∈ s.threads.marked := by
  obtain ⟨s, hrun, hpoint, hlost, hmembers⟩ := late_thread_runs
  have hmem : 8 ∈ s.threads.members := by
    rw [hmembers]
    decide
  exact ⟨s, hrun, hpoint, hmem, (attach_protocol hrun).complete hpoint rfl hlost hmem⟩

end Sysgaze
