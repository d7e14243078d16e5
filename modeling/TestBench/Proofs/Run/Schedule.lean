/-
# Every schedule collects the results

A pool starts its tasks as soon as it may.  Here less is asked: whenever fewer than `width` tasks are
running another one may be started, and at any time a running one may end, with any result that is
possible for it.  Whatever comes first, every task ends once, and its result is found at its place.

| definition | what it is |
| --- | --- |
| `Pool.Event` | a task was started, or it ended with a result |
| `Pool.Step` | what may happen to a pool next |
| `Pool.Schedule` | what happened to a pool up to some moment |
| `Pool.Accounts` | the places of the tasks are divided among those that ended, run and wait; a slot holds a result iff its task ended with it |

`Accounts` holds at the start and is kept by every step (`Accounts.step`), so that it holds all along a
schedule (`Schedule.accounts`).  When nothing is pending it leaves no slot empty (`Accounts.collected`);
before that something can happen (`exists_step`).  The pool's own order of starting and completing is one
of the schedules (`exists_schedule_advance`).
-/

import TestBench.Proofs.Run.Judge
import TestBench.Proofs.Run.Pool
import Mathlib.Data.List.Basic

namespace TestBench
namespace Run
namespace Pool

variable {α β : Type}

/-- What happens to a task, by the number of its slot. -/
inductive Event (β : Type) where
  | started (slot : Nat)
  | ended (slot : Nat) (result : β)

/-- The slots of the tasks that were started, in the order of their starting. -/
def startings (events : List (Event β)) : List Nat :=
  events.filterMap fun
    | .started slot => some slot
    | .ended _ _ => none

/-- The slots of the tasks that ended, in the order of their ending. -/
def endings (events : List (Event β)) : List Nat :=
  events.filterMap fun
    | .started _ => none
    | .ended slot _ => some slot

theorem mem_endings_iff {events : List (Event β)} {slot : Nat} :
    slot ∈ endings events ↔ ∃ result, .ended slot result ∈ events := by
  rw [endings, List.mem_filterMap]
  constructor
  · rintro ⟨event, hevent, heq⟩
    cases event with
    | started slot' => simp at heq
    | ended slot' result =>
      obtain rfl := Option.some.inj heq
      exact ⟨result, hevent⟩
  · rintro ⟨result, hevent⟩
    exact ⟨_, hevent, rfl⟩

theorem length_startings_add_length_endings (events : List (Event β)) :
    (startings events).length + (endings events).length = events.length := by
  induction events with
  | nil => rfl
  | cons event events ih =>
    cases event with
    | started slot =>
      simp only [startings, endings, List.filterMap_cons, List.length_cons] at ih ⊢
      omega
    | ended slot result =>
      simp only [startings, endings, List.filterMap_cons, List.length_cons] at ih ⊢
      omega

/-- What may happen next: the first of the waiting tasks is started while fewer than `width` are running,
or any of the running ones ends. -/
inductive Step (width : Nat) (ends : α → β → Prop) : Pool α β → Event β → Pool α β → Prop
  | start {waiting running : List (Nat × α)} {slots : List (Option β)} {slot : Nat} {task : α}
      (hroom : running.length < width) :
      Step width ends { waiting := (slot, task) :: waiting, running, slots } (.started slot)
        { waiting, running := running ++ [(slot, task)], slots }
  | finish (before : List (Nat × α)) {waiting after : List (Nat × α)} {slots : List (Option β)}
      {slot : Nat} {task : α} {result : β} (hends : ends task result) :
      Step width ends { waiting, running := before ++ (slot, task) :: after, slots }
        (.ended slot result)
        { waiting, running := before ++ after, slots := slots.set slot (some result) }

/-- What happened to a pool, step by step. -/
inductive Schedule (width : Nat) (ends : α → β → Prop) (start : Pool α β) :
    List (Event β) → Pool α β → Prop
  | refl : Schedule width ends start [] start
  | snoc {events : List (Event β)} {pool next : Pool α β} {event : Event β}
      (h : Schedule width ends start events pool) (hstep : Step width ends pool event next) :
      Schedule width ends start (events ++ [event]) next

/-- What is known of a pool after `events`. -/
structure Accounts (width : Nat) (ends : α → β → Prop) (tasks : List α) (events : List (Event β))
    (pool : Pool α β) : Prop where
  /-- Every place belongs to one task that has ended, runs or waits. -/
  places : (endings events ++ pool.pending.map Prod.fst).Perm (List.range tasks.length)
  /-- What was started and has not ended is running. -/
  started : (startings events).Perm (endings events ++ pool.running.map Prod.fst)
  bound : pool.running.length ≤ width
  task : ∀ entry ∈ pool.pending, tasks[entry.1]? = some entry.2
  size : pool.slots.length = tasks.length
  /-- A slot is filled by the end of its task and by nothing else. -/
  filled : ∀ slot result, pool.slots[slot]? = some (some result) ↔ .ended slot result ∈ events
  possible : ∀ slot result, .ended slot result ∈ events →
    ∃ task, tasks[slot]? = some task ∧ ends task result

namespace Accounts

variable {width : Nat} {ends : α → β → Prop} {tasks : List α} {events : List (Event β)}
  {pool next : Pool α β} {event : Event β}

/-- At the start all tasks wait. -/
theorem ofTasks (width : Nat) (ends : α → β → Prop) (tasks : List α) :
    Accounts width ends tasks [] (ofTasks tasks : Pool α β) where
  places := by
    rw [pending, Pool.ofTasks, List.nil_append, map_fst_range_zip]
    rfl
  started := .refl _
  bound := Nat.zero_le _
  task := (tracks_ofTasks (fun _ => ()) tasks).task
  size := List.length_replicate
  filled := by simp [Pool.ofTasks, List.getElem?_replicate]
  possible := by simp

/-- No place is in two parts. -/
theorem nodup (h : Accounts width ends tasks events pool) :
    (endings events ++ pool.pending.map Prod.fst).Nodup :=
  h.places.nodup_iff.2 List.nodup_range

/-- **A step** keeps the accounts. -/
theorem step (h : Accounts width ends tasks events pool) (hstep : Step width ends pool event next) :
    Accounts width ends tasks (events ++ [event]) next := by
  cases hstep with
  | @start waiting running slots slot task hroom =>
    have hendings : endings (events ++ [.started slot]) = endings events := by simp [endings]
    have hstartings : startings (events ++ [.started slot]) = startings events ++ [slot] := by
      simp [startings]
    have hpending : ({ waiting, running := running ++ [(slot, task)], slots } : Pool α β).pending
        = ({ waiting := (slot, task) :: waiting, running, slots } : Pool α β).pending := by
      simp [pending]
    refine ⟨?_, ?_, ?_, ?_, h.size, fun slot' result => ?_, fun slot' result hmem => ?_⟩
    · rw [hendings, hpending]
      exact h.places
    · rw [hendings, hstartings, List.map_append, ← List.append_assoc]
      exact h.started.append_right [slot]
    · rw [List.length_append]
      exact hroom
    · rw [hpending]
      exact h.task
    · simpa using h.filled slot' result
    · exact h.possible slot' result (by simpa using hmem)
  | @finish before waiting after slots slot task result hends =>
    have hendings : endings (events ++ [.ended slot result]) = endings events ++ [slot] := by
      simp [endings]
    have hstartings : startings (events ++ [.ended slot result]) = startings events := by
      simp [startings]
    have hmiddle : (before ++ (slot, task) :: after).Perm ((slot, task) :: (before ++ after)) :=
      List.perm_middle
    have hpending : (before ++ (slot, task) :: after ++ waiting).Perm
        ((slot, task) :: (before ++ after ++ waiting)) := hmiddle.append_right waiting
    have htask : tasks[slot]? = some task := h.task (slot, task) (by simp [pending])
    -- The task was running, so that it has not ended before.
    have hnew : slot ∉ endings events := fun hmem =>
      (List.nodup_append.1 h.nodup).2.2 slot hmem slot (by simp [pending]) rfl
    have hlt : slot < slots.length := by
      rw [h.size]
      exact (List.getElem?_eq_some_iff.1 htask).1
    refine ⟨?_, ?_, ?_, fun entry hentry => ?_, ?_, fun slot' result' => ?_, fun slot' result' hmem => ?_⟩
    · rw [hendings, List.append_assoc]
      exact ((hpending.map Prod.fst).append_left (endings events)).symm.trans h.places
    · rw [hendings, hstartings, List.append_assoc]
      exact h.started.trans ((hmiddle.map Prod.fst).append_left (endings events))
    · have hbound := h.bound
      rw [hmiddle.length_eq, List.length_cons] at hbound
      exact Nat.le_of_succ_le hbound
    · exact h.task entry (hpending.mem_iff.2 (List.mem_cons_of_mem _ hentry))
    · rw [List.length_set]
      exact h.size
    · rw [List.getElem?_set, List.mem_append, List.mem_singleton]
      by_cases hslot : slot = slot'
      · subst hslot
        have hold : Event.ended slot result' ∉ events := fun hmem =>
          hnew (mem_endings_iff.2 ⟨result', hmem⟩)
        simp [hlt, hold, eq_comm]
      · rw [if_neg hslot, h.filled]
        simp [Ne.symm hslot]
    · rcases List.mem_append.1 hmem with hmem | hmem
      · exact h.possible slot' result' hmem
      · obtain ⟨rfl, rfl⟩ := Event.ended.inj (List.mem_singleton.1 hmem)
        exact ⟨task, htask, hends⟩

/-- No more than twice as many things happen as there are tasks. -/
theorem length_events (h : Accounts width ends tasks events pool) :
    events.length + (2 * pool.waiting.length + pool.running.length) = 2 * tasks.length := by
  have hevents := length_startings_add_length_endings events
  have hplaces := h.places.length_eq
  have hstarted := h.started.length_eq
  simp only [pending, List.length_append, List.length_map, List.length_range] at hplaces hstarted
  omega

/-- **When nothing is pending** every task has ended once, and its slot holds the result it ended with. -/
theorem collected (h : Accounts width ends tasks events pool) (hdone : pool.pending = []) :
    (endings events).Perm (List.range tasks.length) ∧
      ∃ results, pool.results? = some results ∧ results.length = tasks.length ∧
        ∀ (place : Nat) (task : α), tasks[place]? = some task →
          ∃ result, results[place]? = some result ∧ .ended place result ∈ events ∧
            ends task result := by
  have hplaces := h.places
  rw [hdone, List.map_nil, List.append_nil] at hplaces
  have hslot {place : Nat} (hplace : place < tasks.length) :
      ∃ result, pool.slots[place]? = some (some result) ∧ .ended place result ∈ events := by
    obtain ⟨result, hended⟩ := mem_endings_iff.1 (hplaces.mem_iff.2 (List.mem_range.2 hplace))
    exact ⟨result, (h.filled place result).2 hended, hended⟩
  have hfull : ∀ slot ∈ pool.slots, slot.isSome = true := by
    intro slot hmem
    obtain ⟨place, hplace⟩ := List.mem_iff_getElem?.1 hmem
    obtain ⟨hlt, -⟩ := List.getElem?_eq_some_iff.1 hplace
    obtain ⟨result, hresult, -⟩ := hslot (h.size ▸ hlt)
    rw [hplace] at hresult
    rw [Option.some.inj hresult]
    rfl
  obtain ⟨results, hresults⟩ : ∃ results : List β, results.map some = pool.slots :=
    ⟨pool.slots.pmap Option.get hfull, by simp [List.map_pmap]⟩
  refine ⟨hplaces, results, ?_, ?_, fun place task htask => ?_⟩
  · have hpure : results.mapM (id ∘ some) = some (results.map id) := List.mapM_pure
    rw [results?, ← hresults, List.mapM_map, hpure, List.map_id]
  · rw [← h.size, ← hresults, List.length_map]
  · obtain ⟨result, hresult, hended⟩ := hslot (List.getElem?_eq_some_iff.1 htask).1
    obtain ⟨task', htask', hends⟩ := h.possible place result hended
    obtain rfl := Option.some.inj (htask.symm.trans htask')
    refine ⟨result, ?_, hended, hends⟩
    rw [← hresults, List.getElem?_map, Option.map_eq_some_iff] at hresult
    obtain ⟨result', hresult', heq⟩ := hresult
    rw [hresult', Option.some.inj heq]

end Accounts

section

variable {width : Nat} {ends : α → β → Prop}

/-- **The accounts hold** all along a schedule. -/
theorem Schedule.accounts {tasks : List α} {events : List (Event β)} {pool : Pool α β}
    (h : Schedule width ends (ofTasks tasks) events pool) : Accounts width ends tasks events pool := by
  induction h with
  | refl => exact .ofTasks width ends tasks
  | snoc _ hstep ih => exact ih.step hstep

/-- As long as a task is pending something can happen. -/
theorem exists_step (hwidth : 0 < width) {pool : Pool α β} (hpending : pool.pending ≠ [])
    (hends : ∀ entry ∈ pool.pending, ∃ result, ends entry.2 result) :
    ∃ event next, Step width ends pool event next := by
  obtain ⟨waiting, running, slots⟩ := pool
  match running, waiting with
  | (slot, task) :: running, waiting =>
    obtain ⟨result, hresult⟩ := hends (slot, task) (List.mem_cons_self ..)
    exact ⟨_, _, .finish [] hresult⟩
  | [], (slot, task) :: waiting => exact ⟨_, _, .start hwidth⟩
  | [], [] => exact absurd rfl hpending

theorem Schedule.append {start pool last : Pool α β} {events events' : List (Event β)}
    (h : Schedule width ends start events pool) (h' : Schedule width ends pool events' last) :
    Schedule width ends start (events ++ events') last := by
  induction h' with
  | refl => rwa [List.append_nil]
  | snoc _ hstep ih =>
    rw [← List.append_assoc]
    exact ih.snoc hstep

theorem Schedule.of_step {pool next : Pool α β} {event : Event β}
    (hstep : Step width ends pool event next) : Schedule width ends pool [event] next :=
  .snoc .refl hstep

/-- A refill starts tasks one by one. -/
theorem exists_schedule_refill (width : Nat) (ends : α → β → Prop) (waiting running : List (Nat × α))
    (slots : List (Option β)) :
    ∃ events, Schedule width ends { waiting, running, slots } events
      (refill width { waiting, running, slots }) := by
  induction waiting generalizing running with
  | nil => exact ⟨[], by simpa [refill] using Schedule.refl⟩
  | cons entry waiting ih =>
    obtain ⟨slot, task⟩ := entry
    by_cases hroom : running.length < width
    · obtain ⟨events, hschedule⟩ := ih (running ++ [(slot, task)])
      have hrefill : refill width { waiting := (slot, task) :: waiting, running, slots }
          = refill width { waiting, running := running ++ [(slot, task)], slots } := by
        obtain ⟨room, hroom'⟩ : ∃ room, width - running.length = room + 1 :=
          ⟨width - running.length - 1, by omega⟩
        have hless : width - (running.length + 1) = room := by omega
        simp [refill, hroom', hless]
      rw [hrefill]
      exact ⟨_, (Schedule.of_step (.start hroom)).append hschedule⟩
    · have hfull : width - running.length = 0 := by omega
      exact ⟨[], by simpa [refill, hfull] using Schedule.refl⟩

/-- A completion ends a running task, if there is one. -/
theorem exists_schedule_complete (width : Nat) (run : α → β) (choice : Nat) (pool : Pool α β) :
    ∃ events, Schedule width (fun task result => result = run task) pool events
      (pool.complete run choice) := by
  obtain ⟨waiting, running, slots⟩ := pool
  rw [complete]
  cases hget : running[choice % running.length]? with
  | none => exact ⟨[], by simpa [hget] using Schedule.refl⟩
  | some entry =>
    obtain ⟨slot, task⟩ := entry
    obtain ⟨hlt, hentry⟩ := List.getElem?_eq_some_iff.1 hget
    have hrunning : running.take (choice % running.length) ++
        (slot, task) :: running.drop (choice % running.length + 1) = running := by
      rw [← hentry, List.getElem_cons_drop, List.take_append_drop]
    have hstep : Step width (fun task result => result = run task)
        { waiting, slots, running := running.take (choice % running.length) ++
            (slot, task) :: running.drop (choice % running.length + 1) }
        (.ended slot (run task)) _ := .finish _ rfl
    rw [hrunning, ← List.eraseIdx_eq_take_drop_succ] at hstep
    exact ⟨_, by simpa [hget] using Schedule.of_step hstep⟩

/-- **The pool's own order is a schedule.** -/
theorem exists_schedule_advance (width : Nat) (run : α → β) (choices : List Nat) (pool : Pool α β) :
    ∃ events, Schedule width (fun task result => result = run task) pool events
      (pool.advance width run choices) := by
  induction choices generalizing pool with
  | nil => exact ⟨[], .refl⟩
  | cons choice choices ih =>
    obtain ⟨events, hrefill⟩ := exists_schedule_refill width (fun task result => result = run task)
      pool.waiting pool.running pool.slots
    obtain ⟨events', hcomplete⟩ := exists_schedule_complete width run choice (pool.refill width)
    obtain ⟨events'', hrest⟩ := ih ((pool.refill width).complete run choice)
    exact ⟨_, (hrefill.append hcomplete).append hrest⟩

end

/-- **Every schedule collects all results, each once and at its place.** At no moment are more than
`max threads 1` binaries running, which are those that were started and have not ended; no slot is filled
twice; something more can happen as long as a binary has not ended, but no more than two things for each
binary; and when all have ended every slot was filled once, none is empty, and the results are as many as
the paths, at each place what the binary of that path ended with.  So it is with the runner's own schedule,
whatever its order. -/
theorem execute_collects (runner : Runner) (host : Host) (paths : List Text) :
    (∀ (ends : Text → Trial → Prop) (events : List (Event Trial)) (pool : Pool Text Trial),
      Schedule (max runner.threads 1) ends (ofTasks paths) events pool →
        pool.running.length ≤ max runner.threads 1 ∧
        (startings events).Perm (endings events ++ pool.running.map Prod.fst) ∧
        (endings events).Nodup ∧
        (pool.pending ≠ [] → (∀ path ∈ paths, ∃ trial, ends path trial) →
          ∃ event next, Step (max runner.threads 1) ends pool event next) ∧
        events.length ≤ 2 * paths.length ∧
        (pool.pending = [] → (endings events).Perm (List.range paths.length) ∧
          ∃ trials, pool.results? = some trials ∧ trials.length = paths.length ∧
            ∀ (place : Nat) (path : Text), paths[place]? = some path →
              ∃ trial, trials[place]? = some trial ∧ .ended place trial ∈ events ∧
                ends path trial)) ∧
    ∃ (events : List (Event Trial)) (pool : Pool Text Trial),
      Schedule (max runner.threads 1) (fun path trial => trial = runner.runOne host path)
        (ofTasks paths) events pool ∧
      pool.pending = [] ∧ pool.results? = some (runner.execute host paths) ∧
      ∀ place : Nat, (runner.execute host paths)[place]? = paths[place]?.map (runner.runOne host) := by
  have hwidth : 0 < max runner.threads 1 := by omega
  refine ⟨fun ends events pool h => ?_, ?_⟩
  · have haccounts := h.accounts
    have hlength := haccounts.length_events
    refine ⟨haccounts.bound, haccounts.started, (List.nodup_append.1 haccounts.nodup).1,
      fun hpending hends => ?_, by omega, haccounts.collected⟩
    refine exists_step hwidth hpending fun entry hentry => ?_
    exact hends entry.2 (List.mem_of_getElem? (haccounts.task entry hentry))
  · obtain ⟨events, hschedule⟩ := exists_schedule_advance (max runner.threads 1) (runner.runOne host)
      ((List.range paths.length).map runner.order) (ofTasks paths)
    have hdone := ((tracks_ofTasks (runner.runOne host) paths).advance hwidth
      ((List.range paths.length).map runner.order) (by simp [ofTasks, pending])).2
    refine ⟨events, _, hschedule, hdone, ?_, fun place => ?_⟩
    · rw [Runner.execute_eq]
      exact runAll_eq runner.threads (runner.runOne host) runner.order paths
    · rw [Runner.execute_eq, List.getElem?_map]

/-- A runner of two binaries at once, where none can be started. -/
def blocked : Runner :=
  { threads := 2, limit := none, environment := .empty, supervisor := fun _ _ _ _ => .error .notFound }

/-- Three tasks, two of which are the same, that end in the order of their places 1, 2, 0. -/
theorem schedule_outOfOrder (trial : Text → Trial) :
    Schedule 2 (fun path result => result = trial path)
      (ofTasks ["a".toList, "b".toList, "a".toList])
      [.started 0, .started 1, .ended 1 (trial "b".toList), .started 2, .ended 2 (trial "a".toList),
        .ended 0 (trial "a".toList)]
      { waiting := [], running := [], slots := ["a".toList, "b".toList, "a".toList].map (some ∘ trial) } := by
  have h₀ : Schedule 2 (fun path result => result = trial path)
      (ofTasks ["a".toList, "b".toList, "a".toList]) []
      { waiting := [(0, "a".toList), (1, "b".toList), (2, "a".toList)], running := []
        slots := [none, none, none] } := .refl
  have h₂ := (h₀.snoc (.start (by decide))).snoc (.start (by decide))
  have h₃ := h₂.snoc (.finish [(0, "a".toList)] rfl)
  have h₅ := (h₃.snoc (.start (by decide))).snoc (.finish [(0, "a".toList)] rfl)
  exact h₅.snoc (.finish [] rfl)

/-- Their results come in the order of the paths. -/
theorem execute_collects_outOfOrder :
    ∃ (events : List (Event Trial)) (pool : Pool Text Trial) (trials : List Trial),
      Schedule 2 (fun path trial => trial = Runner.notStarted path .notFound)
        (ofTasks ["a".toList, "b".toList, "a".toList]) events pool ∧
      pool.running.length ≤ 2 ∧ pool.results? = some trials ∧
      trials[1]? = some (Runner.notStarted "b".toList .notFound) := by
  have hschedule := schedule_outOfOrder fun path => Runner.notStarted path .notFound
  obtain ⟨hbound, -, -, -, -, hdone⟩ := (execute_collects blocked
    { tree := .empty, here := [], environment := .empty, processors := 1 }
    ["a".toList, "b".toList, "a".toList]).1 _ _ _ hschedule
  obtain ⟨-, trials, hresults, -, hplaces⟩ := hdone rfl
  obtain ⟨trial, htrial, -, rfl⟩ := hplaces 1 "b".toList rfl
  exact ⟨_, _, trials, hschedule, hbound, hresults, htrial⟩

end Pool
end Run
end TestBench
