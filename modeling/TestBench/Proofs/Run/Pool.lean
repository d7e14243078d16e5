/-
# Tasks come to their places

Whatever task completes first, the results come in the order of the tasks.

| definition | what it is |
| --- | --- |
| `Pool.pending` | the tasks that have not completed: those that are running, then those that wait |
| `Pool.Tracks` | the slot of a pending task is empty, every other one holds the result of its task |

A refill moves tasks within `pending`, and a completion takes one away and fills its slot, so that
`Tracks` is kept by every step (`Tracks.advance`).  After as many completions as there are tasks nothing
is pending, and the slots hold all results: `runAll_eq`.
-/

import TestBench.Run.Pool
import Mathlib.Data.List.Perm.Basic

namespace TestBench
namespace Run
namespace Pool

variable {α β : Type}

/-- The tasks that have not completed, with the numbers of their slots. -/
def pending (pool : Pool α β) : List (Nat × α) := pool.running ++ pool.waiting

/-- The slots of pending tasks are empty, and every other slot holds the result of its task. -/
structure Tracks (run : α → β) (tasks : List α) (pool : Pool α β) : Prop where
  nodup : (pool.pending.map Prod.fst).Nodup
  task : ∀ entry ∈ pool.pending, tasks[entry.1]? = some entry.2
  slots : pool.slots = tasks.mapIdx fun slot task =>
    if slot ∈ pool.pending.map Prod.fst then none else some (run task)

theorem map_fst_range_zip (tasks : List α) : ((List.range tasks.length).zip tasks).map Prod.fst
    = List.range tasks.length :=
  List.map_fst_zip (by simp)

/-- At the start all tasks are pending. -/
theorem tracks_ofTasks (run : α → β) (tasks : List α) :
    Tracks run tasks (ofTasks tasks : Pool α β) := by
  have hpending : (ofTasks tasks : Pool α β).pending = (List.range tasks.length).zip tasks := rfl
  refine ⟨?_, ?_, ?_⟩
  · rw [hpending, map_fst_range_zip]
    exact List.nodup_range
  · intro entry hentry
    rw [hpending] at hentry
    obtain ⟨i, hi, rfl⟩ := List.mem_iff_getElem.1 hentry
    simp
  · rw [hpending, map_fst_range_zip]
    apply List.ext_getElem
    · simp [ofTasks]
    · intro i hi₁ hi₂
      have hi : i < tasks.length := by simpa [ofTasks] using hi₁
      simp [ofTasks, hi]

/-- A refill only moves tasks. -/
theorem pending_refill (width : Nat) (pool : Pool α β) : (pool.refill width).pending = pool.pending := by
  rw [pending, refill, pending, List.append_assoc, List.take_append_drop]

theorem Tracks.refill {run : α → β} {tasks : List α} {pool : Pool α β} (h : Tracks run tasks pool)
    (width : Nat) : Tracks run tasks (pool.refill width) := by
  refine ⟨?_, ?_, ?_⟩
  · rw [pending_refill]
    exact h.nodup
  · rw [pending_refill]
    exact h.task
  · rw [pending_refill]
    exact h.slots

/-- Behind a refill some task is running, unless none is pending. -/
theorem running_refill_ne_nil {width : Nat} (hwidth : 0 < width) {pool : Pool α β}
    (h : pool.pending ≠ []) : (pool.refill width).running ≠ [] := by
  intro hnil
  rw [refill, List.append_eq_nil_iff, List.take_eq_nil_iff] at hnil
  obtain ⟨hrunning, hroom | hwaiting⟩ := hnil
  · rw [hrunning, List.length_nil] at hroom
    omega
  · exact h (by rw [pending, hrunning, hwaiting, List.append_nil])

/-- **A completion** takes one task from the pending ones and fills its slot. -/
theorem complete_eq (run : α → β) (choice : Nat) {pool : Pool α β} (h : pool.running ≠ []) :
    ∃ slot task, pool.pending.Perm ((slot, task) :: (pool.complete run choice).pending) ∧
      (pool.complete run choice).slots = pool.slots.set slot (some (run task)) := by
  have hplace : choice % pool.running.length < pool.running.length :=
    Nat.mod_lt _ (List.length_pos_iff.2 h)
  obtain ⟨⟨slot, task⟩, hentry⟩ : ∃ entry, pool.running[choice % pool.running.length] = entry :=
    ⟨_, rfl⟩
  have hget : pool.running[choice % pool.running.length]? = some (slot, task) := by
    rw [List.getElem?_eq_getElem hplace, hentry]
  have hcomplete : pool.complete run choice =
      { pool with
        running := pool.running.eraseIdx (choice % pool.running.length)
        slots := pool.slots.set slot (some (run task)) } := by
    simp only [complete, hget]
  refine ⟨slot, task, ?_, by rw [hcomplete]⟩
  rw [hcomplete, pending, pending]
  have hperm := List.getElem_cons_eraseIdx_perm hplace
  rw [hentry] at hperm
  exact (hperm.symm.append_right _)

theorem Tracks.complete {run : α → β} {tasks : List α} {pool : Pool α β} (h : Tracks run tasks pool)
    (choice : Nat) (hrunning : pool.running ≠ []) : Tracks run tasks (pool.complete run choice) := by
  obtain ⟨slot, task, hperm, hslots⟩ := complete_eq run choice hrunning
  have hnodup : (slot :: (pool.complete run choice).pending.map Prod.fst).Nodup :=
    (hperm.map Prod.fst).nodup_iff.1 h.nodup
  have htask : tasks[slot]? = some task :=
    h.task (slot, task) (hperm.mem_iff.2 (List.mem_cons_self ..))
  have hmem (i : Nat) : i ∈ pool.pending.map Prod.fst
      ↔ i = slot ∨ i ∈ (pool.complete run choice).pending.map Prod.fst := by
    rw [(hperm.map Prod.fst).mem_iff, List.map_cons, List.mem_cons]
  refine ⟨(List.nodup_cons.1 hnodup).2, fun entry hentry => ?_, ?_⟩
  · exact h.task entry (hperm.mem_iff.2 (List.mem_cons_of_mem _ hentry))
  · rw [hslots, h.slots]
    apply List.ext_getElem?
    intro i
    rw [List.getElem?_set, List.getElem?_mapIdx, List.getElem?_mapIdx]
    by_cases hi : slot = i
    · subst hi
      have hlt : slot < tasks.length := (List.getElem?_eq_some_iff.1 htask).1
      rw [if_pos rfl, List.length_mapIdx, if_pos hlt, htask, Option.map_some,
        if_neg (List.nodup_cons.1 hnodup).1]
    · have hsame : (i ∈ pool.pending.map Prod.fst)
          = (i ∈ (pool.complete run choice).pending.map Prod.fst) := by
        rw [hmem, eq_iff_iff, or_iff_right (Ne.symm hi)]
      rw [if_neg hi]
      simp only [hsame]

/-- After completions as many as there are pending tasks nothing is pending. -/
theorem Tracks.advance {run : α → β} {tasks : List α} {width : Nat} (hwidth : 0 < width)
    (choices : List Nat) {pool : Pool α β} (h : Tracks run tasks pool)
    (hlen : choices.length = pool.pending.length) :
    Tracks run tasks (pool.advance width run choices) ∧
      (pool.advance width run choices).pending = [] := by
  induction choices generalizing pool with
  | nil => exact ⟨h, List.length_eq_zero_iff.1 hlen.symm⟩
  | cons choice choices ih =>
    have hpending : pool.pending ≠ [] := by
      rw [← List.length_pos_iff, ← hlen, List.length_cons]
      exact Nat.succ_pos _
    have hrunning := running_refill_ne_nil hwidth hpending
    obtain ⟨slot, task, hperm, -⟩ := complete_eq run choice hrunning
    have hnext := hperm.length_eq
    rw [pending_refill, List.length_cons, ← hlen, List.length_cons] at hnext
    exact ih ((h.refill width).complete choice hrunning) (by omega)

/-- **The results come in the order of the tasks,** whatever the order of completion. -/
theorem runAll_eq (threads : Nat) (run : α → β) (choices : Nat → Nat) (tasks : List α) :
    runAll threads run choices tasks = some (tasks.map run) := by
  have hwidth : 0 < width threads := by
    rw [width]
    omega
  have hlen : ((List.range tasks.length).map choices).length
      = (ofTasks tasks : Pool α β).pending.length := by
    simp [ofTasks, pending]
  obtain ⟨htracks, hdone⟩ := (tracks_ofTasks run tasks).advance hwidth _ hlen
  have hslots := htracks.slots
  simp only [hdone, List.map_nil, List.not_mem_nil, if_false] at hslots
  have hfilled : (tasks.mapIdx fun _ task => some (run task)) = tasks.map fun task => some (run task) :=
    List.ext_getElem? fun i => by rw [List.getElem?_mapIdx, List.getElem?_map]
  rw [runAll, results?, hslots, hfilled, List.mapM_map]
  exact List.mapM_pure

end Pool
end Run
end TestBench
