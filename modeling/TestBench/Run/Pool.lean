/-
# A bounded number of tasks at once

Tasks are started in their order, as long as fewer than a given number are running.  They complete in any
order; each result is put into the slot of its task, so that the results come in the order of the tasks.

| field | holds |
| --- | --- |
| `waiting` | the tasks that are not started, with the numbers of their slots |
| `running` | those that are started and have not completed |
| `slots` | the results so far |
-/

namespace TestBench
namespace Run

/-- Tasks on their way. -/
structure Pool (α β : Type) where
  waiting : List (Nat × α)
  running : List (Nat × α)
  slots : List (Option β)

namespace Pool

variable {α β : Type}

/-- All tasks are waiting. -/
def ofTasks (tasks : List α) : Pool α β :=
  { waiting := (List.range tasks.length).zip tasks, running := []
    slots := List.replicate tasks.length none }

/-- How many tasks may run at once if `threads` are asked for. -/
def width (threads : Nat) : Nat := max threads 1

/-- Waiting tasks are started as long as fewer than `width` are running. -/
def refill (width : Nat) (pool : Pool α β) : Pool α β :=
  let room := width - pool.running.length
  { pool with
    running := pool.running ++ pool.waiting.take room
    waiting := pool.waiting.drop room }

/-- One of the running tasks completes.  Every number chooses one. -/
def complete (run : α → β) (choice : Nat) (pool : Pool α β) : Pool α β :=
  let place := choice % pool.running.length
  match pool.running[place]? with
  | some (slot, task) =>
    { pool with
      running := pool.running.eraseIdx place
      slots := pool.slots.set slot (some (run task)) }
  | none => pool

/-- The pool after tasks completed in the order of the choices. -/
def advance (width : Nat) (run : α → β) : List Nat → Pool α β → Pool α β
  | [], pool => pool
  | choice :: choices, pool => advance width run choices ((pool.refill width).complete run choice)

/-- The results, if every slot is filled. -/
def results? (pool : Pool α β) : Option (List β) := pool.slots.mapM id

/-- The results of all tasks, of which `threads` at once are run and complete in the order of the
choices. -/
def runAll (threads : Nat) (run : α → β) (choices : Nat → Nat) (tasks : List α) : Option (List β) :=
  ((ofTasks tasks).advance (width threads) run ((List.range tasks.length).map choices)).results?

/-- The times at which the threads are free, after the one that is free first was busy for `time`. -/
def occupy (time : Nat) : List Nat → List Nat
  | [] => []
  | first :: rest =>
    let soonest := rest.foldl min first
    let free := first :: rest
    (soonest + time) :: free.erase soonest

/-- How long it takes to run tasks of these lengths with `threads` at once. -/
def makespan (threads : Nat) (times : List Nat) : Nat :=
  (times.foldl (fun free time => occupy time free)
    (List.replicate (min (width threads) times.length) 0)).foldl max 0

end Pool
end Run
end TestBench
