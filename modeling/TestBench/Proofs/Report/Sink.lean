/-
# How much a sink takes

Bytes may be handed to a sink in any chunks: it takes them up to the room that is left, as if they came all
at once (`Sink.holds_append`, `Sink.push_push`, `Sink.push_append_of_not_holds`).

| definition | what it is |
| --- | --- |
| `Sink.delivers` | the sink takes all of the bytes, and passes on all that it has taken |
| `Sink.IsPrompt` | the sink takes nothing that it cannot pass on |

A prompt sink delivers what it takes.  A sink with a reserve may take more, and deliver less.
-/

import TestBench.Report.Sink

namespace TestBench
namespace Report
namespace Sink

theorem taken_push_unbounded (bytes : Bytes) : (unbounded.push bytes).taken = bytes := rfl

@[simp] theorem refusal_push (sink : Sink) (bytes : Bytes) : (sink.push bytes).refusal = sink.refusal :=
  rfl

/-- All these bytes are taken, and all that was taken is passed on. -/
def delivers (sink : Sink) (bytes : Bytes) : Bool := sink.holds bytes && (sink.push bytes).isClear

/-- What the sink takes it passes on. -/
def IsPrompt (sink : Sink) : Prop := ∀ bytes, sink.holds bytes = true → (sink.push bytes).isClear = true

section

variable {sink : Sink} {n : Nat}

theorem holds_of_room_none (h : sink.room = none) (bytes : Bytes) : sink.holds bytes = true := by
  rw [holds, h]

theorem holds_of_room_some (h : sink.room = some n) (bytes : Bytes) :
    sink.holds bytes = decide (bytes.length ≤ n) := by
  rw [holds, h]

theorem part_of_room_none (h : sink.room = none) (bytes : Bytes) : sink.part bytes = bytes := by
  rw [part, h]

theorem part_of_room_some (h : sink.room = some n) (bytes : Bytes) :
    sink.part bytes = bytes.take n := by
  rw [part, h]

@[simp] theorem holds_nil (sink : Sink) : sink.holds [] = true := by
  cases hroom : sink.room with
  | none => exact holds_of_room_none hroom []
  | some n => exact holds_of_room_some hroom []

/-- What is taken whole is a part. -/
theorem part_of_holds {bytes : Bytes} (h : sink.holds bytes = true) : sink.part bytes = bytes := by
  cases hroom : sink.room with
  | none => exact part_of_room_none hroom bytes
  | some n =>
    rw [holds_of_room_some hroom, decide_eq_true_eq] at h
    rw [part_of_room_some hroom, List.take_of_length_le h]

@[simp] theorem push_nil (sink : Sink) : sink.push [] = sink := by
  rw [push, part_of_holds (holds_nil sink), List.append_nil]

/-- What was taken needs room. -/
theorem room_push {bytes : Bytes} (h : sink.holds bytes = true) :
    (sink.push bytes).room = sink.room.map (· - bytes.length) := by
  simp only [push, room, part_of_holds h, List.length_append, Option.map_map]
  congr 1
  funext capacity
  simp only [Function.comp_apply]
  omega

/-- Bytes are taken whole iff the first of them are and then the others. -/
theorem holds_append (sink : Sink) (first second : Bytes) :
    sink.holds (first ++ second) = (sink.holds first && (sink.push first).holds second) := by
  cases hroom : sink.room with
  | none =>
    have hfirst := holds_of_room_none hroom first
    have hpush := room_push hfirst
    rw [hroom] at hpush
    rw [holds_of_room_none hroom, hfirst, holds_of_room_none hpush]
    rfl
  | some n =>
    rw [holds_of_room_some hroom, List.length_append]
    cases hfirst : sink.holds first with
    | false =>
      rw [holds_of_room_some hroom, decide_eq_false_iff_not] at hfirst
      rw [Bool.false_and, decide_eq_false_iff_not]
      omega
    | true =>
      have hpush := room_push hfirst
      simp only [hroom, Option.map_some] at hpush
      rw [holds_of_room_some hroom, decide_eq_true_eq] at hfirst
      rw [Bool.true_and, holds_of_room_some hpush, decide_eq_decide]
      omega

/-- Bytes handed over in two parts, of which the first is taken whole. -/
theorem push_push {first : Bytes} (h : sink.holds first = true) (second : Bytes) :
    (sink.push first).push second = sink.push (first ++ second) := by
  have hpart : first ++ (sink.push first).part second = sink.part (first ++ second) := by
    have hpush := room_push h
    cases hroom : sink.room with
    | none =>
      rw [hroom] at hpush
      rw [part_of_room_none hroom, part_of_room_none hpush]
    | some n =>
      rw [hroom] at hpush
      rw [holds_of_room_some hroom, decide_eq_true_eq] at h
      rw [part_of_room_some hroom, part_of_room_some hpush, List.take_append,
        List.take_of_length_le h]
  have htaken : (sink.push first).taken ++ (sink.push first).part second
      = sink.taken ++ sink.part (first ++ second) := by
    rw [← hpart, ← List.append_assoc]
    exact congrArg (sink.taken ++ · ++ (sink.push first).part second) (part_of_holds h)
  exact congrArg (fun taken => { sink with taken }) htaken

/-- Behind bytes that are not taken whole, nothing is. -/
theorem push_append_of_not_holds {first : Bytes} (h : sink.holds first = false) (second : Bytes) :
    sink.push (first ++ second) = sink.push first := by
  cases hroom : sink.room with
  | none =>
    rw [holds_of_room_none hroom] at h
    exact absurd h (by decide)
  | some n =>
    rw [holds_of_room_some hroom, decide_eq_false_iff_not] at h
    rw [push, push, part_of_room_some hroom, part_of_room_some hroom,
      List.take_append_of_le_length (by omega)]

/-! ### What is passed on -/

/-- A sink that passes on all that it has taken has done so before. -/
theorem isClear_of_push {bytes : Bytes} (h : (sink.push bytes).isClear = true) : sink.isClear = true := by
  rw [isClear] at h ⊢
  cases hcapacity : sink.capacity with
  | none => rfl
  | some capacity =>
    have hpush : (sink.push bytes).capacity = some capacity := hcapacity
    rw [hpush] at h
    simp only [push, List.length_append, decide_eq_true_eq] at h ⊢
    omega

theorem holds_of_delivers {bytes : Bytes} (h : sink.delivers bytes = true) : sink.holds bytes = true := by
  rw [delivers, Bool.and_eq_true] at h
  exact h.1

theorem isClear_of_delivers {bytes : Bytes} (h : sink.delivers bytes = true) : (sink.push bytes).isClear = true := by
  rw [delivers, Bool.and_eq_true] at h
  exact h.2

/-- Bytes are delivered iff the first of them are taken and then the others are delivered. -/
theorem delivers_append (sink : Sink) (first second : Bytes) :
    sink.delivers (first ++ second) = (sink.holds first && (sink.push first).delivers second) := by
  rw [delivers, delivers, holds_append, Bool.and_assoc]
  cases hfirst : sink.holds first with
  | false => rfl
  | true => rw [push_push hfirst]

/-- What is delivered is so with each of its beginnings. -/
theorem delivers_of_append {first second : Bytes} (h : sink.delivers (first ++ second) = true) :
    sink.delivers first = true ∧ (sink.push first).delivers second = true := by
  rw [delivers_append, Bool.and_eq_true] at h
  rw [delivers, Bool.and_eq_true]
  exact ⟨⟨h.1, isClear_of_push (isClear_of_delivers h.2)⟩, h.2⟩

theorem IsPrompt.delivers_eq (h : sink.IsPrompt) (bytes : Bytes) : sink.delivers bytes = sink.holds bytes := by
  rw [delivers]
  cases hholds : sink.holds bytes with
  | false => rfl
  | true => exact h bytes hholds

theorem IsPrompt.push (h : sink.IsPrompt) {bytes : Bytes} (hbytes : sink.holds bytes = true) :
    (sink.push bytes).IsPrompt := by
  intro behind hbehind
  rw [push_push hbytes]
  refine h (bytes ++ behind) ?_
  rw [holds_append, hbytes, hbehind]
  rfl

end

theorem isPrompt_unbounded : unbounded.IsPrompt := fun _ _ => rfl

theorem room_bounded (n : Nat) (refusal : Text) : (bounded n refusal).room = some n := rfl

theorem taken_push_bounded (n : Nat) (refusal : Text) (bytes : Bytes) :
    ((bounded n refusal).push bytes).taken = bytes.take n := rfl

theorem isPrompt_bounded (n : Nat) (refusal : Text) : (bounded n refusal).IsPrompt := by
  intro bytes _
  have hcapacity : ((bounded n refusal).push bytes).capacity = some n := rfl
  rw [isClear, hcapacity, taken_push_bounded]
  exact decide_eq_true (List.length_take_le n bytes)

end Sink
end Report
end TestBench
