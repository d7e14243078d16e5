/-
# What a writing leaves in a sink

A writing is known by the pieces that it plays: on every sink its bytes are those of the pieces, as far as the
sink takes them and as far as the program gets.

| the sink | the pieces | what the writing comes to |
| --- | --- | --- |
| does not take all that is written | | the refusal of the sink |
| takes it | one is out of range | a crash, in front of that piece |
| takes it | all are in range | its value |

`Plays` says so of a writing.  Each single write plays its piece (`plays_put`), and what is put together from
writings plays their pieces one behind the other (`Plays.bind`, `plays_forM`): at the first write that fails,
and in front of the first piece that is out of range, nothing more is written.
-/

import TestBench.Proofs.Report.Sink
import TestBench.Report.Writing
import Mathlib.Data.List.TakeWhile

namespace TestBench
namespace Report

/-! ### Pieces in range -/

/-- All pieces can be written. -/
def inRange (pieces : List Piece) : Bool := pieces.all Piece.isInRange

/-- The bytes of pieces, up to the first that cannot be written. -/
def written (color : Bool) (pieces : List Piece) : Bytes :=
  render color (pieces.takeWhile Piece.isInRange)

@[simp] theorem inRange_nil : inRange [] = true := rfl

@[simp] theorem inRange_cons (piece : Piece) (pieces : List Piece) :
    inRange (piece :: pieces) = (piece.isInRange && inRange pieces) := List.all_cons

@[simp] theorem inRange_append (p q : List Piece) : inRange (p ++ q) = (inRange p && inRange q) :=
  List.all_append

theorem inRange_flatMap {α : Type} {items : List α} {pieces : α → List Piece} :
    inRange (items.flatMap pieces) = items.all fun item => inRange (pieces item) := by
  rw [inRange, List.all_flatMap]
  rfl

theorem written_of_inRange {pieces : List Piece} (h : inRange pieces = true) (color : Bool) :
    written color pieces = render color pieces := by
  rw [inRange, List.all_eq_true] at h
  rw [written, List.takeWhile_eq_self_iff.2 h]

theorem written_cons (color : Bool) (piece : Piece) (pieces : List Piece) :
    written color (piece :: pieces) = if piece.isInRange then piece.render color ++ written color pieces else [] := by
  rw [written, List.takeWhile_cons]
  split
  · rfl
  · rfl

/-- Behind a piece that cannot be written nothing is written. -/
theorem written_append (color : Bool) (p q : List Piece) :
    written color (p ++ q) = if inRange p then render color p ++ written color q else written color p := by
  induction p with
  | nil => rfl
  | cons piece p ih =>
    rw [List.cons_append, written_cons, written_cons, ih, inRange_cons]
    cases piece.isInRange with
    | false => rfl
    | true =>
      rw [if_pos rfl, if_pos rfl, Bool.true_and]
      split
      · exact (List.append_assoc ..).symm
      · rfl

/-- Nothing is written from the first piece on that cannot be. -/
theorem written_append_cons {p : List Piece} {piece : Piece} (hp : inRange p = true) (hpiece : ¬piece.isInRange = true)
    (color : Bool) (q : List Piece) : written color (p ++ piece :: q) = render color p := by
  rw [written_append, if_pos hp, written_cons, if_neg hpiece, List.append_nil]

theorem render_flatMap {α : Type} (color : Bool) (items : List α) (pieces : α → List Piece) :
    render color (items.flatMap pieces) = (items.map fun item => render color (pieces item)).flatten := by
  rw [render, List.flatMap_assoc, ← List.flatMap_def]
  rfl

/-- There is a first item that cannot be written, if not all can. -/
theorem exists_not_inRange {α : Type} {items : List α} {pieces : α → List Piece}
    (h : ¬∀ item ∈ items, inRange (pieces item) = true) :
    ∃ before item behind, items = before ++ item :: behind ∧ (∀ other ∈ before, inRange (pieces other) = true) ∧
      ¬inRange (pieces item) = true := by
  have hsome : (items.find? fun item => !inRange (pieces item)).isSome = true := by
    rw [List.find?_isSome]
    obtain ⟨item, hnot⟩ := Classical.not_forall.1 h
    obtain ⟨hitem, hnot⟩ := Classical.not_imp.1 hnot
    exact ⟨item, hitem, by rwa [Bool.not_eq_true', Bool.eq_false_iff]⟩
  obtain ⟨item, hfirst⟩ := Option.isSome_iff_exists.1 hsome
  obtain ⟨hitem, before, behind, hitems, hbefore⟩ := List.find?_eq_some_iff_append.1 hfirst
  rw [Bool.not_eq_true', Bool.eq_false_iff] at hitem
  refine ⟨before, item, behind, hitems, fun other hother => ?_, hitem⟩
  have hnot := hbefore other hother
  rwa [Bool.not_not] at hnot

/-- The items before the first that cannot be written are written, and of it what can be. -/
theorem written_flatMap_append {α : Type} {before behind : List α} {item : α} {pieces : α → List Piece}
    (hbefore : ∀ other ∈ before, inRange (pieces other) = true) (hitem : ¬inRange (pieces item) = true)
    (color : Bool) :
    written color ((before ++ item :: behind).flatMap pieces)
      = (before.map fun other => render color (pieces other)).flatten ++ written color (pieces item) := by
  have hrange : inRange (before.flatMap pieces) = true := by
    rw [inRange_flatMap, List.all_eq_true]
    exact hbefore
  rw [List.flatMap_append, written_append, if_pos hrange, List.flatMap_cons, written_append, if_neg hitem,
    render_flatMap]

/-- What is written is a beginning of the bytes of all pieces. -/
theorem written_prefix_render (color : Bool) (pieces : List Piece) :
    written color pieces <+: render color pieces := by
  have hwhole := congrArg (render color) (List.takeWhile_append_dropWhile (p := Piece.isInRange) (l := pieces))
  rw [render_append] at hwhole
  exact ⟨_, hwhole⟩

/-- A piece that cannot be written has bytes. -/
theorem render_ne_nil {piece : Piece} (h : piece.isInRange = false) (color : Bool) : piece.render color ≠ [] := by
  cases piece with
  | text | bytes | styled => cases h
  | padded style t count =>
    have hcount : count ≠ 0 := by
      rintro rfl
      cases h
    have hspaces : ∀ front : Text, Utf8.encode (front ++ List.replicate count ' ') ≠ [] := by
      intro front
      rw [Utf8.encode_append]
      refine List.append_ne_nil_of_right_ne_nil _ ?_
      rw [← Nat.succ_pred hcount]
      exact List.cons_ne_nil _ _
    cases style with
    | none => exact hspaces t
    | some style => exact hspaces (style.paint color t)

/-- Where not all pieces can be written, less is written than there is. -/
theorem length_written_lt {pieces : List Piece} (h : inRange pieces = false) (color : Bool) :
    (written color pieces).length < (render color pieces).length := by
  induction pieces with
  | nil => cases h
  | cons piece pieces ih =>
    rw [written_cons, render, List.flatMap_cons, List.length_append]
    rw [inRange_cons] at h
    cases hpiece : piece.isInRange with
    | false =>
      rw [if_neg Bool.false_ne_true]
      exact Nat.add_pos_left (List.length_pos_iff.2 (render_ne_nil hpiece color)) _
    | true =>
      rw [hpiece, Bool.true_and] at h
      rw [if_pos rfl, List.length_append]
      exact Nat.add_lt_add_left (ih h) _

/-! ### Writings and their pieces -/

/-- What comes of writing these bytes on a sink, if the program then gives back a value or panics. -/
def Sink.ending {α : Type} (sink : Sink) (bytes : Bytes) (finishes : Bool) (value : α) : Except Halt α :=
  if sink.holds bytes then if finishes then .ok value else .error .crashed
  else .error (.refused { cause := sink.refusal })

/-- On every sink the writing writes these pieces and comes to the value, as far as they can be written. -/
def Plays {α : Type} (writing : Writing α) (color : Bool) (pieces : List Piece) (value : α) : Prop :=
  ∀ sink, writing sink = (sink.push (written color pieces),
    sink.ending (written color pieces) (inRange pieces) value)

theorem bind_apply {α β : Type} (writing : Writing α) (next : α → Writing β) (sink : Sink) :
    (writing >>= next) sink = match writing sink with
      | (sink, .ok a) => next a sink
      | (sink, .error halt) => (sink, .error halt) := rfl

theorem plays_pure {α : Type} (color : Bool) (value : α) : Plays (pure value) color [] value := by
  intro sink
  have hnothing : written color [] = [] := rfl
  rw [hnothing, Sink.push_nil, Sink.ending, Sink.holds_nil]
  rfl

/-- A single write plays its piece. -/
theorem plays_put (reporter : Reporter) (piece : Piece) : Plays (reporter.put piece) reporter.color [piece] () := by
  intro sink
  rw [Reporter.put, written, inRange, List.takeWhile_cons, List.all_cons, List.all_nil, Bool.and_true]
  cases piece.isInRange with
  | false =>
    have hnothing : render reporter.color [] = [] := rfl
    rw [if_neg Bool.false_ne_true, if_neg Bool.false_ne_true, hnothing, Sink.push_nil, Sink.ending, Sink.holds_nil]
    rfl
  | true =>
    have hbytes : render reporter.color [piece] = piece.render reporter.color := List.append_nil _
    rw [if_pos rfl, if_pos rfl, List.takeWhile_nil, hbytes]
    rfl

/-- **One writing behind another** plays the pieces of both. -/
theorem Plays.bind {α β : Type} {writing : Writing α} {next : α → Writing β} {color : Bool} {p q : List Piece}
    {a : α} {b : β} (h : Plays writing color p a) (hnext : Plays (next a) color q b) :
    Plays (writing >>= next) color (p ++ q) b := by
  intro sink
  rw [bind_apply, h sink, written_append, inRange_append]
  cases hrange : inRange p with
  | false =>
    rw [if_neg Bool.false_ne_true, Bool.false_and, Sink.ending, Sink.ending]
    cases sink.holds (written color p) with
    | false => rfl
    | true => rfl
  | true =>
    rw [if_pos rfl, Bool.true_and, written_of_inRange hrange, Sink.ending, Sink.ending, Sink.holds_append]
    cases hholds : sink.holds (render color p) with
    | false =>
      rw [Sink.push_append_of_not_holds hholds]
      rfl
    | true =>
      rw [← Sink.push_push hholds]
      exact hnext (sink.push (render color p))

/-- Writings of items, one behind the other. -/
theorem plays_forM {α : Type} {items : List α} {writing : α → Writing Unit} {color : Bool}
    {pieces : α → List Piece} (h : ∀ item ∈ items, Plays (writing item) color (pieces item) ()) :
    Plays (items.forM writing) color (items.flatMap pieces) () := by
  induction items with
  | nil => exact plays_pure color ()
  | cons item items ih =>
    have hfirst := h item List.mem_cons_self
    have hrest := ih fun item hitem => h item (List.mem_cons_of_mem _ hitem)
    rw [List.flatMap_cons]
    exact hfirst.bind hrest

theorem plays_write (reporter : Reporter) (pieces : List Piece) :
    Plays (reporter.write pieces) reporter.color pieces () := by
  have hplays := plays_forM fun piece (_ : piece ∈ pieces) => plays_put reporter piece
  rw [List.flatMap_singleton'] at hplays
  exact hplays

section

variable {α : Type} {writing : Writing α} {color : Bool} {pieces : List Piece} {value : α}

/-- A writing whose pieces are all in range does not crash. -/
theorem Plays.of_inRange (h : Plays writing color pieces value) (hrange : inRange pieces = true) (sink : Sink) :
    writing sink = (sink.push (render color pieces),
      if sink.holds (render color pieces) then .ok value else .error (.refused { cause := sink.refusal })) := by
  rw [h sink, hrange, written_of_inRange hrange]
  rfl

end

/-! ### Writings that end with the sink passing on what it took -/

/-- What comes of writing these bytes on a sink that is then asked to pass on all it took. -/
def Sink.conclusion {α : Type} (sink : Sink) (bytes : Bytes) (finishes : Bool) (value : α) : Except Halt α :=
  if sink.holds bytes then
    if finishes then
      if (sink.push bytes).isClear then .ok value else .error (.refused { cause := sink.refusal })
    else .error .crashed
  else .error (.refused { cause := sink.refusal })

section

variable {α : Type} {sink : Sink} {bytes : Bytes} {finishes : Bool} {value : α}

end

/-- On every sink the writing writes these pieces, has them passed on and comes to the value, as far as they
can be written. -/
def Concludes {α : Type} (writing : Writing α) (color : Bool) (pieces : List Piece) (value : α) : Prop :=
  ∀ sink, writing sink = (sink.push (written color pieces),
    sink.conclusion (written color pieces) (inRange pieces) value)

theorem concludes_flush (color : Bool) : Concludes Writing.flush color [] () := by
  intro sink
  have hnothing : written color [] = [] := rfl
  rw [hnothing, Sink.conclusion, Sink.holds_nil, Sink.push_nil]
  rfl

/-- What is given back in the end does not matter to the sink. -/
theorem Concludes.bind_pure {α β : Type} {writing : Writing α} {color : Bool} {pieces : List Piece} {a : α}
    (h : Concludes writing color pieces a) (b : β) :
    Concludes (writing >>= fun _ => pure b) color pieces b := by
  intro sink
  rw [bind_apply, h sink, Sink.conclusion, Sink.conclusion]
  cases sink.holds (written color pieces) with
  | false => rfl
  | true =>
    cases inRange pieces with
    | false => rfl
    | true => cases (sink.push (written color pieces)).isClear <;> rfl

/-- A writing in front of one that ends so. -/
theorem Plays.bind_concludes {α β : Type} {writing : Writing α} {next : α → Writing β} {color : Bool}
    {p q : List Piece} {a : α} {b : β} (h : Plays writing color p a) (hnext : Concludes (next a) color q b) :
    Concludes (writing >>= next) color (p ++ q) b := by
  intro sink
  rw [bind_apply, h sink, written_append, inRange_append]
  cases hrange : inRange p with
  | false =>
    rw [if_neg Bool.false_ne_true, Bool.false_and, Sink.ending, Sink.conclusion]
    cases sink.holds (written color p) with
    | false => rfl
    | true => rfl
  | true =>
    rw [if_pos rfl, Bool.true_and, written_of_inRange hrange, Sink.ending, Sink.conclusion, Sink.holds_append]
    cases hholds : sink.holds (render color p) with
    | false =>
      rw [Sink.push_append_of_not_holds hholds]
      rfl
    | true =>
      rw [← Sink.push_push hholds]
      exact hnext (sink.push (render color p))

/-- A prompt sink has already said whether it passes on what it took. -/
theorem Sink.IsPrompt.conclusion_eq {α : Type} {sink : Sink} (h : sink.IsPrompt) (bytes : Bytes)
    (finishes : Bool) (value : α) : sink.conclusion bytes finishes value = sink.ending bytes finishes value := by
  rw [Sink.conclusion, Sink.ending]
  cases hholds : sink.holds bytes with
  | false => rfl
  | true => simp only [h bytes hholds, if_true]

/-! ### Writings on prompt sinks -/

/-- On every prompt sink the writing writes these pieces and comes to the value, as far as they can be written. -/
def PlaysPromptly {α : Type} (writing : Writing α) (color : Bool) (pieces : List Piece) (value : α) : Prop :=
  ∀ sink : Sink, sink.IsPrompt → writing sink = (sink.push (written color pieces),
    sink.ending (written color pieces) (inRange pieces) value)

section

variable {α : Type} {writing : Writing α} {color : Bool} {pieces : List Piece} {value : α}

theorem Plays.promptly (h : Plays writing color pieces value) : PlaysPromptly writing color pieces value :=
  fun sink _ => h sink

theorem Concludes.promptly (h : Concludes writing color pieces value) : PlaysPromptly writing color pieces value := by
  intro sink hprompt
  rw [h sink, hprompt.conclusion_eq]

/-- Without a bound all is written that can be. -/
theorem PlaysPromptly.unbounded (h : PlaysPromptly writing color pieces value) :
    (writing .unbounded).1.taken = written color pieces ∧
      (writing .unbounded).2 = if inRange pieces then .ok value else .error .crashed := by
  rw [h .unbounded Sink.isPrompt_unbounded]
  exact ⟨rfl, rfl⟩

end

/-! ### Writings that pass things on in between -/

/-- What is left of a sink, and what comes of it, is that of writing these pieces, where the sink may be asked in
between whether it passes on what it took.  A sink that is not prompt may then end the writing early. -/
structure Yields {α : Type} (sink : Sink) (color : Bool) (pieces : List Piece) (value : α)
    (final : Sink × Except Halt α) : Prop where
  delivered : sink.delivers (written color pieces) = true →
    final = (sink.push (written color pieces), if inRange pieces then .ok value else .error .crashed)
  undelivered : sink.delivers (written color pieces) = false →
    final.2 = .error (.refused { cause := sink.refusal }) ∨
      sink.holds (written color pieces) = true ∧ inRange pieces = false ∧ final.2 = .error .crashed
  prompt : sink.IsPrompt → final.1 = sink.push (written color pieces)

section

variable {α β : Type} {sink : Sink} {color : Bool} {pieces : List Piece} {value : α} {final : Sink × Except Halt α}

/-- A writing that only ends with passing everything on. -/
theorem Concludes.yields {writing : Writing α} (h : Concludes writing color pieces value) (sink : Sink) :
    Yields sink color pieces value (writing sink) where
  delivered hdelivers := by
    rw [Sink.delivers, Bool.and_eq_true] at hdelivers
    rw [h sink, Sink.conclusion, if_pos hdelivers.1, if_pos hdelivers.2]
  undelivered hnot := by
    rw [Sink.delivers] at hnot
    rw [h sink, Sink.conclusion]
    cases hholds : sink.holds (written color pieces) with
    | false => exact .inl rfl
    | true =>
      rw [hholds, Bool.true_and] at hnot
      cases hrange : inRange pieces with
      | false => exact .inr ⟨rfl, rfl, rfl⟩
      | true =>
        rw [hnot]
        exact .inl rfl
  prompt _ := by rw [h sink]

/-- Nothing is written on a sink that passes on what it took. -/
theorem yields_nil (h : sink.isClear = true) (color : Bool) (value : α) :
    Yields sink color [] value (sink, .ok value) := by
  have hnothing : written color [] = [] := rfl
  have hdelivers : sink.delivers (written color []) = true := by
    rw [hnothing, Sink.delivers, Sink.holds_nil, Sink.push_nil, h]
    rfl
  refine ⟨fun _ => ?_, fun hnot => ?_, fun _ => ?_⟩
  · rw [hnothing, Sink.push_nil]
    rfl
  · exact absurd (hdelivers.symm.trans hnot) (by decide)
  · rw [hnothing, Sink.push_nil]

theorem Yields.map (h : Yields sink color pieces value final) (f : α → β) :
    Yields sink color pieces (f value) (final.1, final.2.map f) := by
  refine ⟨fun hdelivers => ?_, fun hnot => ?_, h.prompt⟩
  · rw [h.delivered hdelivers]
    split
    · rfl
    · rfl
  · rcases h.undelivered hnot with hrefused | ⟨hholds, hrange, hcrashed⟩
    · rw [hrefused]
      exact .inl rfl
    · rw [hcrashed]
      exact .inr ⟨hholds, hrange, rfl⟩

/-- On a prompt sink it does not matter when things are passed on. -/
theorem Yields.eq_of_isPrompt (h : Yields sink color pieces value final) (hprompt : sink.IsPrompt) :
    final = (sink.push (written color pieces), sink.ending (written color pieces) (inRange pieces) value) := by
  rw [Sink.ending, ← hprompt.delivers_eq]
  cases hdelivers : sink.delivers (written color pieces) with
  | true => exact h.delivered hdelivers
  | false =>
    refine Prod.ext (h.prompt hprompt) ?_
    rcases h.undelivered hdelivers with hrefused | ⟨hholds, -⟩
    · exact hrefused
    · rw [← hprompt.delivers_eq, hdelivers] at hholds
      exact absurd hholds Bool.false_ne_true

/-- Nothing is written behind a writing that crashes or is refused. -/
theorem Yields.append_of_not_inRange {p : List Piece} {a : α} {halt : Halt} {final : Sink × Except Halt α}
    (h : Yields sink color p a final) (hrange : inRange p = false) (hhalt : final.2 = .error halt)
    (q : List Piece) (b : β) : Yields sink color (p ++ q) b (final.1, .error halt) := by
  have hbytes : written color (p ++ q) = written color p := by
    rw [written_append, hrange]
    rfl
  have hwhole : inRange (p ++ q) = false := by rw [inRange_append, hrange, Bool.false_and]
  refine ⟨fun hdelivers => ?_, fun hnot => ?_, fun hprompt => ?_⟩
  · rw [hbytes] at hdelivers ⊢
    have hfinal := h.delivered hdelivers
    rw [hrange] at hfinal
    rw [hfinal] at hhalt ⊢
    rw [hwhole, ← Except.error.inj hhalt]
    rfl
  · rw [hbytes] at hnot ⊢
    rcases h.undelivered hnot with hrefused | ⟨hholds, -, hcrashed⟩
    · exact .inl (congrArg Except.error (Except.error.inj (hhalt.symm.trans hrefused)))
    · exact .inr ⟨hholds, hwhole, congrArg Except.error (Except.error.inj (hhalt.symm.trans hcrashed))⟩
  · rw [hbytes]
    exact h.prompt hprompt

/-- **One writing behind another**: what comes of both is known if what is written second is known where the first
came to its end, and nothing is written where it did not. -/
theorem Yields.bind {p q : List Piece} {a : α} {b : β} {final : Sink × Except Halt α} {final' : Sink × Except Halt β}
    (h : Yields sink color p a final)
    (hnext : sink.delivers (written color p) = true → final = (sink.push (written color p), .ok a) →
      Yields (sink.push (written color p)) color q b final')
    (hstop : ∀ halt, final.2 = .error halt → final' = (final.1, .error halt)) :
    Yields sink color (p ++ q) b final' := by
  cases hrange : inRange p with
  | false =>
    have hhalt : ∃ halt, final.2 = .error halt := by
      cases hdelivers : sink.delivers (written color p) with
      | true => exact ⟨.crashed, by rw [h.delivered hdelivers, hrange]; rfl⟩
      | false =>
        rcases h.undelivered hdelivers with hrefused | ⟨-, -, hcrashed⟩
        · exact ⟨_, hrefused⟩
        · exact ⟨_, hcrashed⟩
    obtain ⟨halt, hhalt⟩ := hhalt
    rw [hstop halt hhalt]
    exact h.append_of_not_inRange hrange hhalt q b
  | true =>
    have hbytes : written color (p ++ q) = written color p ++ written color q := by
      rw [written_append, hrange, written_of_inRange hrange]
      rfl
    have hwhole : inRange (p ++ q) = inRange q := by rw [inRange_append, hrange, Bool.true_and]
    cases hdelivers : sink.delivers (written color p) with
    | true =>
      have hholds := Sink.holds_of_delivers hdelivers
      have hfinal := h.delivered hdelivers
      rw [hrange] at hfinal
      have hbehind := hnext hdelivers hfinal
      refine ⟨fun hboth => ?_, fun hnot => ?_, fun hprompt => ?_⟩
      · rw [hbytes] at hboth
        rw [hbehind.delivered (Sink.delivers_of_append hboth).2, hbytes, hwhole, Sink.push_push hholds]
      · rw [hbytes, Sink.delivers_append, hholds, Bool.true_and] at hnot
        rw [hbytes, hwhole, Sink.holds_append, hholds, Bool.true_and]
        exact hbehind.undelivered hnot
      · rw [hbytes, ← Sink.push_push hholds]
        exact hbehind.prompt (hprompt.push hholds)
    | false =>
      have hrefused : final.2 = .error (.refused { cause := sink.refusal }) := by
        rcases h.undelivered hdelivers with hrefused | ⟨-, hnot, -⟩
        · exact hrefused
        · exact absurd (hrange.symm.trans hnot) (by decide)
      rw [hstop _ hrefused]
      refine ⟨fun hboth => ?_, fun _ => .inl rfl, fun hprompt => ?_⟩
      · rw [hbytes] at hboth
        exact absurd (hdelivers.symm.trans (Sink.delivers_of_append hboth).1) (by decide)
      · rw [hbytes, Sink.push_append_of_not_holds (hprompt.delivers_eq _ ▸ hdelivers)]
        exact h.prompt hprompt

end

end Report
end TestBench
