import FlowCanvas.Event.Dispatcher

/-!
# What processors hear

A lenient dispatcher passes no failure on, so it hands every message to every processor, once
(`Dispatcher.exists_dispatch_eq`). What it has told its processors meanwhile is the same for all of
them: `Dispatcher.Tells d es d'` says that from `d` to `d'` each of them has heard the events `es`,
in that order, whatever the others have made of them.
-/

namespace FlowCanvas

universe u

variable {α : Type u}

/-- The event of a message, unless it is the end of the session. -/
def Message.event? : Message α → Option (Event α)
  | event e => some e
  | shutdown => none

namespace Dispatcher

variable {d d' d'' : Dispatcher α}

/-- The events that the processor with a number has heard, in order. -/
def heard (d : Dispatcher α) (i : Nat) : List (Event α) := (d.received i).filterMap Message.event?

/-- Between two states of a dispatcher every processor has heard some events, and no other. -/
structure Tells (d : Dispatcher α) (es : List (Event α)) (d' : Dispatcher α) : Prop where
  /-- the processors are the same -/
  processors : d'.processors = d.processors
  /-- and so is what becomes of failures -/
  strict : d'.strict = d.strict
  /-- what they have heard -/
  heard : ∀ i < d.processors.length, d'.heard i = d.heard i ++ es

namespace Tells

theorem refl (d : Dispatcher α) : d.Tells [] d :=
  ⟨rfl, rfl, fun i _ => (List.append_nil (d.heard i)).symm⟩

theorem trans {es es' : List (Event α)} (first : d.Tells es d') (second : d'.Tells es' d'') :
    d.Tells (es ++ es') d'' := by
  refine ⟨second.processors.trans first.processors, second.strict.trans first.strict, ?_⟩
  intro i hi
  have hi' : i < d'.processors.length := by rwa [first.processors]
  rw [second.heard i hi', first.heard i hi, List.append_assoc]

end Tells

/-! ### Dispatching -/

/-- The deliveries of one message to processors. -/
def deliveries (m : Message α) (items : List (Processor α × Nat)) : List (Delivery α) :=
  items.map fun x => ⟨x.2, m⟩

/-- A lenient dispatcher makes every delivery that is asked for. -/
theorem exists_each_deliver_eq (m : Message α) (items : List (Processor α × Nat))
    (lenient : d.strict = false) :
    ∃ d', Outcome.each (fun x => deliver m x.2 x.1) items d = .done d' () ∧
      d'.processors = d.processors ∧ d'.strict = d.strict ∧
      d'.log = d.log ++ deliveries m items := by
  induction items generalizing d with
  | nil => exact ⟨d, rfl, rfl, rfl, (List.append_nil d.log).symm⟩
  | cons x rest ih =>
    obtain ⟨d₁, made, processors, strict, log⟩ : ∃ d₁, d.deliver m x.2 x.1 = .done d₁ () ∧
        d₁.processors = d.processors ∧ d₁.strict = d.strict ∧
        d₁.log = d.log ++ [⟨x.2, m⟩] := by
      unfold deliver
      simp only
      split
      · exact ⟨_, rfl, rfl, rfl, rfl⟩
      · -- the failure is noted
        rw [if_neg (Bool.eq_false_iff.mp lenient)]
        exact ⟨_, rfl, rfl, rfl, rfl⟩
    obtain ⟨d₂, rest_made, processors', strict', log'⟩ := ih (strict.trans lenient)
    refine ⟨d₂, ?_, processors'.trans processors, strict'.trans strict, ?_⟩
    · rw [Outcome.each, made]
      exact rest_made
    · rw [log', log, List.append_assoc]
      rfl

/-- Of the deliveries to all processors each of them gets one. -/
theorem filter_deliveries (m : Message α) (ps : List (Processor α)) :
    ∀ {i k : Nat}, i < ps.length →
      ((deliveries m (ps.zipIdx k)).filter fun x => x.receiver == k + i) = [⟨k + i, m⟩] := by
  induction ps with
  | nil => exact fun h => absurd h (Nat.not_lt_zero _)
  | cons p ps ih =>
    intro i k h
    rw [List.zipIdx_cons, deliveries, List.map_cons]
    cases i with
    | zero =>
      -- all the others have a greater number
      have others : (deliveries m (ps.zipIdx (k + 1))).filter (fun x => x.receiver == k + 0) =
          [] := by
        rw [List.filter_eq_nil_iff]
        intro x hx
        obtain ⟨y, hy, rfl⟩ := List.mem_map.mp hx
        have above : k + 1 ≤ y.2 := List.le_snd_of_mem_zipIdx hy
        simp only [beq_iff_eq]
        omega
      rw [List.filter_cons_of_pos (by simp)]
      exact congrArg (List.cons _) others
    | succ i =>
      have rest := ih (i := i) (k := k + 1) (Nat.lt_of_succ_lt_succ h)
      rw [Nat.succ_add_eq_add_succ] at rest
      rw [List.filter_cons_of_neg (by simp)]
      exact rest

/-- **A lenient dispatcher tells everybody**, and fails for nobody. -/
theorem exists_dispatch_eq (lenient : d.strict = false) (m : Message α) :
    ∃ d', d.dispatch m = .done d' () ∧ d.Tells m.event?.toList d' := by
  obtain ⟨d', made, processors, strict, log⟩ :=
    exists_each_deliver_eq m d.processors.zipIdx lenient
  refine ⟨d', made, processors, strict, fun i hi => ?_⟩
  have one := filter_deliveries m d.processors (k := 0) hi
  rw [Nat.zero_add] at one
  have received : d'.received i = d.received i ++ [m] := by
    rw [Dispatcher.received, log, List.filter_append, List.map_append, one]
    rfl
  rw [heard, received, List.filterMap_append]
  cases m <;> rfl

end Dispatcher

end FlowCanvas
