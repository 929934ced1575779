import FlowCanvas.Event.Dispatcher
import FlowCanvas.Event.Processor
import FlowCanvas.Proofs.Outcome

/-!
# Processors that do not look at ids

What a processor is told holds ids in two places, in the graph and in the name of what has been
edited. A processor is blind to them if it judges by the rest, the kind of each message with the
action and the code in it (`Processor.IsBlind`). Whether the failure of a processor that looks at
ids is noted is of no matter; where failures are passed on, all processors have to be blind. Then
two dispatchers that have told the same but for ids tell alike what is the same but for ids
(`Dispatcher.Mirrors.dispatch`).
-/

namespace FlowCanvas

universe u

/-- What a message tells beside ids. -/
inductive Heading where
  /-- an edit has been made -/
  | changed (code action : String)
  /-- the graph has been reset -/
  | reset (code : String)
  /-- a graph has this code -/
  | bare (code : String)
  /-- the session ends -/
  | shutdown
  deriving DecidableEq, Repr

variable {α : Type u}

/-- The heading of a message. -/
def Message.heading : Message α → Heading
  | .event (.changed _ code action _) => .changed code action
  | .event (.reset _ code) => .reset code
  | .event (.bare _ code) => .bare code
  | .shutdown => .shutdown

/-- A processor that judges by headings. -/
def Processor.IsBlind (p : Processor α) : Prop :=
  ∀ ms ms' : List (Message α), ms.map Message.heading = ms'.map Message.heading →
    p.fault? ms = p.fault? ms'

namespace Dispatcher

/-- Failures are not passed on, or no processor looks at ids. -/
def IsBlind (d : Dispatcher α) : Prop := d.strict = true → ∀ p ∈ d.processors, p.IsBlind

/-- What has been delivered, but for ids. -/
def headings (d : Dispatcher α) : List (Nat × Heading) :=
  d.log.map fun x => (x.receiver, x.message.heading)

/-- Two dispatchers with the same processors, which have told the same but for ids, where that
matters. -/
structure Mirrors (d d' : Dispatcher α) : Prop where
  /-- the processors -/
  processors : d'.processors = d.processors
  /-- whether failures are passed on -/
  strict : d'.strict = d.strict
  /-- no processor that matters looks at ids -/
  blind : d.IsBlind
  /-- what has been told -/
  headings : d.strict = true → d'.headings = d.headings

theorem IsBlind.mirrors {d : Dispatcher α} (h : d.IsBlind) : d.Mirrors d :=
  ⟨rfl, rfl, h, fun _ => rfl⟩

namespace Mirrors

variable {d d' : Dispatcher α}

/-- What one processor has received, but for ids, is told by the headings. -/
theorem received (h : d.headings = d'.headings) (i : Nat) :
    (d.received i).map Message.heading = (d'.received i).map Message.heading := by
  have told (d : Dispatcher α) : (d.received i).map Message.heading =
      (d.headings.filter fun x => x.1 == i).map Prod.snd := by
    simp only [Dispatcher.received, Dispatcher.headings, List.filter_map, List.map_map]
    rfl
  rw [told, told, h]

/-- One processor is told. -/
theorem deliver (h : d.Mirrors d') {m m' : Message α} (hm : m'.heading = m.heading) (i : Nat)
    {p : Processor α} (hp : p ∈ d.processors) :
    (d.deliver m i p).Alike Mirrors (· = ·) (fun _ _ => True) (d'.deliver m' i p) := by
  obtain ⟨processors, strict, log, warnings⟩ := d
  obtain ⟨processors', strict', log', warnings'⟩ := d'
  obtain ⟨hprocessors, hstrict, blind, told⟩ := h
  obtain rfl : processors' = processors := hprocessors
  obtain rfl : strict' = strict := hstrict
  have next (w w' : Nat) : Mirrors (⟨processors', strict', log ++ [⟨i, m⟩], w⟩ : Dispatcher α)
      ⟨processors', strict', log' ++ [⟨i, m'⟩], w'⟩ := by
    refine ⟨rfl, rfl, blind, fun hs => ?_⟩
    have told := told hs
    simp only [Dispatcher.headings, List.map_append, List.map_cons, List.map_nil, hm] at told ⊢
    rw [told]
  simp only [Dispatcher.deliver]
  cases strict' with
  | false =>
    -- failures are noted, and nothing comes of them
    simp only [Bool.false_eq_true, if_false]
    split
    · split
      · exact .done (next _ _) trivial
      · exact .done (next _ _) trivial
    · split
      · exact .done (next _ _) trivial
      · exact .done (next _ _) trivial
  | true =>
    have same := blind rfl p hp _ _ (received ((next 0 0).headings rfl) i)
    rw [Dispatcher.received, Dispatcher.received] at same
    simp only [Dispatcher.received, ← same]
    split
    · exact .done (next _ _) trivial
    · exact .failed (next _ _) rfl

/-- **All processors are told alike.** -/
theorem dispatch (h : d.Mirrors d') {m m' : Message α} (hm : m'.heading = m.heading) :
    (d.dispatch m).Alike Mirrors (· = ·) (fun _ _ => True) (d'.dispatch m') := by
  rw [Dispatcher.dispatch, Dispatcher.dispatch, h.processors]
  -- the processors stay the ones that the loop goes through
  suffices loop : (Outcome.each (fun x => Dispatcher.deliver m x.2 x.1) d.processors.zipIdx d).Alike
      (fun e e' => e.processors = d.processors ∧ e.Mirrors e') (· = ·) (fun _ _ => True)
      (Outcome.each (fun x => Dispatcher.deliver m' x.2 x.1) d.processors.zipIdx d') from
    ⟨loop.state.2, loop.answer⟩
  refine .each (fun x hx e e' he => ?_) ⟨rfl, h⟩
  obtain ⟨same, mirrors⟩ := he
  have member : x.1 ∈ e.processors := same ▸ List.fst_mem_of_mem_zipIdx hx
  obtain ⟨state, answer⟩ := mirrors.deliver hm x.2 member
  refine ⟨⟨?_, state⟩, answer⟩
  rw [← same]
  unfold Dispatcher.deliver
  simp only
  split
  · rfl
  · split <;> rfl

end Mirrors

end Dispatcher

/-- None of the common kinds of processors looks at ids. -/
theorem ProcessorKind.isBlind (k : ProcessorKind) : (k.processor : Processor α).IsBlind := by
  have told (ms : List (Message α)) : k.processor.fault? ms =
      if k = failing then
        some (if ms.getLast?.map Message.heading = some .shutdown then "shutdown exploded"
          else "processor exploded")
      else none := by
    simp only [processor]
    rcases ms.getLast? with - | ((_ | _ | _) | -) <;> rfl
  intro ms ms' h
  rw [told, told, ← List.getLast?_map, h, List.getLast?_map]

end FlowCanvas
