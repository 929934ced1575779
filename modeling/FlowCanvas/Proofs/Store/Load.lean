import FlowCanvas.Proofs.Graph.Record
import FlowCanvas.Proofs.Json.Reader
import FlowCanvas.Store.Basic

/-!
# What stops a load

A store that holds data gives a graph: the one of the data, or the initial one where the data is at
fault. It gives none where the fault is not one of the data's form. `Stops` says of the octets
themselves when that is so: an integer with too many digits, a coordinate beyond the greatest
double, or lists and objects too deep inside each other. Where the octets are kept, in memory or in
a file, makes no difference (`load_eq_error_iff`).
-/

namespace FlowCanvas

open Text

/-- What stops a load of octets. -/
inductive Stops (data : Utf8.Octets) : LoadFault → Prop
  /-- reading stops at an integer with too many digits -/
  | digits {s : String} {n : Nat} (text : Utf8.decode data = .ok s)
    (stop : Json.read s.toList = .error (.tooManyDigits n)) : Stops data (.tooManyDigits n)
  /-- reading stops at a list or an object that is too deep inside others -/
  | depth {s : String} (text : Utf8.decode data = .ok s)
    (stop : Json.read s.toList = .error .tooDeep) : Stops data .tooDeep
  /-- the first fault of the record is a coordinate beyond the greatest double -/
  | range {s : String} {v : Json} (text : Utf8.decode data = .ok s)
    (read : Json.read s.toList = .ok v) (beyond : Record.GraphOverflows v) : Stops data .outOfRange

namespace Stops

variable {data : Utf8.Octets} {f : LoadFault}

/-- What stops a load is no fault of the data's form. -/
theorem isFormat_eq_false (h : Stops data f) : f.isFormat = false := by
  cases h <;> rfl

/-- **The faults that are not of the form are those that stop a load.** -/
theorem of_ofOctets (h : Graph.ofOctets data = .error f) (hf : f.isFormat = false) :
    Stops data f := by
  unfold Graph.ofOctets at h
  split at h
  · next s text =>
    unfold Graph.ofText at h
    split at h
    · next v read =>
      have verdict := Record.reads_graph v
      obtain rfl | form := verdict.form f h
      · exact .range text read (verdict.overflows.1 h)
      · rw [form] at hf
        cases hf
    · cases h
      cases hf
    · next n stop =>
      cases h
      exact .digits text stop
    · next stop =>
      cases h
      exact .depth text stop
  · cases h
    cases hf

theorem ofOctets_eq (h : Stops data f) : Graph.ofOctets data = .error f := by
  unfold Graph.ofOctets
  cases h with
  | digits text stop =>
    rw [text]
    simp only [Graph.ofText, stop]
  | depth text stop =>
    rw [text]
    simp only [Graph.ofText, stop]
  | range text read beyond =>
    rw [text]
    simp only [Graph.ofText, read]
    exact (Record.reads_graph _).overflows.2 beyond

/-- An integer that stops a load has more digits than are read, all of them in the text. -/
theorem holdsRun {n : Nat} (h : Stops data (.tooManyDigits n)) :
    ∃ s, Utf8.decode data = .ok s ∧ Json.HoldsRun n s.toList := by
  cases h with
  | digits text stop => exact ⟨_, text, Json.holdsRun_of_read stop⟩

end Stops

namespace Store

variable {data : Utf8.Octets} {s : Store Number}

theorem holding_inMemory {α : Type} (data : Utf8.Octets) (l : Json.Layout) :
    (inMemory (some data) l : Store α).holding = .ok (.octets data) := rfl

/-- A file that can be read can be looked at. -/
theorem holding_inFile {α : Type} {path : FilePath} {tree : FileTree}
    (h : tree.read path = .ok data) (l : Json.Layout) :
    (inFile path tree l : Store α).holding = .ok (.octets data) := by
  have looked : ∃ e, tree.look path = .ok (some e) := by
    unfold FileTree.read at h
    split at h
    · cases h
    · next place resolved =>
      split at h
      · cases h
      · cases h
      · next there =>
        cases h
        refine ⟨.file data, ?_⟩
        rw [FileTree.look, resolved]
        exact congrArg Except.ok there
  obtain ⟨e, looked⟩ := looked
  simp only [holding, inFile, looked, h, Except.map]

theorem load_of_ofOctets_eq_ok (h : s.holding = .ok (.octets data)) {g : Graph Number}
    (hg : Graph.ofOctets data = .ok g) : s.load = .ok ⟨g, false⟩ := by
  have decoded : StateFormat.decode data = .ok g := hg
  simp only [load, h, decoded]

theorem load_of_ofOctets_eq_error (h : s.holding = .ok (.octets data)) {e : LoadFault}
    (he : Graph.ofOctets data = .error e) :
    (s.load : Except StoreFault (Loaded Number)) =
      if e.isFormat then .ok ⟨Graph.initial, true⟩ else .error (.data e) := by
  have decoded : (StateFormat.decode data : Except LoadFault (Graph Number)) = .error e := he
  simp only [load, h, decoded]

/-- **A load fails where something stops it, and nowhere else.** -/
theorem load_eq_error_iff (h : s.holding = .ok (.octets data)) {f : StoreFault} :
    (s.load : Except StoreFault (Loaded Number)) = .error f ↔ ∃ e, f = .data e ∧ Stops data e := by
  constructor
  · intro failed
    cases decoded : Graph.ofOctets data with
    | ok g =>
      rw [load_of_ofOctets_eq_ok h decoded] at failed
      cases failed
    | error e =>
      rw [load_of_ofOctets_eq_error h decoded] at failed
      split at failed
      · cases failed
      · next form =>
        cases failed
        exact ⟨e, rfl, .of_ofOctets decoded ((Bool.not_eq_true _).mp form)⟩
  · rintro ⟨e, rfl, stops⟩
    rw [load_of_ofOctets_eq_error h stops.ofOctets_eq, stops.isFormat_eq_false]
    rfl

/-- A load gives a graph if nothing stops it. -/
theorem exists_load_eq_ok_iff (h : s.holding = .ok (.octets data)) :
    (∃ loaded : Loaded Number, s.load = .ok loaded) ↔ ∀ f, ¬ Stops data f := by
  constructor
  · rintro ⟨loaded, done⟩ f stops
    have failed := (load_eq_error_iff h).2 ⟨f, rfl, stops⟩
    rw [done] at failed
    cases failed
  · intro free
    cases result : (s.load : Except StoreFault (Loaded Number)) with
    | ok loaded => exact ⟨loaded, rfl⟩
    | error f =>
      obtain ⟨e, -, stops⟩ := (load_eq_error_iff h).1 result
      exact absurd stops (free e)

end Store

end FlowCanvas
