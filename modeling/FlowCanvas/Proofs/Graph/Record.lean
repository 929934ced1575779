import FlowCanvas.Graph.Record
import FlowCanvas.Proofs.Number.Range
import FlowCanvas.Proofs.Result
import FlowCanvas.Proofs.Text.Utf8
import Mathlib.Tactic.Tauto

/-!
# What records can be read

Which values are records of points, nodes, edges and graphs, said of the values themselves, and
where reading stops short. A record is read in the order of its fields, and the first fault is the
one that is told. All faults are of the data's form but one: a coordinate that is an integer beyond
the greatest double. So a part of a record may be sound, it may overflow, or it may be at fault
otherwise, and `Reads` says of a reader which values are of the first two kinds. Readers that follow
each other are judged by `Reads.bind`: the second one matters only if the first finds its part
sound.

The main statement is `reads_graph`.
-/

namespace FlowCanvas.Record

open Text

/-! ### Verdicts -/

/-- What comes of reading: `sound` says when there is a result, and `overflows` when a coordinate
beyond the greatest double is the first fault. -/
structure Reads {β : Type} (x : Except LoadFault β) (sound overflows : Prop) : Prop where
  /-- when there is a result -/
  sound : (∃ b, x = .ok b) ↔ sound
  /-- when a coordinate is the first fault -/
  overflows : x = .error .outOfRange ↔ overflows
  /-- all other faults are of the form -/
  form : ∀ f, x = .error f → f = .outOfRange ∨ f.isFormat = true

namespace Reads

variable {β γ : Type} {x : Except LoadFault β} {s o s' o' : Prop}

theorem ok (b : β) : Reads (.ok b) True False :=
  ⟨iff_of_true ⟨b, rfl⟩ trivial, by simp, by simp⟩

theorem fault (f : RecordFault) : Reads (Record.fault f : Except LoadFault β) False False :=
  ⟨by simp [Record.fault], by simp [Record.fault], by simp [Record.fault, LoadFault.isFormat]⟩

theorem congr (h : Reads x s o) (hs : s ↔ s') (ho : o ↔ o') : Reads x s' o' :=
  ⟨h.sound.trans hs, h.overflows.trans ho, h.form⟩

/-- A second reader is asked only if the first finds its part sound. -/
theorem bind {k : β → Except LoadFault γ} (h : Reads x s o)
    (hk : ∀ b, x = .ok b → Reads (k b) s' o') :
    Reads (x.bind k) (s ∧ s') (o ∨ s ∧ o') := by
  cases x with
  | error f =>
    -- the second reader is not asked, whatever it would say
    have unsound : ¬ s := fun hs => by
      obtain ⟨b, hb⟩ := h.sound.2 hs
      cases hb
    refine ⟨?_, ?_, ?_⟩
    · simp [Except.bind, unsound]
    · simpa [Except.bind, unsound] using h.overflows
    · intro g hg
      cases hg
      exact h.form f rfl
  | ok b =>
    have sound : s := h.sound.1 ⟨b, rfl⟩
    have fits : ¬ o := fun ho => by
      have := h.overflows.2 ho
      cases this
    obtain ⟨sound', overflows', form'⟩ := hk b rfl
    refine ⟨?_, ?_, form'⟩
    · simpa [Except.bind, sound] using sound'
    · simpa [Except.bind, sound, fits] using overflows'

/-- Nothing can go wrong after the last reader. -/
theorem last (h : Reads x s o) (f : β → γ) : Reads (x.bind fun b => .ok (f b)) s o :=
  (h.bind fun b _ => ok (f b)).congr (and_iff_left trivial) (by simp)

theorem map (h : Reads x s o) (f : β → γ) : Reads (x.map f) s o := by
  have : x.map f = x.bind fun b => .ok (f b) := by cases x <;> rfl
  rw [this]
  exact h.last f

end Reads

/-- Whether the first value of a list that is not sound overflows. -/
def FirstOverflows (sound overflows : Json → Prop) (vs : List Json) : Prop :=
  ∃ before v after, vs = before ++ v :: after ∧ (∀ w ∈ before, sound w) ∧ overflows v

theorem firstOverflows_nil {sound overflows : Json → Prop} :
    ¬ FirstOverflows sound overflows [] := by
  rintro ⟨before, v, after, h, -⟩
  simp at h

theorem firstOverflows_cons {sound overflows : Json → Prop} {v : Json} {vs : List Json} :
    FirstOverflows sound overflows (v :: vs) ↔
      overflows v ∨ sound v ∧ FirstOverflows sound overflows vs := by
  constructor
  · rintro ⟨before, w, after, h, hbefore, hw⟩
    cases before with
    | nil =>
      cases h
      exact .inl hw
    | cons u before =>
      cases h
      exact .inr ⟨hbefore _ List.mem_cons_self, before, w, after, rfl,
        fun x hx => hbefore x (List.mem_cons_of_mem _ hx), hw⟩
  · rintro (hv | ⟨hv, before, w, after, rfl, hbefore, hw⟩)
    · exact ⟨[], v, vs, rfl, by simp, hv⟩
    · refine ⟨v :: before, w, after, rfl, ?_, hw⟩
      intro x hx
      obtain rfl | hx := List.mem_cons.1 hx
      · exact hv
      · exact hbefore x hx

/-- A list is read if all of its values are, and the first that is not tells the fault. -/
theorem Reads.mapM {β : Type} {f : Json → Except LoadFault β} {sound overflows : Json → Prop}
    (h : ∀ v, Reads (f v) (sound v) (overflows v)) (vs : List Json) :
    Reads (vs.mapM f) (∀ v ∈ vs, sound v) (FirstOverflows sound overflows vs) := by
  induction vs with
  | nil => exact (Reads.ok []).congr (by simp) (by simp [firstOverflows_nil])
  | cons v vs ih =>
    rw [List.mapM_cons]
    refine ((h v).bind fun b _ => ih.last fun bs => b :: bs).congr ?_ firstOverflows_cons.symm
    simp

/-! ### Fields -/

/-- Whether a field is there, with a value that is as it should be. -/
def Has (fs : Fields) (name : String) (P : Json → Prop) : Prop :=
  ∃ v, Json.field? fs name = some v ∧ P v

/-- Whether a field is there. -/
abbrev HasAny (fs : Fields) (name : String) : Prop := Has fs name fun _ => True

theorem reads_field {β : Type} {f : Json → Except LoadFault β} {sound overflows : Json → Prop}
    (h : ∀ v, Reads (f v) (sound v) (overflows v)) (fs : Fields) (name : String) :
    Reads ((field fs name).bind f) (Has fs name sound) (Has fs name overflows) := by
  unfold field
  cases there : Json.field? fs name with
  | none => exact (Reads.fault _).congr (by simp [Has, there]) (by simp [Has, there])
  | some v => exact (h v).congr (by simp [Has, there]) (by simp [Has, there])

theorem reads_text (fs : Fields) (name : String) :
    Reads (text fs name) (HasAny fs name) False := by
  have read : text fs name = (field fs name).bind fun v => .ok v.plain := by
    unfold text
    cases field fs name <;> rfl
  rw [read]
  exact (reads_field (fun v => Reads.ok v.plain) fs name).congr Iff.rfl (by simp [Has])

/-! ### Points -/

/-- Whether a value is a coordinate: a number, a truth value or a text that writes a number; an
integer has to have a nearest double. -/
def IsCoordinate : Json → Prop
  | .number (.real _) => True
  | .number (.whole n) => n.natAbs < Binary64.overflowBound
  | .bool _ => True
  | .string s => (Numeral.read? s.toList).isSome = true
  | _ => False

/-- Whether a value is an integer beyond the greatest double. -/
def IsBeyond : Json → Prop
  | .number (.whole n) => Binary64.overflowBound ≤ n.natAbs
  | _ => False

theorem reads_coordinate (v : Json) : Reads (coordinate v) (IsCoordinate v) (IsBeyond v) := by
  cases v with
  | null => exact Reads.fault _
  | bool b => exact Reads.ok _
  | number n =>
    cases n with
    | real x => exact Reads.ok _
    | whole n =>
      have range := Number.finite?_eq_none_iff n
      simp only [coordinate, IsCoordinate, IsBeyond]
      cases finite : Number.finite? n with
      | none =>
        rw [finite] at range
        have beyond := range.1 rfl
        exact ⟨iff_of_false (by simp) (not_lt.2 beyond), iff_of_true rfl beyond,
          fun f hf => .inl (Except.error.inj hf).symm⟩
      | some x =>
        rw [finite] at range
        have within := not_le.1 fun h => Option.some_ne_none x (range.2 h)
        exact (Reads.ok _).congr (iff_of_true trivial within) (iff_of_false not_false within.not_ge)
  | string s =>
    simp only [coordinate, IsCoordinate, IsBeyond]
    cases read : Numeral.read? s.toList with
    | none => exact (Reads.fault _).congr (by simp) Iff.rfl
    | some n => exact (Reads.ok _).congr (by simp) Iff.rfl
  | array vs => exact Reads.fault _
  | object fs => exact Reads.fault _

/-- Whether a value is a point. -/
def IsPoint : Json → Prop
  | .object fs => Has fs "x" IsCoordinate ∧ Has fs "y" IsCoordinate
  | _ => False

/-- Whether the first fault of a point is a coordinate beyond the greatest double. -/
def PointOverflows : Json → Prop
  | .object fs => Has fs "x" IsBeyond ∨ Has fs "x" IsCoordinate ∧ Has fs "y" IsBeyond
  | _ => False

theorem reads_point (v : Json) : Reads (point v) (IsPoint v) (PointOverflows v) := by
  cases v with
  | object fs =>
    exact (reads_field reads_coordinate fs "x").bind fun _ _ =>
      (reads_field reads_coordinate fs "y").last _
  | _ => exact Reads.fault _

theorem pointOr_of_ne_null {β : Type} {absent : β} {present : Point Number → β} {v : Json}
    (h : v ≠ .null) : pointOr absent present v = (point v).map present := by
  cases v with
  | null => exact absurd rfl h
  | _ => rfl

theorem reads_pointOr {β : Type} (absent : β) (present : Point Number → β) (v : Json) :
    Reads (pointOr absent present v) (v = .null ∨ IsPoint v) (PointOverflows v) := by
  by_cases null : v = .null
  · subst null
    exact (Reads.ok _).congr (by simp) (by simp [PointOverflows])
  · rw [pointOr_of_ne_null null]
    exact ((reads_point v).map present).congr (by simp [null]) Iff.rfl

/-! ### Nodes and edges -/

/-- Whether a value is the name of a category. -/
def IsCategory (v : Json) : Prop := ∃ c : Category, v = .string c.name

theorem reads_category (v : Json) : Reads (category v) (IsCategory v) False := by
  cases v with
  | string s =>
    simp only [category, IsCategory, Json.string.injEq]
    cases named : Category.ofName? s with
    | none =>
      refine (Reads.fault _).congr ?_ Iff.rfl
      refine iff_of_false not_false ?_
      rintro ⟨c, rfl⟩
      rw [Category.ofName?_name] at named
      cases named
    | some c =>
      exact (Reads.ok _).congr (iff_of_true trivial ⟨c, (Category.name_of_ofName? named).symm⟩)
        Iff.rfl
  | _ => exact (Reads.fault _).congr (by simp [IsCategory]) Iff.rfl

/-- The fields of a node in front of its position. -/
def HasNodeTexts (fs : Fields) : Prop :=
  HasAny fs "id" ∧ Has fs "category" IsCategory ∧ HasAny fs "label" ∧ HasAny fs "code_identifier"

/-- Whether a value is the record of a node. -/
def IsNode : Json → Prop
  | .object fs =>
    HasNodeTexts fs ∧ (optional fs "position" = .null ∨ IsPoint (optional fs "position"))
  | _ => False

/-- Whether the first fault of a node is a coordinate beyond the greatest double. -/
def NodeOverflows : Json → Prop
  | .object fs => HasNodeTexts fs ∧ PointOverflows (optional fs "position")
  | _ => False

theorem reads_node (v : Json) : Reads (node v) (IsNode v) (NodeOverflows v) := by
  cases v with
  | object fs =>
    refine Reads.congr ((reads_text fs "id").bind fun _ _ =>
      (reads_field reads_category fs "category").bind fun _ _ =>
      (reads_text fs "label").bind fun _ _ =>
      (reads_text fs "code_identifier").bind fun _ _ =>
      (reads_pointOr Point.origin (fun p => p) (optional fs "position")).last _) ?_ ?_
    · simp only [IsNode, HasNodeTexts, and_assoc]
    · simp [NodeOverflows, HasNodeTexts, Has, and_assoc]
  | _ => exact Reads.fault _

/-- The fields of an edge in front of its control point. -/
def HasEdgeTexts (fs : Fields) : Prop :=
  HasAny fs "id" ∧ HasAny fs "source" ∧ HasAny fs "target"

/-- Whether a value is the record of an edge. -/
def IsEdge : Json → Prop
  | .object fs =>
    HasEdgeTexts fs ∧ (optional fs "control_point" = .null ∨ IsPoint (optional fs "control_point"))
  | _ => False

/-- Whether the first fault of an edge is a coordinate beyond the greatest double. -/
def EdgeOverflows : Json → Prop
  | .object fs => HasEdgeTexts fs ∧ PointOverflows (optional fs "control_point")
  | _ => False

theorem reads_edge (v : Json) : Reads (edge v) (IsEdge v) (EdgeOverflows v) := by
  cases v with
  | object fs =>
    refine Reads.congr ((reads_text fs "id").bind fun _ _ =>
      (reads_text fs "source").bind fun _ _ =>
      (reads_text fs "target").bind fun _ _ =>
      (reads_pointOr none some (optional fs "control_point")).last _) ?_ ?_
    · simp only [IsEdge, HasEdgeTexts, and_assoc]
    · simp [EdgeOverflows, HasEdgeTexts, Has, and_assoc]
  | _ => exact Reads.fault _

/-! ### Graphs -/

/-- Whether a value lists records, and all of them are sound. -/
def ListsAll (sound : Json → Prop) (v : Json) : Prop :=
  ∃ vs, items v = .ok vs ∧ ∀ w ∈ vs, sound w

/-- Whether a value lists records, and the first that is not sound overflows. -/
def ListsOverflow (sound overflows : Json → Prop) (v : Json) : Prop :=
  ∃ vs, items v = .ok vs ∧ FirstOverflows sound overflows vs

/-- Whether a value is the record of a graph. -/
def IsGraph : Json → Prop
  | .object fs => ListsAll IsNode (optional fs "nodes") ∧ ListsAll IsEdge (optional fs "edges")
  | _ => False

/-- Whether the first fault of a graph is a coordinate beyond the greatest double. -/
def GraphOverflows : Json → Prop
  | .object fs =>
    ListsOverflow IsNode NodeOverflows (optional fs "nodes") ∨
      ListsAll IsNode (optional fs "nodes") ∧
        ListsOverflow IsEdge EdgeOverflows (optional fs "edges")
  | _ => False

theorem exists_of_items_eq_error {v : Json} {f : LoadFault} (h : items v = .error f) :
    ∃ g, f = .malformed g := by
  unfold items at h
  split at h
  · split at h
    · cases h
    · cases h
    · cases h
    · cases h
      exact ⟨_, rfl⟩
  · cases h

theorem reads_items {β : Type} {f : Json → Except LoadFault β} {sound overflows : Json → Prop}
    (h : ∀ v, Reads (f v) (sound v) (overflows v)) (v : Json) :
    Reads ((items v).bind fun vs => vs.mapM f) (ListsAll sound v)
      (ListsOverflow sound overflows v) := by
  simp only [ListsAll, ListsOverflow]
  cases listed : items v with
  | error f =>
    obtain ⟨g, rfl⟩ := exists_of_items_eq_error listed
    exact (Reads.fault g).congr (by simp) (by simp)
  | ok vs => exact (Reads.mapM h vs).congr (by simp) (by simp)

/-- **Which values are records of graphs**, and which of the others are told by a coordinate beyond
the greatest double. -/
theorem reads_graph (v : Json) : Reads (graph v) (IsGraph v) (GraphOverflows v) := by
  cases v with
  | object fs =>
    exact (reads_items reads_node _).bind fun _ _ =>
      (reads_items reads_edge _).last _
  | _ => exact ⟨by simp [graph, IsGraph], by simp [graph, GraphOverflows],
      by simp [graph, LoadFault.isFormat]⟩

/-! ### What is read -/

/-- The plain text of a field, if a value has that field. -/
def plainField (name : String) : Json → String
  | .object fs => ((Json.field? fs name).map Json.plain).getD ""
  | _ => ""

theorem plainField_of_text {fs : Fields} {name s : String} (h : text fs name = .ok s) :
    plainField name (.object fs) = s := by
  unfold text field at h
  rw [plainField]
  split at h
  · next there =>
    cases h
    rw [there]
    rfl
  · cases h

theorem plainField_of_category {fs : Fields} {name : String} {c : Category}
    (h : (field fs name).bind category = .ok c) : plainField name (.object fs) = c.name := by
  unfold field at h
  rw [plainField]
  split at h
  · next v there =>
    rw [there]
    cases v with
    | string s =>
      simp only [Except.bind, category] at h
      split at h
      · next named =>
        cases h
        exact (Category.name_of_ofName? named).symm
      · cases h
    | _ => cases h
  · cases h

/-- A node has the id, the category and the identifier of its record. -/
theorem node_eq_ok {v : Json} {n : Node Number} (h : node v = .ok n) :
    n.id = plainField "id" v ∧ n.category.name = plainField "category" v ∧
      n.identifier = plainField "code_identifier" v := by
  cases v with
  | object fs =>
    obtain ⟨id, hid, h⟩ := Result.exists_of_bind_eq_ok h
    obtain ⟨c, hc, h⟩ := Result.exists_of_bind_eq_ok h
    obtain ⟨label, -, h⟩ := Result.exists_of_bind_eq_ok h
    obtain ⟨identifier, hidentifier, h⟩ := Result.exists_of_bind_eq_ok h
    obtain ⟨position, -, h⟩ := Result.exists_of_bind_eq_ok h
    cases h
    exact ⟨(plainField_of_text hid).symm, (plainField_of_category hc).symm,
      (plainField_of_text hidentifier).symm⟩
  | _ => cases h

/-- A graph has the nodes that its record lists, and its name is a name. -/
theorem graph_eq_ok {v : Json} {g : Graph Number} (h : graph v = .ok g) :
    ∃ fs vs raw, v = .object fs ∧ items (optional fs "nodes") = .ok vs ∧
      vs.mapM node = .ok g.nodes ∧ g.name = Identifier.ofGraphName raw := by
  cases v with
  | object fs =>
    obtain ⟨nodes, hnodes, h⟩ := Result.exists_of_bind_eq_ok h
    obtain ⟨edges, -, h⟩ := Result.exists_of_bind_eq_ok h
    obtain ⟨vs, hvs, hnodes⟩ := Result.exists_of_bind_eq_ok hnodes
    cases h
    exact ⟨fs, vs, _, rfl, hvs, hnodes, rfl⟩
  | _ => cases h

/-- A graph that is read from octets is read from the value of their text. -/
theorem exists_of_ofOctets_eq_ok {data : Utf8.Octets} {g : Graph Number}
    (h : Graph.ofOctets data = .ok g) :
    ∃ s v, Utf8.decode data = .ok s ∧ Json.read s.toList = .ok v ∧ graph v = .ok g := by
  unfold Graph.ofOctets at h
  split at h
  · next s text =>
    unfold Graph.ofText at h
    split at h
    · next v read => exact ⟨s, v, text, read, h⟩
    · cases h
    · cases h
    · cases h
  · cases h

/-- Stored text is read as the value that it writes. -/
theorem ofOctets_encode {s : String} {v : Json} (read : Json.read s.toList = .ok v) :
    Graph.ofOctets (Utf8.encode s) = graph v := by
  rw [Graph.ofOctets, Utf8.decode_encode]
  simp only [Graph.ofText, read]

end FlowCanvas.Record
