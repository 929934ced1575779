import FlowCanvas.Proofs.Graph.Identifier
import FlowCanvas.Proofs.Graph.Record
import FlowCanvas.Proofs.Graph.Settled
import FlowCanvas.Proofs.Json.Text
import FlowCanvas.Proofs.Text.Utf8

/-!
# Graphs saved and loaded

A graph whose record can be read at all (`Graph.IsStorable`) comes back from its stored form with
its coordinates settled, and else as it was (`decode_encode`). If its coordinates are doubles, there
is nothing to settle, and it comes back as it was (`decode_encode_of_isPlain`). Every graph that is
loaded can be stored, because what has been read can be read again (`isStorable_of_decode`).
-/

namespace FlowCanvas

open Text

/-! ### Coordinates -/

namespace Number

/-- A double, or a whole number that is one. -/
def IsExact : Number → Prop
  | whole n => Binary64.integerValue? (Binary64.ofInt n) = some n
  | real _ => True

/-- A double. -/
def IsReal : Number → Prop
  | whole _ => False
  | real _ => True

theorem IsReal.isExact {a : Number} (h : a.IsReal) : a.IsExact := by
  cases a with
  | whole n => cases h
  | real x => trivial

theorem IsReal.settled_eq {a : Number} (h : a.IsReal) : a.settled = a := by
  cases a with
  | whole n => cases h
  | real x => rfl

theorem finite?_of_integerValue? {n k : ℤ}
    (h : Binary64.integerValue? (Binary64.ofInt n) = some k) :
    finite? n = some (Binary64.ofInt n) := by
  unfold Binary64.integerValue? at h
  unfold finite?
  cases shape : Binary64.shape (Binary64.ofInt n) with
  | finite negative m e => simp only [shape]
  | nan =>
    rw [shape] at h
    cases h
  | infinite negative =>
    rw [shape] at h
    cases h

theorem halfAbove_le_ten_pow {k d : ℕ} (h : 54 + k ≤ d) : Binary64.halfAbove k ≤ 10 ^ d := by
  have two : 2 ≤ 10 := by decide
  refine le_trans ?_ (Nat.pow_le_pow_right (by decide) h)
  rw [Binary64.halfAbove, Nat.pow_add]
  exact Nat.mul_le_mul ((Nat.sub_le _ _).trans (Nat.pow_le_pow_left two _))
    (Nat.pow_le_pow_left two _)

/-- A whole number that is a double has few digits. -/
theorem readable_of_isExact {a : Number} (h : a.IsExact) (room : ℕ) :
    Json.Readable room (.number a) := by
  cases a with
  | real x => exact .real x
  | whole n =>
    refine .whole n ?_
    have range : n.natAbs < Binary64.overflowBound := by
      rw [← not_le, ← finite?_eq_none_iff, finite?_of_integerValue? h]
      exact Option.some_ne_none _
    have bound : Binary64.overflowBound ≤ 10 ^ digitLimit :=
      halfAbove_le_ten_pow (by decide)
    exact (Nat.length_toDigits_le_iff (by decide) (by decide)).2 (range.trans_le bound)

/-- Reading a coordinate settles it. -/
theorem coordinate_number {a : Number} (h : a.IsExact) :
    Record.coordinate (.number a) = .ok a.settled := by
  cases a with
  | real x => rfl
  | whole n =>
    rw [Record.coordinate, finite?_of_integerValue? h]
    rfl

end Number

/-! ### Parts of graphs -/

namespace Point

/-- A point whose sides are doubles, or whole numbers that are doubles. -/
structure IsExact (p : Point Number) : Prop where
  /-- the horizontal side -/
  x : p.x.IsExact
  /-- the vertical side -/
  y : p.y.IsExact

/-- A point whose sides are doubles. -/
structure IsReal (p : Point Number) : Prop where
  /-- the horizontal side -/
  x : p.x.IsReal
  /-- the vertical side -/
  y : p.y.IsReal

theorem IsReal.isExact {p : Point Number} (h : p.IsReal) : p.IsExact := ⟨h.x.isExact, h.y.isExact⟩

theorem IsReal.map_settled {p : Point Number} (h : p.IsReal) : p.map Number.settled = p := by
  rw [Point.map, h.x.settled_eq, h.y.settled_eq]

theorem readable_toJson {p : Point Number} (h : p.IsExact) (room : ℕ) :
    Json.Readable (room + 1) p.toJson := by
  refine .object _ (by simp) ?_
  simp only [List.forall_mem_cons]
  exact ⟨Number.readable_of_isExact h.x room, Number.readable_of_isExact h.y room,
    List.forall_mem_nil _⟩

theorem point_toJson {p : Point Number} (h : p.IsExact) :
    Record.point p.toJson = .ok (p.map Number.settled) := by
  have x : Record.field [("x", .number p.x), ("y", .number p.y)] "x" = .ok (.number p.x) := rfl
  have y : Record.field [("x", .number p.x), ("y", .number p.y)] "y" = .ok (.number p.y) := rfl
  rw [toJson, Record.point, x, y]
  simp only [Except.bind, Number.coordinate_number h.x, Number.coordinate_number h.y]
  rfl

theorem pointOr_toJson {β : Type} {p : Point Number} (h : p.IsExact) (absent : β)
    (present : Point Number → β) :
    Record.pointOr absent present p.toJson = .ok (present (p.map Number.settled)) := by
  have some : p.toJson ≠ .null := by
    intro null
    cases null
  rw [Record.pointOr_of_ne_null some, point_toJson h]
  rfl

end Point

theorem Point.isExact_origin : (Point.origin : Point Number).IsExact := by
  have zero : Binary64.integerValue? (Binary64.ofInt 0) = some 0 := by decide +kernel
  exact ⟨zero, zero⟩

/-! ### Nodes and edges -/

/-- A node whose record can be read. -/
structure Node.IsStorable (n : Node Number) : Prop where
  /-- its position -/
  position : n.position.IsExact
  /-- its implementation, for which the list and the objects around it leave less room -/
  implementation : Json.Readable 987 n.implementation

/-- An edge whose record can be read, and whose control point is settled. -/
def Edge.IsStorable (e : Edge Number) : Prop := ∀ p ∈ e.control, p.IsReal

namespace Node

theorem readable_toJson {n : Node Number} (h : n.IsStorable) : Json.Readable 988 n.toJson := by
  refine .object _ (by simp) ?_
  simp only [List.forall_mem_cons]
  exact ⟨.string _, .string _, .string _, .string _, h.implementation,
    Point.readable_toJson h.position 986, List.forall_mem_nil _⟩

/-- **A node is read back from its record**, settled. -/
theorem node_toJson {n : Node Number} (h : n.IsStorable) :
    Record.node n.toJson = .ok n.settled := by
  have category : Record.category (.string n.category.name) = .ok n.category := by
    rw [Record.category, Category.ofName?_name]
  have position := Point.pointOr_toJson h.position Point.origin fun p => p
  change ((Record.category (.string n.category.name)).bind fun c =>
    (Record.pointOr Point.origin (fun p => p) n.position.toJson).bind fun p =>
      (.ok ⟨n.id, c, n.label, n.identifier, n.implementation, p⟩ :
        Except LoadFault (Node Number))) = _
  rw [category, position]
  rfl

end Node

namespace Edge

theorem readable_toJson {e : Edge Number} (h : e.IsStorable) : Json.Readable 988 e.toJson := by
  have control : Json.Readable 987 ((e.control.map Point.toJson).getD .null) := by
    cases hc : e.control with
    | none => exact .null
    | some p => exact Point.readable_toJson (h p hc).isExact 986
  refine .object _ (by simp) ?_
  simp only [List.forall_mem_cons]
  exact ⟨.string _, .string _, .string _, control, .bool _, List.forall_mem_nil _⟩

/-- **An edge is read back from its record.** -/
theorem edge_toJson {e : Edge Number} (h : e.IsStorable) : Record.edge e.toJson = .ok e := by
  have control : Record.pointOr none some ((e.control.map Point.toJson).getD .null)
      = .ok e.control := by
    cases hc : e.control with
    | none => rfl
    | some p =>
      have real := h p hc
      rw [Option.map_some, Option.getD_some, Point.pointOr_toJson real.isExact, real.map_settled]
  change ((Record.pointOr none some ((e.control.map Point.toJson).getD .null)).bind fun c =>
    (.ok ⟨e.id, e.source, e.target, c, e.pinned⟩ : Except LoadFault (Edge Number))) = _
  rw [control]
  rfl

end Edge

/-! ### Graphs -/

/-- A graph whose record can be read. -/
structure Graph.IsStorable (g : Graph Number) : Prop where
  /-- its nodes -/
  nodes : ∀ n ∈ g.nodes, n.IsStorable
  /-- its edges -/
  edges : ∀ e ∈ g.edges, e.IsStorable
  /-- its recorded entry point, for which the object around it leaves less room -/
  entryPoint : Json.Readable 989 g.entryPoint
  /-- its name is a name -/
  name : Identifier.isName g.name = true

/-- A name is taken as it is for the name of a graph. -/
theorem Identifier.ofGraphName_of_isName {s : String} (h : isName s = true) :
    ofGraphName s = s := by
  obtain ⟨hne, safe⟩ := isName_iff.1 h
  have all : s.toList.filter isSafe = s.toList := List.filter_eq_self.2 safe
  rw [ofGraphName, all, if_neg, String.ofList_toList]
  intro empty
  exact hne (by rw [← String.ofList_toList (s := s), empty])

namespace Record

theorem items_array (vs : List Json) : items (.array vs) = .ok vs := by
  cases vs <;> rfl

end Record

namespace Graph

variable {g : Graph Number}

theorem readable_toJson (h : g.IsStorable) : Json.Readable Json.depthLimit g.toJson := by
  have nodes : Json.Readable 989 (.array (g.nodes.map Node.toJson)) :=
    .array _ (List.forall_mem_map.2 fun n hn => Node.readable_toJson (h.nodes n hn))
  have edges : Json.Readable 989 (.array (g.edges.map Edge.toJson)) :=
    .array _ (List.forall_mem_map.2 fun e he => Edge.readable_toJson (h.edges e he))
  refine .object _ (by simp [toFields]) ?_
  simp only [toFields, List.forall_mem_cons]
  exact ⟨nodes, edges, h.entryPoint, .string _, List.forall_mem_nil _⟩

/-- **A graph is read back from its record**, settled. -/
theorem graph_toJson (h : g.IsStorable) : Record.graph g.toJson = .ok g.settled := by
  have nodes : (Record.items (.array (g.nodes.map Node.toJson))).bind
      (fun vs => vs.mapM Record.node) = .ok (g.nodes.map Node.settled) := by
    rw [Record.items_array]
    exact Result.mapM_map_eq_ok fun n hn => Node.node_toJson (h.nodes n hn)
  have edges : (Record.items (.array (g.edges.map Edge.toJson))).bind
      (fun vs => vs.mapM Record.edge) = .ok g.edges := by
    rw [Record.items_array]
    exact (Result.mapM_map_eq_ok fun e he => Edge.edge_toJson (h.edges e he)).trans
      (congrArg Except.ok g.edges.map_id')
  have name : Identifier.ofGraphName (if (Json.string g.name).isSet then (Json.string g.name).plain
      else "") = g.name := by
    have set : (Json.string g.name).isSet = true := by
      have := (Identifier.isName_iff.1 h.name).1
      simpa [Json.isSet] using this
    rw [if_pos set]
    exact Identifier.ofGraphName_of_isName h.name
  -- the fields of the record are found by name, so this is what the reader makes of them
  change ((Record.items (.array (g.nodes.map Node.toJson))).bind
      (fun vs => vs.mapM Record.node)).bind (fun nodes =>
    ((Record.items (.array (g.edges.map Edge.toJson))).bind
      (fun vs => vs.mapM Record.edge)).bind fun edges =>
    (.ok ⟨nodes, edges, g.entryPoint, Identifier.ofGraphName
      (if (Json.string g.name).isSet then (Json.string g.name).plain else "")⟩ :
      Except LoadFault (Graph Number))) = _
  rw [nodes, edges, name]
  rfl

/-- **What is stored of a graph is that graph, settled.** -/
theorem decode_encode (h : g.IsStorable) (l : Json.Layout) :
    StateFormat.decode (StateFormat.encode l g) = .ok g.settled := by
  change ofOctets (Utf8.encode (g.recordText l)) = _
  simp only [ofOctets, Utf8.decode_encode, ofText, recordText,
    Json.read_text l (readable_toJson h), graph_toJson h]

end Graph

/-! ### Graphs without whole numbers -/

/-- A text, or null for none. -/
inductive Json.IsOptionalText : Json → Prop
  /-- a text -/
  | string (s : String) : IsOptionalText (.string s)
  /-- no text -/
  | null : IsOptionalText .null

theorem Json.IsOptionalText.readable {v : Json} (h : v.IsOptionalText) (room : ℕ) :
    Json.Readable room v := by
  cases h with
  | string s => exact .string s
  | null => exact .null

/-- A node that stands at doubles and whose implementation is a text, if it has any. -/
structure Node.IsPlain (n : Node Number) : Prop where
  /-- its position -/
  position : n.position.IsReal
  /-- its implementation -/
  implementation : n.implementation.IsOptionalText

/-- A graph whose coordinates are doubles, whose name is a name, and whose entry point and
implementations are texts, where there are any. -/
structure Graph.IsPlain (g : Graph Number) : Prop where
  /-- its nodes -/
  nodes : ∀ n ∈ g.nodes, n.IsPlain
  /-- the control points of its edges -/
  control : ∀ e ∈ g.edges, ∀ p ∈ e.control, p.IsReal
  /-- its recorded entry point -/
  entryPoint : g.entryPoint.IsOptionalText
  /-- its name -/
  name : Identifier.isName g.name = true

theorem Node.IsPlain.settled_eq {n : Node Number} (h : n.IsPlain) : n.settled = n := by
  rw [settled, h.position.map_settled]

namespace Graph

variable {g : Graph Number}

theorem IsPlain.isStorable (h : g.IsPlain) : g.IsStorable where
  nodes n hn := ⟨(h.nodes n hn).position.isExact, (h.nodes n hn).implementation.readable 987⟩
  edges := h.control
  entryPoint := h.entryPoint.readable 989
  name := h.name

theorem IsPlain.settled_eq (h : g.IsPlain) : g.settled = g := by
  have nodes : g.nodes.map Node.settled = g.nodes :=
    (List.map_congr_left fun n hn => (h.nodes n hn).settled_eq).trans (List.map_id' _)
  rw [settled, nodes]

/-- **What is stored of a plain graph is that graph**, in every layout. -/
theorem decode_encode_of_isPlain (h : g.IsPlain) (l : Json.Layout) :
    StateFormat.decode (StateFormat.encode l g) = .ok g := by
  rw [decode_encode h.isStorable, h.settled_eq]

/-- A graph with a pinned edge and a free one, and with names beyond the letters of code. -/
def sketched : Graph Number where
  nodes := [⟨"start-1", .start, "START", "start", .null, ⟨.real 100.0, .real (-0.5)⟩⟩,
    ⟨"行動-😀", .action, "Größe \"x\"\n😀", "groesse", .string "run_größe", ⟨.real 1e300, .real 0.1⟩⟩]
  edges := [⟨"e1", "start-1", "行動-😀", some ⟨.real 3.25, .real (-0.0)⟩, true⟩,
    ⟨"e2", "行動-😀", "行動-😀", none, false⟩]
  entryPoint := .string "groesse"
  name := "Graph_1"

theorem decode_encode_sketched :
    sketched.IsPlain ∧
      ∀ l, StateFormat.decode (StateFormat.encode l sketched) = .ok sketched := by
  have real {x y : Float} : Point.IsReal ⟨.real x, .real y⟩ := ⟨trivial, trivial⟩
  have plain : sketched.IsPlain := by
    refine ⟨?_, ?_, .string _, by decide⟩
    · exact List.forall_mem_cons.2
        ⟨⟨real, .null⟩, List.forall_mem_singleton.2 ⟨real, .string _⟩⟩
    · refine List.forall_mem_cons.2 ⟨?_, List.forall_mem_singleton.2 ?_⟩
      · rintro p ⟨⟩
        exact real
      · rintro p ⟨⟩
  exact ⟨plain, fun l => decode_encode_of_isPlain plain l⟩

end Graph

/-! ### Graphs that are loaded -/

namespace Record

theorem isReal_of_coordinate {v : Json} {a : Number} (h : coordinate v = .ok a) : a.IsReal := by
  unfold coordinate at h
  split at h
  · cases h
    trivial
  · split at h
    · cases h
      trivial
    · cases h
  · cases h
    trivial
  · split at h
    · cases h
      trivial
    · cases h
  · cases h

theorem isReal_of_point {v : Json} {p : Point Number} (h : point v = .ok p) : p.IsReal := by
  cases v with
  | object fs =>
    obtain ⟨x, hx, h⟩ := Result.exists_of_bind_eq_ok h
    obtain ⟨y, hy, h⟩ := Result.exists_of_bind_eq_ok h
    obtain ⟨_, -, hx⟩ := Result.exists_of_bind_eq_ok hx
    obtain ⟨_, -, hy⟩ := Result.exists_of_bind_eq_ok hy
    cases h
    exact ⟨isReal_of_coordinate hx, isReal_of_coordinate hy⟩
  | _ => cases h

/-- A point that is read has doubles for its sides, unless it is absent. -/
theorem pointOr_eq_ok {β : Type} {absent b : β} {present : Point Number → β} {v : Json}
    (h : pointOr absent present v = .ok b) : b = absent ∨ ∃ p, p.IsReal ∧ b = present p := by
  by_cases null : v = .null
  · subst null
    cases h
    exact .inl rfl
  · rw [pointOr_of_ne_null null] at h
    obtain ⟨p, hp, rfl⟩ := Result.exists_of_map_eq_ok h
    exact .inr ⟨p, isReal_of_point hp, rfl⟩

variable {room : ℕ} {fs : Fields}

/-- What stands in an object that can be read can be read with one room less. -/
theorem readable_of_object (h : Json.Readable (room + 1) (.object fs)) :
    ∀ f ∈ fs, Json.Readable room f.2 := by
  cases h with
  | object _ _ each => exact each

theorem readable_optional (each : ∀ f ∈ fs, Json.Readable room f.2) (name : String) :
    Json.Readable room (optional fs name) := by
  unfold optional Json.field?
  cases found : fs.find? fun f => f.1 == name with
  | none => exact .null
  | some f => exact each f (List.mem_of_find?_eq_some found)

theorem readable_items {v : Json} {vs : List Json} (h : Json.Readable (room + 1) v)
    (listed : items v = .ok vs) : ∀ w ∈ vs, Json.Readable room w := by
  unfold items at listed
  split at listed
  · cases h with
    | array items each =>
      cases listed
      exact each
    | string s =>
      cases listed
      exact List.forall_mem_map.2 fun c _ => .string _
    | object fields =>
      cases listed
      exact List.forall_mem_map.2 fun f _ => .string _
    | _ => cases listed
  · cases listed
    exact List.forall_mem_nil _

theorem isStorable_of_node {v : Json} {n : Node Number} (hv : Json.Readable 988 v)
    (h : node v = .ok n) : n.IsStorable := by
  cases v with
  | object fs =>
    have each := readable_of_object hv
    obtain ⟨id, -, h⟩ := Result.exists_of_bind_eq_ok h
    obtain ⟨c, -, h⟩ := Result.exists_of_bind_eq_ok h
    obtain ⟨label, -, h⟩ := Result.exists_of_bind_eq_ok h
    obtain ⟨identifier, -, h⟩ := Result.exists_of_bind_eq_ok h
    obtain ⟨position, hposition, h⟩ := Result.exists_of_bind_eq_ok h
    cases h
    refine ⟨?_, readable_optional each _⟩
    obtain rfl | ⟨p, real, rfl⟩ := pointOr_eq_ok hposition
    · exact Point.isExact_origin
    · exact real.isExact
  | _ => cases h

theorem isStorable_of_edge {v : Json} {e : Edge Number} (h : edge v = .ok e) : e.IsStorable := by
  cases v with
  | object fs =>
    obtain ⟨id, -, h⟩ := Result.exists_of_bind_eq_ok h
    obtain ⟨source, -, h⟩ := Result.exists_of_bind_eq_ok h
    obtain ⟨target, -, h⟩ := Result.exists_of_bind_eq_ok h
    obtain ⟨control, hcontrol, h⟩ := Result.exists_of_bind_eq_ok h
    cases h
    obtain rfl | ⟨p, real, rfl⟩ := pointOr_eq_ok hcontrol
    · rintro q ⟨⟩
    · rintro q ⟨⟩
      exact real
  | _ => cases h

theorem isStorable_of_graph {v : Json} {g : Graph Number} (hv : Json.Readable Json.depthLimit v)
    (h : graph v = .ok g) : g.IsStorable := by
  cases v with
  | object fs =>
    have each := readable_of_object hv
    obtain ⟨nodes, hnodes, h⟩ := Result.exists_of_bind_eq_ok h
    obtain ⟨edges, hedges, h⟩ := Result.exists_of_bind_eq_ok h
    obtain ⟨vs, hvs, hnodes⟩ := Result.exists_of_bind_eq_ok hnodes
    obtain ⟨ws, -, hedges⟩ := Result.exists_of_bind_eq_ok hedges
    cases h
    refine ⟨fun n hn => ?_, fun e he => ?_, readable_optional each _,
      Identifier.isName_ofGraphName _⟩
    · obtain ⟨w, hw, read⟩ := Result.exists_of_mem_of_mapM_eq_ok hnodes hn
      exact isStorable_of_node (readable_items (readable_optional each _) hvs w hw) read
    · obtain ⟨w, -, read⟩ := Result.exists_of_mem_of_mapM_eq_ok hedges he
      exact isStorable_of_edge read
  | _ => cases h

end Record

/-- **Graphs that are loaded can be stored again.** -/
theorem Graph.isStorable_of_decode {data : Utf8.Octets} {g : Graph Number}
    (h : StateFormat.decode data = .ok g) : g.IsStorable := by
  obtain ⟨s, v, -, read, hg⟩ := Record.exists_of_ofOctets_eq_ok h
  exact Record.isStorable_of_graph (Json.readable_of_read read) hg

end FlowCanvas
