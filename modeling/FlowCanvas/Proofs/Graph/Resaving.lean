import FlowCanvas.Proofs.Graph.Alike

/-!
# Graphs saved again

What is loaded can be saved, and loading that gives the same graph, settled: its coordinates are
doubles. The one coordinate of a loaded graph that is no double is the whole number zero, which
stands for a position that a record does not give. So the stored form changes once more, from `0` to
`0.0`, exactly if some record of a node gives no position, and never after that
(`Graph.encode_settled_iff_of_decode`).

That the stored forms of two graphs differ is shown by reading them: stored forms tell storable
graphs apart (`Graph.encode_injective`).
-/

namespace FlowCanvas

open Text

/-! ### Records tell graphs apart -/

theorem Point.toJson_injective : Function.Injective Point.toJson := by
  rintro ⟨x, y⟩ ⟨x', y'⟩ h
  simpa [toJson] using h

theorem Node.toJson_injective : Function.Injective Node.toJson := by
  rintro ⟨id, c, label, identifier, implementation, position⟩
    ⟨id', c', label', identifier', implementation', position'⟩ h
  simpa [toJson, Category.name_injective.eq_iff, Point.toJson_injective.eq_iff] using h

/-- A control point and its absence are written differently. -/
theorem Edge.control_toJson_injective {p q : Option (Point Number)}
    (h : (p.map Point.toJson).getD .null = (q.map Point.toJson).getD .null) : p = q := by
  cases p with
  | none =>
    cases q with
    | none => rfl
    | some q => cases h
  | some p =>
    cases q with
    | none => cases h
    | some q => exact congrArg some (Point.toJson_injective h)

theorem Edge.toJson_injective : Function.Injective Edge.toJson := by
  rintro ⟨id, source, target, control, pinned⟩ ⟨id', source', target', control', pinned'⟩ h
  simp only [toJson, Json.object.injEq, List.cons.injEq, Prod.mk.injEq, Json.string.injEq,
    Json.bool.injEq, true_and, and_true] at h
  obtain ⟨rfl, rfl, rfl, control, rfl⟩ := h
  obtain rfl := control_toJson_injective control
  rfl

namespace Graph

theorem toJson_injective : Function.Injective Graph.toJson := by
  rintro ⟨nodes, edges, entryPoint, name⟩ ⟨nodes', edges', entryPoint', name'⟩ h
  simp only [toJson, toFields, Json.object.injEq, List.cons.injEq, Prod.mk.injEq,
    Json.array.injEq, Json.string.injEq, true_and, and_true] at h
  obtain ⟨nodes, edges, rfl, rfl⟩ := h
  obtain rfl := List.map_injective_iff.2 Node.toJson_injective nodes
  obtain rfl := List.map_injective_iff.2 Edge.toJson_injective edges
  rfl

/-- **Stored forms tell storable graphs apart**, in every layout. -/
theorem encode_injective {g h : Graph Number} (hg : g.IsStorable) (hh : h.IsStorable)
    {l : Json.Layout} (same : StateFormat.encode l g = StateFormat.encode l h) : g = h := by
  have texts : g.recordText l = h.recordText l := by
    have decoded := congrArg Utf8.decode same
    change Utf8.decode (Utf8.encode (g.recordText l)) =
      Utf8.decode (Utf8.encode (h.recordText l)) at decoded
    rw [Utf8.decode_encode, Utf8.decode_encode] at decoded
    exact Except.ok.inj decoded
  have values : Json.read (g.toJson.text l).toList = Json.read (h.toJson.text l).toList :=
    congrArg (fun s : String => Json.read s.toList) texts
  rw [Json.read_text l (readable_toJson hg), Json.read_text l (readable_toJson hh)] at values
  exact toJson_injective (Except.ok.inj values)

end Graph

/-! ### Settled graphs -/

theorem Number.settled_eq_iff {a : Number} : a.settled = a ↔ a.IsReal := by
  cases a with
  | whole n => exact iff_of_false nofun id
  | real x => exact iff_of_true rfl trivial

theorem Node.settled_eq_iff {n : Node Number} : n.settled = n ↔ n.position.IsReal := by
  constructor
  · intro same
    have position : n.position.map Number.settled = n.position := congrArg Node.position same
    exact ⟨Number.settled_eq_iff.1 (congrArg Point.x position),
      Number.settled_eq_iff.1 (congrArg Point.y position)⟩
  · intro real
    rw [settled, real.map_settled]

namespace Graph

variable {g : Graph Number}

/-- A graph is settled if its nodes stand at doubles. -/
theorem settled_eq_iff : g.settled = g ↔ ∀ n ∈ g.nodes, n.position.IsReal := by
  have nodes : g.settled = g ↔ g.nodes.map Node.settled = g.nodes :=
    ⟨congrArg Graph.nodes, fun same => congrArg (fun nodes => { g with nodes := nodes }) same⟩
  rw [nodes]
  nth_rewrite 2 [← List.map_id g.nodes]
  rw [List.map_inj_left]
  exact forall₂_congr fun n _ => Node.settled_eq_iff

theorem IsStorable.settled (h : g.IsStorable) : g.settled.IsStorable :=
  ⟨List.forall_mem_map.2 fun n hn => ⟨⟨trivial, trivial⟩, (h.nodes n hn).implementation⟩, h.edges,
    h.entryPoint, h.name⟩

end Graph

/-! ### Positions that records give -/

namespace Record

/-- Whether the record of a node gives its position. -/
def GivesPosition : Json → Prop
  | .object fs => optional fs "position" ≠ .null
  | _ => False

theorem isReal_position_iff {v : Json} {n : Node Number} (h : node v = .ok n) :
    n.position.IsReal ↔ GivesPosition v := by
  cases v with
  | object fs =>
    obtain ⟨id, -, h⟩ := Result.exists_of_bind_eq_ok h
    obtain ⟨c, -, h⟩ := Result.exists_of_bind_eq_ok h
    obtain ⟨label, -, h⟩ := Result.exists_of_bind_eq_ok h
    obtain ⟨identifier, -, h⟩ := Result.exists_of_bind_eq_ok h
    obtain ⟨position, hposition, h⟩ := Result.exists_of_bind_eq_ok h
    cases h
    by_cases null : optional fs "position" = .null
    · -- the origin of an absent position is whole
      rw [null] at hposition
      cases hposition
      exact iff_of_false (fun real => real.x) (fun given => given null)
    · rw [pointOr_of_ne_null null] at hposition
      obtain ⟨p, hp, rfl⟩ := Result.exists_of_map_eq_ok hposition
      exact iff_of_true (isReal_of_point hp) null
  | _ => cases h

theorem forall_isReal_iff {vs : List Json} {nodes : List (Node Number)}
    (h : vs.mapM node = .ok nodes) :
    (∀ n ∈ nodes, n.position.IsReal) ↔ ∀ v ∈ vs, GivesPosition v := by
  have along := Result.forall₂_of_mapM_eq_ok h
  clear h
  induction along with
  | nil => exact iff_of_true (List.forall_mem_nil _) (List.forall_mem_nil _)
  | cons first _ ih =>
    rw [List.forall_mem_cons, List.forall_mem_cons]
    exact and_congr (isReal_position_iff first) ih

end Record

/-! ### Saving what has been loaded -/

namespace Graph

/-- **Loading settles a graph in one step, and its stored form in one or two.** What has been loaded
and saved is loaded again, as a graph that is alike, and once more as just that graph. The second
stored form is the first one exactly if every record of a node gives a position; any later one is
the second. -/
theorem encode_settled_iff_of_decode {data : Utf8.Octets} {g : Graph Number}
    (accepted : StateFormat.decode data = .ok g) (l : Json.Layout) :
    StateFormat.decode (StateFormat.encode l g) = .ok g.settled ∧ g.Alike g.settled ∧
      StateFormat.decode (StateFormat.encode l g.settled) = .ok g.settled ∧
      ∃ s fs vs, Utf8.decode data = .ok s ∧ Json.read s.toList = .ok (.object fs) ∧
        Record.items (Record.optional fs "nodes") = .ok vs ∧
        (StateFormat.encode l g.settled = StateFormat.encode l g ↔
          ∀ v ∈ vs, Record.GivesPosition v) := by
  have storable := isStorable_of_decode accepted
  have alike : g.Alike g.settled :=
    alike_of_settled_eq storable storable.settled g.settled_settled.symm
  have again := decode_encode storable.settled l
  rw [settled_settled] at again
  obtain ⟨s, v, text, read, record⟩ := Record.exists_of_ofOctets_eq_ok accepted
  obtain ⟨fs, vs, -, rfl, listed, nodes, -⟩ := Record.graph_eq_ok record
  refine ⟨decode_encode storable l, alike, again, s, fs, vs, text, read, listed, ?_⟩
  rw [← Record.forall_isReal_iff nodes, ← settled_eq_iff]
  exact ⟨encode_injective storable.settled storable, congrArg (StateFormat.encode l)⟩

/-- The text of a record that lists one tool, without a position. -/
def unplaced : String :=
  "\x7b\"nodes\":[\x7b\"id\":\"a\",\"category\":\"tool\",\"label\":\"\",\"code_identifier\":\"x\"\x7d]\x7d"

/-- The graph of that record. -/
def unplacedGraph : Graph Number :=
  ⟨[⟨"a", .tool, "", "x", .null, Point.origin⟩], [], .null, defaultGraphName⟩

set_option maxRecDepth 20000 in
theorem read_unplaced :
    Json.read unplaced.toList
      = .ok (.object [("nodes", .array [.object [("id", .string "a"), ("category", .string "tool"),
          ("label", .string ""), ("code_identifier", .string "x")]])]) := by
  unfold unplaced
  cbv

theorem decode_unplaced : StateFormat.decode (Utf8.encode unplaced) = .ok unplacedGraph := by
  change ofOctets (Utf8.encode unplaced) = _
  rw [Record.ofOctets_encode read_unplaced]
  cbv

theorem encode_settled_iff_unplaced :
    StateFormat.decode (Utf8.encode unplaced) = .ok unplacedGraph ∧
      StateFormat.decode (StateFormat.encode .compact unplacedGraph) = .ok unplacedGraph.settled ∧
      unplacedGraph.Alike unplacedGraph.settled :=
  have spec := encode_settled_iff_of_decode decode_unplaced .compact
  ⟨decode_unplaced, spec.1, spec.2.1⟩

/-- The stored form of that graph is not the one that it has after it has been loaded. -/
theorem encode_settled_ne_unplaced :
    ∃ g g' : Graph Number,
      StateFormat.decode (Utf8.encode unplaced) = .ok g ∧
      StateFormat.decode (StateFormat.encode .standard g) = .ok g' ∧
      StateFormat.encode .standard g' ≠ StateFormat.encode .standard g := by
  have storable := isStorable_of_decode decode_unplaced
  refine ⟨_, _, decode_unplaced, decode_encode storable .standard, fun same => ?_⟩
  have settled := encode_injective storable.settled storable same
  -- a whole zero is no double
  exact (settled_eq_iff.1 settled _ (List.mem_cons_self ..)).x

end Graph

end FlowCanvas
