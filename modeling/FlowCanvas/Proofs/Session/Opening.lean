import FlowCanvas.Proofs.Graph.Identifier
import FlowCanvas.Proofs.Store.Load
import FlowCanvas.Session.Basic

/-!
# What a session opens on

A session on a store opens exactly where the store gives a graph. So it does not open on an integer
that has too many digits or on a coordinate beyond the greatest double (`opens_iff`), although data
that is at fault in any other way is replaced by the initial graph.

What is loaded is taken over as it stands. The name of the graph is made a name again, but ids and
identifiers are not looked at: the nodes of the session are told apart exactly if those that the
record lists are (`distinct_iff_of_accepted`).
-/

namespace FlowCanvas

open Text

universe u

/-! ### A record with one name for two nodes -/

/-- The text of a record that lists two tools of one name. -/
def sharedName : String :=
  "\x7b\"nodes\":["
    ++ "\x7b\"id\":\"a\",\"category\":\"tool\",\"label\":\"\",\"code_identifier\":\"x\"\x7d,"
    ++ "\x7b\"id\":\"b\",\"category\":\"tool\",\"label\":\"\",\"code_identifier\":\"x\"\x7d]\x7d"

/-- The record of a tool called `x`. -/
def toolRecord (id : String) : Json :=
  .object [("id", .string id), ("category", .string "tool"), ("label", .string ""),
    ("code_identifier", .string "x")]

set_option maxRecDepth 20000 in
theorem read_sharedName :
    Json.read sharedName.toList
      = .ok (.object [("nodes", .array [toolRecord "a", toolRecord "b"])]) := by
  unfold sharedName toolRecord
  cbv

/-- A tool called `x`. -/
def toolNamed (id : String) : Node Number := ⟨id, .tool, "", "x", .null, Point.origin⟩

/-- Two tools of one name. -/
def sharedGraph : Graph Number := ⟨[toolNamed "a", toolNamed "b"], [], .null, defaultGraphName⟩

theorem ofOctets_sharedName : Graph.ofOctets (Utf8.encode sharedName) = .ok sharedGraph := by
  rw [Record.ofOctets_encode read_sharedName]
  rfl

/-! ### Stores that stop a session -/

/-- Whether a store keeps octets, in memory or in a file that can be read. -/
def Store.Keeps (s : Store Number) (data : Utf8.Octets) : Prop :=
  match s.shelf with
  | .memory kept => kept = some data
  | .file path tree => tree.read path = .ok data

theorem Store.Keeps.holding_eq {s : Store Number} {data : Utf8.Octets} (h : s.Keeps data) :
    s.holding = .ok (.octets data) := by
  obtain ⟨shelf, l, log⟩ := s
  cases shelf with
  | memory kept =>
    obtain rfl : kept = some data := h
    exact Store.holding_inMemory (α := Number) data l
  | file path tree => exact Store.holding_inFile (α := Number) h l

namespace Session

/-- What a session is opened with if nothing is asked for. -/
def bare : Setup Number := ⟨none, none, .of [] false, none, .counting⟩

/-- What a session is opened with, on a store and not on a graph. -/
abbrev onStore (setup : Setup Number) (store : Store Number) : Setup Number :=
  { setup with graph := none, store := some store }

theorem openWith_onStore (setup : Setup Number) (store : Store Number) :
    openWith (onStore setup store) = (store.load : Except StoreFault (Loaded Number)).map
      fun loaded => ⟨start (onStore setup store) loaded.graph, loaded.discarded⟩ := rfl

/-- A session opens if its store gives a graph. -/
theorem exists_openWith_eq_ok_iff (setup : Setup Number) (store : Store Number) :
    (∃ opened, openWith (onStore setup store) = .ok opened) ↔
      ∃ loaded : Loaded Number, store.load = .ok loaded := by
  rw [openWith_onStore]
  cases (store.load : Except StoreFault (Loaded Number)) with
  | error f => simp [Except.map]
  | ok loaded => simp [Except.map]

/-- The graph of stored data, or the initial graph where the data is at fault. -/
def graphOf (data : Utf8.Octets) : Graph Number :=
  match Graph.ofOctets data with
  | .ok g => g
  | .error _ => Graph.initial

theorem graph_eq_graphOf {store : Store Number} {data : Utf8.Octets} (kept : store.Keeps data)
    {loaded : Loaded Number} (h : store.load = .ok loaded) : loaded.graph = graphOf data := by
  rw [graphOf]
  cases decoded : Graph.ofOctets data with
  | ok g =>
    rw [Store.load_of_ofOctets_eq_ok kept.holding_eq decoded] at h
    cases h
    rfl
  | error f =>
    rw [Store.load_of_ofOctets_eq_error kept.holding_eq decoded] at h
    split at h
    · cases h
      rfl
    · cases h

/-- **A store gives a graph, and a session opens on it, unless something stops the load.** It is the
graph of the data, or the initial one where the data is at fault. Digits stop a load only if there
are too many of them in a row. -/
theorem opens_iff {store : Store Number} {data : Utf8.Octets} (kept : store.Keeps data)
    (setup : Setup Number) :
    ((∃ loaded, store.load = .ok loaded ∧ loaded.graph = graphOf data) ↔ ∀ f, ¬ Stops data f) ∧
      ((∃ opened, openWith (onStore setup store) = .ok opened) ↔ ∀ f, ¬ Stops data f) ∧
      ∀ n, Stops data (.tooManyDigits n) →
        ∃ s, Utf8.decode data = .ok s ∧ Json.HoldsRun n s.toList := by
  have loads := Store.exists_load_eq_ok_iff kept.holding_eq
  refine ⟨?_, (exists_openWith_eq_ok_iff setup store).trans loads, fun n h => h.holdsRun⟩
  rw [← loads]
  constructor
  · rintro ⟨loaded, done, -⟩
    exact ⟨loaded, done⟩
  · rintro ⟨loaded, done⟩
    exact ⟨loaded, done, graph_eq_graphOf kept done⟩

/-- A session opens on a file with a record. -/
theorem opens_on_file :
    let store := Store.inFile ⟨"/", ["state"]⟩
      ⟨[(["state"], .file (Utf8.encode sharedName))], []⟩ .compact
    store.Keeps (Utf8.encode sharedName) ∧
      ∃ opened, openWith (onStore bare store) = .ok opened := by
  intro store
  have kept : store.Keeps (Utf8.encode sharedName) := rfl
  refine ⟨kept, (opens_iff kept bare).2.1.2 fun f stops => ?_⟩
  have failed := stops.ofOctets_eq
  rw [ofOctets_sharedName] at failed
  cases failed

/-- The octets of a text of nines. -/
def nines (n : Nat) : Utf8.Octets := Utf8.encode (String.ofList (List.replicate n '9'))

theorem stops_nines {n : Nat} (h : digitLimit < n) : Stops (nines n) (.tooManyDigits n) := by
  refine .digits (Utf8.decode_encode _) ?_
  rw [String.toList_ofList]
  exact Json.read_nines h

/-- No session opens on one digit more than are read. -/
theorem not_opens_nines :
    let store := Store.inMemory (some (nines 4301)) .compact
    (¬ ∃ loaded : Loaded Number, store.load = .ok loaded) ∧
      ¬ ∃ opened, openWith (onStore bare store) = .ok opened := by
  intro store
  have fails : ¬ ∃ loaded : Loaded Number, store.load = .ok loaded := by
    rw [Store.exists_load_eq_ok_iff (Store.holding_inMemory _ _)]
    intro free
    exact free _ (stops_nines (by decide))
  exact ⟨fails, fun opens => fails ((exists_openWith_eq_ok_iff bare store).1 opens)⟩

end Session

/-! ### Records that are taken over -/

namespace Record

/-- The plain texts of a field of some records. -/
def column (name : String) (vs : List Json) : List String := vs.map (plainField name)

/-- The records of nodes tell them apart. -/
structure Distinct (vs : List Json) : Prop where
  /-- no id is written twice -/
  ids_nodup : (column "id" vs).Nodup
  /-- no identifier is written twice -/
  identifiers_nodup : (column "code_identifier" vs).Nodup
  /-- identifiers are names -/
  isName_identifier : ∀ s ∈ column "code_identifier" vs, Identifier.isName s = true
  /-- at most one category is START -/
  start_unique : (column "category" vs).count "start" ≤ 1
  /-- at most one category is END -/
  stop_unique : (column "category" vs).count "end" ≤ 1

/-- The nodes of a category are those whose records name it. -/
theorem length_filter_category {vs : List Json} {nodes : List (Node Number)}
    (h : vs.mapM node = .ok nodes) (c : Category) :
    (nodes.filter fun n => n.category = c).length = (column "category" vs).count c.name := by
  have names : nodes.map (fun n => n.category.name) = column "category" vs :=
    Result.map_eq_of_mapM_eq_ok (fun _ _ hn => (node_eq_ok hn).2.1) h
  rw [← names, List.count, List.countP_map, List.countP_eq_length_filter]
  congr 1
  refine List.filter_congr fun n _ => ?_
  rw [Function.comp_apply, beq_eq_decide, decide_eq_decide]
  exact Category.name_injective.eq_iff.symm

/-- **Reading keeps what tells nodes apart, and adds nothing to it.** -/
theorem distinct_iff {vs : List Json} {g : Graph Number} (h : vs.mapM node = .ok g.nodes) :
    g.Distinct ↔ Distinct vs := by
  have ids : g.nodes.map Node.id = column "id" vs :=
    Result.map_eq_of_mapM_eq_ok (fun _ _ hn => (node_eq_ok hn).1) h
  have identifiers : g.nodes.map Node.identifier = column "code_identifier" vs :=
    Result.map_eq_of_mapM_eq_ok (fun _ _ hn => (node_eq_ok hn).2.2) h
  have starts := length_filter_category h .start
  have stops := length_filter_category h .stop
  have safe : (∀ n ∈ g.nodes, Identifier.isName n.identifier = true) ↔
      ∀ s ∈ column "code_identifier" vs, Identifier.isName s = true := by
    rw [← identifiers]
    simp
  constructor
  · intro d
    exact ⟨ids ▸ d.ids_nodup, identifiers ▸ d.identifiers_nodup, safe.1 d.isName_identifier,
      starts ▸ d.start_unique, stops ▸ d.stop_unique⟩
  · intro d
    refine ⟨?_, ?_, safe.2 d.isName_identifier, ?_, ?_⟩
    · rw [ids]
      exact d.ids_nodup
    · rw [identifiers]
      exact d.identifiers_nodup
    · rw [starts]
      exact d.start_unique
    · rw [stops]
      exact d.stop_unique

end Record

namespace Session

/-- **The nodes of a session are told apart exactly if those of its record are.** Whatever the
record is, the session opens on it and the name of its graph is a name. -/
theorem distinct_iff_of_accepted {data : Utf8.Octets} {g : Graph Number}
    (accepted : Graph.ofOctets data = .ok g) (l : Json.Layout) (setup : Setup Number) :
    ∃ opened s fs vs,
      openWith (onStore setup (.inMemory (some data) l)) = .ok opened ∧
      Utf8.decode data = .ok s ∧ Json.read s.toList = .ok (.object fs) ∧
      Record.items (Record.optional fs "nodes") = .ok vs ∧
      Identifier.isName opened.session.graph.name = true ∧
      (opened.session.graph.Distinct ↔ Record.Distinct vs) := by
  obtain ⟨s, v, text, read, record⟩ := Record.exists_of_ofOctets_eq_ok accepted
  obtain ⟨fs, vs, raw, rfl, listed, nodes, name⟩ := Record.graph_eq_ok record
  refine ⟨⟨start (onStore setup (.inMemory (some data) l)) g, false⟩, s, fs, vs, ?_, text, read,
    listed, ?_, ?_⟩
  · rw [openWith_onStore, Store.load_of_ofOctets_eq_ok (Store.holding_inMemory data l) accepted]
    rfl
  · change Identifier.isName g.name = true
    rw [name]
    exact Identifier.isName_ofGraphName raw
  · exact Record.distinct_iff nodes

/-- A session opens on a record that gives two nodes one name. -/
theorem distinct_iff_of_sharedName :
    Graph.ofOctets (Utf8.encode sharedName) = .ok sharedGraph ∧
      ∃ opened s fs vs,
        openWith (onStore bare (.inMemory (some (Utf8.encode sharedName)) .compact)) = .ok opened ∧
        Utf8.decode (Utf8.encode sharedName) = .ok s ∧ Json.read s.toList = .ok (.object fs) ∧
        Record.items (Record.optional fs "nodes") = .ok vs ∧
        Identifier.isName opened.session.graph.name = true ∧
        (opened.session.graph.Distinct ↔ Record.Distinct vs) :=
  ⟨ofOctets_sharedName, distinct_iff_of_accepted ofOctets_sharedName .compact bare⟩

/-- The nodes of that session are not told apart. -/
theorem not_distinct_sharedName :
    Graph.ofOctets (Utf8.encode sharedName) = .ok sharedGraph ∧
      ∃ opened,
        openWith (onStore bare (.inMemory (some (Utf8.encode sharedName)) .compact)) = .ok opened ∧
        ¬ opened.session.graph.Distinct := by
  have opens : openWith (onStore bare (.inMemory (some (Utf8.encode sharedName)) .compact)) =
      .ok ⟨start (onStore bare (.inMemory (some (Utf8.encode sharedName)) .compact)) sharedGraph,
        false⟩ := by
    rw [openWith_onStore,
      Store.load_of_ofOctets_eq_ok (Store.holding_inMemory _ _) ofOctets_sharedName]
    rfl
  refine ⟨ofOctets_sharedName, _, opens, fun distinct => ?_⟩
  -- the identifiers are `x` and `x`
  exact absurd distinct.identifiers_nodup (by decide)

end Session

end FlowCanvas
