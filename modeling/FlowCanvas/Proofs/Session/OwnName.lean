import FlowCanvas.Proofs.Graph.Minting
import FlowCanvas.Proofs.Session.Naming
import FlowCanvas.Proofs.Session.Order

/-!
# A node under its own name

An identifier is a name that is free, and a name that is free is a fixed point of naming: taken for
a label it yields itself (`Identifier.ofLabel_ofLabel`). So a node can be given its own identifier
for a label. That name counts as free, because the node that is renamed is left out of those that
have taken names, and because no other node has it. All that changes is what is shown on the node
(`Session.renameNode_identifier`), and code does not show that.
-/

namespace FlowCanvas

universe u

/-- Ids and identifiers tell the nodes apart, and a node that can be renamed has an identifier that
it could have been given. -/
structure Graph.OwnsNames {α : Type u} (g : Graph α) : Prop where
  /-- no two nodes have one id -/
  ids_nodup : (g.nodes.map Node.id).Nodup
  /-- no two nodes have one identifier -/
  identifiers_nodup : (g.nodes.map Node.identifier).Nodup
  /-- the identifier is one that code can hold -/
  isName : ∀ n ∈ g.nodes, n.category.isTerminal = false → Identifier.isName n.identifier = true
  /-- the identifier is not that of START -/
  ne_start : ∀ n ∈ g.nodes, n.category.isTerminal = false → n.identifier ≠ "start"
  /-- the identifier is not that of END -/
  ne_end : ∀ n ∈ g.nodes, n.category.isTerminal = false → n.identifier ≠ "end"

namespace Graph

variable {α : Type u} {g : Graph α}

/-- A session that keeps its names safe has nothing else. -/
theorem NameSafe.ownsNames (safe : g.NameSafe) : g.OwnsNames where
  ids_nodup := safe.ids_nodup
  identifiers_nodup := safe.identifiers_nodup
  isName n hn _ := safe.isName_identifier n hn
  ne_start n hn free start := by
    rw [(safe.start_iff n hn).mp start] at free
    cases free
  ne_end n hn free stop := by
    rw [(safe.stop_iff n hn).mp stop] at free
    cases free

/-- The identifier of a node is free for this node. -/
theorem OwnsNames.isFree (named : g.OwnsNames) {n : Node α} (hn : n ∈ g.nodes)
    (free : n.category.isTerminal = false) :
    Identifier.IsFree g.nodes (some n.id) n.identifier where
  ne_start := named.ne_start n hn free
  ne_end := named.ne_end n hn free
  ne_identifier m hm other same := by
    obtain rfl : m = n := List.inj_on_of_nodup_map named.identifiers_nodup hm hn same
    exact other rfl

/-- A name is a label as it is. -/
theorem requireLabel_of_isName {name : String} (h : Identifier.isName name = true)
    (node : String) : requireLabel node name = .ok name := by
  obtain ⟨nonempty, safe⟩ := Identifier.isName_iff.mp h
  have solid : ∀ c ∈ name.toList, Text.isBlank c = false :=
    fun c hc => Identifier.isBlank_of_isSafe (safe c hc)
  rw [requireLabel, Text.trim_eq_self solid, String.ofList_toList, if_neg nonempty]

/-- A node that is there and has a choice can be renamed to what leaves a label. -/
theorem exists_planRename_eq_ok {n : Node α} {text label : String} (hn : g.node? n.id = some n)
    (free : n.category.isTerminal = false) (hlabel : requireLabel n.id text = .ok label) :
    ∃ p, g.planRename n.id text = .ok p := by
  rw [planRename, requireNode, hn]
  simp only [Except.bind, free, Bool.false_eq_true, if_false, hlabel]
  exact ⟨_, rfl⟩

/-- What is shown on a node is not shown in code, nor does it decide about the entry. -/
theorem exists_isKept_label {n : Node α} (hn : g.node? n.id = some n)
    (hids : (g.nodes.map Node.id).Nodup) (label : String) :
    ∃ φ, g.setNode { n with label := label } = g.mapped φ id ∧ g.IsKept id φ id := by
  refine ⟨fun m => if m.id = n.id then { m with label := label } else m, ?_, ?_⟩
  · refine eq_of_parts ?_ g.edges.map_id.symm rfl rfl
    exact setNode_nodes_eq hids hn (f := fun m => { m with label := label }) rfl
  · exact isKept_ite (fun _ => ⟨rfl, rfl, rfl, rfl⟩) (fun _ => rfl) fun _ => rfl

end Graph

namespace Identifier

variable {α : Type u}

/-- **Naming is idempotent.** The identifier of a label, taken for a label, yields itself, among the
same nodes and with the same one left out. -/
theorem ofLabel_ofLabel (label : String) (nodes : List (Node α)) (except : Option String)
    {category again : Option Category} (hcategory : category.bind fixed? = none)
    (hagain : again.bind fixed? = none) :
    ofLabel (ofLabel label nodes except category) nodes except again =
      ofLabel label nodes except category :=
  ofLabel_eq_self hagain (isName_ofLabel label nodes except category)
    (isFree_ofLabel hcategory label nodes except)

end Identifier

namespace Session

variable {α : Type} [Scalar α] [StateFormat α] {s : Session α}

/-- **A node under its own name**: the rename is accepted, and it changes the label of the node and
nothing else in the graph. -/
theorem renameNode_identifier (views : s.InStep) (named : s.graph.OwnsNames) {n : Node α}
    (hn : n ∈ s.graph.nodes) (free : n.category.isTerminal = false) :
    (s.run (.renameNode n.id n.identifier)).isRefused = false ∧
      (s.run (.renameNode n.id n.identifier)).state.graph =
        s.graph.setNode { n with label := n.identifier } := by
  have isName := named.isName n hn free
  have found : s.graph.node? n.id = some n := Graph.node?_of_mem named.ids_nodup hn
  have asked := Graph.requireLabel_of_isName isName n.id
  have accepted : (s.run (.renameNode n.id n.identifier)).isRefused = false := by
    obtain ⟨p, plan⟩ := Graph.exists_planRename_eq_ok found free asked
    exact (Outcome.isRefused_map _ _).trans (Editor.carryOut_not_refused plan)
  refine ⟨accepted, ?_⟩
  obtain ⟨m, label, hid, hm, -, hlabel, graph⟩ := renameNode_accepted accepted
  rw [hid, found] at hm
  obtain rfl := Option.some.inj hm
  obtain rfl := Except.ok.inj (asked.symm.trans hlabel)
  have same : Identifier.ofLabel n.identifier s.graph.nodes (some n.id) none = n.identifier :=
    Identifier.ofLabel_eq_self rfl isName (named.isFree hn free)
  obtain ⟨φ, mapped, kept⟩ :=
    Graph.exists_isKept_label found named.ids_nodup n.identifier
  have synced : (s.graph.setNode { n with label := n.identifier }).IsSynced := by
    rw [mapped]
    exact views.synced.trans kept.entryName_mapped.symm
  rw [graph, same]
  exact synced.syncEntry_eq

/-- **Naming is stable.** Among any nodes, with any node left out, and for categories without a
fixed name, the identifier of a label is its own identifier. So whatever a session has been opened
on and has been through, if its nodes own their names then each of them can be renamed to its
identifier. That leaves all identifiers and the code as they are: only the label is another one. -/
theorem naming_stable :
    (∀ (label : String) (nodes : List (Node α)) (except : Option String)
      (category again : Option Category), category ≠ some .start → category ≠ some .stop →
        again ≠ some .start → again ≠ some .stop →
        let name := Identifier.ofLabel label nodes except category
        Identifier.ofLabel name nodes except again = name) ∧
      ∀ (setup : Setup α) (opened : Opened α), openWith setup = .ok opened →
        ∀ calls : List (Call α),
          let s := opened.session.after calls
          s.graph.OwnsNames → ∀ n ∈ s.graph.nodes, n.category.isTerminal = false →
            let t := s.run (.renameNode n.id n.identifier)
            t.isRefused = false ∧
              t.state.graph = s.graph.setNode { n with label := n.identifier } ∧
              t.state.graph.nodes.map Node.identifier = s.graph.nodes.map Node.identifier ∧
              t.state.code = s.code := by
  constructor
  · intro label nodes except category again hstart hstop hstart' hstop'
    exact Identifier.ofLabel_ofLabel label nodes except
      (Identifier.bind_fixed?_eq_none hstart hstop) (Identifier.bind_fixed?_eq_none hstart' hstop')
  · intro setup opened h calls s named n hn free t
    have views : s.InStep := (inStep_of_openWith h).after calls
    obtain ⟨accepted, graph⟩ := renameNode_identifier views named hn free
    have found := Graph.node?_of_mem named.ids_nodup hn
    refine ⟨accepted, graph, ?_, ?_⟩
    · rw [graph]
      exact Graph.setNode_map_nodes (m := { n with label := n.identifier }) named.ids_nodup hn rfl
        rfl
    · obtain ⟨φ, mapped, kept⟩ := Graph.exists_isKept_label found named.ids_nodup n.identifier
      rw [(views.run _).code, views.code, graph, mapped]
      exact kept.source_mapped

/-- Two labels that are cleaned to one name, so that the second node has a number behind it, and
this node under its own name. -/
theorem naming_stable_numbered :
    let setup : Setup Number := ⟨none, none, .of [] false, none, .counting⟩
    let calls : List (Call Number) :=
      [.addNode "action" none (some "My Step!"), .addNode "tool" none (some "My  Step"),
        .connect "start-1" "tool-00000002"]
    let s := start setup Graph.initial
    let t := (s.after calls).run (.renameNode "tool-00000002" "My_Step_1")
    openWith setup = .ok ⟨s, false⟩ ∧ (s.after calls).graph.OwnsNames ∧ t.isRefused = false ∧
      (s.after calls).graph.nodes.map Node.identifier = ["start", "My_Step", "My_Step_1"] ∧
      t.state.graph.nodes.map Node.identifier = ["start", "My_Step", "My_Step_1"] ∧
      t.state.graph.nodes.map Node.label = ["START", "My Step!", "My_Step_1"] ∧
      t.state.code = (s.after calls).code ∧
      Identifier.ofLabel "My_Step_2" (s.after calls).graph.nodes none (some .tool) =
        "My_Step_2" := by
  intro setup calls s t
  have opens : openWith setup = .ok ⟨s, false⟩ := rfl
  have safe : (s.after calls).graph.NameSafe :=
    s.nameSafe_after calls (Graph.NameSafe.initial.of_nodes_eq rfl) (by decide)
  have tool : ∃ n ∈ (s.after calls).graph.nodes, n.category.isTerminal = false ∧
      n.id = "tool-00000002" ∧ n.identifier = "My_Step_1" := by decide +kernel
  obtain ⟨n, hn, free, hid, hname⟩ := tool
  have computed :
      Identifier.ofLabel "My Step" (s.after calls).graph.nodes none (some .tool) = "My_Step_2" := by
    decide +kernel
  obtain ⟨named, stable⟩ := naming_stable (α := Number)
  have again := named "My Step" (s.after calls).graph.nodes none (some .tool) (some .tool)
    nofun nofun nofun nofun
  simp only [computed] at again
  obtain ⟨accepted, -, identifiers, code⟩ := stable setup _ opens calls safe.ownsNames n hn free
  rw [hid, hname] at accepted identifiers code
  have held : (s.after calls).graph.nodes.map Node.identifier = ["start", "My_Step", "My_Step_1"] :=
    by decide +kernel
  exact ⟨opens, safe.ownsNames, accepted, held, identifiers.trans held, by decide +kernel, code,
    again⟩

end Session

end FlowCanvas
