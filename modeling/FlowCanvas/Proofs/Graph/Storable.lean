import FlowCanvas.Proofs.Graph.RoundTrip
import FlowCanvas.Proofs.Session.History

/-!
# Graphs that stay storable

Every edit that is given doubles for its points keeps a graph storable, and so does each plan, which
answers storable nodes (`Plan.Keeps`). The control points that an edit works out are doubles,
because a half is one whatever it is the half of.
-/

namespace FlowCanvas

namespace Graph

variable {g : Graph Number}

theorem isStorable_initial : (initial : Graph Number).IsStorable where
  nodes := by
    have hundred : Binary64.integerValue? (Binary64.ofInt 100) = some 100 := by decide +kernel
    exact List.forall_mem_singleton.2 ⟨⟨hundred, hundred⟩, .string _⟩
  edges := List.forall_mem_nil _
  entryPoint := .null
  name := by decide

namespace IsStorable

theorem addNode (h : g.IsStorable) {n : Node Number} (hn : n.IsStorable) :
    (g.addNode n).IsStorable :=
  ⟨List.forall_mem_append.2 ⟨h.nodes, List.forall_mem_singleton.2 hn⟩, h.edges, h.entryPoint,
    h.name⟩

theorem setNode (h : g.IsStorable) {n : Node Number} (hn : n.IsStorable) :
    (g.setNode n).IsStorable := by
  refine ⟨List.forall_mem_map.2 fun m hm => ?_, h.edges, h.entryPoint, h.name⟩
  split
  · exact hn
  · exact h.nodes m hm

theorem removeNodes (h : g.IsStorable) (ids : List String) : (g.removeNodes ids).IsStorable :=
  ⟨fun n hn => h.nodes n (List.mem_of_mem_filter hn),
    fun e he => h.edges e (List.mem_of_mem_filter he), h.entryPoint, h.name⟩

theorem addEdge (h : g.IsStorable) {e : Edge Number} (he : e.IsStorable) :
    (g.addEdge e).IsStorable :=
  ⟨h.nodes, List.forall_mem_append.2 ⟨h.edges, List.forall_mem_singleton.2 he⟩, h.entryPoint,
    h.name⟩

theorem setEdge (h : g.IsStorable) {e : Edge Number} (he : e.IsStorable) :
    (g.setEdge e).IsStorable := by
  refine ⟨h.nodes, List.forall_mem_map.2 fun d hd => ?_, h.entryPoint, h.name⟩
  split
  · exact he
  · exact h.edges d hd

theorem removeEdges (h : g.IsStorable) (ids : List String) : (g.removeEdges ids).IsStorable :=
  ⟨h.nodes, fun e he => h.edges e (List.mem_of_mem_filter he), h.entryPoint, h.name⟩

theorem rename (h : g.IsStorable) {name : String} (hname : Identifier.isName name = true) :
    (g.rename name).IsStorable := ⟨h.nodes, h.edges, h.entryPoint, hname⟩

theorem syncEntry (h : g.IsStorable) : g.syncEntry.IsStorable := by
  refine ⟨h.nodes, h.edges, ?_, h.name⟩
  change Json.Readable 989 g.entryName
  unfold entryName
  split
  · exact .string _
  · exact .null

theorem recenter (h : g.IsStorable) (ids : Option (List String)) :
    (g.recenter ids).IsStorable := by
  rw [recenter_eq_foldl]
  refine List.foldlRecOn g.edges (motive := IsStorable) _ h fun k hk e _ => ?_
  unfold recenterStep
  split
  · next f hf =>
    obtain ⟨-, a, -, rfl⟩ := recentered?_eq_some hf
    apply hk.setEdge
    rintro p ⟨⟩
    exact ⟨trivial, trivial⟩
  · exact hk

end IsStorable

end Graph

/-! ### Plans -/

/-- What an accepted plan puts in place can be stored, and what it answers satisfies `Q`. -/
def Plan.Keeps {β : Type} (Q : β → Prop) (plan : Except Rejection (Plan Number β)) : Prop :=
  ∀ p, plan = .ok p → (∀ c ∈ p.change, c.graph.IsStorable) ∧ Q p.answer

theorem Plan.keeps_some {P : Prop} {c : Change Number} (hc : c.graph.IsStorable) (hp : P) :
    (∀ d ∈ some c, d.graph.IsStorable) ∧ P := by
  refine ⟨?_, hp⟩
  rintro _ ⟨⟩
  exact hc

namespace Graph.IsStorable

variable {g : Graph Number}

theorem of_requireNode (h : g.IsStorable) {id : String} {n : Node Number}
    (hn : g.requireNode id = .ok n) : n.IsStorable :=
  h.nodes n (mem_of_node? (requireNode_eq_ok hn).2)

theorem newNode (g : Graph Number) (c : Category) (id label : String)
    {position : Option (Point Number)} (real : ∀ p ∈ position, p.IsReal) :
    (g.newNode c id label position).IsStorable where
  position := by
    cases position with
    | none => exact Point.isExact_origin
    | some p => exact (real p rfl).isExact
  implementation := by
    change Json.Readable 987 ((c.defaultImplementation.map Json.string).getD .null)
    cases c.defaultImplementation with
    | none => exact .null
    | some s => exact .string s

theorem planAdd (h : g.IsStorable) (c : Category) (id : String) {position : Option (Point Number)}
    (real : ∀ p ∈ position, p.IsReal) (label : Option String) :
    Plan.Keeps Node.IsStorable (g.planAdd c id position label) := by
  intro p hp
  obtain ⟨label, -, rfl⟩ := Result.exists_of_map_eq_ok hp
  have added := newNode g c id label real
  exact Plan.keeps_some (h.addNode added) added

theorem planRename (h : g.IsStorable) (id text : String) :
    Plan.Keeps Node.IsStorable (g.planRename id text) := by
  intro p hp
  obtain ⟨n, hn, hp⟩ := Result.exists_of_bind_eq_ok hp
  have stored := h.of_requireNode hn
  split at hp
  · cases hp
  · obtain ⟨label, -, rfl⟩ := Result.exists_of_map_eq_ok hp
    have renamed : Node.IsStorable { n with
        label := label
        identifier := Identifier.ofLabel label g.nodes (some id) none } :=
      ⟨stored.position, stored.implementation⟩
    exact Plan.keeps_some (h.setNode renamed) renamed

theorem planMove (h : g.IsStorable) (id : String) {position : Point Number}
    (real : position.IsReal) : Plan.Keeps Node.IsStorable (g.planMove id position) := by
  intro p hp
  obtain ⟨n, hn, rfl⟩ := Result.exists_of_map_eq_ok hp
  have moved : Node.IsStorable { n with position := position } :=
    ⟨real.isExact, (h.of_requireNode hn).implementation⟩
  exact Plan.keeps_some ((h.setNode moved).recenter _) moved

theorem planRemoveNodes (h : g.IsStorable) (ids : List String) :
    Plan.Keeps (fun _ => True) (g.planRemoveNodes ids) := by
  intro p hp
  obtain ⟨_, -, rfl⟩ := Result.exists_of_map_eq_ok hp
  exact Plan.keeps_some (h.removeNodes ids) trivial

theorem planConnect (h : g.IsStorable) (source target : String) :
    Plan.Keeps (fun _ => True) (g.planConnect source target) := by
  intro p hp
  obtain ⟨s, -, hp⟩ := Result.exists_of_bind_eq_ok hp
  obtain ⟨t, -, hp⟩ := Result.exists_of_bind_eq_ok hp
  split at hp
  · cases hp
  split at hp
  · cases hp
  split at hp
  · cases hp
    exact ⟨nofun, trivial⟩
  · cases hp
    have fresh : (newEdge source target : Edge Number).IsStorable := by rintro p ⟨⟩
    exact Plan.keeps_some ((h.addEdge fresh).recenter _) trivial

theorem planRemoveEdges (h : g.IsStorable) (ids : List String) :
    Plan.Keeps (fun _ => True) (g.planRemoveEdges ids) := by
  intro p hp
  obtain ⟨_, -, rfl⟩ := Result.exists_of_map_eq_ok hp
  exact Plan.keeps_some (h.removeEdges ids) trivial

theorem planPin (h : g.IsStorable) (id : String) {point : Point Number} (real : point.IsReal) :
    Plan.Keeps (fun _ => True) (g.planPin id point) := by
  intro p hp
  obtain ⟨e, -, rfl⟩ := Result.exists_of_map_eq_ok hp
  refine Plan.keeps_some (h.setEdge ?_) trivial
  rintro q ⟨⟩
  exact real

theorem planName (h : g.IsStorable) (raw : String) :
    Plan.Keeps (fun _ => True) (.ok (g.planName raw)) := by
  intro p hp
  cases hp
  exact Plan.keeps_some (h.rename (Identifier.isName_ofGraphName raw)) trivial

end Graph.IsStorable

end FlowCanvas
