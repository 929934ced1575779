import FlowCanvas.Proofs.Graph.Identifier
import FlowCanvas.Proofs.Session.History

/-!
# Names stay safe

A graph is name-safe if an id tells the node, an identifier tells the node and can stand in code,
and the names `start` and `end` belong to the one START and the one END and to nobody else. Every
edit keeps a graph name-safe (`Graph.NameSafe.edited`) as long as a new node gets a new id, and so
does every history of a session.

The invariant is joint. A rename puts a node in the place of all nodes with its id, so identifiers
stay different only because ids are; and a START or an END that comes late collides with nothing
only because its name has been reserved in all edits before.
-/

namespace FlowCanvas

universe u

/-- The names of a graph are safe: its nodes are told apart, and the two fixed names are in the
right hands. -/
structure Graph.NameSafe {α : Type u} (g : Graph α) : Prop extends g.Distinct where
  /-- START is called `start`, and nobody else is -/
  start_iff : ∀ n ∈ g.nodes, n.identifier = "start" ↔ n.category = .start
  /-- END is called `end`, and nobody else is -/
  stop_iff : ∀ n ∈ g.nodes, n.identifier = "end" ↔ n.category = .stop

namespace Identifier

/-! ### Fixed names -/

theorem isTerminal_eq_isSome_fixed? (c : Category) : c.isTerminal = (fixed? c).isSome := by
  cases c <;> rfl

theorem fixed?_eq_none {c : Category} (h : c.isTerminal = false) : fixed? c = none := by
  rw [isTerminal_eq_isSome_fixed?] at h
  simpa using h

theorem mem_reserved_of_fixed? {c : Category} {name : String} (h : fixed? c = some name) :
    name ∈ reserved := by
  cases c <;> cases h <;> decide

/-- A fixed name tells the category. -/
theorem fixed?_injective {c d : Category} {name : String} (hc : fixed? c = some name)
    (hd : fixed? d = some name) : c = d := by
  cases c <;> cases hc <;> cases d <;> first | rfl | exact absurd hd (by decide)

end Identifier

namespace Graph

open Identifier

variable {α : Type u}

/-- A node bears a fixed name exactly if it is of the category that the name is fixed for. -/
def HoldsOwnName (n : Node α) : Prop :=
  ∀ c name, fixed? c = some name → (n.identifier = name ↔ n.category = c)

theorem holdsOwnName_iff {n : Node α} :
    HoldsOwnName n ↔
      (n.identifier = "start" ↔ n.category = .start) ∧
        (n.identifier = "end" ↔ n.category = .stop) := by
  constructor
  · intro h
    exact ⟨h .start "start" rfl, h .stop "end" rfl⟩
  · rintro ⟨hstart, hstop⟩ c name hc
    cases c <;> cases hc
    · exact hstart
    · exact hstop

/-- A node without a fixed name, called by none of the reserved names. -/
theorem HoldsOwnName.of_not_mem_reserved {n : Node α} (hfixed : fixed? n.category = none)
    (hfree : n.identifier ∉ reserved) : HoldsOwnName n := by
  intro c name hc
  constructor
  · rintro rfl
    exact absurd (mem_reserved_of_fixed? hc) hfree
  · rintro rfl
    rw [hc] at hfixed
    cases hfixed

theorem HoldsOwnName.of_fixed? {n : Node α} (h : fixed? n.category = some n.identifier) :
    HoldsOwnName n := by
  intro c name hc
  constructor
  · rintro rfl
    exact fixed?_injective h hc
  · rintro rfl
    rw [hc] at h
    exact (Option.some.inj h).symm

/-- Nodes of a category with a fixed name all bear it, so there is at most one if identifiers are
different. -/
theorem length_filter_category_le_one {nodes : List (Node α)} {c : Category} {name : String}
    (hc : fixed? c = some name) (hids : (nodes.map Node.identifier).Nodup)
    (hown : ∀ n ∈ nodes, HoldsOwnName n) :
    (nodes.filter fun n => n.category = c).length ≤ 1 := by
  have hsame : (nodes.filter fun n => n.category = c) =
      nodes.filter fun n => n.identifier == name := by
    refine List.filter_congr fun n hn => ?_
    have hiff := hown n hn c name hc
    by_cases h : n.category = c
    · simp [h, hiff.mpr h]
    · simp [h, mt hiff.mp h]
  have hcount : (nodes.map Node.identifier).count name ≤ 1 :=
    List.nodup_iff_count_le_one.mp hids name
  rw [List.count, List.countP_map] at hcount
  rw [hsame, ← List.countP_eq_length_filter]
  exact hcount

/-- What is left to show of a name-safe graph. -/
theorem NameSafe.of_holdsOwnName {g : Graph α} (hids : (g.nodes.map Node.id).Nodup)
    (hidentifiers : (g.nodes.map Node.identifier).Nodup)
    (hname : ∀ n ∈ g.nodes, isName n.identifier = true)
    (hown : ∀ n ∈ g.nodes, HoldsOwnName n) : g.NameSafe where
  ids_nodup := hids
  identifiers_nodup := hidentifiers
  isName_identifier := hname
  start_unique :=
    length_filter_category_le_one (rfl : fixed? .start = some "start") hidentifiers hown
  stop_unique := length_filter_category_le_one (rfl : fixed? .stop = some "end") hidentifiers hown
  start_iff n hn := (holdsOwnName_iff.mp (hown n hn)).1
  stop_iff n hn := (holdsOwnName_iff.mp (hown n hn)).2

namespace NameSafe

variable {g : Graph α}

theorem holdsOwnName (hs : g.NameSafe) : ∀ n ∈ g.nodes, HoldsOwnName n := fun n hn =>
  holdsOwnName_iff.mpr ⟨hs.start_iff n hn, hs.stop_iff n hn⟩

/-! ### Edits -/

/-- Only the nodes count. -/
theorem of_nodes_eq {h : Graph α} (hs : g.NameSafe) (hnodes : h.nodes = g.nodes) :
    h.NameSafe where
  ids_nodup := hnodes ▸ hs.ids_nodup
  identifiers_nodup := hnodes ▸ hs.identifiers_nodup
  isName_identifier := hnodes ▸ hs.isName_identifier
  start_unique := hnodes ▸ hs.start_unique
  stop_unique := hnodes ▸ hs.stop_unique
  start_iff := hnodes ▸ hs.start_iff
  stop_iff := hnodes ▸ hs.stop_iff

theorem removeNodes (hs : g.NameSafe) (ids : List String) : (g.removeNodes ids).NameSafe := by
  have hsub : (g.removeNodes ids).nodes.Sublist g.nodes := List.filter_sublist
  exact .of_holdsOwnName (hs.ids_nodup.sublist (hsub.map _))
    (hs.identifiers_nodup.sublist (hsub.map _))
    (fun n hn => hs.isName_identifier n (hsub.subset hn))
    (fun n hn => hs.holdsOwnName n (hsub.subset hn))

/-- A node is added under a new id, with an identifier that is free. -/
theorem addNode {n : Node α} (hs : g.NameSafe) (hid : g.has n.id = false)
    (hfree : n.identifier ∉ g.nodes.map Node.identifier) (hname : isName n.identifier = true)
    (hown : HoldsOwnName n) : (g.addNode n).NameSafe := by
  refine .of_holdsOwnName ?_ ?_ ?_ ?_
  · exact nodup_map_addNode hs.ids_nodup (has_eq_false_iff.mp hid)
  · exact nodup_map_addNode hs.identifiers_nodup hfree
  · exact forall_mem_addNode.mpr ⟨hs.isName_identifier, hname⟩
  · exact forall_mem_addNode.mpr ⟨hs.holdsOwnName, hown⟩

/-- A node is put in the place of the one with its id, with an identifier that no other node has. -/
theorem setNode {n m : Node α} (hs : g.NameSafe) (hn : n ∈ g.nodes) (hid : m.id = n.id)
    (hfree : ∀ k ∈ g.nodes, k ≠ n → k.identifier ≠ m.identifier)
    (hname : isName m.identifier = true) (hown : HoldsOwnName m) : (g.setNode m).NameSafe := by
  have hother : ∀ k ∈ g.nodes, k.id = m.id → k = n := fun k hk hkid =>
    eq_of_id_eq hs.ids_nodup hk hn (hkid.trans hid)
  refine .of_holdsOwnName ?_ ?_ ?_ ?_
  · rw [setNode_map_nodes hs.ids_nodup hn hid hid]
    exact hs.ids_nodup
  · have hboth :=
      (List.pairwise_map.mp hs.ids_nodup).and (List.pairwise_map.mp hs.identifiers_nodup)
    rw [setNode_nodes, List.Nodup, List.map_map, List.pairwise_map]
    refine hboth.imp_of_mem fun {a b} ha hb hab => ?_
    obtain ⟨habid, habname⟩ := hab
    simp only [Function.comp_apply]
    -- at most one of the two is the node that is replaced
    split
    · next haid =>
      rw [if_neg fun hbid : b.id = m.id => habid (haid.trans hbid.symm)]
      refine (hfree b hb fun hbn => ?_).symm
      rw [hother a ha haid, hbn] at habid
      exact habid rfl
    · next haid =>
      split
      · exact hfree a ha fun han => haid (by rw [han, hid])
      · exact habname
  · exact forall_mem_setNode hs.isName_identifier hname
  · exact forall_mem_setNode hs.holdsOwnName hown

/-- A node is put in the place of the one with its id, with the same names. -/
theorem setNode_of_identifier_eq {n m : Node α} (hs : g.NameSafe) (hn : n ∈ g.nodes)
    (hid : m.id = n.id) (hidentifier : m.identifier = n.identifier)
    (hcategory : m.category = n.category) : (g.setNode m).NameSafe := by
  refine hs.setNode hn hid (fun k hk hkn h => hkn ?_) ?_ fun c name hc => ?_
  · exact List.inj_on_of_nodup_map hs.identifiers_nodup hk hn (h.trans hidentifier)
  · rw [hidentifier]
    exact hs.isName_identifier n hn
  · rw [hidentifier, hcategory]
    exact hs.holdsOwnName n hn c name hc

/-- A minted identifier is free, and it is a name that the new node may bear. -/
theorem newNode_free [Scalar α] (hs : g.NameSafe) {c : Category} (id label : String)
    (position : Option (Point α)) (hfree : g.isTaken c = false) :
    (g.newNode c id label position).identifier ∉ g.nodes.map Node.identifier ∧
      HoldsOwnName (g.newNode c id label position) := by
  rcases hfixed : fixed? c with - | name
  · -- a free name that is not reserved either
    have hval : (g.newNode c id label position).identifier =
        unique (taken g.nodes none) (base label) := ofLabel_of_fixed?_none hfixed
    have hnot := unique_not_mem (taken g.nodes none) (base label)
    rw [← hval] at hnot
    refine ⟨fun hmem => hnot ?_, .of_not_mem_reserved hfixed fun hmem => hnot ?_⟩
    · obtain ⟨m, hm, hmid⟩ := List.mem_map.mp hmem
      exact hmid ▸ mem_taken hm nofun
    · exact reserved_subset_taken _ _ hmem
  · -- nobody is of this category, so nobody bears its name
    have hval : (g.newNode c id label position).identifier = name := by
      simp only [newNode, ofLabel, Option.bind_some, hfixed]
    refine ⟨fun hmem => ?_, .of_fixed? (hval ▸ hfixed)⟩
    obtain ⟨m, hm, hmid⟩ := List.mem_map.mp hmem
    have hcategory : m.category = c :=
      (hs.holdsOwnName m hm c name hfixed).mp (hmid.trans hval)
    have hterminal : c.isTerminal = true := by
      rw [isTerminal_eq_isSome_fixed?, hfixed]
      rfl
    simp only [isTaken, hterminal, Bool.true_and, first?, Option.isSome_eq_false_iff,
      Option.isNone_iff_eq_none, List.find?_eq_none] at hfree
    exact hfree m hm (by simpa using hcategory)

/-- A node that is not terminal gets another label, and an identifier that is free. -/
theorem relabel {n : Node α} {label identifier : String} (hs : g.NameSafe)
    (hn : g.node? n.id = some n) (hterminal : n.category.isTerminal = false)
    (hname : isName identifier = true) (hfree : identifier ∉ taken g.nodes (some n.id)) :
    (g.setNode { n with label := label, identifier := identifier }).NameSafe := by
  refine hs.setNode (mem_of_node? hn) rfl (fun k hk hkn h => hfree ?_) hname ?_
  · obtain rfl : k.identifier = identifier := h
    refine mem_taken hk fun hid => hkn ?_
    exact eq_of_id_eq hs.ids_nodup hk (mem_of_node? hn) (Option.some.inj hid).symm
  · exact .of_not_mem_reserved (fixed?_eq_none hterminal)
      fun hmem => hfree (reserved_subset_taken _ _ hmem)

theorem initial [Scalar α] : (Graph.initial : Graph α).NameSafe := by
  refine .of_holdsOwnName (List.nodup_singleton _) (List.nodup_singleton _) ?_ ?_
  · intro n hn
    rw [List.mem_singleton.mp hn]
    exact (by decide : isName "start" = true)
  · intro n hn
    rw [List.mem_singleton.mp hn]
    exact .of_fixed? rfl

/-- **Edits keep names safe**, if a new node gets a new id. -/
theorem edited [Scalar α] {drawn : Option String} {h : Graph α} (hs : g.NameSafe)
    (hdrawn : ∀ id ∈ drawn, g.has id = false) (he : g.Edited drawn h) :
    h.NameSafe := by
  cases he with
  | addNode position hfree hlabel =>
    obtain ⟨hidentifier, hown⟩ := hs.newNode_free _ _ position hfree
    exact hs.addNode (hdrawn _ rfl) hidentifier (isName_ofLabel ..) hown
  | renameNode hn hterminal hlabel =>
    refine hs.relabel hn hterminal (isName_ofLabel ..) ?_
    rw [ofLabel_of_fixed?_none rfl]
    exact unique_not_mem _ _
  | @moveNode n position hn =>
    have hset : (g.setNode { n with position := position }).NameSafe :=
      hs.setNode_of_identifier_eq (mem_of_node? hn) rfl rfl rfl
    exact hset.of_nodes_eq (recenter_nodes _ _)
  | removeNodes hids => exact hs.removeNodes _
  | connect hsource htarget hstop hstart hnone =>
    exact hs.of_nodes_eq ((recenter_nodes _ _).trans (addEdge_nodes _ _))
  | removeEdges hids => exact hs.of_nodes_eq (removeEdges_nodes _ _)
  | pinControl point hedge => exact hs.of_nodes_eq (setEdge_nodes _ _)
  | setName raw => exact hs.of_nodes_eq (rename_nodes _ _)
  | reset => exact NameSafe.initial

end NameSafe

end Graph

/-! ### Histories -/

namespace Session

variable {α : Type} [Scalar α] [StateFormat α]

/-- A history draws new ids: no drawn id is the id of a node of the graph that it is drawn for. -/
abbrev DrawsNew (s : Session α) (calls : List (Call α)) : Prop :=
  s.Draws (fun g id => g.has id = false) calls

theorem nameSafe_after (s : Session α) (calls : List (Call α)) (hs : s.graph.NameSafe)
    (hnew : s.DrawsNew calls) : (s.after calls).graph.NameSafe :=
  after_induction (P := Graph.NameSafe) (fun _ h => h.of_nodes_eq rfl)
    (fun _ _ _ hdrawn he h => h.edited hdrawn he) calls s hs hnew

/-- **Names stay safe.** The graph of a fresh canvas is name-safe, and from any session with a
name-safe graph every history that draws new ids leaves the graph name-safe after each of its calls.
-/
theorem nameSafe_initial_and_after_each :
    (Graph.initial : Graph α).NameSafe ∧
      ∀ (s : Session α) (calls : List (Call α)), s.graph.NameSafe → s.DrawsNew calls →
        ∀ done, done <+: calls → (s.after done).graph.NameSafe :=
  ⟨.initial, fun s _ hs hnew done hdone => s.nameSafe_after done hs (hnew.of_isPrefix hdone)⟩

/-- A node that would like to be called `start`, an END that comes late, and a rename to `end`: the
names that are reserved are given to nobody else. -/
theorem nameSafe_after_reserved_labels :
    let s : Session Number :=
      .start ⟨none, none, .of [] false, none, .counting⟩ Graph.initial
    let calls : List (Call Number) :=
      [.addNode "action" none (some "start"), .addNode "end" none none,
        .renameNode "action-00000001" "end"]
    s.graph.NameSafe ∧ s.DrawsNew calls ∧ (s.after calls).graph.NameSafe ∧
      (s.after calls).graph.nodes.map Node.identifier = ["start", "end_1", "end"] := by
  intro s calls
  have hs : s.graph.NameSafe := Graph.NameSafe.initial.of_nodes_eq rfl
  have hnew : s.DrawsNew calls := by decide
  exact ⟨hs, hnew,
    nameSafe_initial_and_after_each.2 s calls hs hnew calls (List.prefix_refl calls), by decide⟩

end Session

end FlowCanvas
