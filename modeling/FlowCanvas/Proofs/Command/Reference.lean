import FlowCanvas.Command.Desk
import FlowCanvas.Proofs.Result
import FlowCanvas.Proofs.Session.Views
import FlowCanvas.Proofs.Session.Wiring

/-!
# References to nodes

Commands refer to a node by its id or by its identifier, and look for an id first. An id has a dash
and an identifier has none, whatever the labels are that it is made from, so no reference means one
node by its id and another one by its identifier. As long as ids and identifiers each tell the
nodes, all nodes are found in both ways (`Session.references_unambiguous`).

A command with a reference that means no node fails with a notice about it, and leaves everything as
it was (`Desk.perform_unknown`).
-/

namespace FlowCanvas

universe u

/-! ### Two name spaces -/

namespace Graph

variable {α : Type u} {g : Graph α}

/-- A reference that means no node. -/
def IsUnknown (g : Graph α) (reference : String) : Prop :=
  ∀ n ∈ g.nodes, n.id ≠ reference ∧ n.identifier ≠ reference

theorem node?_eq_none_iff {id : String} : g.node? id = none ↔ ∀ n ∈ g.nodes, n.id ≠ id := by
  simp [node?]

theorem nodeNamed?_eq_none_iff {identifier : String} :
    g.nodeNamed? identifier = none ↔ ∀ n ∈ g.nodes, n.identifier ≠ identifier := by
  simp [nodeNamed?]

theorem lookup?_eq_none_iff {reference : String} :
    g.lookup? reference = none ↔ g.IsUnknown reference := by
  unfold lookup?
  split
  · next n found =>
    refine iff_of_false nofun fun unknown => ?_
    exact (unknown n (mem_of_node? found)).1 (id_of_node? found)
  · next none =>
    rw [nodeNamed?_eq_none_iff]
    exact ⟨fun named n hn => ⟨node?_eq_none_iff.mp none n hn, named n hn⟩,
      fun unknown n hn => (unknown n hn).2⟩

/-- An id with a dash in it is not a name that code can hold. -/
theorem OneDash.not_isName {id : String} (h : OneDash id) : Identifier.isName id = false := by
  obtain ⟨a, b, -, -, parts⟩ := h
  refine Bool.eq_false_iff.mpr fun name => ?_
  have safe := (Identifier.isName_iff.mp name).2 '-' (by simp [parts])
  exact absurd safe (by decide)

theorem NameSafe.nodeNamed?_of_mem (hg : g.NameSafe) {n : Node α} (hn : n ∈ g.nodes) :
    g.nodeNamed? n.identifier = some n := by
  have there : (g.nodeNamed? n.identifier).isSome = true :=
    List.find?_isSome.mpr ⟨n, hn, beq_self_eq_true _⟩
  obtain ⟨m, hm⟩ := Option.isSome_iff_exists.mp there
  have same : m.identifier = n.identifier := by simpa using List.find?_some hm
  rw [hm, List.inj_on_of_nodup_map hg.identifiers_nodup (List.mem_of_find?_eq_some hm) hn same]

/-- **A node is found by its id and by its identifier.** -/
theorem Tidy.lookup?_of_mem (hg : g.Tidy) {n : Node α} (hn : n ∈ g.nodes) :
    g.lookup? n.id = some n ∧ g.lookup? n.identifier = some n := by
  constructor
  · rw [lookup?, node?_of_mem hg.nameSafe.ids_nodup hn]
  · have noId : g.node? n.identifier = none := by
      refine node?_eq_none_iff.mpr fun m hm same => ?_
      have name := hg.nameSafe.isName_identifier n hn
      rw [← same, (hg.oneDash m hm).not_isName] at name
      cases name
    rw [lookup?, noId]
    exact hg.nameSafe.nodeNamed?_of_mem hn

end Graph

/-! ### Commands that refer to nodes -/

/-- The references of a command to nodes. -/
def Command.references : Command → List String
  | .renameNode node _ => [node]
  | .removeNodes nodes => nodes
  | .moveNode node _ _ => [node]
  | .connect source target => [source, target]
  | _ => []

/-- The end of a command that refers to a node which is not there. -/
def Stop.unknownNode (reference : String) : Stop :=
  .notice ("No node with id or identifier '" ++ reference ++ "'")

namespace Desk

theorem lookup_eq_ok_iff {g : Graph Number} {reference : String} {n : Node Number} :
    lookup g reference = .ok n ↔ g.lookup? reference = some n := by
  unfold lookup
  cases g.lookup? reference with
  | none => exact iff_of_false nofun nofun
  | some m =>
    exact ⟨fun h => congrArg some (Except.ok.inj h), fun h => congrArg _ (Option.some.inj h)⟩

/-- A look-up fails for references that mean no node, and in one way. -/
theorem lookup_eq_error_iff {g : Graph Number} {reference : String} {stop : Stop} :
    lookup g reference = .error stop ↔ g.IsUnknown reference ∧ stop = .unknownNode reference := by
  rw [← Graph.lookup?_eq_none_iff]
  unfold lookup
  cases g.lookup? reference with
  | none => exact ⟨fun h => ⟨rfl, (Except.error.inj h).symm⟩, fun h => congrArg _ h.2.symm⟩
  | some m => exact iff_of_false nofun fun h => nomatch h.1

/-- A look-up of several references fails if one of them means no node: for one that does so. -/
theorem exists_mapM_lookup_eq_error {g : Graph Number} {references : List String}
    {reference : String} (hr : reference ∈ references) (unknown : g.IsUnknown reference) :
    ∃ r ∈ references, g.IsUnknown r ∧ references.mapM (lookup g) = .error (.unknownNode r) := by
  have missed := lookup_eq_error_iff.mpr ⟨unknown, rfl⟩
  cases looked : references.mapM (lookup g) with
  | ok nodes =>
    obtain ⟨n, found⟩ := Result.exists_of_mapM_eq_ok looked reference hr
    rw [found] at missed
    cases missed
  | error stop =>
    obtain ⟨r, there, first⟩ := Result.exists_of_mapM_eq_error looked
    obtain ⟨unknown, rfl⟩ := lookup_eq_error_iff.mp first
    exact ⟨r, there, unknown, rfl⟩

/-! ### Calls that change nothing -/

section Opened

variable {d : Desk} {state : Option String} {path : FilePath} {t : Session Number}

/-- A session that has just been opened leaves the desk as it is. -/
theorem after_of_openStore (hopen : d.openStore none (d.store path) = .ok t) : d.after t = d := by
  unfold openStore at hopen
  split at hopen
  · next opened h =>
    cases hopen
    obtain ⟨g, start⟩ := Session.exists_start_of_openWith h
    rw [start]
    rfl
  · cases hopen

/-- A call that fails at once leaves the desk as it is. -/
theorem withSession_eq_failed (hplace : d.place state = .ok path)
    (hopen : d.openStore none (d.store path) = .ok t)
    {call : Session Number → Outcome (Session Number) Stop String} {stop : Stop}
    (hcall : call t = .failed t stop) : d.withSession state call = .failed d stop := by
  have opened : (d.place state).bind (fun path => d.openStore none (d.store path)) = .ok t := by
    rw [hplace]
    exact hopen
  calc d.withSession state call
      = (call t).mapState d.after := by rw [withSession, opened, Outcome.need]
    _ = .failed (d.after t) stop := by rw [hcall]; rfl
    _ = .failed d stop := by rw [after_of_openStore hopen]

/-- **A command with a reference that means no node** fails with a notice about such a reference,
and leaves everything as it was. -/
theorem perform_unknown (hplace : d.place state = .ok path)
    (hopen : d.openStore none (d.store path) = .ok t) (typed : List (List Char)) {command : Command}
    {reference : String} (hr : reference ∈ command.references)
    (unknown : t.graph.IsUnknown reference) :
    ∃ r ∈ command.references, t.graph.IsUnknown r ∧
      d.perform state typed command = .failed d (.unknownNode r) := by
  have missed := lookup_eq_error_iff.mpr ⟨unknown, rfl⟩
  cases command with
  | renameNode node label =>
    obtain rfl := List.mem_singleton.mp hr
    refine ⟨_, hr, unknown, withSession_eq_failed hplace hopen ?_⟩
    rw [missed, Outcome.need]
  | moveNode node x y =>
    obtain rfl := List.mem_singleton.mp hr
    refine ⟨_, hr, unknown, withSession_eq_failed hplace hopen ?_⟩
    rw [missed, Outcome.need]
  | removeNodes nodes =>
    have among : reference ∈ nodes := hr
    obtain ⟨r, there, unknown, fails⟩ := exists_mapM_lookup_eq_error among unknown
    refine ⟨r, there, unknown, withSession_eq_failed hplace hopen ?_⟩
    rw [fails, Outcome.need]
  | connect source target =>
    -- the source is looked for first, so that a target that is not there is not always the one told
    cases looked : lookup t.graph source with
    | error stop =>
      obtain ⟨unknown, rfl⟩ := lookup_eq_error_iff.mp looked
      refine ⟨source, List.mem_cons_self, unknown, withSession_eq_failed hplace hopen ?_⟩
      rw [looked, Outcome.need]
    | ok n =>
      obtain rfl | hr := List.mem_cons.mp hr
      · rw [looked] at missed
        cases missed
      · obtain rfl := List.mem_singleton.mp hr
        refine ⟨_, List.mem_cons_of_mem _ hr, unknown, withSession_eq_failed hplace hopen ?_⟩
        rw [looked, Outcome.need, missed, Outcome.need]
  | _ => exact absurd hr List.not_mem_nil

end Opened

/-- A desk without files. -/
def bare : Desk := ⟨⟨[], []⟩, .counting, ""⟩

end Desk

/-! ### Histories -/

namespace Session

/-- **References are unambiguous.** From a fresh canvas on, every history that draws new ids of the
shape that the editor makes leaves a graph in which each node is found by its id and by its
identifier, whatever the labels are. References that mean no node are refused, and a command line
with such a reference ends with status 1 and leaves everything as it was. -/
theorem references_unambiguous (s : Session Number) (calls : List (Call Number))
    (hs : s.graph = Graph.initial) (hdraws : s.DrawsGenerated calls) :
    (∀ n ∈ (s.after calls).graph.nodes,
        Desk.lookup (s.after calls).graph n.id = .ok n ∧
          Desk.lookup (s.after calls).graph n.identifier = .ok n) ∧
      (∀ reference, (∀ n ∈ (s.after calls).graph.nodes,
          n.id ≠ reference ∧ n.identifier ≠ reference) →
        Desk.lookup (s.after calls).graph reference =
          .error (.notice ("No node with id or identifier '" ++ reference ++ "'"))) ∧
      ∀ (d : Desk) (args : List String) (typed : List Char) (state : Option String)
        (command : Command) (path : FilePath) (t : Session Number),
        Request.ofArguments args = .run state command →
        d.place state = .ok path → d.openStore none (d.store path) = .ok t →
        ∀ reference ∈ command.references, t.graph.IsUnknown reference →
          ∃ r ∈ command.references, t.graph.IsUnknown r ∧
            d.reply args typed =
              ⟨1, "Error: No node with id or identifier '" ++ r ++ "'\n", none, d⟩ := by
  have tidy : (s.after calls).graph.Tidy := s.tidy_after calls (hs ▸ .initial) hdraws
  refine ⟨fun n hn => ?_, fun reference unknown => ?_, ?_⟩
  · obtain ⟨byId, byIdentifier⟩ := tidy.lookup?_of_mem hn
    exact ⟨Desk.lookup_eq_ok_iff.mpr byId, Desk.lookup_eq_ok_iff.mpr byIdentifier⟩
  · exact Desk.lookup_eq_error_iff.mpr ⟨unknown, rfl⟩
  · intro d args typed state command path t request hplace hopen reference hr unknown
    obtain ⟨r, there, unknown, fails⟩ :=
      Desk.perform_unknown hplace hopen (Text.typedLines typed) hr unknown
    refine ⟨r, there, unknown, ?_⟩
    have message : "Error: No node with id or identifier '" ++ r ++ "'\n" =
        "Error: " ++ ("No node with id or identifier '" ++ r ++ "'") ++ "\n" := by
      rw [show "Error: No node with id or identifier '" =
        "Error: " ++ "No node with id or identifier '" by decide,
        show "'\n" = "'" ++ "\n" by decide]
      simp only [String.append_assoc]
    rw [Desk.reply, request, message]
    simp only [fails, Outcome.failed, Stop.unknownNode, Stop.notice]

/-- A label that looks like the id of another node, and a command line on a desk without files of
which one reference means a node and the other one does not. -/
theorem references_unambiguous_crafted :
    let s : Session Number :=
      .start ⟨none, none, .of [] false, none, .counting⟩ Graph.initial
    let calls : List (Call Number) :=
      [.addNode "tool" none none, .addNode "tool" none (some "tool-00000001")]
    let g := (s.after calls).graph
    s.graph = Graph.initial ∧ s.DrawsGenerated calls ∧
      (∀ n ∈ g.nodes, Desk.lookup g n.id = .ok n ∧ Desk.lookup g n.identifier = .ok n) ∧
      (g.nodes.map fun n => (n.id, n.identifier)) =
        [("start-1", "start"), ("tool-00000001", "Tool"), ("tool-00000002", "tool00000001")] ∧
      Desk.bare.reply ["node", "rm", "start", "nope"] [] =
        ⟨1, "Error: No node with id or identifier 'nope'\n", none, Desk.bare⟩ := by
  intro s calls g
  have hs : s.graph = Graph.initial := Graph.initial_syncEntry
  have hdraws : s.DrawsGenerated calls := by decide
  obtain ⟨found, -, refused⟩ := references_unambiguous s calls hs hdraws
  let setup : Setup Number := Desk.bare.setup none (Desk.bare.store (.ofText "graphcad.json"))
  let t : Session Number := .start setup Graph.initial
  have known : t.graph = Graph.initial := Graph.initial_syncEntry
  have unknown : t.graph.IsUnknown "nope" := by
    rw [known, Graph.IsUnknown]
    decide
  obtain ⟨r, hr, missed, reply⟩ := refused Desk.bare ["node", "rm", "start", "nope"] [] none
    (.removeNodes ["start", "nope"]) (.ofText "graphcad.json") t rfl rfl rfl "nope" (by decide)
    unknown
  have told : r = "nope" := by
    obtain rfl | hr := List.mem_cons.mp hr
    · rw [known, Graph.IsUnknown] at missed
      exact absurd missed (by decide)
    · exact List.mem_singleton.mp hr
  rw [told] at reply
  exact ⟨hs, hdraws, found, by decide, reply⟩

end Session

end FlowCanvas
