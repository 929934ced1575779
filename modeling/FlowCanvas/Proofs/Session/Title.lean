import FlowCanvas.Proofs.Graph.Recenter
import FlowCanvas.Proofs.Program.Legible
import FlowCanvas.Proofs.Session.Accepted
import FlowCanvas.Proofs.Session.Opening

/-!
# The name that the code of a session declares

The code of a session declares its graph in one line, and what stands there in front of the
declaration is the name of the graph (`Program.declared?_text`). That name comes from a title: the
text of the last call that gave the graph a name, or the name in the record that the session was
opened on if there has been no such call (`Session.Titled.after`).

A name has safe characters only, but the name of a variable must not begin with a digit, which is a
safe character. So the code declares a variable exactly if the first safe character of the title is
not a digit (`Session.isVariable_declared_iff`).
-/

namespace FlowCanvas

open Text

universe u

/-! ### Names of variables -/

namespace Identifier

/-- Whether a text can name a variable: letters, digits and underscores, and no digit in front. -/
def isVariable (s : String) : Bool :=
  match s.toList with
  | [] => false
  | c :: rest => (c.isAlpha || c == '_') && rest.all isSafe

/-- That the first safe character of a title is a digit. -/
def LeadsWithDigit (title : String) : Prop := (title.toList.find? isSafe).any Char.isDigit = true

instance (title : String) : Decidable (LeadsWithDigit title) :=
  inferInstanceAs (Decidable (_ = true))

/-- A safe character may stand in front unless it is a digit. -/
theorem isAlpha_or_underscore {c : Char} (h : isSafe c = true) :
    (c.isAlpha || c == '_') = !c.isDigit := by
  have digit : c.isDigit = true ↔ 48 ≤ c.toNat ∧ c.toNat ≤ 57 := by
    simp [Char.isDigit, UInt32.le_iff_toNat_le, ← Char.toNat_val]
  have alpha : c.isAlpha = true ↔
      (65 ≤ c.toNat ∧ c.toNat ≤ 90) ∨ (97 ≤ c.toNat ∧ c.toNat ≤ 122) := by
    simp [Char.isAlpha, Char.isUpper, Char.isLower, UInt32.le_iff_toNat_le, ← Char.toNat_val]
  by_cases underscore : c = '_'
  · subst underscore
    decide
  · simp only [isSafe, isAlphanumeric, Bool.or_eq_true, decide_eq_true_eq, beq_iff_eq, underscore,
      or_false] at h
    rw [Bool.eq_iff_iff, Bool.not_eq_true', ← Bool.not_eq_true, digit]
    simp only [Bool.or_eq_true, alpha, beq_iff_eq, underscore, or_false]
    omega

/-- **The name that a title gives is that of a variable** unless the title leads with a digit. -/
theorem isVariable_ofGraphName (title : String) :
    isVariable (ofGraphName title) = true ↔ ¬ LeadsWithDigit title := by
  rw [LeadsWithDigit, ← List.head?_filter, ofGraphName]
  have safe : ∀ c ∈ title.toList.filter isSafe, isSafe c = true :=
    fun c hc => (List.mem_filter.mp hc).2
  cases kept : title.toList.filter isSafe with
  | nil => decide
  | cons c rest =>
    rw [kept] at safe
    obtain ⟨front, others⟩ := List.forall_mem_cons.mp safe
    have all : rest.all isSafe = true := List.all_eq_true.mpr others
    simp [isVariable, isAlpha_or_underscore front, all]

end Identifier

/-! ### The declaration in the code -/

/-- What stands behind the name where a graph is declared. -/
def declaration : String := " = StateGraph(AgentState)"

/-- The name that a line declares a graph by, if it ends with a declaration. -/
def declaredOn? (line : List Char) : Option String :=
  (line.dropSuffix? declaration.toList).map String.ofList

/-- The name that code declares its graph by: the one on the first line that declares a graph. -/
def declared? (code : String) : Option String := (code.toList.splitOn '\n').findSome? declaredOn?

theorem declaredOn?_append (name : String) :
    declaredOn? (name ++ declaration).toList = some name := by
  have h : (name ++ declaration).toList.dropSuffix? declaration.toList = some name.toList :=
    List.dropSuffix?_eq_some_iff.mpr ⟨_, String.toList_append, beq_self_eq_true _⟩
  rw [declaredOn?, h, Option.map_some, String.ofList_toList]

/-- Lines that are each one line are told by the text, whatever comes after them. -/
theorem exists_splitOn_intercalate {sep : Char} (more : List (List Char)) :
    ∀ {ls : List (List Char)}, (∀ l ∈ ls, sep ∉ l) →
      ∃ rest, ([sep].intercalate (ls ++ more)).splitOn sep = ls ++ rest
  | [], _ => ⟨_, rfl⟩
  | l :: ls, h => by
    obtain ⟨hl, hls⟩ := List.forall_mem_cons.mp h
    by_cases last : ls ++ more = []
    · obtain ⟨rfl, rfl⟩ := List.append_eq_nil_iff.mp last
      exact ⟨[], by simpa using List.splitOn_eq_singleton hl⟩
    · obtain ⟨rest, split⟩ := exists_splitOn_intercalate more hls
      refine ⟨rest, ?_⟩
      -- the separator behind a line is the first one
      have whole : ∀ c ∈ l, (c == sep) = false := fun c hc => by
        simpa using fun same : c = sep => hl (same ▸ hc)
      rw [List.cons_append, List.intercalate_cons_of_ne_nil last, List.append_assoc,
        List.singleton_append, List.splitOn,
        List.splitOnP_append_cons_of_forall_mem whole sep (beq_self_eq_true sep), List.cons_append]
      exact congrArg (l :: ·) split

/-- The header is the same for all graphs up to the declaration. -/
theorem headerLines_eq (graph : String) :
    headerLines graph = (headerLines "").dropLast ++ [graph ++ declaration] := rfl

/-- **The code of a program declares its name**, if that is on one line; other names may break
lines. -/
theorem Program.declared?_text {p : Program} (hname : '\n' ∉ p.name.toList) :
    declared? p.text = some p.name := by
  have front : ∀ l ∈ (headerLines "").dropLast, '\n' ∉ l.toList ∧ declaredOn? l.toList = none := by
    decide
  have whole : ∀ l ∈ (headerLines p.name).map String.toList, '\n' ∉ l := by
    rw [headerLines_eq, List.forall_mem_map, List.forall_mem_append]
    exact ⟨fun l hl => (front l hl).1, by simp [hname, declaration]⟩
  obtain ⟨rest, split⟩ := exists_splitOn_intercalate
    ((p.statements.flatMap (Statement.lines p.name)).map String.toList) whole
  have newline : "\n".toList = ['\n'] := by decide
  have passed : ((headerLines "").dropLast.map String.toList).findSome? declaredOn? = none := by
    rw [List.findSome?_eq_none_iff, List.forall_mem_map]
    exact fun l hl => (front l hl).2
  rw [declared?, text, String.toList_intercalate, newline, lines_eq, List.map_append, split,
    headerLines_eq, List.map_append, List.append_assoc, List.findSome?_append, passed,
    Option.none_or, List.map_singleton, List.singleton_append, List.findSome?_cons,
    declaredOn?_append]

/-! ### Titles -/

/-- The title that a record gives its graph. -/
def Record.title (fs : Fields) : String :=
  let name := optional fs "graph_name"
  if name.isSet then name.plain else ""

theorem Record.name_of_graph {fs : Fields} {g : Graph Number} (h : graph (.object fs) = .ok g) :
    g.name = Identifier.ofGraphName (title fs) := by
  obtain ⟨nodes, -, h⟩ := Result.exists_of_bind_eq_ok h
  obtain ⟨edges, -, h⟩ := Result.exists_of_bind_eq_ok h
  cases h
  rfl

theorem Graph.PinnedAtMost.name {α : Type u} {g h : Graph α} (left : g.PinnedAtMost h) :
    h.name = g.name := by
  obtain rfl | ⟨_, _, -, rfl⟩ := left <;> rfl

/-- The title after a call: it is replaced where the graph gets a name, and a reset drops it. -/
def Call.retitle {α : Type} (title : String) : Call α → String
  | .setName raw => raw
  | .reset => ""
  | _ => title

namespace Session

variable {α : Type} [Scalar α] [StateFormat α] {s : Session α} {title : String}

/-- A refused call leaves the name alone. -/
theorem name_of_accepted {c : Call α}
    (h : (s.run c).isRefused = false → (s.run c).state.graph.name = s.graph.name) :
    (s.run c).state.graph.name = s.graph.name := by
  rcases refused : (s.run c).isRefused with - | -
  · exact h refused
  · rw [s.graph_of_refused refused]

/-- The name after a call is the one that the title after it gives. -/
theorem run_name (s : Session α) (c : Call α)
    (named : s.graph.name = Identifier.ofGraphName title) :
    (s.run c).state.graph.name = Identifier.ofGraphName (c.retitle title) := by
  cases c with
  | setName raw =>
    rw [setName_graph]
    rfl
  | reset =>
    rw [reset_graph]
    rfl
  | addNode category position label =>
    refine (name_of_accepted fun accepted => ?_).trans named
    obtain ⟨_, _, -, -, -, left, -⟩ := addNode_accepted accepted
    rw [left]
    rfl
  | renameNode node text =>
    refine (name_of_accepted fun accepted => ?_).trans named
    obtain ⟨_, _, -, -, -, -, left⟩ := renameNode_accepted accepted
    rw [left]
    rfl
  | moveNode node position =>
    refine (name_of_accepted fun accepted => ?_).trans named
    obtain ⟨_, -, -, left⟩ := moveNode_accepted accepted
    rw [left]
    exact Graph.recenter_name _ _
  | removeNodes nodes =>
    refine (name_of_accepted fun accepted => ?_).trans named
    rw [(removeNodes_accepted accepted).2]
    rfl
  | connect source target =>
    refine (name_of_accepted fun accepted => ?_).trans named
    obtain ⟨_, _, -, -, -, -, -, -, ⟨_, _, -, left, -⟩ | ⟨-, left, -⟩⟩ := connect_accepted accepted
    · rw [left]
    · rw [left]
      exact Graph.recenter_name _ _
  | removeEdges edges =>
    refine (name_of_accepted fun accepted => ?_).trans named
    rw [(removeEdges_accepted accepted).2]
    rfl
  | _ =>
    refine Eq.trans (s.run_pinnedAtMost ?_).name named
    rfl

/-- That the code of a session is that of its graph, whose name comes from a title. -/
structure Titled (title : String) (s : Session α) : Prop where
  /-- the code -/
  inStep : s.InStep
  /-- the name -/
  name : s.graph.name = Identifier.ofGraphName title

omit [Scalar α] [StateFormat α] in
/-- The code then declares that name. -/
theorem Titled.declared?_code (h : s.Titled title) :
    declared? s.code = some (Identifier.ofGraphName title) := by
  have whole : '\n' ∉ s.graph.name.toList := by
    rw [h.name]
    exact Graph.IsNamed.not_mem_of_isName (Identifier.isName_ofGraphName title) (by decide)
  rw [h.inStep.code, ← h.name]
  exact Program.declared?_text whole

omit [StateFormat α] in
theorem titled_start (setup : Setup α) {g : Graph α} (h : g.name = Identifier.ofGraphName title) :
    (start setup g).Titled title :=
  ⟨inStep_start setup g, h⟩

/-- Whatever a session is like, it is titled once its graph has been given a name. -/
theorem titled_setName (s : Session α) (raw : String) :
    (s.run (.setName raw)).state.Titled raw := by
  -- the code is compiled anew, so it does not matter what it was
  have graph := s.setName_graph raw
  refine ⟨⟨?_, ?_⟩, ?_⟩
  · rw [graph]
    exact (s.run_commits (.setName raw)).code
  · rw [graph]
    exact Graph.isSynced_syncEntry _
  · rw [graph]
    rfl

theorem Titled.run (h : s.Titled title) (c : Call α) :
    (s.run c).state.Titled (c.retitle title) :=
  ⟨h.inStep.run c, s.run_name c h.name⟩

/-- **A session keeps its title** until a call brings another one. -/
theorem Titled.after (h : s.Titled title) :
    ∀ calls : List (Call α), (s.after calls).Titled (calls.foldl Call.retitle title) := by
  intro calls
  induction calls generalizing s title with
  | nil => exact h
  | cons c calls ih => exact ih (h.run c)

/-- **What the code of a session declares is a variable exactly if its title does not lead with a
digit.** The title is the text that the graph has last been named by, or the name in the record that
the session was opened on; a reset leaves none. -/
theorem isVariable_declared_iff (calls : List (Call Number)) :
    (∀ (s : Session Number) (raw : String),
      let title := calls.foldl Call.retitle raw
      let name := Identifier.ofGraphName title
      declared? ((s.run (.setName raw)).state.after calls).code = some name ∧
        (Identifier.isVariable name = true ↔ ¬ Identifier.LeadsWithDigit title)) ∧
    ∀ (data : Utf8.Octets) (g : Graph Number), Graph.ofOctets data = .ok g →
      ∀ store : Store Number, store.Keeps data → ∀ setup : Setup Number,
        ∃ opened text fs, openWith (onStore setup store) = .ok opened ∧
          Utf8.decode data = .ok text ∧ Json.read text.toList = .ok (.object fs) ∧
          let title := calls.foldl Call.retitle (Record.title fs)
          let name := Identifier.ofGraphName title
          declared? (opened.session.after calls).code = some name ∧
            (Identifier.isVariable name = true ↔ ¬ Identifier.LeadsWithDigit title) := by
  have declares {s : Session Number} {title : String} (h : s.Titled title) :
      declared? s.code = some (Identifier.ofGraphName title) ∧
        (Identifier.isVariable (Identifier.ofGraphName title) = true ↔
          ¬ Identifier.LeadsWithDigit title) :=
    ⟨h.declared?_code, Identifier.isVariable_ofGraphName title⟩
  refine ⟨fun s raw => declares ((s.titled_setName raw).after calls), ?_⟩
  intro data g accepted store kept setup
  obtain ⟨text, v, decoded, read, record⟩ := Record.exists_of_ofOctets_eq_ok accepted
  obtain ⟨fs, -, -, rfl, -, -, -⟩ := Record.graph_eq_ok record
  refine ⟨⟨start (onStore setup store) g, false⟩, text, fs, ?_, decoded, read, ?_⟩
  · rw [openWith_onStore, Store.load_of_ofOctets_eq_ok kept.holding_eq accepted]
    rfl
  · exact declares ((titled_start _ (Record.name_of_graph record)).after calls)

/-- The text of a record that gives a title with a digit in front. -/
def digitTitled : String := "\x7b\"graph_name\":\"2fast\"\x7d"

/-- The graph of that record. -/
def digitGraph : Graph Number := ⟨[], [], .null, "2fast"⟩

theorem ofOctets_digitTitled : Graph.ofOctets (Utf8.encode digitTitled) = .ok digitGraph := by
  have read : Json.read digitTitled.toList = .ok (.object [("graph_name", .string "2fast")]) := by
    unfold digitTitled
    cbv
  rw [Record.ofOctets_encode read]
  rfl

/-- A session that opens on that record declares a variable once its graph has another title. -/
theorem isVariable_declared_retitled :
    let data := Utf8.encode digitTitled
    let store := Store.inMemory (some data) .compact
    Graph.ofOctets data = .ok digitGraph ∧ store.Keeps data ∧
      ¬ Identifier.LeadsWithDigit "v 2" ∧
      ∃ opened, openWith (onStore bare store) = .ok opened ∧
        declared? (opened.session.after [.setName "v 2"]).code = some "v2" ∧
        Identifier.isVariable "v2" = true := by
  intro data store
  have kept : store.Keeps data := rfl
  have front : ¬ Identifier.LeadsWithDigit "v 2" := by decide
  have clean : Identifier.ofGraphName "v 2" = "v2" := by decide
  obtain ⟨opened, _, _, opens, -, -, declares, legal⟩ :=
    (isVariable_declared_iff [.setName "v 2"]).2 data digitGraph ofOctets_digitTitled store kept
      bare
  change declared? _ = some (Identifier.ofGraphName "v 2") at declares
  change Identifier.isVariable (Identifier.ofGraphName "v 2") = true ↔ _ at legal
  rw [clean] at declares legal
  exact ⟨ofOctets_digitTitled, kept, front, opened, opens, declares, legal.mpr front⟩

/-- A title with a digit in front, given by a call or by a record: what is declared is no variable.
-/
theorem not_isVariable_declared :
    let store := Store.inMemory (some (Utf8.encode digitTitled)) .compact
    let opened := start (onStore bare store) digitGraph
    declared? ((start bare Graph.initial).run (.setName "2fast")).state.code = some "2fast" ∧
      Graph.ofOctets (Utf8.encode digitTitled) = .ok digitGraph ∧
      openWith (onStore bare store) = .ok ⟨opened, false⟩ ∧
      declared? opened.code = some "2fast" ∧ Identifier.isVariable "2fast" = false := by
  intro store opened
  have clean : Identifier.ofGraphName "2fast" = "2fast" := by decide
  have opens : openWith (onStore bare store) = .ok ⟨opened, false⟩ := by
    rw [openWith_onStore,
      Store.load_of_ofOctets_eq_ok (Store.holding_inMemory _ _) ofOctets_digitTitled]
    rfl
  have named := (titled_setName (start bare Graph.initial) "2fast").declared?_code
  have stored := (titled_start (onStore bare store) (g := digitGraph) clean.symm).declared?_code
  rw [clean] at named stored
  exact ⟨named, ofOctets_digitTitled, opens, stored, by decide⟩

end Session

end FlowCanvas
