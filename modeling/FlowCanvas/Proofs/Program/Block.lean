import FlowCanvas.Program.Basic
import Mathlib.Data.List.Induction
import Mathlib.Data.List.Nodup

/-!
# Blocks and their feeders

Which branches have choices, and to what targets, is the outline of a graph. It does not depend on
the edges that enter branches: they only say who feeds a branch. A program has those blocks of the
outline whose branch is fed, each under the name of its feeder (`Graph.dispatches_eq`), so two
graphs with one outline have the same blocks exactly if they agree on the feeders.
-/

namespace FlowCanvas

universe u v

/-- A block under the name of what feeds its branch, if anything does. -/
def Dispatch.fed (feeder : String → Option String) (d : Dispatch) : Option Dispatch :=
  (feeder d.branch).map fun name => { d with feeder := name }

namespace Graph

variable {α : Type u}

/-! ### One choice more -/

section AddChoice

variable {feeder : String → Option String} {blocks : List Dispatch} {branch name target : String}

/-- A block with one choice more, if it is the one of the branch. -/
private def extended (branch target : String) (d : Dispatch) : Dispatch :=
  if d.branch = branch ∧ target ∉ d.targets then { d with targets := d.targets ++ [target] } else d

private theorem addChoice_eq :
    addChoice blocks branch name target =
      if blocks.any fun d => d.branch == branch then blocks.map (extended branch target)
      else blocks ++ [⟨branch, name, [target]⟩] := rfl

@[simp] private theorem extended_branch (d : Dispatch) :
    (extended branch target d).branch = d.branch := by
  unfold extended
  split <;> rfl

private theorem fed_extended (d : Dispatch) :
    (extended branch target d).fed feeder = (d.fed feeder).map (extended branch target) := by
  simp only [Dispatch.fed, extended_branch, Option.map_map]
  refine Option.map_congr fun name _ => ?_
  simp only [extended, Function.comp_apply]
  split <;> rfl

theorem branches_addChoice :
    (addChoice blocks branch name target).map Dispatch.branch =
      if branch ∈ blocks.map Dispatch.branch then blocks.map Dispatch.branch
      else blocks.map Dispatch.branch ++ [branch] := by
  have known : (blocks.any fun d => d.branch == branch) = true ↔
      branch ∈ blocks.map Dispatch.branch := by simp
  rw [addChoice_eq]
  by_cases h : branch ∈ blocks.map Dispatch.branch
  · rw [if_pos (known.mpr h), if_pos h, List.map_map]
    exact List.map_congr_left fun d _ => extended_branch d
  · rw [if_neg (mt known.mp h), if_neg h, List.map_append]
    rfl

/-- A block after one choice more is one from before, extended, or the first of its branch. -/
private theorem mem_addChoice {d : Dispatch} (hd : d ∈ addChoice blocks branch name target) :
    (∃ b ∈ blocks, extended branch target b = d) ∨
      branch ∉ blocks.map Dispatch.branch ∧ d = ⟨branch, name, [target]⟩ := by
  rw [addChoice_eq] at hd
  split at hd
  · exact .inl (List.mem_map.mp hd)
  · next hnew =>
    rcases List.mem_append.mp hd with hd | hd
    · refine .inl ⟨d, hd, ?_⟩
      have other : d.branch ≠ branch := by
        intro same
        exact hnew (List.any_eq_true.mpr ⟨d, hd, by simp [same]⟩)
      simp [extended, other]
    · exact .inr ⟨by simpa using hnew, List.mem_singleton.mp hd⟩

private theorem mem_targets_extended {d : Dispatch} {t : String} :
    t ∈ (extended branch target d).targets ↔ t ∈ d.targets ∨ d.branch = branch ∧ target = t := by
  simp only [extended]
  split
  · next h => simp [h.1, eq_comm]
  · next h => grind

/-- Feeding commutes with one choice more at a branch that is fed. -/
theorem filterMap_fed_addChoice (h : feeder branch = some name) :
    (addChoice blocks branch "" target).filterMap (Dispatch.fed feeder) =
      addChoice (blocks.filterMap (Dispatch.fed feeder)) branch name target := by
  have known : ((blocks.filterMap (Dispatch.fed feeder)).any fun d => d.branch == branch) =
      blocks.any fun d => d.branch == branch := by
    rw [List.any_filterMap]
    refine List.any_congr rfl fun d => ?_
    by_cases hd : d.branch = branch
    · simp [Dispatch.fed, hd, h]
    · cases hf : feeder d.branch <;> simp [Dispatch.fed, hf, hd]
  rw [addChoice_eq, addChoice_eq, known]
  split
  · rw [List.filterMap_map, List.map_filterMap]
    exact List.filterMap_congr fun d _ => fed_extended d
  · rw [List.filterMap_append]
    simp [Dispatch.fed, h]

/-- A choice at a branch that is not fed leaves nothing. -/
theorem filterMap_fed_addChoice_of_none (h : feeder branch = none) :
    (addChoice blocks branch name target).filterMap (Dispatch.fed feeder) =
      blocks.filterMap (Dispatch.fed feeder) := by
  rw [addChoice_eq]
  split
  · rw [List.filterMap_map]
    refine List.filterMap_congr fun d _ => ?_
    by_cases hd : d.branch = branch
    · simp [Dispatch.fed, hd, h]
    · simp [extended, hd]
  · rw [List.filterMap_append]
    simp [Dispatch.fed, h]

end AddChoice

/-! ### Nodes at the ends of edges -/

theorem latest?_isSome (nodes : List (Node α)) (id : String) :
    (latest? nodes id).isSome = nodes.any fun n => n.id == id := by
  rw [Bool.eq_iff_iff, latest?, List.find?_isSome, List.any_eq_true]
  simp

theorem id_of_latest? {nodes : List (Node α)} {id : String} {n : Node α}
    (h : latest? nodes id = some n) : n.id = id := by
  simpa using List.find?_some h

theorem mem_of_latest? {nodes : List (Node α)} {id : String} {n : Node α}
    (h : latest? nodes id = some n) : n ∈ nodes :=
  List.mem_reverse.mp (List.mem_of_find?_eq_some h)

theorem mem_of_feeder? {nodes : List (Node α)} {edges : List (Edge α)} {branch : String}
    {n : Node α} (h : feeder? nodes edges branch = some n) : n ∈ nodes := by
  obtain ⟨e, -, hn⟩ := Option.bind_eq_some_iff.mp h
  exact mem_of_latest? hn

theorem role?_of_latest? {g : Graph α} {id : String} {n : Node α}
    (h : latest? g.nodes id = some n) : g.role? id = some n.role := by
  rw [role?, h, Option.map_some]

theorem isStart_of_latest? {g : Graph α} {id : String} {n : Node α}
    (h : latest? g.nodes id = some n) : g.isStart id = true ↔ n.category = .start := by
  simp [isStart, h]

theorem dangles_eq (g : Graph α) (e : Edge α) : g.dangles e = !g.isAnchored e := by
  simp only [dangles, isAnchored, has, ← latest?_isSome, Bool.not_and, Option.not_isSome]

theorem dangles_iff {g : Graph α} {e : Edge α} :
    g.dangles e = true ↔
      latest? g.nodes e.source = none ∨ latest? g.nodes e.target = none := by
  rw [dangles, Bool.or_eq_true, Option.isNone_iff_eq_none, Option.isNone_iff_eq_none]

/-! ### The outline -/

/-- The branch and the target of an edge out of a branch. -/
def arm? (nodes : List (Node α)) (e : Edge α) : Option (Node α × Node α) :=
  (latest? nodes e.source).bind fun branch => (latest? nodes e.target).map fun t => (branch, t)

/-- The blocks of some edges out of branches, whoever feeds them. -/
def outline (nodes : List (Node α)) (chosen : List (Edge α)) : List Dispatch :=
  (chosen.filterMap (arm? nodes)).foldl
    (fun blocks a => addChoice blocks a.1.id "" a.2.nameInCode) []

/-- The name of the node that leads to a branch. -/
def feederName? (g : Graph α) (branch : String) : Option String :=
  (feeder? g.nodes g.edges branch).map Node.nameInCode

theorem choice?_eq (nodes : List (Node α)) (edges : List (Edge α)) (e : Edge α) :
    choice? nodes edges e =
      (arm? nodes e).bind fun a => (feeder? nodes edges a.1.id).map fun f => (a.1, f, a.2) := by
  unfold choice? arm?
  cases hs : latest? nodes e.source with
  | none => rfl
  | some branch =>
    cases latest? nodes e.target with
    | none => cases feeder? nodes edges e.source <;> rfl
    | some t =>
      simp only [Option.bind_some, Option.map_some, id_of_latest? hs]
      cases feeder? nodes edges e.source <;> rfl

/-- **The blocks of a program are those of the outline that are fed.** -/
theorem dispatches_eq (nodes : List (Node α)) (edges chosen : List (Edge α)) :
    dispatches nodes edges chosen = (outline nodes chosen).filterMap
      (Dispatch.fed fun b => (feeder? nodes edges b).map Node.nameInCode) := by
  -- the blocks so far are the fed ones of the outline so far
  suffices h : ∀ blocks : List Dispatch,
      (chosen.filterMap (choice? nodes edges)).foldl
          (fun blocks c => addChoice blocks c.1.id c.2.1.nameInCode c.2.2.nameInCode)
          (blocks.filterMap (Dispatch.fed fun b => (feeder? nodes edges b).map Node.nameInCode)) =
        ((chosen.filterMap (arm? nodes)).foldl
          (fun blocks a => addChoice blocks a.1.id "" a.2.nameInCode) blocks).filterMap
            (Dispatch.fed fun b => (feeder? nodes edges b).map Node.nameInCode) from h []
  induction chosen with
  | nil => exact fun _ => rfl
  | cons e rest ih =>
    intro blocks
    cases ha : arm? nodes e with
    | none =>
      have hc : choice? nodes edges e = none := by
        rw [choice?_eq, ha]
        rfl
      rw [List.filterMap_cons_none hc, List.filterMap_cons_none ha]
      exact ih blocks
    | some a =>
      rw [List.filterMap_cons_some ha, List.foldl_cons, ← ih]
      cases hf : feeder? nodes edges a.1.id with
      | none =>
        have hc : choice? nodes edges e = none := by
          rw [choice?_eq, ha, Option.bind_some, hf]
          rfl
        rw [List.filterMap_cons_none hc, filterMap_fed_addChoice_of_none (by rw [hf]; rfl)]
      | some f =>
        have hc : choice? nodes edges e = some (a.1, f, a.2) := by
          rw [choice?_eq, ha, Option.bind_some, hf]
          rfl
        rw [List.filterMap_cons_some hc, List.foldl_cons,
          filterMap_fed_addChoice (by rw [hf]; rfl)]

/-- The branches of blocks are those of the choices that they are made of. -/
theorem mem_branches_foldl {arms : List (Node α × Node α)} {id : String} :
    id ∈ (arms.foldl (fun blocks a => addChoice blocks a.1.id "" a.2.nameInCode) []).map
        Dispatch.branch ↔ ∃ a ∈ arms, a.1.id = id := by
  induction arms using List.reverseRecOn with
  | nil => simp
  | append_singleton arms a ih =>
    simp only [List.mem_append, List.mem_singleton, or_and_right, exists_or, exists_eq_left, ← ih]
    rw [List.foldl_append, List.foldl_cons, List.foldl_nil, branches_addChoice]
    split
    · next hmem =>
      refine ⟨.inl, ?_⟩
      rintro (h | rfl)
      · exact h
      · exact hmem
    · rw [List.mem_append, List.mem_singleton, eq_comm]

/-- The targets of a block are those of the choices of its branch. -/
theorem mem_targets_foldl {arms : List (Node α × Node α)} :
    ∀ d ∈ arms.foldl (fun blocks a => addChoice blocks a.1.id "" a.2.nameInCode) [],
      ∀ t, t ∈ d.targets ↔ ∃ a ∈ arms, a.1.id = d.branch ∧ a.2.nameInCode = t := by
  induction arms using List.reverseRecOn with
  | nil => exact fun _ h => absurd h List.not_mem_nil
  | append_singleton arms a ih =>
    intro d hd t
    simp only [List.mem_append, List.mem_singleton, or_and_right, exists_or, exists_eq_left]
    rw [List.foldl_append, List.foldl_cons, List.foldl_nil] at hd
    rcases mem_addChoice hd with ⟨b, hb, rfl⟩ | ⟨hnew, rfl⟩
    · rw [mem_targets_extended, ih b hb t, extended_branch, eq_comm (a := b.branch)]
    · -- no choice before this one is of its branch
      have first : ¬ ∃ b ∈ arms, b.1.id = a.1.id ∧ b.2.nameInCode = t := by
        rintro ⟨b, hb, hid, -⟩
        exact hnew (mem_branches_foldl.mpr ⟨b, hb, hid⟩)
      rw [or_iff_right first, List.mem_singleton, eq_comm]
      exact (and_iff_right rfl).symm

theorem mem_branches_outline {nodes : List (Node α)} {chosen : List (Edge α)} {id : String} :
    id ∈ (outline nodes chosen).map Dispatch.branch ↔
      ∃ e ∈ chosen, e.source = id ∧ (latest? nodes id).isSome ∧
        (latest? nodes e.target).isSome := by
  rw [outline, mem_branches_foldl]
  simp only [List.mem_filterMap, arm?, Option.bind_eq_some_iff, Option.map_eq_some_iff,
    Option.isSome_iff_exists]
  constructor
  · rintro ⟨a, ⟨e, he, branch, hbranch, t, ht, rfl⟩, rfl⟩
    rw [id_of_latest? hbranch]
    exact ⟨e, he, rfl, ⟨branch, hbranch⟩, t, ht⟩
  · rintro ⟨e, he, rfl, ⟨branch, hbranch⟩, t, ht⟩
    exact ⟨(branch, t), ⟨e, he, branch, hbranch, t, ht, rfl⟩, id_of_latest? hbranch⟩

theorem mem_targets_outline {nodes : List (Node α)} {chosen : List (Edge α)} {d : Dispatch}
    (hd : d ∈ outline nodes chosen) (t : String) :
    t ∈ d.targets ↔ ∃ e ∈ chosen, e.source = d.branch ∧ (latest? nodes e.source).isSome ∧
      (latest? nodes e.target).map Node.nameInCode = some t := by
  rw [mem_targets_foldl d hd t]
  simp only [List.mem_filterMap, arm?, Option.bind_eq_some_iff, Option.map_eq_some_iff,
    Option.isSome_iff_exists]
  constructor
  · rintro ⟨a, ⟨e, he, branch, hbranch, n, hn, rfl⟩, hid, rfl⟩
    exact ⟨e, he, (id_of_latest? hbranch).symm.trans hid, ⟨branch, hbranch⟩, n, hn, rfl⟩
  · rintro ⟨e, he, hid, ⟨branch, hbranch⟩, n, hn, rfl⟩
    exact ⟨(branch, n), ⟨e, he, branch, hbranch, n, hn, rfl⟩,
      (id_of_latest? hbranch).trans hid, rfl⟩

end Graph

end FlowCanvas
