import FlowCanvas.Store.Basic

/-!
# What files hold is of no account

Whether a file can be saved depends on which files and directories there are, not on what the files
hold, and so does what is there after a save, up to what the files hold then
(`FileTree.save_blank`). To say so, a blank tree is one whose files are all empty. Two stores of one
shape take and refuse the same saves, whatever the graphs are (`Store.save_of_blank_eq`).
-/

namespace FlowCanvas

open Text

/-- What is at a place, with nothing in it if it is a file. -/
def FileEntry.blank : FileEntry → FileEntry
  | file _ => file []
  | directory => directory

namespace FileTree

/-- The tree with nothing in its files. -/
def blank (t : FileTree) : FileTree :=
  { t with entries := t.entries.map fun x => (x.1, x.2.blank) }

variable {t : FileTree}

/-! ### Entries -/

theorem entry?_blank (t : FileTree) (p : Place) :
    FileTree.entry? t.blank p = (t.entry? p).map FileEntry.blank := by
  unfold entry?
  by_cases h : p = []
  · rw [if_pos h, if_pos h]
    rfl
  · rw [if_neg h, if_neg h, blank, List.find?_map, Option.map_map, Option.map_map]
    rfl

theorem put_blank (t : FileTree) (p : Place) (e : FileEntry) :
    t.blank.put p e.blank = (t.put p e).blank := by
  unfold put
  have known : (t.blank.entries.any fun x => x.1 == p) = t.entries.any fun x => x.1 == p := by
    simp [blank, List.any_map, Function.comp_def]
  rw [known]
  by_cases h : (t.entries.any fun x => x.1 == p) = true
  · rw [if_pos h, if_pos h]
    have entries : (t.entries.map fun x => (x.1, x.2.blank)).map
          (fun x => if x.1 = p then (p, e.blank) else x) =
        (t.entries.map fun x => if x.1 = p then (p, e) else x).map fun x => (x.1, x.2.blank) := by
      rw [List.map_map, List.map_map]
      refine List.map_congr_left fun x _ => ?_
      simp only [Function.comp_apply]
      split <;> rfl
    exact congrArg (fun entries => (⟨entries, t.current⟩ : FileTree)) entries
  · rw [if_neg h, if_neg h]
    simp [blank]

theorem erase_blank (t : FileTree) (p : Place) : t.blank.erase p = (t.erase p).blank := by
  unfold erase blank
  simp only [List.filter_map]
  rfl

/-! ### Paths -/

theorem walk_blank (t : FileTree) (names : List String) :
    ∀ here : Place, t.blank.walk here names = t.walk here names := by
  induction names with
  | nil => exact fun _ => rfl
  | cons name rest ih =>
    intro here
    unfold walk
    rw [entry?_blank]
    rcases t.entry? here with - | - | -
    · rfl
    · rfl
    · cases nameFault? name with
      | some f => rfl
      | none => exact ih _

theorem resolve_blank (t : FileTree) (p : FilePath) : t.blank.resolve p = t.resolve p := by
  unfold resolve
  split
  · rfl
  · exact walk_blank t _ _

theorem isDirectory_blank (t : FileTree) (p : FilePath) :
    t.blank.isDirectory p = t.isDirectory p := by
  unfold isDirectory at? look
  rw [resolve_blank]
  rcases t.resolve p with f | place
  · rcases f <;> rfl
  · have same : (t.entry? place).map FileEntry.blank = some .directory ↔
        t.entry? place = some .directory := by
      rcases t.entry? place with - | - | - <;> simp [FileEntry.blank]
    change decide (FileTree.entry? t.blank place = some .directory) =
      decide (t.entry? place = some .directory)
    rw [entry?_blank]
    exact decide_eq_decide.mpr same

/-! ### Directories -/

theorem makeDirectory_blank (t : FileTree) (p : FilePath) :
    t.blank.makeDirectory p = (t.makeDirectory p).map blank := by
  unfold makeDirectory
  rw [resolve_blank]
  rcases t.resolve p with f | place
  · rfl
  · simp only [entry?_blank]
    rcases t.entry? place with - | e
    · exact congrArg Except.ok (put_blank t place .directory)
    · rfl

theorem ensureDirectory_blank (trouble : Option FileFault) (t : FileTree) (p : FilePath)
    (missing : Outcome FileTree FileFault Unit) :
    ensureDirectory trouble t.blank p (missing.mapState blank) =
      (ensureDirectory trouble t p missing).mapState blank := by
  unfold ensureDirectory
  rw [makeDirectory_blank, isDirectory_blank]
  cases trouble with
  | some f => rfl
  | none =>
    rcases t.makeDirectory p with f | t'
    · rcases f <;> first | rfl | (cases t.isDirectory p <;> rfl)
    · rfl

theorem ensureDirectories_blank (trouble : Trouble) (height : Nat) :
    ∀ (t : FileTree) (p : FilePath),
      ensureDirectories trouble height t.blank p =
        (ensureDirectories trouble height t p).mapState blank := by
  induction height with
  | zero => exact fun t p => ensureDirectory_blank _ t p (.failed t .notFound)
  | succ height ih =>
    intro t p
    unfold ensureDirectories
    rw [← ensureDirectory_blank, ih]
    refine congrArg (ensureDirectory _ t.blank p) ?_
    by_cases h : p.parent = p
    · rw [if_pos h, if_pos h]
      rfl
    · rw [if_neg h, if_neg h]
      exact Outcome.mapState_andThen fun t' _ =>
        ensureDirectory_blank _ t' p (.failed t' .notFound)

theorem makeDirectories_blank (trouble : Trouble) (t : FileTree) (p : FilePath) :
    makeDirectories trouble t.blank p = (makeDirectories trouble t p).mapState blank :=
  ensureDirectories_blank trouble _ t p

/-! ### Saving -/

theorem replace_blank (t : FileTree) (source : Place) (p : FilePath) :
    t.blank.replace source p = (t.replace source p).map blank := by
  unfold replace
  rw [resolve_blank, entry?_blank]
  by_cases h : p.parts = [] ∨ p.name = ".."
  · rw [if_pos h, if_pos h]
    rfl
  · rw [if_neg h, if_neg h]
    rcases t.resolve p with f | place
    · rfl
    · rcases t.entry? source with - | e
      · rfl
      · simp only [Option.map_some, entry?_blank, erase_blank, put_blank]
        rcases t.entry? place with - | - | - <;> rfl

theorem freeName_blank (t : FileTree) (directory : Place) (name : String) (fuel : Nat) :
    ∀ k, t.blank.freeName directory name fuel k = t.freeName directory name fuel k := by
  induction fuel with
  | zero => exact fun _ => rfl
  | succ fuel ih =>
    intro k
    unfold freeName
    rw [entry?_blank, Option.isSome_map, ih]

theorem replaceBy_blank (trouble : Trouble) (t : FileTree) (temporary : Place) (p : FilePath)
    (data : Utf8.Octets) :
    replaceBy trouble t.blank temporary p [] =
      (replaceBy trouble t temporary p data).mapState blank := by
  unfold replaceBy
  have written : t.blank.put temporary (.file []) = (t.put temporary (.file data)).blank :=
    put_blank t temporary (.file data)
  simp only [written, erase_blank, replace_blank]
  cases trouble .writeTemporary with
  | some f => rfl
  | none =>
    cases trouble .replaceTarget with
    | some f => rfl
    | none => rcases (t.put temporary (.file data)).replace temporary p with f | t' <;> rfl

theorem saveBeside_blank (trouble : Trouble) (t : FileTree) (p : FilePath) (data : Utf8.Octets) :
    saveBeside trouble t.blank p [] = (saveBeside trouble t p data).mapState blank := by
  unfold saveBeside
  have size : t.blank.entries.length = t.entries.length := List.length_map _
  rw [resolve_blank, size]
  cases trouble .makeTemporary with
  | some f => rfl
  | none =>
    rcases t.resolve p.parent with f | directory
    · rfl
    · simp only [freeName_blank]
      cases nameFault? (t.freeName directory p.name t.entries.length 0) with
      | some f => rfl
      | none =>
        have made (temporary : Place) :
            t.blank.put temporary (.file []) = (t.put temporary (.file [])).blank :=
          put_blank t temporary (.file [])
        simp only [made]
        exact replaceBy_blank trouble _ _ p data

/-- **A save does the same whatever the files hold**, the data that is saved included. -/
theorem save_blank (trouble : Trouble) (t : FileTree) (p : FilePath) (data : Utf8.Octets) :
    save trouble t.blank p [] = (save trouble t p data).mapState blank := by
  unfold save
  rw [makeDirectories_blank]
  cases trouble .encode with
  | some f => rfl
  | none => exact Outcome.mapState_andThen fun t' _ => saveBeside_blank trouble t' p data

end FileTree

/-! ### Stores -/

namespace Store

variable {α : Type}

/-- A store with nothing in memory, in its files or in its log. -/
def blank (s : Store α) : Store α :=
  match s.shelf with
  | .memory _ => { s with shelf := .memory none, log := [] }
  | .file path tree => { s with shelf := .file path tree.blank, log := [] }

variable [StateFormat α]

/-- **Stores of one shape take and refuse the same saves**, and are of one shape afterwards. -/
theorem save_of_blank_eq {s t : Store α} (h : s.blank = t.blank) (g g' : Graph α) :
    (s.save g).answer = (t.save g').answer ∧ (s.save g).state.blank = (t.save g').state.blank := by
  obtain ⟨shelf, l, log⟩ := s
  obtain ⟨shelf', l', log'⟩ := t
  cases shelf with
  | memory data =>
    cases shelf' with
    | memory data' => exact ⟨rfl, h⟩
    | file path tree => cases h
  | file path tree =>
    cases shelf' with
    | memory data' => cases h
    | file path' tree' =>
      simp only [blank, Store.mk.injEq, Shelf.file.injEq] at h
      obtain ⟨⟨rfl, htree⟩, rfl, -⟩ := h
      -- a save goes by the directories alone, so it may come before or after files are emptied
      have same : (tree.save FileTree.noTrouble path (StateFormat.encode l g)).mapState
            FileTree.blank =
          (tree'.save FileTree.noTrouble path (StateFormat.encode l g')).mapState
            FileTree.blank := by
        rw [← FileTree.save_blank, ← FileTree.save_blank, htree]
      have answer := congrArg Outcome.answer same
      have shape := congrArg Outcome.state same
      refine ⟨answer, ?_⟩
      exact congrArg (fun tree => (⟨.file path tree, l, []⟩ : Store α)) shape

end Store

end FlowCanvas
