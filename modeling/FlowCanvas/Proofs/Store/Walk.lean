import FlowCanvas.Store.FileTree
import Mathlib.Data.List.Induction

/-!
# Where paths lead

A path is walked name by name, and each name goes up, stays or adds itself to the place so far. So a
walk ends no further down than there are names (`length_le_of_walk`), and one that never goes up
ends at the place that its names spell (`eq_of_walk`). Where all that is there stands in
directories, such a walk reaches whatever is there (`IsSound.walk`).
-/

namespace FlowCanvas

namespace FileTree

variable {t : FileTree}

/-! ### Walks -/

/-- The place that a path is walked from. -/
def start (t : FileTree) (p : FilePath) : Place := if p.isAbsolute then [] else t.current

/-- The names of a walk that goes down only. -/
def GoesDown (names : List String) : Prop := ∀ name ∈ names, name ≠ "." ∧ name ≠ ".."

instance (names : List String) : Decidable (GoesDown names) :=
  inferInstanceAs (Decidable (∀ name ∈ names, name ≠ "." ∧ name ≠ ".."))

/-- A path that is read from a text goes down unless it goes up. -/
theorem goesDown_ofText {path : String} (h : ".." ∉ (FilePath.ofText path).parts) :
    GoesDown (FilePath.ofText path).parts := by
  intro name hname
  refine ⟨?_, fun up => h (up ▸ hname)⟩
  have kept := (List.mem_filter.mp hname).2
  simp only [ne_eq, Bool.and_eq_true, decide_eq_true_eq] at kept
  exact kept.2

theorem start_eq_of_current_eq {t' : FileTree} (h : t'.current = t.current) (p : FilePath) :
    t'.start p = t.start p := by
  unfold start
  rw [h]

@[simp] theorem start_parent (t : FileTree) (p : FilePath) : t.start p.parent = t.start p := rfl

theorem resolve_eq_ok_iff {p : FilePath} {place : Place} :
    t.resolve p = .ok place ↔ pathFault? p = none ∧ t.walk (t.start p) p.parts = .ok place := by
  unfold resolve start
  split <;> simp_all

/-- A walk of one name and more begins in a directory, at a name that can be had. -/
theorem walk_cons_eq_ok_iff {here place : Place} {name : String} {rest : List String} :
    t.walk here (name :: rest) = .ok place ↔
      t.entry? here = some .directory ∧ nameFault? name = none ∧
        t.walk (walk.onward here name) rest = .ok place := by
  rw [walk]
  split
  · next nothing => simp [nothing]
  · next file => simp [file]
  · next directory =>
    split
    · next fault => simp [fault]
    · next fine => simp [directory, fine]

/-- The last name of a walk is looked for in a directory. -/
theorem exists_of_walk_concat {here place : Place} {names : List String} {name : String}
    (h : t.walk here (names ++ [name]) = .ok place) :
    ∃ d, t.walk here names = .ok d ∧ t.entry? d = some .directory := by
  induction names generalizing here with
  | nil => exact ⟨here, rfl, (walk_cons_eq_ok_iff.mp h).1⟩
  | cons first rest ih =>
    obtain ⟨directory, fine, walked⟩ := walk_cons_eq_ok_iff.mp h
    obtain ⟨d, hd, there⟩ := ih walked
    exact ⟨d, walk_cons_eq_ok_iff.mpr ⟨directory, fine, hd⟩, there⟩

theorem length_onward_le (here : Place) (name : String) :
    (walk.onward here name).length ≤ here.length + 1 := by
  unfold walk.onward
  split
  · omega
  · split
    · rw [List.length_dropLast]
      omega
    · exact Nat.le_of_eq (List.length_append ..)

/-- **A walk ends no further down than there are names.** -/
theorem length_le_of_walk {here place : Place} {names : List String}
    (h : t.walk here names = .ok place) : place.length ≤ here.length + names.length := by
  induction names generalizing here with
  | nil =>
    obtain rfl := Except.ok.inj h
    exact Nat.le_refl _
  | cons name rest ih =>
    obtain ⟨-, -, walked⟩ := walk_cons_eq_ok_iff.mp h
    have step := length_onward_le here name
    have more := ih walked
    rw [List.length_cons]
    omega

theorem onward_eq {here : Place} {name : String} (h : name ≠ "." ∧ name ≠ "..") :
    walk.onward here name = here ++ [name] := by
  rw [walk.onward, if_neg h.1, if_neg h.2]

/-- **A walk that goes down ends where its names say.** -/
theorem eq_of_walk {here place : Place} {names : List String} (down : GoesDown names)
    (h : t.walk here names = .ok place) :
    place = here ++ names ∧ ∀ name ∈ names, nameFault? name = none := by
  induction names generalizing here with
  | nil =>
    obtain rfl := Except.ok.inj h
    exact ⟨(List.append_nil _).symm, List.forall_mem_nil _⟩
  | cons name rest ih =>
    obtain ⟨first, others⟩ := List.forall_mem_cons.mp down
    obtain ⟨-, fine, walked⟩ := walk_cons_eq_ok_iff.mp h
    rw [onward_eq first] at walked
    obtain ⟨rfl, fines⟩ := ih others walked
    exact ⟨List.append_cons .. ▸ rfl, List.forall_mem_cons.mpr ⟨fine, fines⟩⟩

/-! ### What is at a path -/

theorem at?_of_resolve {p : FilePath} {place : Place} (h : t.resolve p = .ok place) :
    t.at? p = t.entry? place := by
  rw [at?, look, h]

theorem at?_eq_none_of_resolve {p : FilePath} (h : ∀ place, t.resolve p ≠ .ok place) :
    t.at? p = none := by
  rw [at?, look]
  cases resolved : t.resolve p with
  | ok place => exact absurd resolved (h place)
  | error f => cases f <;> rfl

/-! ### Sound trees -/

/-- A tree as it can be: whatever is there stands in a directory, and so does whoever looks. -/
structure IsSound (t : FileTree) : Prop where
  /-- the current directory -/
  current : t.entry? t.current = some .directory
  /-- what is there -/
  above : ∀ x ∈ t.entries, t.entry? x.1.dropLast = some .directory

instance (t : FileTree) : Decidable t.IsSound :=
  decidable_of_iff
    (t.entry? t.current = some .directory ∧
      ∀ x ∈ t.entries, t.entry? x.1.dropLast = some .directory)
    ⟨fun h => ⟨h.1, h.2⟩, fun h => ⟨h.1, h.2⟩⟩

/-- What is found is the root or an entry. -/
theorem exists_mem_of_entry? {q : Place} {e : FileEntry} (h : t.entry? q = some e)
    (notRoot : q ≠ []) : ∃ x ∈ t.entries, x.1 = q := by
  rw [ entry?, if_neg notRoot] at h
  obtain ⟨x, found, -⟩ := Option.map_eq_some_iff.mp h
  exact ⟨x, List.mem_of_find?_eq_some found, eq_of_beq (List.find?_some found :)⟩

namespace IsSound

theorem start (sound : t.IsSound) (p : FilePath) : t.entry? (t.start p) = some .directory := by
  unfold FileTree.start
  split
  · rfl
  · exact sound.current

theorem dropLast (sound : t.IsSound) {q : Place} {e : FileEntry} (h : t.entry? q = some e) :
    t.entry? q.dropLast = some .directory := by
  by_cases root : q = []
  · rw [root]
    rfl
  · obtain ⟨x, mem, rfl⟩ := exists_mem_of_entry? h root
    exact sound.above x mem

/-- All places on the way to what is there are directories. -/
theorem directory (sound : t.IsSound) {here : Place} {rest : List String} (more : rest ≠ [])
    {e : FileEntry} (h : t.entry? (here ++ rest) = some e) :
    t.entry? here = some .directory := by
  induction rest using List.reverseRecOn generalizing e with
  | nil => exact absurd rfl more
  | append_singleton names name ih =>
    have above := sound.dropLast h
    rw [← List.append_assoc, List.dropLast_concat] at above
    by_cases last : names = []
    · rw [last, List.append_nil] at above
      exact above
    · exact ih last above

/-- **What is there can be walked to.** -/
theorem walk (sound : t.IsSound) {here : Place} {names : List String} (down : GoesDown names)
    (fine : ∀ name ∈ names, nameFault? name = none) {e : FileEntry}
    (h : t.entry? (here ++ names) = some e) : t.walk here names = .ok (here ++ names) := by
  induction names generalizing here with
  | nil => rw [List.append_nil]; rfl
  | cons name rest ih =>
    obtain ⟨first, others⟩ := List.forall_mem_cons.mp down
    obtain ⟨fine, fines⟩ := List.forall_mem_cons.mp fine
    refine walk_cons_eq_ok_iff.mpr ⟨sound.directory (List.cons_ne_nil _ _) h, fine, ?_⟩
    rw [onward_eq first]
    rw [List.append_cons here name rest] at h ⊢
    exact ih others fines h

end IsSound

end FileTree

end FlowCanvas
