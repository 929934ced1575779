import FlowCanvas.Proofs.Store.Load

/-!
# What has been saved

A save that succeeds leaves the octets of the graph where the next load looks for them
(`data?_of_save`). In memory there is nothing to show. In a file, the path has to lead to the same
place after the save as it did before: walking it visits directories only, and a save replaces no
directory, since all that it puts or removes is the temporary file and the file itself
(`read_of_save`).

The ways in which the steps of a save can end are told once (`replaceBy_cases`,
`saveBeside_cases`), for saves that succeed as for those that fail.
-/

namespace FlowCanvas

open Text

namespace FileTree

/-! ### Entries after a step -/

theorem entry?_put_self (t : FileTree) {p : Place} (h : p ≠ []) (e : FileEntry) :
    FileTree.entry? (t.put p e) p = some e := by
  rw [ entry?, if_neg h]
  unfold put
  split
  · next there =>
    obtain ⟨x, hx, hxp⟩ := List.any_eq_true.mp there
    have found : ((t.entries.map fun x => if x.1 = p then (p, e) else x).find?
        fun x => x.1 == p).isSome = true := by
      rw [List.find?_isSome]
      refine ⟨(p, e), List.mem_map.mpr ⟨x, hx, if_pos (eq_of_beq hxp)⟩, beq_self_eq_true p⟩
    obtain ⟨y, hy⟩ := Option.isSome_iff_exists.mp found
    -- whatever is found at the place has been put there
    obtain ⟨z, -, hz⟩ := List.mem_map.mp (List.mem_of_find?_eq_some hy)
    have hyp : y.1 = p := eq_of_beq (List.find?_some hy :)
    split at hz
    · rw [hy, ← hz]
      rfl
    · next other => exact absurd (hz ▸ hyp) other
  · next absent =>
    have none : t.entries.find? (fun x => x.1 == p) = none :=
      List.find?_eq_none.mpr fun x hx hxp => absent (List.any_eq_true.mpr ⟨x, hx, hxp⟩)
    simp [List.find?_append, none]

theorem entry?_put_of_ne (t : FileTree) {p q : Place} (h : q ≠ p) (e : FileEntry) :
    FileTree.entry? (t.put p e) q = t.entry? q := by
  have other : (p == q) = false := beq_eq_false_iff_ne.mpr h.symm
  unfold entry? put
  split
  · rfl
  split
  · -- only pairs at `p` are replaced, and they are not the ones looked for
    induction t.entries with
    | nil => rfl
    | cons x rest ih =>
      by_cases hx : x.1 = p
      · have skipped : (x.1 == q) = false := hx ▸ other
        simpa [hx, other] using ih
      · by_cases hq : x.1 = q
        · simp [hq, h]
        · simpa [hx, hq] using ih
  · simp [List.find?_append, other]

theorem entry?_erase_of_ne (t : FileTree) {p q : Place} (h : q ≠ p) :
    FileTree.entry? (t.erase p) q = t.entry? q := by
  unfold entry? erase
  split
  · rfl
  · rw [List.find?_filter]
    congr 2
    funext x
    by_cases hx : x.1 = q
    · simp [hx, h]
    · simp [hx]

@[simp] theorem put_current (t : FileTree) (p : Place) (e : FileEntry) :
    (t.put p e).current = t.current := by
  unfold put
  split <;> rfl

@[simp] theorem erase_current (t : FileTree) (p : Place) : (t.erase p).current = t.current := rfl

/-! ### Paths that lead to the same place -/

/-- A tree has the directories of another one, and is seen from the same place. -/
structure Keeps (t t' : FileTree) : Prop where
  /-- the current directory -/
  current : t'.current = t.current
  /-- the directories -/
  directory : ∀ q, t.entry? q = some .directory → t'.entry? q = some .directory

/-- A walk visits directories only, so where they are kept it ends where it did. -/
theorem Keeps.walk {t t' : FileTree} (h : t.Keeps t') :
    ∀ {names : List String} {here place : Place}, t.walk here names = .ok place →
      t'.walk here names = .ok place := by
  intro names
  induction names with
  | nil =>
    intro here place walked
    exact walked
  | cons name rest ih =>
    intro here place walked
    unfold FileTree.walk at walked ⊢
    split at walked
    · cases walked
    · cases walked
    · next directory =>
      rw [h.directory here directory]
      simp only
      split at walked
      · cases walked
      · exact ih walked

theorem Keeps.resolve {t t' : FileTree} (h : t.Keeps t') {p : FilePath} {place : Place}
    (resolved : t.resolve p = .ok place) : t'.resolve p = .ok place := by
  unfold FileTree.resolve at resolved ⊢
  split at resolved
  · cases resolved
  · rw [h.current]
    exact h.walk resolved

/-- A file takes the place of anything but a directory, and all directories stay. -/
theorem exists_of_replace_eq_ok {t t' : FileTree} {source : Place} {p : FilePath}
    {data : Utf8.Octets} (there : t.entry? source = some (.file data))
    (done : t.replace source p = .ok t') :
    ∃ place, t.resolve p = .ok place ∧ t.entry? place ≠ some .directory ∧
      t' = (t.erase source).put place (.file data) ∧ t.Keeps t' := by
  unfold replace at done
  split at done
  · cases done
  split at done
  · cases done
  · cases done
  · next place e resolved found =>
    obtain rfl : e = .file data := Option.some.inj (found.symm.trans there)
    split at done
    · cases done
    · next noDirectory =>
      obtain rfl := Except.ok.inj done
      -- neither of the two places that are changed held a directory
      refine ⟨place, resolved, noDirectory, rfl, by rw [put_current, erase_current], fun q hq => ?_⟩
      have notPlace : q ≠ place := fun h => noDirectory (h ▸ hq)
      have notSource : q ≠ source := fun h => by
        rw [h, there] at hq
        cases hq
      rw [entry?_put_of_ne _ notPlace, entry?_erase_of_ne _ notSource]
      exact hq

/-- A file that takes a place is there, and the path to it leads there still. -/
theorem read_of_replace {t t' : FileTree} {source : Place} {p : FilePath} {data : Utf8.Octets}
    (there : t.entry? source = some (.file data)) (done : t.replace source p = .ok t') :
    t'.read p = .ok data := by
  obtain ⟨place, resolved, noDirectory, rfl, keeps⟩ := exists_of_replace_eq_ok there done
  have notRoot : place ≠ [] := fun root => noDirectory (by rw [root]; rfl)
  unfold read
  rw [keeps.resolve resolved]
  simp only
  rw [entry?_put_self _ notRoot]

/-- **How a replacement ends.** It fails and removes the temporary file, be that empty or written,
or the written file takes its place. -/
theorem replaceBy_cases (trouble : Trouble) (t : FileTree) (temporary : Place) (p : FilePath)
    (data : Utf8.Octets) :
    (∃ f, replaceBy trouble t temporary p data = .failed (t.erase temporary) f) ∨
      (∃ f, replaceBy trouble t temporary p data =
        .failed ((t.put temporary (.file data)).erase temporary) f) ∨
      ∃ t', (t.put temporary (.file data)).replace temporary p = .ok t' ∧
        replaceBy trouble t temporary p data = .done t' () := by
  unfold replaceBy
  split
  · exact .inl ⟨_, rfl⟩
  dsimp only
  split
  · exact .inr (.inl ⟨_, rfl⟩)
  split
  · exact .inr (.inl ⟨_, rfl⟩)
  · next t' replaced => exact .inr (.inr ⟨t', replaced, rfl⟩)

theorem exists_of_replaceBy_eq_ok {trouble : Trouble} {t : FileTree} {temporary : Place}
    {p : FilePath} {data : Utf8.Octets}
    (done : (replaceBy trouble t temporary p data).answer = .ok ()) :
    ∃ t', (t.put temporary (.file data)).replace temporary p = .ok t' ∧
      replaceBy trouble t temporary p data = .done t' () := by
  rcases replaceBy_cases trouble t temporary p data with ⟨f, ends⟩ | ⟨f, ends⟩ | replaced
  · rw [ends] at done
    cases done
  · rw [ends] at done
    cases done
  · exact replaced

/-- **How the steps behind the directories end.** They fail and leave all as it was, or come to a
replacement by a new file in the directory above. -/
theorem saveBeside_cases (trouble : Trouble) (t : FileTree) (p : FilePath) (data : Utf8.Octets) :
    (∃ f, saveBeside trouble t p data = .failed t f) ∨
      ∃ directory, t.resolve p.parent = .ok directory ∧
        let temporary := directory ++ [t.freeName directory p.name t.entries.length 0]
        saveBeside trouble t p data =
          replaceBy trouble (t.put temporary (.file [])) temporary p data := by
  unfold saveBeside
  split
  · exact .inl ⟨_, rfl⟩
  split
  · exact .inl ⟨_, rfl⟩
  next directory resolved =>
  dsimp only
  split
  · exact .inl ⟨_, rfl⟩
  · exact .inr ⟨directory, resolved, rfl⟩

theorem read_of_replaceBy {trouble : Trouble} {t : FileTree} {temporary : Place} {p : FilePath}
    {data : Utf8.Octets} (notRoot : temporary ≠ [])
    (done : (replaceBy trouble t temporary p data).answer = .ok ()) :
    (replaceBy trouble t temporary p data).state.read p = .ok data := by
  obtain ⟨t', replaced, ends⟩ := exists_of_replaceBy_eq_ok done
  rw [ends]
  exact read_of_replace (entry?_put_self t notRoot _) replaced

theorem read_of_saveBeside {trouble : Trouble} {t : FileTree} {p : FilePath} {data : Utf8.Octets}
    (done : (saveBeside trouble t p data).answer = .ok ()) :
    (saveBeside trouble t p data).state.read p = .ok data := by
  rcases saveBeside_cases trouble t p data with ⟨f, ends⟩ | ⟨directory, -, ends⟩
  · rw [ends] at done
    cases done
  · rw [ends] at done ⊢
    exact read_of_replaceBy (List.append_ne_nil_of_right_ne_nil _ nofun) done

/-- **A file that has been saved can be read.** -/
theorem read_of_save {trouble : Trouble} {t : FileTree} {p : FilePath} {data : Utf8.Octets}
    (done : (save trouble t p data).answer = .ok ()) :
    (save trouble t p data).state.read p = .ok data := by
  unfold save at done ⊢
  split at done
  · cases done
  · obtain ⟨-, -, made⟩ := Outcome.exists_of_andThen_eq_ok done
    rw [made] at done ⊢
    exact read_of_saveBeside done

end FileTree

namespace Store

variable {α : Type} [StateFormat α]

/-- A save keeps the layout of records. -/
@[simp] theorem save_layout (s : Store α) (g : Graph α) : (s.save g).state.layout = s.layout := by
  obtain ⟨shelf, l, log⟩ := s
  cases shelf <;> rfl

/-- **A save is logged once**, with its graph, whether or not it succeeds. -/
@[simp] theorem save_log (s : Store α) (g : Graph α) : (s.save g).state.log = s.log ++ [g] := by
  obtain ⟨shelf, l, log⟩ := s
  cases shelf <;> rfl

/-- A store in memory takes every graph, and is in memory still. -/
theorem save_of_memory {s : Store α} {data : Option Utf8.Octets} (h : s.shelf = .memory data)
    (g : Graph α) :
    (s.save g).answer = .ok () ∧ ∃ data', (s.save g).state.shelf = .memory data' := by
  obtain ⟨shelf, l, log⟩ := s
  obtain rfl : shelf = .memory data := h
  exact ⟨rfl, _, rfl⟩

/-- **What has been saved is what the store holds.** -/
theorem holding_of_save {s : Store α} {g : Graph α} (done : (s.save g).answer = .ok ()) :
    (s.save g).state.holding = .ok (.octets (StateFormat.encode s.layout g)) := by
  obtain ⟨shelf, l, log⟩ := s
  cases shelf with
  | memory data => rfl
  | file path tree => exact holding_inFile (α := α) (FileTree.read_of_save done) l

theorem data?_of_save {s : Store α} {g : Graph α} (done : (s.save g).answer = .ok ()) :
    (s.save g).state.data? = some (StateFormat.encode s.layout g) := by
  rw [data?, holding_of_save done]

end Store

end FlowCanvas
