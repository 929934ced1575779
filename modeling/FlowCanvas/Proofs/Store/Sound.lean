import FlowCanvas.Proofs.Store.Atomic

/-!
# Sound trees stay sound

In a sound tree whatever is there stands in a directory. A file or a directory is put only where a
walk ends, and a walk ends in a directory or right below one (`IsSound.above_of_walk`); what is
removed or replaced is a file, so that nothing stands in it. So a save leaves a sound tree behind,
whether or not it fails, and at whatever step (`IsSound.save`).
-/

namespace FlowCanvas

open Text

namespace FileTree

variable {t : FileTree} {trouble : Trouble} {p : FilePath} {data : Utf8.Octets}

/-- What is there after something else has been erased was there before. -/
theorem entry?_of_erase {source q : Place} {e : FileEntry}
    (there : FileTree.entry? (t.erase source) q = some e) : t.entry? q = some e := by
  by_cases same : q = source
  · subst same
    by_cases root : q = []
    · rw [root] at there ⊢
      exact there
    · rw [entry?_erase_self _ root] at there
      cases there
  · rwa [entry?_erase_of_ne _ same] at there

/-! ### Directories that have been made -/

theorem isDirectory_of_makeDirectory {t' : FileTree} (made : t.makeDirectory p = .ok t') :
    t'.isDirectory p = true := by
  obtain ⟨spares, -⟩ := spares_of_makeDirectory made
  obtain ⟨place, resolved, -, notRoot, rfl⟩ := exists_of_makeDirectory_eq_ok made
  rw [isDirectory, at?_of_resolve (spares.keeps.resolve resolved), entry?_put_self _ notRoot]
  rfl

theorem isDirectory_of_ensureDirectory {trouble : Option FileFault}
    {missing : Outcome FileTree FileFault Unit}
    (done : (ensureDirectory trouble t p missing).answer = .ok ())
    (otherwise : missing.answer = .ok () → missing.state.isDirectory p = true) :
    (ensureDirectory trouble t p missing).state.isDirectory p = true := by
  unfold ensureDirectory at done ⊢
  split at done
  · cases done
  · split at done
    · next made => exact isDirectory_of_makeDirectory made
    · exact otherwise done
    · split at done
      · next there =>
        rw [if_pos there]
        exact there
      · cases done

/-- **Where directories have been made there is one.** -/
theorem isDirectory_of_makeDirectories
    (done : (makeDirectories trouble t p).answer = .ok ()) :
    (makeDirectories trouble t p).state.isDirectory p = true := by
  unfold makeDirectories at done ⊢
  generalize p.parts.length = height at done ⊢
  cases height with
  | zero => exact isDirectory_of_ensureDirectory done nofun
  | succ height =>
    refine isDirectory_of_ensureDirectory done fun above => ?_
    split at above
    · cases above
    · next other =>
      rw [if_neg other]
      obtain ⟨-, -, made⟩ := Outcome.exists_of_andThen_eq_ok above
      rw [made] at above ⊢
      exact isDirectory_of_ensureDirectory above nofun

namespace IsSound

/-- A sound tree is still sound with other entries, if the directories are kept and the entries
stand in directories. -/
theorem of_keeps (sound : t.IsSound) {t' : FileTree} (keeps : t.Keeps t')
    (above : ∀ x ∈ t'.entries, x ∈ t.entries ∨ t.entry? x.1.dropLast = some .directory) :
    t'.IsSound := by
  refine ⟨?_, fun x mem => keeps.directory _ ?_⟩
  · rw [keeps.current]
    exact keeps.directory _ sound.current
  · exact (above x mem).elim (sound.above x) id

/-- **A walk ends in a directory or right below one.** -/
theorem above_of_walk (sound : t.IsSound) {here place : Place} {names : List String}
    (above : t.entry? here.dropLast = some .directory)
    (walked : t.walk here names = .ok place) : t.entry? place.dropLast = some .directory := by
  induction names generalizing here with
  | nil =>
    obtain rfl := Except.ok.inj walked
    exact above
  | cons name rest ih =>
    obtain ⟨directory, -, walked⟩ := walk_cons_eq_ok_iff.mp walked
    refine ih ?_ walked
    unfold walk.onward
    split
    · exact above
    · split
      · exact sound.dropLast above
      · rw [List.dropLast_concat]
        exact directory

theorem above_of_resolve (sound : t.IsSound) {place : Place} (resolved : t.resolve p = .ok place) :
    t.entry? place.dropLast = some .directory :=
  sound.above_of_walk (sound.dropLast (sound.start p)) (resolve_eq_ok_iff.mp resolved).2

/-! ### Entries that are put and erased -/

theorem put (sound : t.IsSound) {place : Place} {e : FileEntry}
    (above : t.entry? place.dropLast = some .directory)
    (stays : t.entry? place = some .directory → e = .directory) : (t.put place e).IsSound := by
  refine sound.of_keeps ⟨put_current .., fun q hq => ?_⟩ fun x mem => ?_
  · by_cases same : q = place
    · subst same
      by_cases root : q = []
      · rw [root]
        rfl
      · rw [entry?_put_self _ root, stays hq]
    · rw [entry?_put_of_ne _ same, hq]
  · -- an entry is replaced where it stands, or comes behind the others
    unfold FileTree.put at mem
    split at mem
    · obtain ⟨y, hy, rfl⟩ := List.mem_map.mp mem
      split
      · exact .inr above
      · exact .inl hy
    · obtain there | new := List.mem_append.mp mem
      · exact .inl there
      · obtain rfl := List.mem_singleton.mp new
        exact .inr above

theorem erase (sound : t.IsSound) {place : Place} (file : t.entry? place ≠ some .directory) :
    (t.erase place).IsSound := by
  refine sound.of_keeps ⟨erase_current .., fun q hq => ?_⟩ fun x mem => ?_
  · rw [entry?_erase_of_ne _ fun same => ?_, hq]
    rw [same] at hq
    exact file hq
  · exact .inl (List.mem_filter.mp mem).1

/-! ### The steps of a save -/

theorem makeDirectory (sound : t.IsSound) {t' : FileTree} (made : t.makeDirectory p = .ok t') :
    t'.IsSound := by
  obtain ⟨place, resolved, -, -, rfl⟩ := exists_of_makeDirectory_eq_ok made
  exact sound.put (sound.above_of_resolve resolved) fun _ => rfl

theorem makeDirectories (sound : t.IsSound) (trouble : Trouble) (p : FilePath) :
    (makeDirectories trouble t p).state.IsSound :=
  ensureDirectories_induction trouble _ p sound fun _ _ _ _ _ sound made => sound.makeDirectory made

theorem replace (sound : t.IsSound) {t' : FileTree} {source : Place}
    (there : t.entry? source = some (.file data)) (done : t.replace source p = .ok t') :
    t'.IsSound := by
  obtain ⟨place, resolved, noDirectory, rfl, -⟩ := exists_of_replace_eq_ok there done
  have file : t.entry? source ≠ some .directory := by simp [there]
  have above := sound.above_of_resolve resolved
  refine (sound.erase file).put ?_ fun directory => absurd (entry?_of_erase directory) noDirectory
  rw [entry?_erase_of_ne _ fun same => ?_, above]
  rw [same] at above
  exact file above

/-- A temporary file is not the place of a directory, and so it can be put, written and erased. -/
theorem replaceBy (sound : t.IsSound) (trouble : Trouble) (p : FilePath) (data : Utf8.Octets)
    {temporary : Place} (notRoot : temporary ≠ [])
    (above : t.entry? temporary.dropLast = some .directory)
    (file : t.entry? temporary ≠ some .directory) :
    (replaceBy trouble t temporary p data).state.IsSound := by
  have written : (t.put temporary (.file data)).IsSound :=
    sound.put above fun directory => absurd directory file
  have there : FileTree.entry? (t.put temporary (.file data)) temporary = some (.file data) :=
    entry?_put_self _ notRoot _
  have removed : ((t.put temporary (.file data)).erase temporary).IsSound :=
    written.erase (by simp [there])
  rcases replaceBy_cases trouble t temporary p data with
    ⟨f, ends⟩ | ⟨f, ends⟩ | ⟨t', replaced, ends⟩
  · rw [ends]
    exact sound.erase file
  · rw [ends]
    exact removed
  · rw [ends]
    exact written.replace there replaced

theorem saveBeside (sound : t.IsSound) (trouble : Trouble) (data : Utf8.Octets)
    (above : t.isDirectory p.parent = true) : (saveBeside trouble t p data).state.IsSound := by
  rcases saveBeside_cases trouble t p data with ⟨f, ends⟩ | ⟨directory, resolved, ends⟩
  · rw [ends]
    exact sound
  rw [ends]
  have free := entry?_freeName t directory p.name
  have notRoot : directory ++ [t.freeName directory p.name t.entries.length 0] ≠ [] :=
    List.append_ne_nil_of_right_ne_nil _ nofun
  have below : t.entry? directory = some .directory := by
    rw [isDirectory, at?_of_resolve resolved] at above
    exact of_decide_eq_true above
  -- the temporary file is new, so that it does not stand where a directory was
  have made : (t.put (directory ++ [t.freeName directory p.name t.entries.length 0])
      (.file [])).IsSound := by
    refine sound.put ?_ fun there => ?_
    · rw [List.dropLast_concat, below]
    · rw [free] at there
      cases there
  refine made.replaceBy trouble p data notRoot ?_ ?_
  · rw [List.dropLast_concat, entry?_put_of_ne, below]
    simp
  · rw [entry?_put_self _ notRoot]
    nofun

/-- **A save leaves a sound tree behind**, whatever fails. -/
theorem save (sound : t.IsSound) (trouble : Trouble) (p : FilePath) (data : Utf8.Octets) :
    (save trouble t p data).state.IsSound := by
  unfold FileTree.save
  split
  · exact sound
  · have made := sound.makeDirectories trouble p.parent
    unfold Outcome.andThen
    split
    · next done => exact made.saveBeside trouble data (isDirectory_of_makeDirectories done)
    · exact made

end IsSound

end FileTree

end FlowCanvas
