import FlowCanvas.Proofs.Store.Save
import FlowCanvas.Proofs.Store.Walk
import FlowCanvas.Proofs.Text.Digits
import Mathlib.Data.List.Nodup

/-!
# A save does all or nothing

Whatever step of a save fails, and for whatever reason, all files are as they were before: none has
changed, none is gone and none is new, so that the file to be replaced is whole and nothing is left
of the temporary file. A save that does not fail changes one file, the one at its path, which then
holds all of the data (`save_all_or_nothing`).

What may stay of a save that fails is directories above the file. They hold nothing, and yet a path
that goes up again behind one leads somewhere from then on (`at?_changed_upward`): to what was there
all the time, or to one of these directories. No other path leads to anything else than before.
-/

namespace FlowCanvas

open Text

namespace FileTree

variable {t : FileTree}

/-! ### Files that are spared -/

/-- The contents of the file at a place, if there is one. -/
def file? (t : FileTree) (q : Place) : Option Utf8.Octets :=
  match t.entry? q with
  | some (.file data) => some data
  | _ => none

theorem file?_eq_some_iff {q : Place} {data : Utf8.Octets} :
    t.file? q = some data ↔ t.entry? q = some (.file data) := by
  rcases there : t.entry? q with - | data' | - <;> simp [file?, there]

theorem file?_congr {t' : FileTree} {q : Place} (h : t'.entry? q = t.entry? q) :
    t'.file? q = t.file? q := by
  rw [file?, h, file?]

/-- A tree has the files of another one and no more, and its directories, perhaps with new ones. -/
structure Spares (t t' : FileTree) : Prop where
  /-- the directories -/
  keeps : t.Keeps t'
  /-- the files -/
  file : ∀ q, t'.file? q = t.file? q

/-- A tree has the entries of another one and no more. -/
structure Matches (t t' : FileTree) : Prop where
  /-- the current directory -/
  current : t'.current = t.current
  /-- the entries -/
  entry : ∀ q, t'.entry? q = t.entry? q

theorem Keeps.refl (t : FileTree) : t.Keeps t := ⟨rfl, fun _ h => h⟩

theorem Keeps.trans {t' t'' : FileTree} (h : t.Keeps t') (h' : t'.Keeps t'') : t.Keeps t'' :=
  ⟨h'.current.trans h.current, fun q hq => h'.directory q (h.directory q hq)⟩

theorem Spares.refl (t : FileTree) : t.Spares t := ⟨.refl t, fun _ => rfl⟩

theorem Spares.trans {t' t'' : FileTree} (h : t.Spares t') (h' : t'.Spares t'') : t.Spares t'' :=
  ⟨h.keeps.trans h'.keeps, fun q => (h'.file q).trans (h.file q)⟩

/-- What is new in a tree that spares another one is directories. -/
theorem Spares.entry?_eq_or {t' : FileTree} (h : t.Spares t') (q : Place) :
    t'.entry? q = t.entry? q ∨ t.entry? q = none ∧ t'.entry? q = some .directory := by
  rcases was : t.entry? q with - | data | -
  · rcases is : t'.entry? q with - | data | -
    · exact .inl rfl
    · have there := (h.file q).symm.trans (file?_eq_some_iff.mpr is)
      cases was.symm.trans (file?_eq_some_iff.mp there)
    · exact .inr ⟨rfl, rfl⟩
  · exact .inl (file?_eq_some_iff.mp ((h.file q).trans (file?_eq_some_iff.mpr was)))
  · exact .inl (h.keeps.directory q was)

theorem Matches.refl (t : FileTree) : t.Matches t := ⟨rfl, fun _ => rfl⟩

theorem Matches.spares {t' : FileTree} (h : t.Matches t') : t.Spares t' :=
  ⟨⟨h.current, fun q hq => (h.entry q).trans hq⟩, fun q => file?_congr (h.entry q)⟩

/-! ### Directories above the file -/

/-- A directory is made where nothing was. -/
theorem exists_of_makeDirectory_eq_ok {t' : FileTree} {p : FilePath}
    (made : t.makeDirectory p = .ok t') :
    ∃ place, t.resolve p = .ok place ∧ t.entry? place = none ∧ place ≠ [] ∧
      t' = t.put place .directory := by
  unfold makeDirectory at made
  split at made
  · cases made
  · next place resolved =>
    split at made
    · cases made
    · next free =>
      refine ⟨place, resolved, free, ?_, (Except.ok.inj made).symm⟩
      rintro rfl
      cases free

theorem spares_of_makeDirectory {t' : FileTree} {p : FilePath} (made : t.makeDirectory p = .ok t') :
    t.Spares t' ∧ ∀ q, t.resolve p ≠ .ok q → t'.entry? q = t.entry? q := by
  obtain ⟨place, resolved, free, notRoot, rfl⟩ := exists_of_makeDirectory_eq_ok made
  refine ⟨⟨⟨put_current .., fun q hq => ?_⟩, fun q => ?_⟩, fun q hq => ?_⟩
  · by_cases same : q = place
    · rw [same, entry?_put_self _ notRoot]
    · rw [entry?_put_of_ne _ same, hq]
  · by_cases same : q = place
    · rw [same, file?, entry?_put_self _ notRoot, file?, free]
    · exact file?_congr (entry?_put_of_ne _ same _)
  · exact entry?_put_of_ne _ (fun same => hq (by rw [same, resolved])) _

/-- What is told of a tree is told of it with directories made above a path, if making one of them
leaves it true. -/
theorem ensureDirectory_induction {P : FileTree → Prop} {trouble : Option FileFault}
    {p : FilePath} {missing : Outcome FileTree FileFault Unit} (before : P t)
    (made : ∀ t', t.makeDirectory p = .ok t' → P t')
    (otherwise : t.makeDirectory p = .error .notFound → P missing.state) :
    P (ensureDirectory trouble t p missing).state := by
  unfold ensureDirectory
  split
  · exact before
  · split
    · next t' h => exact made t' h
    · next h => exact otherwise h
    · split
      · exact before
      · exact before

/-- What is told of a tree is told of it with a directory made and those above it, if making one of
them leaves it true. -/
theorem ensureDirectories_induction {P : FileTree → Prop} (trouble : Trouble) (height : Nat)
    (p : FilePath) (before : P t)
    (made : ∀ s s' (q : FilePath), q.root = p.root → q.parts <+: p.parts → P s →
      s.makeDirectory q = .ok s' → P s') :
    P (ensureDirectories trouble height t p).state := by
  have one (s s' : FileTree) (hs : P s) (h : s.makeDirectory p = .ok s') : P s' :=
    made s s' p rfl List.prefix_rfl hs h
  induction height generalizing t p with
  | zero => exact ensureDirectory_induction before (one t · before) fun _ => before
  | succ height ih =>
    refine ensureDirectory_induction before (one t · before) fun _ => ?_
    split
    · exact before
    · -- the directory above is made first, and then the one at the path
      have above (s s' : FileTree) (q : FilePath) (root : q.root = p.root)
          (upper : q.parts <+: p.parent.parts) (hs : P s) (h : s.makeDirectory q = .ok s') :
          P s' := made s s' q root (upper.trans (List.dropLast_prefix _)) hs h
      have first : P (ensureDirectories trouble height t p.parent).state :=
        ih p.parent before above fun s s' hs h => above s s' p.parent rfl List.prefix_rfl hs h
      exact Outcome.andThen_induction first fun _ hs =>
        ensureDirectory_induction hs (one _ · hs) fun _ => hs

/-- **Directories are made without harm**, and no further down than the path has names. -/
theorem spares_makeDirectories (trouble : Trouble) (t : FileTree) (p : FilePath) :
    t.Spares (makeDirectories trouble t p).state ∧
      ∀ q : Place, (t.start p).length + p.parts.length < q.length →
        FileTree.entry? (makeDirectories trouble t p).state q = t.entry? q := by
  let P (s : FileTree) : Prop := t.Spares s ∧
    ∀ q : Place, (t.start p).length + p.parts.length < q.length → s.entry? q = t.entry? q
  refine ensureDirectories_induction (P := P) trouble _ p ⟨.refl t, fun _ _ => rfl⟩ ?_
  rintro s s' upper root above ⟨spares, deeper⟩ made
  obtain ⟨step, others⟩ := spares_of_makeDirectory made
  refine ⟨spares.trans step, fun q deep => ?_⟩
  rw [others q fun resolved => ?_, deeper q deep]
  -- a directory made at `q` would be too far down
  have bound := length_le_of_walk (resolve_eq_ok_iff.mp resolved).2
  have start : s.start upper = t.start p := by
    rw [start_eq_of_current_eq spares.keeps.current, FileTree.start, FilePath.isAbsolute, root]
    rfl
  rw [start] at bound
  have shorter := above.length_le
  omega

/-- Where something is at the end of a path, there is no directory to be made. -/
theorem makeDirectories_state_of_walk {trouble : Trouble} {p : FilePath} {place : Place}
    {e : FileEntry} (walked : t.walk (t.start p) p.parts = .ok place)
    (there : t.entry? place = some e) : (makeDirectories trouble t p).state = t := by
  have fault : ∃ f, t.makeDirectory p = .error f ∧ f ≠ .notFound := by
    unfold makeDirectory
    cases wrong : pathFault? p with
    | some f =>
      refine ⟨f, by rw [resolve, wrong], ?_⟩
      rintro rfl
      unfold pathFault? at wrong
      split at wrong
      · cases wrong
      · split at wrong <;> cases wrong
    | none =>
      rw [resolve_eq_ok_iff.mpr ⟨wrong, walked⟩]
      simp only [there]
      exact ⟨_, rfl, nofun⟩
  -- only a directory that is missed would send the search further up
  obtain ⟨f, refused, other⟩ := fault
  have alone (missing : Outcome FileTree FileFault Unit) :
      (ensureDirectory (trouble (.makeDirectory p false)) t p missing).state = t := by
    refine ensureDirectory_induction (P := (· = t)) rfl (fun t' made => ?_) fun missed => ?_
    · cases refused.symm.trans made
    · exact absurd (Except.error.inj (refused.symm.trans missed)) other
  unfold makeDirectories
  cases p.parts.length with
  | zero => exact alone _
  | succ height => exact alone _

/-! ### The temporary file -/

/-- Names of temporary files are told apart by their numbers. -/
theorem temporaryName_injective (name : String) :
    Function.Injective (temporaryName name) := by
  intro m n h
  have digits : padLeft 8 '0' (decimal m) = padLeft 8 '0' (decimal n) := by
    simpa [temporaryName, String.ofList_inj] using h
  have value := congrArg digitsValue digits
  simpa only [padLeft, digitsValue_append, digitsValue_replicate_zero, digitsValue_decimal,
    Nat.zero_mul, Nat.zero_add] using value

/-- A search for a free name goes on where names are taken. -/
theorem freeName_eq_or (t : FileTree) (directory : Place) (name : String) (fuel k : Nat) :
    t.entry? (directory ++ [t.freeName directory name fuel k]) = none ∨
      ∀ i, k ≤ i → i ≤ k + fuel → (t.entry? (directory ++ [temporaryName name i])).isSome := by
  induction fuel generalizing k with
  | zero =>
    by_cases taken : (t.entry? (directory ++ [temporaryName name k])).isSome
    · refine .inr fun i low high => ?_
      obtain rfl : i = k := by omega
      exact taken
    · exact .inl (Option.not_isSome_iff_eq_none.mp taken)
  | succ fuel ih =>
    rw [freeName]
    split
    · next taken =>
      refine (ih (k + 1)).imp id fun all i low high => ?_
      rcases Nat.eq_or_lt_of_le low with rfl | later
      · exact taken
      · exact all i later (by omega)
    · next free => exact .inl (Option.not_isSome_iff_eq_none.mp free)

/-- **Pigeonhole**: a temporary file is at a place where nothing was, as there are fewer entries
than names to be tried. -/
theorem entry?_freeName (t : FileTree) (directory : Place) (name : String) :
    t.entry? (directory ++ [t.freeName directory name t.entries.length 0]) = none := by
  refine (freeName_eq_or t directory name t.entries.length 0).resolve_right fun taken => ?_
  let tried := (List.range (t.entries.length + 1)).map fun i => directory ++ [temporaryName name i]
  have different : tried.Nodup := by
    refine List.Nodup.map (fun i j same => ?_) List.nodup_range
    exact temporaryName_injective name (List.singleton_inj.mp (List.append_cancel_left same))
  have known : tried ⊆ t.entries.map Prod.fst := by
    intro place mem
    obtain ⟨i, hi, rfl⟩ := List.mem_map.mp mem
    obtain ⟨e, he⟩ := Option.isSome_iff_exists.mp
      (taken i (Nat.zero_le i) (by have := List.mem_range.mp hi; omega))
    obtain ⟨x, mem, hx⟩ := exists_mem_of_entry? he (List.append_ne_nil_of_right_ne_nil _ nofun)
    exact List.mem_map.mpr ⟨x, mem, hx⟩
  have few := different.length_le_of_subset known
  rw [List.length_map, List.length_map, List.length_range] at few
  omega

theorem entry?_erase_self (t : FileTree) {p : Place} (h : p ≠ []) :
    FileTree.entry? (t.erase p) p = none := by
  rw [ entry?, if_neg h, erase, List.find?_eq_none.mpr, Option.map_none]
  intro x mem
  have other := (List.mem_filter.mp mem).2
  simpa using other

/-- A new file that is removed again leaves nothing behind. -/
theorem matches_erase {t' : FileTree} {p : Place} (free : t.entry? p = none)
    (current : t'.current = t.current) (others : ∀ q ≠ p, t'.entry? q = t.entry? q) :
    t.Matches (t'.erase p) := by
  refine ⟨current, fun q => ?_⟩
  by_cases same : q = p
  · have notRoot : p ≠ [] := by
      rintro rfl
      cases free
    rw [same, entry?_erase_self _ notRoot, free]
  · rw [entry?_erase_of_ne _ same, others q same]

/-! ### The file itself -/

section

variable {trouble : Trouble} {p : FilePath} {data : Utf8.Octets}

/-- **A replacement that fails leaves nothing behind**, the temporary file included. -/
theorem matches_of_replaceBy {temporary : Place} (free : t.entry? temporary = none) {f : FileFault}
    (failed : (replaceBy trouble (t.put temporary (.file [])) temporary p data).answer = .error f) :
    t.Matches (replaceBy trouble (t.put temporary (.file [])) temporary p data).state := by
  have made : t.Matches ((t.put temporary (.file [])).erase temporary) :=
    matches_erase free (put_current ..) fun _ other => entry?_put_of_ne _ other _
  have written :
      t.Matches (((t.put temporary (.file [])).put temporary (.file data)).erase temporary) :=
    matches_erase free ((put_current ..).trans (put_current ..)) fun _ other =>
      (entry?_put_of_ne _ other _).trans (entry?_put_of_ne _ other _)
  rcases replaceBy_cases trouble (t.put temporary (.file [])) temporary p data with
    ⟨f, ends⟩ | ⟨f, ends⟩ | ⟨t', -, ends⟩
  · rw [ends]
    exact made
  · rw [ends]
    exact written
  · rw [ends] at failed
    cases failed

/-- A replacement that does not fail changes what is at its path and nothing else. -/
theorem others_of_replace {t' t'' : FileTree} {temporary : Place}
    (free : t.entry? temporary = none) (current : t'.current = t.current)
    (others : ∀ q ≠ temporary, t'.entry? q = t.entry? q)
    (there : t'.entry? temporary = some (.file data))
    (replaced : t'.replace temporary p = .ok t'') :
    t.Keeps t'' ∧ ∀ q, t''.resolve p ≠ .ok q → t''.entry? q = t.entry? q := by
  obtain ⟨place, resolved, -, rfl, keeps⟩ := exists_of_replace_eq_ok there replaced
  refine ⟨⟨keeps.current.trans current, fun q hq => keeps.directory q ?_⟩, fun q hq => ?_⟩
  · rw [others q fun same => ?_, hq]
    rw [same, free] at hq
    cases hq
  · have other : q ≠ place := fun same => hq (same ▸ keeps.resolve resolved)
    rw [entry?_put_of_ne _ other, (matches_erase free current others).entry]

theorem others_of_replaceBy {temporary : Place} (free : t.entry? temporary = none)
    (done : (replaceBy trouble (t.put temporary (.file [])) temporary p data).answer = .ok ()) :
    let t' := (replaceBy trouble (t.put temporary (.file [])) temporary p data).state
    t.Keeps t' ∧ ∀ q, t'.resolve p ≠ .ok q → t'.entry? q = t.entry? q := by
  have notRoot : temporary ≠ [] := by
    rintro rfl
    cases free
  obtain ⟨t', replaced, ends⟩ := exists_of_replaceBy_eq_ok done
  rw [ends]
  refine others_of_replace free ((put_current ..).trans (put_current ..)) (fun q other => ?_)
    (entry?_put_self _ notRoot _) replaced
  exact (entry?_put_of_ne _ other _).trans (entry?_put_of_ne _ other _)

/-- The steps behind the directories leave nothing behind if one of them fails. -/
theorem matches_of_saveBeside {f : FileFault}
    (failed : (saveBeside trouble t p data).answer = .error f) :
    t.Matches (saveBeside trouble t p data).state := by
  rcases saveBeside_cases trouble t p data with ⟨f, ends⟩ | ⟨directory, -, ends⟩
  · rw [ends]
    exact .refl t
  · rw [ends] at failed ⊢
    exact matches_of_replaceBy (entry?_freeName t directory p.name) failed

theorem others_of_saveBeside (done : (saveBeside trouble t p data).answer = .ok ()) :
    let t' := (saveBeside trouble t p data).state
    t.Keeps t' ∧ ∀ q, t'.resolve p ≠ .ok q → t'.entry? q = t.entry? q := by
  rcases saveBeside_cases trouble t p data with ⟨f, ends⟩ | ⟨directory, -, ends⟩
  · rw [ends] at done
    cases done
  · rw [ends] at done ⊢
    exact others_of_replaceBy (entry?_freeName t directory p.name) done

/-! ### Saves -/

/-- A save that fails leaves what there was, or that and directories above the file. -/
theorem matches_of_save {f : FileFault} (failed : (save trouble t p data).answer = .error f) :
    t.Matches (save trouble t p data).state ∨
      (makeDirectories trouble t p.parent).state.Matches (save trouble t p data).state := by
  unfold save at failed ⊢
  split
  · exact .inl (.refl t)
  · next fine =>
    rw [fine] at failed
    dsimp only at failed
    unfold Outcome.andThen at failed ⊢
    split
    · next made =>
      rw [made] at failed
      exact .inr (matches_of_saveBeside failed)
    · exact .inr (.refl _)

/-- A save that fails harms nothing, and makes nothing as far down as the file would be. -/
theorem spares_of_save {f : FileFault} (failed : (save trouble t p data).answer = .error f) :
    t.Spares (save trouble t p data).state ∧
      ∀ q : Place, (t.start p).length + p.parent.parts.length < q.length →
        FileTree.entry? (save trouble t p data).state q = t.entry? q := by
  rcases matches_of_save failed with same | same
  · exact ⟨same.spares, fun q _ => same.entry q⟩
  · obtain ⟨spares, deeper⟩ := spares_makeDirectories trouble t p.parent
    exact ⟨spares.trans same.spares, fun q deep => (same.entry q).trans (deeper q deep)⟩

/-- Where the path to the file leads somewhere, a save that fails leaves all as it was. -/
theorem matches_of_save_of_resolve (sound : t.IsSound) {place : Place}
    (resolved : t.resolve p = .ok place) {f : FileFault}
    (failed : (save trouble t p data).answer = .error f) :
    t.Matches (save trouble t p data).state := by
  obtain ⟨-, walked⟩ := resolve_eq_ok_iff.mp resolved
  have above : ∃ d, t.walk (t.start p.parent) p.parent.parts = .ok d ∧
      t.entry? d = some .directory := by
    rw [start_parent]
    rcases List.eq_nil_or_concat p.parts with none | ⟨names, name, split⟩
    · refine ⟨t.start p, ?_, sound.start p⟩
      rw [FilePath.parent, none]
      rfl
    · rw [split, List.concat_eq_append] at walked
      rw [FilePath.parent, split, List.concat_eq_append, List.dropLast_concat]
      exact exists_of_walk_concat walked
  obtain ⟨d, walked, directory⟩ := above
  refine (matches_of_save failed).elim id fun same => ?_
  rwa [makeDirectories_state_of_walk walked directory] at same

/-- A path that led nowhere leads nowhere still, or to what was there, or to a new directory. -/
theorem Spares.at?_eq_or {t' : FileTree} (h : t.Spares t')
    (nowhere : ∀ place, t.resolve p ≠ .ok place) :
    t'.at? p = t.at? p ∨ ∃ q, t'.resolve p = .ok q ∧
      (t'.at? p = t.entry? q ∨ t.entry? q = none ∧ t'.at? p = some .directory) := by
  by_cases led : ∃ q, t'.resolve p = .ok q
  · obtain ⟨q, resolved⟩ := led
    refine .inr ⟨q, resolved, ?_⟩
    rw [at?_of_resolve resolved]
    exact h.entry?_eq_or q
  · left
    rw [at?_eq_none_of_resolve nowhere, at?_eq_none_of_resolve (not_exists.mp led)]

/-- A path that goes down to nothing leads to nothing still, if there is nothing new where its names
end. -/
theorem at?_eq_of_goesDown (sound : t.IsSound) (down : GoesDown p.parts) {t' : FileTree}
    (current : t'.current = t.current)
    (deeper : ∀ q : Place, (t.start p).length + p.parent.parts.length < q.length →
      t'.entry? q = t.entry? q)
    (nowhere : ∀ place, t.resolve p ≠ .ok place) : t'.at? p = t.at? p := by
  rw [at?_eq_none_of_resolve nowhere]
  by_cases found : ∃ place, t'.resolve p = .ok place
  swap
  · exact at?_eq_none_of_resolve fun place resolved => found ⟨place, resolved⟩
  obtain ⟨place, resolved⟩ := found
  obtain ⟨fine, walked⟩ := resolve_eq_ok_iff.mp resolved
  rw [start_eq_of_current_eq current] at walked
  obtain ⟨rfl, fines⟩ := eq_of_walk down walked
  have named : p.parts ≠ [] := fun none =>
    nowhere (t.start p) (resolve_eq_ok_iff.mpr ⟨fine, by rw [none]; rfl⟩)
  rw [at?_of_resolve resolved, deeper]
  · -- whatever were there could have been walked to
    refine Option.eq_none_iff_forall_ne_some.mpr fun e there => ?_
    exact nowhere _ (resolve_eq_ok_iff.mpr ⟨fine, sound.walk down fines there⟩)
  · have more := List.length_pos_iff.mpr named
    rw [List.length_append, FilePath.parent, List.length_dropLast]
    omega

/-- A save that does not fail keeps all directories, and all files but the one at its path. -/
theorem others_of_save (done : (save trouble t p data).answer = .ok ()) :
    t.Keeps (save trouble t p data).state ∧
      ∀ q, (save trouble t p data).state.resolve p ≠ .ok q →
        (save trouble t p data).state.file? q = t.file? q := by
  unfold save at done ⊢
  split at done
  · cases done
  · obtain ⟨-, -, made⟩ := Outcome.exists_of_andThen_eq_ok done
    rw [made] at done ⊢
    obtain ⟨keeps, others⟩ := others_of_saveBeside done
    obtain ⟨spares, -⟩ := spares_makeDirectories trouble t p.parent
    exact ⟨spares.keeps.trans keeps, fun q other =>
      (file?_congr (others q other)).trans (spares.file q)⟩

/-- **A save does all or nothing**, whatever fails. Where its path led nowhere and goes up, it may
lead somewhere after a save that fails: to what was there before, or to a directory that the save
has made. -/
theorem save_all_or_nothing {α : Type} [StateFormat α] (trouble : Trouble) (t : FileTree)
    (path : String) (l : Json.Layout) (g : Graph α) :
    let p := FilePath.ofText path
    let o := save trouble t p (StateFormat.encode l g)
    (o.answer = .ok () →
      o.state.read p = .ok (StateFormat.encode l g) ∧ t.Keeps o.state ∧
        ∀ q, o.state.resolve p ≠ .ok q → o.state.file? q = t.file? q) ∧
    ∀ f, o.answer = .error f →
      t.Spares o.state ∧
        (t.IsSound → o.state.at? p = t.at? p ∨
          ".." ∈ p.parts ∧ (∀ q, t.resolve p ≠ .ok q) ∧
            ∃ q, o.state.resolve p = .ok q ∧
              (o.state.at? p = t.entry? q ∨
                t.entry? q = none ∧ o.state.at? p = some .directory)) := by
  dsimp only
  refine ⟨fun done => ⟨read_of_save done, others_of_save done⟩, fun f failed => ?_⟩
  obtain ⟨spares, deeper⟩ := spares_of_save failed
  refine ⟨spares, fun sound => ?_⟩
  by_cases somewhere : ∃ q, t.resolve (.ofText path) = .ok q
  · obtain ⟨q, resolved⟩ := somewhere
    have same := matches_of_save_of_resolve sound resolved failed
    left
    rw [at?_of_resolve resolved, at?_of_resolve (same.spares.keeps.resolve resolved), same.entry]
  · have nowhere : ∀ q, t.resolve (.ofText path) ≠ .ok q := not_exists.mp somewhere
    by_cases up : ".." ∈ (FilePath.ofText path).parts
    · exact (spares.at?_eq_or nowhere).imp_right fun led => ⟨up, nowhere, led⟩
    · exact .inl (at?_eq_of_goesDown sound (goesDown_ofText up) spares.keeps.current deeper nowhere)

/-- Two files, one of them in a directory. -/
def twoFiles : FileTree where
  entries := [(["state.json"], .file [123, 125]), (["m"], .directory), (["m", "x"], .file [49])]
  current := []

/-- The last step of a save fails. -/
def lastStepFails : Trouble
  | .replaceTarget => some .busy
  | _ => none

theorem save_twoFiles :
    let p := FilePath.ofText "state.json"
    let data := StateFormat.encode .compact (Graph.initial : Graph Number)
    (save noTrouble twoFiles p data).state.read p = .ok data ∧
      (save lastStepFails twoFiles p data).state.at? p = some (.file [123, 125]) := by
  dsimp only
  obtain ⟨succeeds, -⟩ := save_all_or_nothing noTrouble twoFiles "state.json" .compact
    (Graph.initial : Graph Number)
  obtain ⟨-, fails⟩ := save_all_or_nothing lastStepFails twoFiles "state.json" .compact
    (Graph.initial : Graph Number)
  refine ⟨(succeeds (by decide +kernel)).1, ?_⟩
  have same := ((fails .busy (by decide +kernel)).2 (by decide +kernel)).resolve_right
    fun up => absurd up.1 (by decide +kernel)
  rw [same]
  decide +kernel

/-- **A path may lead somewhere after a save that fails**: it goes up behind a directory that the
save has made, to a directory that no file can replace. -/
theorem at?_changed_upward :
    let p := FilePath.ofText "a/../m"
    let o := save noTrouble twoFiles p (StateFormat.encode .compact (Graph.initial : Graph Number))
    twoFiles.IsSound ∧ o.answer = .error .isDirectory ∧ twoFiles.at? p = none ∧
      o.state.at? p = some .directory := by
  dsimp only
  refine ⟨?_, ?_, ?_, ?_⟩
  all_goals decide +kernel

/-- It may be a directory that the save has made itself. -/
example :
    let p := FilePath.ofText "a/../a"
    let o := save noTrouble ⟨[], []⟩ p (StateFormat.encode .compact (Graph.initial : Graph Number))
    o.answer = .error .isDirectory ∧ o.state.entries = [(["a"], .directory)] ∧
      o.state.at? p = some .directory := by
  decide +kernel

end

end FileTree

end FlowCanvas
