import FlowCanvas.Proofs.Json.Readable
import FlowCanvas.Proofs.Json.String

/-!
# JSON texts read back

A value that can be read at all is read back from its text, in every layout (`read_text`). The
induction is on the value: a part that is read back from its own text is read back from inside a
larger one, because what follows it there is a comma, a blank or a bracket.
-/

namespace FlowCanvas.Json

open Text

/-! ### Where values begin -/

/-- The characters with which a text of a value can begin. -/
def begins (c : Char) : Bool :=
  isDigit c || ['\x22', '[', '\x7b', '-', 'n', 't', 'f', 'N', 'I'].contains c

theorem wholePart?_head {s : List Char} {p} (h : wholePart? s = some p) :
    ∃ c t, s = c :: t ∧ isDigit c = true := by
  cases s with
  | nil => cases h
  | cons c t =>
    refine ⟨c, t, rfl, ?_⟩
    rw [wholePart?] at h
    split at h
    · next zero =>
      rw [zero]
      rfl
    · split at h
      · next digit => exact digit
      · cases h

/-- A number begins with a digit, perhaps after a minus sign. -/
theorem readNumber_head {s : List Char} {p} (h : readNumber s = .ok p) :
    ∃ c t, isDigit c = true ∧ (s = c :: t ∨ s = '-' :: c :: t) := by
  unfold readNumber at h
  dsimp only at h
  split at h
  · cases h
  · next whole =>
    obtain ⟨c, t, front, digit⟩ := wholePart?_head whole
    refine ⟨c, t, digit, ?_⟩
    unfold minusPart at front
    split at front
    · next rest =>
      dsimp only at front
      exact .inr (by rw [front])
    · exact .inl front

theorem words_eq : words = [(['n', 'u', 'l', 'l'], null), (['t', 'r', 'u', 'e'], bool true),
    (['f', 'a', 'l', 's', 'e'], bool false), (['N', 'a', 'N'], number (.real (0.0 / 0.0))),
    (['I', 'n', 'f', 'i', 'n', 'i', 't', 'y'], number (.real (Binary64.infinity false))),
    (['-', 'I', 'n', 'f', 'i', 'n', 'i', 't', 'y'], number (.real (Binary64.infinity true)))] := by
  simp [words]

/-- A text that begins with a digit, perhaps after a minus sign, does not begin with a word. -/
theorem word?_eq_none_of_digit {s : List Char} {c : Char} {t : List Char} (digit : isDigit c = true)
    (h : s = c :: t ∨ s = '-' :: c :: t) : word? s = none := by
  obtain rfl | rfl := h
  all_goals
    simp only [word?, words_eq, Option.map_eq_none_iff, List.find?_eq_none, List.forall_mem_cons,
      List.isPrefixOf, Bool.and_eq_true, beq_iff_eq]
    and_intros
  all_goals
    first
    | exact List.forall_mem_nil _
    | rintro ⟨rfl, -⟩
      exact absurd digit (by decide)
    | rintro ⟨-, rfl, -⟩
      exact absurd digit (by decide)

theorem begins_of_word {w : List Char × Json} (h : w ∈ words) :
    ∃ c t, w.1 = c :: t ∧ begins c = true ∧ c ≠ '\x22' ∧ c ≠ '[' ∧ c ≠ '\x7b' := by
  revert w
  simp only [words_eq, List.forall_mem_cons]
  and_intros
  all_goals
    first
    | exact ⟨_, _, rfl, rfl, by decide, by decide, by decide⟩
    | exact List.forall_mem_nil _

/-- **A value begins with one of a few characters.** -/
theorem readValue_head {room : ℕ} {s : List Char} {p} (h : readValue room s = .ok p) :
    ∃ c t, s = c :: t ∧ begins c = true := by
  cases s with
  | nil =>
    rw [readValue.eq_def] at h
    cases h
  | cons c t =>
    refine ⟨c, t, rfl, ?_⟩
    rw [readValue.eq_def] at h
    dsimp only at h
    -- a quote, a bracket and a brace begin their kinds; then come the words and the numbers
    split at h
    · next quote => rw [quote]; rfl
    split at h
    · next bracket => rw [bracket]; rfl
    split at h
    · next brace => rw [brace]; rfl
    split at h
    · next v r word =>
      obtain ⟨w, found, -⟩ := Option.map_eq_some_iff.1 word
      obtain ⟨d, u, hw, hd, -⟩ := begins_of_word (List.mem_of_find?_eq_some found)
      have front := List.find?_some found
      rw [hw, List.isPrefixOf, Bool.and_eq_true, beq_iff_eq] at front
      rwa [← front.1]
    · cases number : readNumber (c :: t) with
      | error e =>
        rw [number] at h
        cases h
      | ok n =>
        obtain ⟨d, u, digit, front | front⟩ := readNumber_head number
        · cases front
          rw [begins, digit, Bool.true_or]
        · cases front
          rfl

/-! ### Numbers and words -/

/-- What is neither a string nor opened by a bracket is a word or a number. -/
theorem readValue_plain {room : ℕ} {c : Char} {t : List Char} (quote : c ≠ '\x22')
    (bracket : c ≠ '[') (brace : c ≠ '\x7b') : readValue room (c :: t) =
      match word? (c :: t) with
      | some (v, r) =>
        if h : r.length < (c :: t).length then .ok (v, ⟨r, h⟩) else problem .value (c :: t)
      | none => (readNumber (c :: t)).map fun n => (number n.1, n.2) := by
  rw [readValue.eq_def]
  dsimp only
  rw [if_neg quote, if_neg bracket]
  exact if_neg brace

/-- A number is a value. -/
theorem readValue_number {room : ℕ} {s rest : List Char} {n : Number}
    (h : (readNumber s).Gives n rest) : (readValue room s).Gives (number n) rest := by
  obtain ⟨shorter, h⟩ := h
  obtain ⟨d, u, digit, front⟩ := readNumber_head h
  have other {c : Char} (hc : isDigit c = false) : d ≠ c := by
    rintro rfl
    exact absurd (hc.symm.trans digit) Bool.false_ne_true
  have none := word?_eq_none_of_digit digit front
  refine ⟨shorter, ?_⟩
  obtain rfl | rfl := front
  · rw [readValue_plain (other rfl) (other rfl) (other rfl), none]
    simp only [h, Except.map]
  · rw [readValue_plain (by decide) (by decide) (by decide), none]
    simp only [h, Except.map]

/-- A word is a value, whatever follows. -/
theorem readValue_word {room : ℕ} {w : List Char × Json} (h : w ∈ words) (rest : List Char) :
    (readValue room (w.1 ++ rest)).Gives w.2 rest := by
  obtain ⟨c, t, hw, -, quote, bracket, brace⟩ := begins_of_word h
  have found : word? (w.1 ++ rest) = some (w.2, rest) := by
    clear hw
    revert w
    simp only [words_eq, List.forall_mem_cons]
    and_intros
    all_goals
      first
      | exact List.forall_mem_nil _
      | simp [word?, words_eq, List.isPrefixOf]
  rw [hw, List.cons_append] at found ⊢
  have shorter : rest.length < (c :: (t ++ rest)).length := by
    simp only [List.length_cons, List.length_append]
    omega
  refine ⟨shorter, ?_⟩
  rw [readValue_plain quote bracket brace, found]
  exact dif_pos shorter

/-! ### Blanks -/

theorem skip_append {b s : List Char} (hb : ∀ c ∈ b, isSpace c = true) :
    (skip (b ++ s)).1 = (skip s).1 := List.dropWhile_append_of_pos hb

theorem skip_cons {c : Char} {s : List Char} (hc : isSpace c = false) :
    (skip (c :: s)).1 = c :: s := by
  simp [skip, hc]

theorem isSpace_of_mem_newline {l : Layout} {level : ℕ} {c : Char} (h : c ∈ l.newline level) :
    isSpace c = true := by
  unfold Layout.newline at h
  split at h
  · cases h
  · obtain rfl | h := List.mem_cons.1 h
    · rfl
    · rw [List.eq_of_mem_replicate h]
      rfl

theorem comma_eq (l : Layout) (level : ℕ) :
    ∃ b, l.comma level = ',' :: b ∧ ∀ c ∈ b, isSpace c = true := by
  unfold Layout.comma
  split
  · exact ⟨[' '], rfl, List.forall_mem_singleton.2 rfl⟩
  · exact ⟨_, rfl, fun c => isSpace_of_mem_newline⟩

/-- A text of a value begins with no blank. -/
theorem skip_of_readValue {room : ℕ} {s : List Char} {p} (h : readValue room s = .ok p) :
    (skip s).1 = s := by
  obtain ⟨c, t, rfl, hc⟩ := readValue_head h
  apply skip_cons
  rw [Bool.eq_false_iff]
  intro space
  simp only [isSpace, Bool.or_eq_true, beq_iff_eq] at space
  obtain ((rfl | rfl) | rfl) | rfl := space <;> exact absurd hc (by decide)

theorem exists_skip_eq {s t : List Char} (h : (skip s).1 = t) : ∃ ht, skip s = ⟨t, ht⟩ := by
  subst h
  exact ⟨_, rfl⟩

/-! ### Lists -/

variable {room : ℕ} {rest : List Char}

/-- A list that ends behind a value. -/
theorem readItems_last {s b : List Char} {v : Json} (hb : ∀ c ∈ b, isSpace c = true)
    (h : (readValue room s).Gives v (b ++ ']' :: rest)) : (readItems room s).Gives [v] rest := by
  obtain ⟨shorter, h⟩ := h
  have behind : (skip (b ++ ']' :: rest)).1 = ']' :: rest :=
    (skip_append hb).trans (skip_cons rfl)
  obtain ⟨_, skipped⟩ := exists_skip_eq behind
  refine ⟨by simp only [List.length_append, List.length_cons] at shorter; omega, ?_⟩
  rw [readItems.eq_def, h]
  dsimp only
  generalize skip (b ++ ']' :: rest) = k at skipped ⊢
  subst skipped
  simp only [after?, if_true]

/-- A list that goes on behind a value. -/
theorem readItems_cons {s b t : List Char} {v : Json} {vs : List Json}
    (hb : ∀ c ∈ b, isSpace c = true) (ht : (skip t).1 = t)
    (h : (readValue room s).Gives v (',' :: (b ++ t))) (hvs : (readItems room t).Gives vs rest) :
    (readItems room s).Gives (v :: vs) rest := by
  obtain ⟨shorter, h⟩ := h
  obtain ⟨shorter', hvs⟩ := hvs
  obtain ⟨_, skipped⟩ := exists_skip_eq (skip_cons (c := ',') (s := b ++ t) rfl)
  obtain ⟨_, skipped'⟩ := exists_skip_eq ((skip_append hb).trans ht)
  refine ⟨by simp only [List.length_append, List.length_cons] at shorter; omega, ?_⟩
  rw [readItems.eq_def, h]
  dsimp only
  generalize skip (',' :: (b ++ t)) = k at skipped ⊢
  subst skipped
  simp only [after?, if_true, if_neg (show ',' ≠ ']' by decide)]
  generalize skip (b ++ t) = k at skipped' ⊢
  subst skipped'
  simp only [hvs]

/-- A value that is read back from its text, wherever that stands. -/
def ReadsBack (l : Layout) (room : ℕ) (v : Json) : Prop :=
  ∀ level rest, EndsNumber rest → (readValue room (render l level v ++ rest)).Gives v rest

theorem endsNumber_cons {c : Char} (h : isDigit c = false ∧ c ≠ '.' ∧ c ≠ 'e' ∧ c ≠ 'E') :
    EndsNumber (c :: rest) := by
  rintro d ⟨⟩
  exact h

theorem endsNumber_newline (l : Layout) (level : ℕ) (h : EndsNumber rest) :
    EndsNumber (l.newline level ++ rest) := by
  unfold Layout.newline
  split
  · exact h
  · exact endsNumber_cons (by decide)

/-- A list begins with its first value. -/
theorem begins_of_readItems {s : List Char} {p} (h : readItems room s = .ok p) :
    (skip s).1 = s ∧ after? ']' s = none := by
  cases value : readValue room s with
  | error e =>
    rw [readItems.eq_def, value] at h
    cases h
  | ok p =>
    obtain ⟨c, t, front, hc⟩ := readValue_head value
    refine ⟨skip_of_readValue value, ?_⟩
    subst front
    rw [after?, if_neg]
    rintro rfl
    exact absurd hc (by decide)

theorem renderItems_cons_cons (l : Layout) (level : ℕ) (v w : Json) (items : List Json) :
    renderItems l level (v :: w :: items)
      = render l level v ++ l.comma level ++ renderItems l level (w :: items) := rfl

theorem readItems_render {l : Layout} {items : List Json} (some : items ≠ [])
    (each : ∀ v ∈ items, ReadsBack l room v) (level outer : ℕ) :
    (readItems room (renderItems l level items ++ (l.newline outer ++ ']' :: rest))).Gives items
      rest := by
  induction items with
  | nil => exact absurd rfl some
  | cons v items ih =>
    have hv := each v List.mem_cons_self level
    cases items with
    | nil =>
      exact readItems_last (fun c => isSpace_of_mem_newline)
        (hv _ (endsNumber_newline l outer (endsNumber_cons (by decide))))
    | cons w items =>
      have hvs := ih (List.cons_ne_nil _ _) fun u hu => each u (List.mem_cons_of_mem _ hu)
      obtain ⟨b, comma, hb⟩ := comma_eq l level
      rw [renderItems_cons_cons, comma, List.append_assoc, List.append_assoc, List.cons_append]
      obtain ⟨_, ok⟩ := hvs
      exact readItems_cons hb (begins_of_readItems ok).1 (hv _ (endsNumber_cons (by decide)))
        ⟨_, ok⟩

/-- A list is read from behind its bracket. -/
theorem readValue_array {s t : List Char} {vs : List Json} (ht : (skip s).1 = t)
    (first : after? ']' t = none) (h : (readItems room t).Gives vs rest) :
    (readValue (room + 1) ('[' :: s)).Gives (array vs) rest := by
  obtain ⟨shorter, h⟩ := h
  obtain ⟨le, skipped⟩ := exists_skip_eq ht
  refine ⟨by rw [List.length_cons]; omega, ?_⟩
  rw [readValue.eq_def]
  simp only [if_neg (show '[' ≠ '\x22' by decide), if_true]
  generalize skip s = k at skipped ⊢
  subst skipped
  simp only [first, h]

theorem readsBack_array {l : Layout} {items : List Json} (each : ∀ v ∈ items, ReadsBack l room v) :
    ReadsBack l (room + 1) (array items) := by
  intro level rest ends
  cases items with
  | nil =>
    refine ⟨by simp [render], ?_⟩
    rw [readValue.eq_def]
    rfl
  | cons v items =>
    have inside := @readItems_render room rest l _ (List.cons_ne_nil v items) each
    obtain ⟨_, h⟩ := inside (level + 1) level
    obtain ⟨same, first⟩ := begins_of_readItems h
    have text : render l level (array (v :: items)) ++ rest
        = '[' :: (l.newline (level + 1) ++ (renderItems l (level + 1) (v :: items)
          ++ (l.newline level ++ ']' :: rest))) := by
      simp [render]
    rw [text]
    exact readValue_array ((skip_append fun c => isSpace_of_mem_newline).trans same) first ⟨_, h⟩

/-! ### Objects -/

variable {s t u b : List Char} {name : String} {v : Json} {before fields : Fields}

/-- The text of a field: its name, a colon, a blank and its value. -/
theorem stringText_append (name : String) (s : List Char) :
    stringText name ++ s = '\x22' :: (name.toList.flatMap escaped ++ '\x22' :: s) := by
  simp [stringText]

/-- The fields of an object begin with a quote. -/
theorem begins_of_readFields {p} (h : readFields room s before = .ok p) :
    (skip s).1 = s ∧ after? '\x7d' s = none := by
  cases s with
  | nil => exact ⟨rfl, rfl⟩
  | cons c s =>
    by_cases quote : c = '\x22'
    · subst quote
      exact ⟨skip_cons rfl, rfl⟩
    · rw [readFields.eq_def, after?, if_neg quote] at h
      cases h

/-- A field is read, and the object ends behind its value or goes on. -/
theorem readFields_field (ht : (readValue room t).Gives v u)
    (hu : (skip u).1 = '\x7d' :: rest ∧ fields = setField before name v ∨
      ∃ b t', u = ',' :: (b ++ t') ∧ (∀ c ∈ b, isSpace c = true) ∧
        (readFields room t' (setField before name v)).Gives fields rest) :
    (readFields room (stringText name ++ ':' :: ' ' :: t) before).Gives fields rest := by
  obtain ⟨shorter, ht⟩ := ht
  rw [stringText_append]
  obtain ⟨_, string⟩ := stringRest_flatMap_escaped
    ('\x22' :: (name.toList.flatMap escaped ++ '\x22' :: ':' :: ' ' :: t)).length name.toList
    (':' :: ' ' :: t)
  obtain ⟨_, colon⟩ := exists_skip_eq (skip_cons (c := ':') (s := ' ' :: t) rfl)
  obtain ⟨_, blank⟩ : ∃ h, skip (' ' :: t) = ⟨t, h⟩ := exists_skip_eq
    ((skip_append (b := [' ']) (List.forall_mem_singleton.2 rfl)).trans (skip_of_readValue ht))
  have shorterRest : rest.length < u.length := by
    obtain ⟨last, -⟩ | ⟨b, t', rfl, -, ⟨_, -⟩⟩ := hu
    · have := (skip u).2
      rw [last, List.length_cons] at this
      omega
    · simp only [List.length_cons, List.length_append]
      omega
  refine ⟨by simp only [List.length_cons, List.length_append]; omega, ?_⟩
  -- each place where blanks are skipped is opened in turn, from the name on
  rw [readFields.eq_def]
  simp only [after?, if_true, string, String.ofList_toList]
  generalize skip (':' :: ' ' :: t) = k at colon ⊢
  subst colon
  simp only [if_true]
  generalize skip (' ' :: t) = k at blank ⊢
  subst blank
  simp only [ht]
  obtain ⟨last, rfl⟩ | ⟨b, t', rfl, hb, more⟩ := hu
  · obtain ⟨_, last⟩ := exists_skip_eq last
    generalize skip u = k at last ⊢
    subst last
    simp only [if_true]
  · obtain ⟨shorter', more⟩ := more
    obtain ⟨_, comma⟩ := exists_skip_eq (skip_cons (c := ',') (s := b ++ t') rfl)
    obtain ⟨_, next⟩ := exists_skip_eq ((skip_append hb).trans (begins_of_readFields more).1)
    generalize skip (',' :: (b ++ t')) = k at comma ⊢
    subst comma
    simp only [if_true, if_neg (show ',' ≠ '\x7d' by decide)]
    generalize skip (b ++ t') = k at next ⊢
    subst next
    simp only [more]

theorem renderFields_cons_cons (l : Layout) (level : ℕ) (f g : String × Json) (fields : Fields) :
    renderFields l level (f :: g :: fields)
      = stringText f.1 ++ ':' :: ' ' :: render l level f.2 ++ l.comma level
        ++ renderFields l level (g :: fields) := rfl

theorem readFields_render {l : Layout} (some : fields ≠ [])
    (each : ∀ f ∈ fields, ReadsBack l room f.2) (names : ((before ++ fields).map Prod.fst).Nodup)
    (level outer : ℕ) :
    (readFields room (renderFields l level fields ++ (l.newline outer ++ '\x7d' :: rest))
      before).Gives (before ++ fields) rest := by
  induction fields generalizing before with
  | nil => exact absurd rfl some
  | cons f fields ih =>
    have hv := each f List.mem_cons_self level
    have new : f.1 ∉ before.map Prod.fst := by
      rw [List.map_append, List.nodup_append] at names
      intro old
      exact names.2.2 f.1 old f.1 List.mem_cons_self rfl
    -- the name is new, so the field is written behind the others
    have set : setField before f.1 f.2 = before ++ [f] := setField_new f.2 new
    cases fields with
    | nil =>
      have text : renderFields l level [f] ++ (l.newline outer ++ '\x7d' :: rest)
          = stringText f.1 ++ ':' :: ' ' :: (render l level f.2
            ++ (l.newline outer ++ '\x7d' :: rest)) := by
        simp [renderFields]
      rw [text]
      refine readFields_field (hv _ (endsNumber_newline l outer (endsNumber_cons (by decide))))
        (.inl ⟨?_, set.symm⟩)
      exact (skip_append fun c => isSpace_of_mem_newline).trans (skip_cons rfl)
    | cons g fields =>
      obtain ⟨b, comma, hb⟩ := comma_eq l level
      have names : ((before ++ [f] ++ g :: fields).map Prod.fst).Nodup := by simpa using names
      have more := ih (List.cons_ne_nil _ _) (fun h hh => each h (List.mem_cons_of_mem _ hh)) names
      rw [List.append_assoc, List.singleton_append, ← set] at more
      have text : renderFields l level (f :: g :: fields) ++ (l.newline outer ++ '\x7d' :: rest)
          = stringText f.1 ++ ':' :: ' ' :: (render l level f.2 ++ ',' :: (b
            ++ (renderFields l level (g :: fields) ++ (l.newline outer ++ '\x7d' :: rest)))) := by
        simp [renderFields_cons_cons, comma]
      rw [text]
      exact readFields_field (hv _ (endsNumber_cons (by decide))) (.inr ⟨b, _, rfl, hb, more⟩)

/-- An object is read from behind its brace. -/
theorem readValue_object (ht : (skip s).1 = t) (first : after? '\x7d' t = none)
    (h : (readFields room t []).Gives fields rest) :
    (readValue (room + 1) ('\x7b' :: s)).Gives (object fields) rest := by
  obtain ⟨shorter, h⟩ := h
  obtain ⟨le, skipped⟩ := exists_skip_eq ht
  refine ⟨by rw [List.length_cons]; omega, ?_⟩
  rw [readValue.eq_def]
  simp only [if_neg (show '\x7b' ≠ '\x22' by decide), if_neg (show '\x7b' ≠ '[' by decide), if_true]
  generalize skip s = k at skipped ⊢
  subst skipped
  simp only [first, h]

theorem readsBack_object {l : Layout} (each : ∀ f ∈ fields, ReadsBack l room f.2)
    (names : (fields.map Prod.fst).Nodup) : ReadsBack l (room + 1) (object fields) := by
  intro level rest ends
  cases fields with
  | nil =>
    refine ⟨by simp [render], ?_⟩
    rw [readValue.eq_def]
    rfl
  | cons f fields =>
    have inside := @readFields_render room rest [] _ l (List.cons_ne_nil f fields) each names
    obtain ⟨_, h⟩ := inside (level + 1) level
    obtain ⟨same, first⟩ := begins_of_readFields h
    have text : render l level (object (f :: fields)) ++ rest
        = '\x7b' :: (l.newline (level + 1) ++ (renderFields l (level + 1) (f :: fields)
          ++ (l.newline level ++ '\x7d' :: rest))) := by
      simp [render]
    rw [text]
    exact readValue_object ((skip_append fun c => isSpace_of_mem_newline).trans same) first ⟨_, h⟩

/-! ### Values -/

theorem readsBack_real {l : Layout} (x : Float) : ReadsBack l room (number (.real x)) := by
  intro level rest ends
  change (readValue room (realText .json x ++ rest)).Gives _ _
  cases shape : Binary64.shape x with
  | nan =>
    have text : realText .json x = ['N', 'a', 'N'] := by
      simp only [realText, shape]
      rfl
    rw [text, ← Binary64.eq_nan_of_shape shape]
    exact readValue_word (w := (['N', 'a', 'N'], _)) (by simp [words_eq]) rest
  | infinite negative =>
    have text : realText .json x = signed negative "Infinity".toList := by
      simp only [realText, shape]
      rfl
    rw [text, ← Binary64.infinity_of_shape shape]
    cases negative with
    | false => exact readValue_word (w := ("Infinity".toList, _)) (by simp [words]) rest
    | true => exact readValue_word (w := ("-Infinity".toList, _)) (by simp [words]) rest
  | finite negative m e => exact readValue_number (readNumber_real shape ends)

/-- **Every value that can be read is read back from its text.** -/
theorem readsBack_of_readable (l : Layout) {v : Json} (h : Readable room v) :
    ReadsBack l room v := by
  induction h with
  | null =>
    exact fun level rest _ => readValue_word (w := ("null".toList, null)) (by simp [words]) rest
  | bool b =>
    intro level rest _
    cases b with
    | true => exact readValue_word (w := ("true".toList, _)) (by simp [words]) rest
    | false => exact readValue_word (w := ("false".toList, _)) (by simp [words]) rest
  | whole n few => exact fun level rest ends => readValue_number (readNumber_whole few ends)
  | real x => exact readsBack_real x
  | string s =>
    intro level rest _
    change (readValue _ (stringText s ++ rest)).Gives _ _
    rw [stringText_append]
    obtain ⟨_, chars⟩ := stringRest_flatMap_escaped
      ((s.toList.flatMap escaped ++ '\x22' :: rest).length + 1) s.toList rest
    refine ⟨by simp only [List.length_cons, List.length_append]; omega, ?_⟩
    rw [readValue.eq_def]
    simp only [if_true, chars, String.ofList_toList]
  | array items _ each => exact readsBack_array each
  | object fields names _ each => exact readsBack_object each names

/-- **Reading undoes writing**, in every layout. -/
theorem read_text (l : Layout) {v : Json} (h : Readable depthLimit v) :
    read (text l v).toList = .ok v := by
  have value := readsBack_of_readable l h 0 [] nofun
  rw [List.append_nil] at value
  have ⟨_, ok⟩ := value
  obtain ⟨c, t, starts, hc⟩ := readValue_head ok
  rw [← skip_of_readValue ok] at value
  obtain ⟨_, ok⟩ := value
  rw [text, String.toList_ofList]
  unfold read
  split
  · next front =>
    rw [front] at starts
    cases starts
    exact absurd hc (by decide)
  · rw [ok]
    rfl

end FlowCanvas.Json
