import IssueDesk.Configuration.Source

/-! Files that are tried in order, against files that are named. A file that is named gives a value
or a fault. Of files that are tried in order the first that would give a value if it were named
counts, and where there is none the value that is kept for that case (`FirstSound`). On the way
there a file that cannot be read is passed over in silence, and one that can be read and is not
sound is reported, each time that it is tried. -/

namespace IssueDesk

namespace Files

section

variable {α : Type}

/-- A file that can be read and not decoded. -/
def Unsound (files : Files) (decode : String → Option α) (path : Path) : Prop :=
  ∃ text, files path = some text ∧ decode text = none

instance (files : Files) (decode : String → Option α) : DecidablePred (files.Unsound decode) :=
  fun path => decidable_of_iff (∃ text ∈ files path, (decode text).isNone = true) <| by
    simp only [Unsound, Option.mem_def, Option.isNone_iff_eq_none]

/-- A file that gives no value when it is named. -/
def Fails (files : Files) (decode : String → Option α) (path : Path) : Prop :=
  ∃ fault, files.decodeAt decode path = .error fault

/-- What comes of trying paths in order, and which of them are reported: the value of the first that
does not fail, or the value for the case that all do, and the unsound files before. -/
inductive FirstSound (files : Files) (decode : String → Option α) (otherwise : α)
    (paths : List Path) : α → List Path → Prop
  | found {before later : List Path} {path : Path} {value : α}
      (split : paths = before ++ path :: later)
      (failed : ∀ earlier ∈ before, files.Fails decode earlier)
      (sound : files.decodeAt decode path = .ok value) :
      FirstSound files decode otherwise paths value (before.filter (files.Unsound decode ·))
  | nowhere (failed : ∀ path ∈ paths, files.Fails decode path) :
      FirstSound files decode otherwise paths otherwise (paths.filter (files.Unsound decode ·))

variable {files : Files} {decode : String → Option α} {otherwise value : α} {path : Path}

theorem decodeAt_eq_ok_iff :
    files.decodeAt decode path = .ok value ↔
      ∃ text, files path = some text ∧ decode text = some value := by
  unfold decodeAt
  cases hread : files path with
  | none => simp
  | some text => cases hdecode : decode text <;> simp [hdecode]

theorem decodeAt_eq_error_iff {fault : ConfigurationFault} :
    files.decodeAt decode path = .error fault ↔
      (files path = none ∧ fault = .unreadable path) ∨
        (files.Unsound decode path ∧ fault = .unsound path) := by
  unfold decodeAt Unsound
  cases hread : files path with
  | none => simp [eq_comm]
  | some text => cases hdecode : decode text <;> simp [hdecode, eq_comm]

theorem fails_iff : files.Fails decode path ↔ files path = none ∨ files.Unsound decode path := by
  simp only [Fails, decodeAt_eq_error_iff, exists_or, exists_and_left, exists_eq, and_true]

theorem fails_or_sound (files : Files) (decode : String → Option α) (path : Path) :
    files.Fails decode path ∨ ∃ value, files.decodeAt decode path = .ok value := by
  cases h : files.decodeAt decode path with
  | error fault => exact Or.inl ⟨fault, h⟩
  | ok value => exact Or.inr ⟨value, rfl⟩

theorem firstOf_of_sound (h : files.decodeAt decode path = .ok value) (rest : List Path) :
    files.firstOf decode otherwise (path :: rest) = (value, []) := by
  obtain ⟨text, hread, hdecode⟩ := decodeAt_eq_ok_iff.1 h
  simp only [firstOf, hread, hdecode]

theorem firstOf_of_fails (h : files.Fails decode path) (rest : List Path) :
    files.firstOf decode otherwise (path :: rest) =
      ((files.firstOf decode otherwise rest).1,
        [path].filter (files.Unsound decode ·) ++ (files.firstOf decode otherwise rest).2) := by
  rcases fails_iff.1 h with hread | hunsound
  · have hsilent : ¬files.Unsound decode path := by
      rintro ⟨text, htext, -⟩
      cases hread.symm.trans htext
    simp [firstOf, hread, hsilent]
  · obtain ⟨text, hread, hdecode⟩ := id hunsound
    simp [firstOf, hread, hdecode, hunsound]

/-- Paths that fail add their unsound files to what is reported, and change nothing else. -/
theorem firstOf_append {before : List Path}
    (h : ∀ earlier ∈ before, files.Fails decode earlier) (rest : List Path) :
    files.firstOf decode otherwise (before ++ rest) =
      ((files.firstOf decode otherwise rest).1,
        before.filter (files.Unsound decode ·) ++ (files.firstOf decode otherwise rest).2) := by
  induction before with
  | nil => rfl
  | cons path before ih =>
      rw [List.forall_mem_cons] at h
      rw [List.cons_append, firstOf_of_fails h.1, ih h.2, ← List.append_assoc, ← List.filter_append,
        List.singleton_append]

/-- Either all paths fail, or there is a first that does not. -/
theorem exists_firstSound (files : Files) (decode : String → Option α) (otherwise : α)
    (paths : List Path) :
    ∃ value skipped, files.FirstSound decode otherwise paths value skipped := by
  induction paths with
  | nil => exact ⟨_, _, .nowhere nofun⟩
  | cons path rest ih =>
      rcases files.fails_or_sound decode path with hfails | ⟨value, hsound⟩
      · obtain ⟨value, skipped, hrest⟩ := ih
        cases hrest with
        | found split failed sound =>
            rw [split]
            exact ⟨_, _, .found rfl (List.forall_mem_cons.2 ⟨hfails, failed⟩) sound⟩
        | nowhere failed => exact ⟨_, _, .nowhere (List.forall_mem_cons.2 ⟨hfails, failed⟩)⟩
      · exact ⟨value, _, .found (List.nil_append (path :: rest)).symm nofun hsound⟩

theorem FirstSound.firstOf_eq {paths skipped : List Path}
    (h : files.FirstSound decode otherwise paths value skipped) :
    files.firstOf decode otherwise paths = (value, skipped) := by
  cases h with
  | found split failed sound =>
      rw [split, firstOf_append failed, firstOf_of_sound sound, List.append_nil]
  | nowhere failed =>
      have hall : files.firstOf decode otherwise (paths ++ []) = _ := firstOf_append failed []
      rwa [List.append_nil, firstOf, List.append_nil] at hall

theorem firstOf_eq_iff {paths skipped : List Path} :
    files.firstOf decode otherwise paths = (value, skipped) ↔
      files.FirstSound decode otherwise paths value skipped := by
  refine ⟨fun h => ?_, FirstSound.firstOf_eq⟩
  obtain ⟨found, reported, hfirst⟩ := files.exists_firstSound decode otherwise paths
  obtain ⟨rfl, rfl⟩ := Prod.mk.inj (hfirst.firstOf_eq.symm.trans h)
  exact hfirst

/-- What is reported are unsound files among those that are tried, in their order. -/
theorem firstOf_reported (files : Files) (decode : String → Option α) (otherwise : α)
    (paths : List Path) :
    (files.firstOf decode otherwise paths).2.Sublist (paths.filter (files.Unsound decode ·)) := by
  obtain ⟨value, skipped, hfirst⟩ := files.exists_firstSound decode otherwise paths
  rw [hfirst.firstOf_eq]
  cases hfirst with
  | found split failed sound =>
      rw [split]
      exact (List.sublist_append_left _ _).filter _
  | nowhere failed => exact List.Sublist.refl _

end

end Files

namespace Configuration

/-- Trying paths in order gives what naming one of them gives: the configuration of the first path
that gives one when it is named, and the defaults where none does. Reported are the files before it
that can be read and hold no configuration, each as often and in the order in which they stand
there. A file that is named fails for one of two reasons, and only the second of them is reported.
The usual places are tried in the same way. -/
theorem first_sound_file_counts (files : Files) (decode : String → Option Configuration)
    (paths : List Path) :
    (∀ configuration skipped, files.firstOf decode standard paths = (configuration, skipped) ↔
      files.FirstSound decode standard paths configuration skipped) ∧
    (∀ path, files.Fails decode path ↔
      files.decodeAt decode path = .error (.unreadable path) ∨
        files.decodeAt decode path = .error (.unsound path)) ∧
    (∀ path, files.Unsound decode path ↔ files.decodeAt decode path = .error (.unsound path)) ∧
    ∀ places configuration skipped, load files places = (configuration, skipped) ↔
      files.FirstSound ofText? standard places.candidates configuration skipped := by
  have hunreadable : ∀ path, files.decodeAt decode path = .error (.unreadable path) ↔
      files path = none := by
    intro path
    simp only [Files.decodeAt_eq_error_iff, and_true, reduceCtorEq, and_false, or_false]
  have hunsound : ∀ path, files.Unsound decode path ↔
      files.decodeAt decode path = .error (.unsound path) := by
    intro path
    simp only [Files.decodeAt_eq_error_iff, and_true, reduceCtorEq, and_false, false_or]
  refine ⟨fun _ _ => Files.firstOf_eq_iff, fun path => ?_, hunsound, fun _ _ _ =>
    Files.firstOf_eq_iff⟩
  rw [Files.fails_iff, hunreadable, hunsound]

/-- A file that is not sound, and one that is. -/
def sampleFiles : Files
  | "bad.toml" => some "settings = 3"
  | "good.toml" => some "[settings]\nlog_level = \"debug\"\n"
  | _ => none

theorem unsound_files_are_passed_over :
    sampleFiles.firstOf ofText? standard ["missing.toml", "bad.toml", "good.toml", "bad.toml"] =
      ({ standard with logLevel := "debug" }, ["bad.toml"]) ∧
    sampleFiles.firstOf ofText? standard ["bad.toml", "missing.toml", "bad.toml"] =
      (standard, ["bad.toml", "bad.toml"]) := by
  obtain ⟨hlayered, hfails, hunsound, -⟩ := first_sound_file_counts sampleFiles ofText?
    ["missing.toml", "bad.toml", "good.toml", "bad.toml"]
  obtain ⟨hnowhere, -⟩ := first_sound_file_counts sampleFiles ofText?
    ["bad.toml", "missing.toml", "bad.toml"]
  have hmissing : sampleFiles.Fails ofText? "missing.toml" := (hfails _).2 (Or.inl rfl)
  have hbad : sampleFiles.Fails ofText? "bad.toml" :=
    (hfails _).2 (Or.inr ((hunsound _).1 (by decide +kernel)))
  have hgood : sampleFiles.decodeAt ofText? "good.toml" =
      .ok { standard with logLevel := "debug" } :=
    Files.decodeAt_eq_ok_iff.2 ⟨_, rfl, by decide +kernel⟩
  have hbefore : ∀ earlier ∈ ["missing.toml", "bad.toml"], sampleFiles.Fails ofText? earlier := by
    simp [hmissing, hbad]
  have hall : ∀ path ∈ ["bad.toml", "missing.toml", "bad.toml"],
      sampleFiles.Fails ofText? path := by
    simp [hmissing, hbad]
  refine ⟨((hlayered _ _).2 (.found (by rfl) hbefore hgood)).trans ?_,
    ((hnowhere _ _).2 (.nowhere hall)).trans ?_⟩
  · exact congrArg (Prod.mk _) (by decide +kernel)
  · exact congrArg (Prod.mk _) (by decide +kernel)

end Configuration

end IssueDesk
