import IssueDesk.Proofs.LayeredLoading
import Mathlib.Data.List.Nodup

/-! The usual places of a configuration, and how often an unsound file there is reported. The places
are paths, and each is tried on its own. Where no directory of its own is set for configuration, the
one below home is taken, and then the first two places are one path: an unsound file there is
reported twice, and nothing else ever is. Paths are the same here if they read the same; another
spelling of a directory, or a link to it, is another path. -/

namespace IssueDesk

namespace Path

theorem endsWith_slash_iff {path : Path} :
    path.endsWith "/" = true ↔ path.toList.getLast? = some '/' := by
  rw [String.endsWith_eq_endsWith_toSlice, String.Slice.endsWith_string_iff, String.copy_toSlice]
  exact List.singleton_suffix_iff_getLast?_eq_some

/-- What the paths below a directory begin with. -/
def stem (directory : Path) : String :=
  if directory.isEmpty || directory.endsWith "/" then directory else directory ++ "/"

/-- A path that is not empty and has no slash at its end. -/
structure Plain (path : Path) : Prop where
  nonempty : path ≠ ""
  unended : path.toList.getLast? ≠ some '/'

instance (path : Path) : Decidable path.Plain :=
  decidable_of_iff (path ≠ "" ∧ path.toList.getLast? ≠ some '/')
    ⟨fun h => ⟨h.1, h.2⟩, fun h => ⟨h.nonempty, h.unended⟩⟩

theorem below_eq (directory : Path) (name : String) :
    directory.below name = directory.stem ++ name := by
  unfold below stem
  split <;> rfl

theorem stem_of_ended {directory : Path} (h : directory.toList.getLast? = some '/') :
    directory.stem = directory := by
  rw [stem, endsWith_slash_iff.2 h, Bool.or_true, if_pos rfl]

theorem Plain.stem {directory : Path} (h : directory.Plain) :
    directory.stem = directory ++ "/" := by
  have hnonempty : directory.isEmpty = false :=
    Bool.eq_false_iff.2 (mt String.isEmpty_iff.1 h.nonempty)
  have hunended : directory.endsWith "/" = false :=
    Bool.eq_false_iff.2 (mt endsWith_slash_iff.1 h.unended)
  rw [Path.stem, hnonempty, hunended, Bool.or_false, if_neg Bool.false_ne_true]

theorem Plain.below (directory : Path) {name : String} (h : Plain name) :
    (directory.below name).Plain := by
  obtain ⟨last, hlast⟩ := Option.ne_none_iff_exists'.1
    (mt List.getLast?_eq_none_iff.1 (mt String.toList_eq_nil_iff.1 h.nonempty))
  have hend : (directory.below name).toList.getLast? = name.toList.getLast? := by
    rw [below_eq, String.toList_append, List.getLast?_append, hlast, Option.some_or]
  refine ⟨fun hempty => ?_, hend ▸ h.unended⟩
  rw [hempty, hlast] at hend
  cases hend

theorem below_below (directory : Path) {name : String} (h : Plain name) (rest : String) :
    (directory.below name).below rest = directory.below (name ++ "/" ++ rest) := by
  rw [below_eq, (h.below directory).stem, below_eq, below_eq]
  simp only [String.append_assoc]

/-- The directories that have the same paths below them as a plain one: itself, and itself with a
slash. -/
theorem Plain.below_eq_iff {other : Path} (h : other.Plain) {directory : Path} {name : String} :
    directory.below name = other.below name ↔ directory = other ∨ directory = other ++ "/" := by
  rw [below_eq, below_eq, String.append_left_inj, h.stem]
  constructor
  · intro hstem
    by_cases hempty : directory = ""
    · subst hempty
      exact absurd (String.append_eq_empty_iff.1 hstem.symm).1 h.nonempty
    · by_cases hended : directory.toList.getLast? = some '/'
      · rw [stem_of_ended hended] at hstem
        exact Or.inr hstem
      · rw [Plain.stem ⟨hempty, hended⟩, String.append_left_inj] at hstem
        exact Or.inl hstem
  · rintro (rfl | rfl)
    · exact h.stem
    · exact stem_of_ended (by rw [String.toList_append, List.getLast?_append]; rfl)

/-- Paths that are equal end alike. -/
theorem end_eq_of_below_eq {directory other : Path} {name name' : String} {n : Nat}
    (h : directory.below name = other.below name') (hn : n ≤ name.toList.reverse.length)
    (hn' : n ≤ name'.toList.reverse.length) :
    name.toList.reverse.take n = name'.toList.reverse.take n := by
  have hend := congrArg (fun path => path.toList.reverse.take n) h
  simpa only [below_eq, String.toList_append, List.reverse_append,
    List.take_append_of_le_length hn, List.take_append_of_le_length hn'] using hend

end Path

namespace UserPlaces

/-- The place that is tried first. -/
def userFile (home : Path) : Path := home.below ".config/lazyjira/config.toml"

/-- The place that is tried last. -/
def lastFile (home : Path) : Path := home.below ".lazyjira.toml"

/-- A directory is set for configuration, by an absolute path, and it is not the one that is taken
where none is set. -/
def SetsApart (places : UserPlaces) (home : Path) : Prop :=
  ∃ directory, places.configHome = some directory ∧ directory.isAbsolute = true ∧
    directory ≠ home.below ".config" ∧ directory ≠ home.below ".config" ++ "/"

theorem userFile_eq (home : Path) :
    userFile home = (home.below ".config").below "lazyjira/config.toml" := by
  have hname : ".config/lazyjira/config.toml" = ".config" ++ "/" ++ "lazyjira/config.toml" := by
    decide
  rw [userFile, hname, Path.below_below home (by decide)]

theorem setsApart_iff {places : UserPlaces} {home directory : Path}
    (h : places.configHome.filter Path.isAbsolute = some directory) :
    places.SetsApart home ↔
      ¬(directory = home.below ".config" ∨ directory = home.below ".config" ++ "/") := by
  obtain ⟨hsome, habsolute⟩ := Option.filter_eq_some_iff.1 h
  rw [not_or]
  constructor
  · rintro ⟨other, hother, -, hne⟩
    obtain rfl : other = directory := Option.some.inj (hother.symm.trans hsome)
    exact hne
  · intro hne
    exact ⟨directory, hsome, habsolute, hne⟩

theorem below_ne_lastFile (directory home : Path) :
    directory.below "lazyjira/config.toml" ≠ lastFile home := by
  intro heq
  exact absurd (Path.end_eq_of_below_eq (n := 6) heq (by decide) (by decide)) (by decide)

theorem userFile_ne_lastFile (home : Path) : userFile home ≠ lastFile home := by
  rw [userFile_eq]
  exact below_ne_lastFile _ home

/-- The place between the first and the last is the first again, unless a directory is set apart
from home. -/
theorem candidates_of_home {places : UserPlaces} {home : Path} (h : places.home = some home) :
    ∃ second, places.candidates = [userFile home, second, lastFile home] ∧
      second ≠ lastFile home ∧ (second = userFile home ↔ ¬places.SetsApart home) := by
  have hplain : (home.below ".config").Plain := Path.Plain.below home (by decide)
  cases hset : places.configHome.filter Path.isAbsolute with
  | none =>
      refine ⟨(home.below ".config").below "lazyjira/config.toml", ?_, below_ne_lastFile _ home,
        iff_of_true (userFile_eq home).symm ?_⟩
      · simp only [candidates, configDirectory, hset, h]
        rfl
      · rintro ⟨directory, hsome, habsolute, -⟩
        rw [hsome, Option.filter_some, if_pos habsolute] at hset
        cases hset
  | some directory =>
      refine ⟨directory.below "lazyjira/config.toml", ?_, below_ne_lastFile _ home, ?_⟩
      · simp only [candidates, configDirectory, hset, h]
        rfl
      · rw [userFile_eq, hplain.below_eq_iff, setsApart_iff hset, not_not]

end UserPlaces

namespace Configuration

open UserPlaces

theorem skipWarning_injective : Function.Injective skipWarning :=
  fun _ _ => (String.append_right_inj _).1

section

variable {files : Files} {places : UserPlaces} {home : Path}

/-- Where nothing is set apart, an unsound first file is reported twice, and the rest once. -/
theorem reported_twice (hhome : places.home = some home) (happart : ¬places.SetsApart home)
    (hunsound : files.Unsound ofText? (userFile home)) :
    ∃ rest, (load files places).2 = userFile home :: userFile home :: rest ∧
      (userFile home :: rest).Nodup := by
  obtain ⟨second, hcandidates, -, hsame⟩ := candidates_of_home hhome
  have hfails : files.Fails ofText? (userFile home) := Files.fails_iff.2 (Or.inr hunsound)
  have hboth : ∀ path ∈ [userFile home, userFile home], files.Fails ofText? path := by
    simp [hfails]
  refine ⟨(files.firstOf ofText? standard [lastFile home]).2, ?_, ?_⟩
  · rw [load, hcandidates, hsame.2 happart]
    show (files.firstOf ofText? standard
      ([userFile home, userFile home] ++ [lastFile home])).2 = _
    rw [Files.firstOf_append hboth]
    simp [hunsound]
  · have hrest := (files.firstOf_reported ofText? standard [lastFile home]).trans
      List.filter_sublist
    have htwo : [userFile home, lastFile home].Nodup := by simp [userFile_ne_lastFile]
    exact List.Nodup.sublist (hrest.cons_cons (userFile home)) htwo

theorem reported_once
    (h : ∀ home, places.home = some home → ¬places.SetsApart home →
      ¬files.Unsound ofText? (userFile home)) :
    (load files places).2.Nodup := by
  refine List.Nodup.sublist (files.firstOf_reported ofText? standard places.candidates) ?_
  cases hhome : places.home with
  | none =>
      -- without a home there is one place at most
      refine List.Nodup.sublist List.filter_sublist ?_
      cases hdirectory : places.configDirectory with
      | none => simp [candidates, hhome, hdirectory]
      | some directory => simp [candidates, hhome, hdirectory]
  | some home =>
      obtain ⟨second, hcandidates, hlast, hsame⟩ := candidates_of_home hhome
      rw [hcandidates]
      by_cases happart : places.SetsApart home
      · have hother : userFile home ≠ second := fun heq => hsame.1 heq.symm happart
        refine List.Nodup.sublist List.filter_sublist ?_
        simp [userFile_ne_lastFile, hlast, hother]
      · -- the first two places are one path, and what is found there is not reported
        have hsound := h home hhome happart
        have hdrop : [userFile home, userFile home].filter (files.Unsound ofText? ·) = [] := by
          simp [hsound]
        rw [hsame.2 happart]
        show (([userFile home, userFile home] ++ [lastFile home]).filter
          (files.Unsound ofText? ·)).Nodup
        rw [List.filter_append, hdrop, List.nil_append]
        exact List.Nodup.sublist List.filter_sublist (List.nodup_singleton _)

end

/-- A load reports each unsound file once if and only if the first of the usual places is a path of
its own or not unsound. It is a path of its own unless nothing is set for configuration, or no
absolute path, or the directory below home that is taken then. Otherwise the file there is reported
twice at the beginning, and each other file once. -/
theorem unsound_files_are_named_once_iff (files : Files) (places : UserPlaces) :
    let warnings := (load files places).2.map skipWarning
    (warnings.Nodup ↔ ∀ home, places.home = some home → ¬places.SetsApart home →
      ¬files.Unsound ofText? (userFile home)) ∧
    ∀ home, places.home = some home → ¬places.SetsApart home →
      files.Unsound ofText? (userFile home) →
        ∃ rest, warnings = skipWarning (userFile home) :: skipWarning (userFile home) :: rest ∧
          (skipWarning (userFile home) :: rest).Nodup := by
  intro warnings
  have htwice : ∀ home, places.home = some home → ¬places.SetsApart home →
      files.Unsound ofText? (userFile home) →
        ∃ rest, warnings = skipWarning (userFile home) :: skipWarning (userFile home) :: rest ∧
          (skipWarning (userFile home) :: rest).Nodup := by
    intro home hhome happart hunsound
    obtain ⟨rest, hreported, hnodup⟩ := reported_twice hhome happart hunsound
    exact ⟨rest.map skipWarning, congrArg (List.map skipWarning) hreported,
      hnodup.map skipWarning_injective⟩
  refine ⟨⟨fun hnodup home hhome happart hunsound => ?_, fun h => ?_⟩, htwice⟩
  · obtain ⟨rest, hwarnings, -⟩ := htwice home hhome happart hunsound
    rw [hwarnings] at hnodup
    exact (List.nodup_cons.1 hnodup).1 List.mem_cons_self
  · exact (reported_once h).map skipWarning_injective

/-- A user's files of which no configuration is sound. -/
def unsoundFiles : Files
  | "/home/user/.config/lazyjira/config.toml" => some "settings = 3"
  | "/home/user/xdg/lazyjira/config.toml" => some "["
  | "/home/user/.lazyjira.toml" => some "x"
  | _ => none

theorem set_apart_files_are_named_once :
    let apart : UserPlaces := ⟨some "/home/user", some "/home/user/xdg"⟩
    let relative : UserPlaces := ⟨some "/home/user", some "xdg"⟩
    let first := skipWarning "/home/user/.config/lazyjira/config.toml"
    ((load unsoundFiles apart).2.map skipWarning).Nodup ∧
      (load unsoundFiles apart).2.length = 3 ∧
      ¬((load unsoundFiles relative).2.map skipWarning).Nodup ∧
      ∃ rest, (load unsoundFiles relative).2.map skipWarning = first :: first :: rest ∧
        (first :: rest).Nodup := by
  intro apart relative first
  obtain ⟨honce, -⟩ := unsound_files_are_named_once_iff unsoundFiles apart
  obtain ⟨hiff, htwice⟩ := unsound_files_are_named_once_iff unsoundFiles relative
  have hapart : apart.SetsApart "/home/user" :=
    ⟨"/home/user/xdg", rfl, by decide +kernel, by decide +kernel, by decide +kernel⟩
  have hrelative : ¬relative.SetsApart "/home/user" := by
    rintro ⟨directory, hsome, habsolute, -⟩
    obtain rfl := Option.some.inj hsome
    exact absurd habsolute (by decide +kernel)
  have hfile : userFile "/home/user" = "/home/user/.config/lazyjira/config.toml" := by
    decide +kernel
  have hunsound : unsoundFiles.Unsound ofText? (userFile "/home/user") := by decide +kernel
  refine ⟨honce.2 ?_, by decide +kernel, fun hnodup => ?_, ?_⟩
  · intro home hhome hnot
    obtain rfl := Option.some.inj hhome
    exact absurd hapart hnot
  · exact hiff.1 hnodup _ rfl hrelative hunsound
  · have hreported := htwice _ rfl hrelative hunsound
    rwa [hfile] at hreported

/-- With nothing set for configuration an unsound file is reported twice. -/
theorem unsound_file_is_named_twice :
    let files : Files := fun path =>
      if path = "/home/user/.config/lazyjira/config.toml" then some "settings = 3" else none
    (load files ⟨some "/home/user", none⟩).2.map skipWarning =
      ["Ignoring invalid config /home/user/.config/lazyjira/config.toml",
        "Ignoring invalid config /home/user/.config/lazyjira/config.toml"] ∧
    ¬∀ (files : Files) (home : Path) (configHome : Option Path),
      ((load files ⟨some home, configHome⟩).2.map skipWarning).Nodup := by
  intro files
  have hwarnings : (load files ⟨some "/home/user", none⟩).2.map skipWarning =
      ["Ignoring invalid config /home/user/.config/lazyjira/config.toml",
        "Ignoring invalid config /home/user/.config/lazyjira/config.toml"] := by decide +kernel
  refine ⟨hwarnings, fun honce => ?_⟩
  exact absurd (hwarnings ▸ honce files "/home/user" none) (by decide)

end Configuration

end IssueDesk
