import IssueDesk.Conflict
import IssueDesk.Proofs.FirstOccurrences
import Mathlib.Data.List.Forall2

/-! What the report of a change says. `IsReport` describes it without saying how it is found: which
keys are reported and in which order, which field a key stands for, which of the added issue types
an entry names and how they are shown. Just one report answers to the description, and it is the one
that `conflicts` gives. What a host relies on is read off the description. -/

namespace IssueDesk

namespace IssueMetadata

/-- The field that a key stands for is the first one with that key. -/
def IsField (metadata : IssueMetadata) (key : String) (field : CustomField) : Prop :=
  field.key = key ∧ ∃ earlier later, metadata.fields = earlier ++ field :: later ∧
    ∀ other ∈ earlier, other.key ≠ key

/-- An id is shown as the first issue type that has it; an unknown one is named after itself. -/
def ShowsAs (metadata : IssueMetadata) (id : String) (issueType : IssueType) : Prop :=
  (issueType.id = id ∧ ∃ earlier later, metadata.issueTypes = earlier ++ issueType :: later ∧
      ∀ other ∈ earlier, other.id ≠ id) ∨
    (∀ other ∈ metadata.issueTypes, other.id ≠ id) ∧ issueType = { id, name := id }

/-- A key is in conflict with added issue types: it stands for a field that does not apply to some
of them, and these are named in their order. -/
structure IsConflict (metadata : IssueMetadata) (added : List String) (key : String)
    (conflict : FieldConflict) : Prop where
  field : metadata.IsField key conflict.field
  nonempty : conflict.issueTypes ≠ []
  shown : List.Forall₂ metadata.ShowsAs
    (added.filter fun id => id ∉ conflict.field.issueTypes) conflict.issueTypes

/-- The selected keys that are in conflict with the added issue types are reported, each once, in
the order of selection. -/
def IsReport (metadata : IssueMetadata) (selected previous new : List String)
    (report : ConflictReport) : Prop :=
  ∃ added reported, ListsOnce new (· ∉ previous) added ∧
    ListsOnce selected (fun key => ∃ conflict, metadata.IsConflict added key conflict) reported ∧
    List.Forall₂ (metadata.IsConflict added) reported report.conflicts

theorem isField_iff {metadata : IssueMetadata} {key : String} {field : CustomField} :
    metadata.IsField key field ↔ metadata.field? key = some field := by
  simp [IsField, field?, List.find?_eq_some_iff_append]

theorem showsAs_iff {metadata : IssueMetadata} {id : String} {issueType : IssueType} :
    metadata.ShowsAs id issueType ↔ metadata.issueType id = issueType := by
  unfold ShowsAs IssueMetadata.issueType
  cases hfound : metadata.issueTypes.find? (·.id == id) with
  | none =>
      have hunknown := List.find?_eq_none.1 hfound
      simp only [beq_iff_eq] at hunknown
      constructor
      · rintro (⟨hid, earlier, later, hsplit, -⟩ | ⟨-, rfl⟩)
        · exact absurd hid (hunknown issueType (by simp [hsplit]))
        · rfl
      · rintro rfl
        exact Or.inr ⟨hunknown, rfl⟩
  | some known =>
      have hknown : known.id = id := by simpa using List.find?_some hfound
      constructor
      · rintro (⟨hid, earlier, later, hsplit, hfirst⟩ | ⟨hunknown, -⟩)
        · have hfound' : metadata.issueTypes.find? (·.id == id) = some issueType := by
            refine List.find?_eq_some_iff_append.2 ⟨by simpa using hid, earlier, later, hsplit, ?_⟩
            simpa using hfirst
          rw [hfound] at hfound'
          exact Option.some.inj hfound'
        · exact absurd hknown (hunknown known (List.mem_of_find?_eq_some hfound))
      · rintro rfl
        obtain ⟨-, earlier, later, hsplit, hfirst⟩ := List.find?_eq_some_iff_append.1 hfound
        exact Or.inl ⟨hknown, earlier, later, hsplit, by simpa using hfirst⟩

/-- However it is shown, an issue type keeps its id. -/
theorem ShowsAs.id_eq {metadata : IssueMetadata} {id : String} {issueType : IssueType}
    (h : metadata.ShowsAs id issueType) : issueType.id = id := by
  rcases h with ⟨hid, -⟩ | ⟨-, rfl⟩
  · exact hid
  · rfl

/-- The conflict of a key with added issue types, if there is one. -/
def conflict? (metadata : IssueMetadata) (added : List String) (key : String) :
    Option FieldConflict :=
  (metadata.field? key).bind (metadata.fieldConflict? added)

theorem fieldConflict?_eq_some {metadata : IssueMetadata} {added : List String}
    {field : CustomField} {conflict : FieldConflict} :
    metadata.fieldConflict? added field = some conflict ↔
      conflict.field = field ∧ conflict.issueTypes ≠ [] ∧
        (added.filter fun id => id ∉ field.issueTypes).map metadata.issueType =
          conflict.issueTypes := by
  obtain ⟨ofField, issueTypes⟩ := conflict
  have hmissing : (added.filter fun id => !field.appliesTo id) =
      added.filter fun id => id ∉ field.issueTypes := by simp [CustomField.appliesTo]
  unfold fieldConflict?
  rw [hmissing]
  split
  next hnone =>
    rw [hnone]
    constructor
    · exact nofun
    · rintro ⟨-, hne, rfl⟩
      exact absurd rfl hne
  next missing hsome =>
    simp only [Option.some.injEq, FieldConflict.mk.injEq]
    constructor
    · rintro ⟨rfl, rfl⟩
      exact ⟨rfl, by simpa using hsome, rfl⟩
    · rintro ⟨rfl, -, rfl⟩
      exact ⟨rfl, rfl⟩

theorem isConflict_iff {metadata : IssueMetadata} {added : List String} {key : String}
    {conflict : FieldConflict} :
    metadata.IsConflict added key conflict ↔ metadata.conflict? added key = some conflict := by
  have hshown : List.Forall₂ metadata.ShowsAs
        (added.filter fun id => id ∉ conflict.field.issueTypes) conflict.issueTypes ↔
      (added.filter fun id => id ∉ conflict.field.issueTypes).map metadata.issueType =
        conflict.issueTypes := by
    have hrel : metadata.ShowsAs = fun id issueType => metadata.issueType id = issueType := by
      funext id issueType
      exact propext showsAs_iff
    rw [hrel, ← List.forall₂_eq_eq_eq, List.forall₂_map_left_iff]
  rw [conflict?, Option.bind_eq_some_iff]
  simp only [fieldConflict?_eq_some, ← isField_iff]
  constructor
  · intro h
    exact ⟨conflict.field, h.field, rfl, h.nonempty, hshown.1 h.shown⟩
  · rintro ⟨field, hfield, rfl, hnonempty, htypes⟩
    exact ⟨hfield, hnonempty, hshown.2 htypes⟩

theorem conflicts_eq (metadata : IssueMetadata) (selected previous new : List String) :
    (metadata.conflicts selected previous new).conflicts =
      (distinct selected).filterMap (metadata.conflict? (addedIds previous new)) := by
  rw [conflicts, List.filterMap_filterMap]
  rfl

/-- A partial function is defined on the keys that it keeps. -/
theorem forall₂_filterMap {β γ : Type} (f : β → Option γ) (keys : List β) :
    List.Forall₂ (fun key value => f key = some value) (keys.filter fun key => (f key).isSome)
      (keys.filterMap f) := by
  induction keys with
  | nil => exact .nil
  | cons key rest ih =>
      cases hvalue : f key with
      | none => simpa [List.filter_cons, List.filterMap_cons, hvalue] using ih
      | some value => simpa [List.filter_cons, List.filterMap_cons, hvalue] using ih

/-- Which added ids and which keys a report is made of. -/
theorem addedIds_listsOnce (previous new : List String) :
    ListsOnce new (· ∉ previous) (addedIds previous new) := by
  have hlists := distinct_filter_listsOnce (fun id => decide (id ∉ previous)) new
  simp only [decide_eq_true_eq] at hlists
  exact hlists

theorem reported_listsOnce (metadata : IssueMetadata) (selected added : List String) :
    ListsOnce selected (fun key => ∃ conflict, metadata.IsConflict added key conflict)
      ((distinct selected).filter fun key => (metadata.conflict? added key).isSome) := by
  have hlists := distinct_filter_listsOnce
    (fun key => (metadata.conflict? added key).isSome) selected
  rw [filter_distinct]
  simpa only [isConflict_iff, ← Option.isSome_iff_exists] using hlists

theorem conflicts_reported (metadata : IssueMetadata) (selected previous new : List String) :
    List.Forall₂ (metadata.IsConflict (addedIds previous new))
      ((distinct selected).filter fun key => (metadata.conflict? (addedIds previous new) key).isSome)
      (metadata.conflicts selected previous new).conflicts := by
  have hconflicts := forall₂_filterMap (metadata.conflict? (addedIds previous new))
    (distinct selected)
  rw [← conflicts_eq] at hconflicts
  simpa only [← isConflict_iff] using hconflicts

/-- One report answers to the description. -/
theorem isReport_iff {metadata : IssueMetadata} {selected previous new : List String}
    {report : ConflictReport} :
    metadata.IsReport selected previous new report ↔
      report = metadata.conflicts selected previous new := by
  have hreported := metadata.reported_listsOnce selected (addedIds previous new)
  have hconflicts := metadata.conflicts_reported selected previous new
  constructor
  · rintro ⟨added, reported, hadded, hlists, hshown⟩
    obtain rfl := hadded.unique (addedIds_listsOnce previous new)
    obtain rfl := hlists.unique hreported
    have hunique : Relator.RightUnique (metadata.IsConflict (addedIds previous new)) := by
      intro key first second hfirst hsecond
      rw [isConflict_iff] at hfirst hsecond
      exact Option.some.inj (hfirst.symm.trans hsecond)
    have hsame : report.conflicts = (metadata.conflicts selected previous new).conflicts :=
      List.right_unique_forall₂' hunique hshown hconflicts
    exact congrArg ConflictReport.mk hsame
  · rintro rfl
    exact ⟨_, _, addedIds_listsOnce previous new, hreported, hconflicts⟩

/-- What is listed beside something that tells its place lists those places. -/
theorem map_eq_of_forall₂ {β γ : Type} {related : β → γ → Prop} {place : γ → β}
    (hplace : ∀ x y, related x y → place y = x) {xs : List β} {ys : List γ}
    (h : List.Forall₂ related xs ys) : ys.map place = xs := by
  induction h with
  | nil => rfl
  | cons hhead _ ih => rw [List.map_cons, ih, hplace _ _ hhead]

theorem IsConflict.ids {metadata : IssueMetadata} {added : List String} {key : String}
    {conflict : FieldConflict} (h : metadata.IsConflict added key conflict) :
    conflict.issueTypes.map (·.id) = added.filter fun id => id ∉ conflict.field.issueTypes :=
  map_eq_of_forall₂ (fun _ _ hshows => hshows.id_eq) h.shown

theorem mem_conflicts {metadata : IssueMetadata} {selected previous new : List String}
    {conflict : FieldConflict} :
    conflict ∈ (metadata.conflicts selected previous new).conflicts ↔
      ∃ key ∈ selected, metadata.IsConflict (addedIds previous new) key conflict := by
  simp only [conflicts_eq, List.mem_filterMap, mem_distinct, isConflict_iff]

/-- A field that does not apply to an added issue type is in conflict. -/
theorem exists_isConflict {metadata : IssueMetadata} {added : List String} {key id : String}
    {field : CustomField} (hfield : metadata.IsField key field) (hid : id ∈ added)
    (hmissing : id ∉ field.issueTypes) :
    ∃ conflict, metadata.IsConflict added key conflict ∧ conflict.field = field := by
  have hlisted : id ∈ added.filter fun id => id ∉ field.issueTypes :=
    List.mem_filter.2 ⟨hid, decide_eq_true hmissing⟩
  refine ⟨⟨field, (added.filter fun id => id ∉ field.issueTypes).map metadata.issueType⟩, ?_, rfl⟩
  rw [isConflict_iff, conflict?, isField_iff.1 hfield, Option.bind_some, fieldConflict?_eq_some]
  refine ⟨rfl, fun hnone => ?_, rfl⟩
  rw [List.map_eq_nil_iff.1 hnone] at hlisted
  cases hlisted

/-- The report of a change is the one that `IsReport` describes, and no other is. Its entries are of
different keys. Each entry is of a selected field that the metadata knows and names at least one
issue type, all of them added by the change and none twice. And of a selected known field and an
added issue type the report tells exactly if the field does not apply to the type. -/
theorem report_is_exact (metadata : IssueMetadata) (selected previous new : List String) :
    let report := metadata.conflicts selected previous new
    (∀ other, metadata.IsReport selected previous new other ↔ other = report) ∧
    (report.conflicts.map (·.field.key)).Nodup ∧
    (∀ conflict ∈ report.conflicts,
      (conflict.field.key ∈ selected ∧ metadata.IsField conflict.field.key conflict.field) ∧
      (conflict.issueTypes ≠ [] ∧ (conflict.issueTypes.map (·.id)).Nodup) ∧
      ∀ issueType ∈ conflict.issueTypes, issueType.id ∈ new ∧ issueType.id ∉ previous) ∧
    ∀ key ∈ selected, ∀ field, metadata.IsField key field → ∀ id ∈ new, id ∉ previous →
      ((∃ conflict ∈ report.conflicts, conflict.field = field ∧
        ∃ issueType ∈ conflict.issueTypes, issueType.id = id) ↔ id ∉ field.issueTypes) := by
  intro report
  have hadded := addedIds_listsOnce previous new
  refine ⟨fun _ => isReport_iff, ?_, ?_, ?_⟩
  · have hkeys := map_eq_of_forall₂ (fun _ _ hconflict => hconflict.field.1)
      (metadata.conflicts_reported selected previous new)
    rw [hkeys]
    exact (distinct_nodup selected).filter _
  · intro conflict hmem
    obtain ⟨key, hkey, hconflict⟩ := mem_conflicts.1 hmem
    obtain rfl : conflict.field.key = key := hconflict.field.1
    have hids := hconflict.ids
    refine ⟨⟨hkey, hconflict.field⟩, ⟨hconflict.nonempty, ?_⟩, fun issueType htype => ?_⟩
    · rw [hids]
      exact hadded.nodup.filter _
    · have hid : issueType.id ∈ conflict.issueTypes.map (·.id) := List.mem_map_of_mem htype
      rw [hids] at hid
      exact (hadded.mem_iff _).1 (List.mem_filter.1 hid).1
  · intro key hkey field hfield id hnew hprevious
    have hid : id ∈ addedIds previous new := (hadded.mem_iff id).2 ⟨hnew, hprevious⟩
    constructor
    · rintro ⟨conflict, hmem, rfl, issueType, htype, rfl⟩
      obtain ⟨key', -, hconflict⟩ := mem_conflicts.1 hmem
      have hlisted : issueType.id ∈ conflict.issueTypes.map (·.id) := List.mem_map_of_mem htype
      rw [hconflict.ids] at hlisted
      exact of_decide_eq_true (List.mem_filter.1 hlisted).2
    · intro hmissing
      obtain ⟨conflict, hconflict, rfl⟩ := exists_isConflict hfield hid hmissing
      refine ⟨conflict, mem_conflicts.2 ⟨key, hkey, hconflict⟩, rfl, ?_⟩
      have hlisted : id ∈ conflict.issueTypes.map (·.id) := by
        rw [hconflict.ids]
        exact List.mem_filter.2 ⟨hid, decide_eq_true hmissing⟩
      exact List.mem_map.1 hlisted

/-- A field that applies to one issue type. -/
def samplePoints : CustomField := ⟨"points", "Points", .ofList ["1"], .empty⟩

/-- Metadata with a second entry for an issue type and for a field. -/
def sampleMetadata : IssueMetadata where
  issueTypes := [⟨"1", "Bug"⟩, ⟨"2", "Task"⟩, ⟨"2", "Chore"⟩]
  fields := [⟨"sprint", "Sprint", .ofList ["1", "2", "9"], .empty⟩, samplePoints,
    ⟨"points", "Effort", .ofList ["1", "2", "9"], .empty⟩]

theorem report_of_repeated_entries :
    let report := sampleMetadata.conflicts ["sprint", "points", "rank", "points"] ["3"]
      ["9", "2", "9", "3", "1"]
    report = ⟨[⟨samplePoints, [⟨"9", "9"⟩, ⟨"2", "Task"⟩]⟩]⟩ ∧
      sampleMetadata.IsReport ["sprint", "points", "rank", "points"] ["3"]
        ["9", "2", "9", "3", "1"] report ∧
      (∃ conflict ∈ report.conflicts, conflict.field = samplePoints ∧
        ∃ issueType ∈ conflict.issueTypes, issueType.id = "9") ∧
      ¬ ∃ conflict ∈ report.conflicts, conflict.field = samplePoints ∧
        ∃ issueType ∈ conflict.issueTypes, issueType.id = "1" := by
  dsimp only
  obtain ⟨hexact, -, -, hpairs⟩ := report_is_exact sampleMetadata
    ["sprint", "points", "rank", "points"] ["3"] ["9", "2", "9", "3", "1"]
  have hfield : sampleMetadata.IsField "points" samplePoints := isField_iff.2 (by decide +kernel)
  have hpair := fun id => hpairs "points" (by decide) samplePoints hfield id
  refine ⟨by decide +kernel, (hexact _).2 rfl, ?_, fun htold => ?_⟩
  · exact (hpair "9" (by decide) (by decide)).2 (by decide +kernel)
  · exact (hpair "1" (by decide) (by decide)).1 htold (by decide +kernel)

end IssueMetadata

end IssueDesk
