import IssueDesk.Proofs.FirstOccurrences
import IssueDesk.Subscription.Events

/-! Which event a stored value stands for. The events that a custom field is updated and most of the
built-in ones begin alike, so a field whose key is that of a built-in event gets the value of that
event too. There are thirteen such keys (`reservedKeys`). Fields with other keys have values of their
own, and then every value in a list of options names one option; a reserved key makes its value name
two, the built-in event and that of the field, and leaves all other values alone. -/

namespace IssueDesk

/-- The keys under which a built-in event tells of an update. -/
def reservedKeys : List String :=
  ["resolved", "comment", "any", "assignee", "attachment", "description", "fix_version", "labels",
    "priority", "sprint", "status", "summary", "components"]

theorem builtInEvents_perm : (builtInEvents.map Prod.fst).Perm
    (["event_created", "event_deleted", "event_created_comment", "event_deleted_comment"] ++
      reservedKeys.map ("event_updated_" ++ ·)) := by decide

theorem builtInEvents_nodup : (builtInEvents.map Prod.fst).Nodup := by decide

theorem updated_mem_builtInEvents {key : String} :
    "event_updated_" ++ key ∈ builtInEvents.map Prod.fst ↔ key ∈ reservedKeys := by
  have hothers : ∀ value ∈ ["event_created", "event_deleted", "event_created_comment",
      "event_deleted_comment"], ¬"event_updated_".toList <+: value.toList := by decide
  rw [builtInEvents_perm.mem_iff, List.mem_append,
    List.mem_map_of_injective fun _ _ => (String.append_right_inj _).1]
  refine or_iff_right fun hmem => hothers _ hmem ?_
  rw [String.toList_append]
  exact List.prefix_append _ _

/-- The options whose value is a given one. -/
def optionsNamed (options : List SelectOption) (value : String) : List SelectOption :=
  options.filter (·.value = value)

theorem optionsNamed_eq_nil_iff {options : List SelectOption} {value : String} :
    optionsNamed options value = [] ↔ value ∉ options.map (·.value) := by
  simp [optionsNamed, List.filter_eq_nil_iff]

theorem optionsNamed_of_mem {options : List SelectOption} {option : SelectOption}
    (hvalues : (options.map (·.value)).Nodup) (hmem : option ∈ options) :
    optionsNamed options option.value = [option] := filter_key_eq_singleton hvalues hmem

theorem optionsNamed_append (options others : List SelectOption) (value : String) :
    optionsNamed (options ++ others) value =
      optionsNamed options value ++ optionsNamed others value :=
  List.filter_append options others

def builtInOptions : List SelectOption := builtInEvents.map labelled

theorem builtInOptions_values : builtInOptions.map (·.value) = builtInEvents.map Prod.fst :=
  List.map_map

namespace IssueMetadata

variable {metadata : IssueMetadata} {projects : List String}

/-- The events for the custom fields of some projects. -/
def customOptions (metadata : IssueMetadata) (projects : List String) : List SelectOption :=
  (metadata.fieldsForProjects projects).map CustomField.eventOption

theorem customOptions_values : (metadata.customOptions projects).map (·.value) =
    ((metadata.fieldsForProjects projects).map (·.key)).map ("event_updated_" ++ ·) := by
  rw [customOptions, List.map_map, List.map_map]
  rfl

/-- The keys of a field are its own, and so is the value of its event among those of fields. -/
theorem customOptions_nodup (hkeys : (metadata.fields.map (·.key)).Nodup) :
    ((metadata.customOptions projects).map (·.value)).Nodup := by
  have hsome : ((metadata.fieldsForProjects projects).map (·.key)).Nodup :=
    hkeys.sublist (List.filter_sublist.map _)
  rw [customOptions_values]
  exact hsome.map fun _ _ => (String.append_right_inj _).1

theorem eventOptions_eq : eventOptions (some metadata) projects =
    builtInOptions ++ metadata.customOptions projects := rfl

/-- A value is that of a built-in event and of a field's if the field has a reserved key. -/
theorem inBoth_iff {value : String} :
    value ∈ builtInOptions.map (·.value) ∧ value ∈ (metadata.customOptions projects).map (·.value) ↔
      ∃ field ∈ metadata.fieldsForProjects projects,
        field.key ∈ reservedKeys ∧ value = field.eventOption.value := by
  rw [builtInOptions_values, customOptions, List.map_map]
  constructor
  · rintro ⟨hbuiltIn, hcustom⟩
    obtain ⟨field, hfield, rfl⟩ := List.mem_map.1 hcustom
    exact ⟨field, hfield, updated_mem_builtInEvents.1 hbuiltIn, rfl⟩
  · rintro ⟨field, hfield, hreserved, rfl⟩
    exact ⟨updated_mem_builtInEvents.2 hreserved, List.mem_map.2 ⟨field, hfield, rfl⟩⟩

theorem eventValues_nodup_iff (hkeys : (metadata.fields.map (·.key)).Nodup) :
    ((eventOptions (some metadata) projects).map (·.value)).Nodup ↔
      ∀ field ∈ metadata.fieldsForProjects projects, field.key ∉ reservedKeys := by
  rw [eventOptions_eq, List.map_append, List.nodup_append]
  constructor
  · rintro ⟨-, -, hapart⟩ field hfield hreserved
    obtain ⟨hbuiltIn, hcustom⟩ := inBoth_iff.2 ⟨field, hfield, hreserved, rfl⟩
    exact hapart _ hbuiltIn _ hcustom rfl
  · intro hfree
    refine ⟨builtInOptions_values ▸ builtInEvents_nodup, customOptions_nodup hkeys, ?_⟩
    rintro value hbuiltIn _ hcustom rfl
    obtain ⟨field, hfield, hreserved, -⟩ := inBoth_iff.1 ⟨hbuiltIn, hcustom⟩
    exact hfree field hfield hreserved

/-- A reserved key makes the value of a built-in event name the event of the field as well. -/
theorem optionsNamed_of_reserved (hkeys : (metadata.fields.map (·.key)).Nodup)
    {field : CustomField} (hfield : field ∈ metadata.fieldsForProjects projects)
    (hreserved : field.key ∈ reservedKeys) :
    ∃ entry ∈ builtInEvents, entry.1 = field.eventOption.value ∧
      optionsNamed (eventOptions (some metadata) projects) field.eventOption.value =
        [labelled entry, field.eventOption] := by
  obtain ⟨entry, hentry, hvalue⟩ := List.mem_map.1 (updated_mem_builtInEvents.2 hreserved)
  have hbuiltIn : optionsNamed builtInOptions field.eventOption.value = [labelled entry] := by
    rw [show field.eventOption.value = (labelled entry).value from hvalue.symm]
    exact optionsNamed_of_mem (builtInOptions_values ▸ builtInEvents_nodup)
      (List.mem_map_of_mem hentry)
  have hcustom : optionsNamed (metadata.customOptions projects) field.eventOption.value =
      [field.eventOption] :=
    optionsNamed_of_mem (customOptions_nodup hkeys) (List.mem_map_of_mem hfield)
  refine ⟨entry, hentry, hvalue, ?_⟩
  rw [eventOptions_eq, optionsNamed_append, hbuiltIn, hcustom]
  rfl

/-- Every other value names one option. -/
theorem optionsNamed_of_free (hkeys : (metadata.fields.map (·.key)).Nodup) {option : SelectOption}
    (hmem : option ∈ eventOptions (some metadata) projects)
    (hfree : ∀ field ∈ metadata.fieldsForProjects projects, field.key ∈ reservedKeys →
      option.value ≠ field.eventOption.value) :
    optionsNamed (eventOptions (some metadata) projects) option.value = [option] := by
  have hapart : ¬(option.value ∈ builtInOptions.map (·.value) ∧
      option.value ∈ (metadata.customOptions projects).map (·.value)) := by
    intro hboth
    obtain ⟨field, hfield, hreserved, hvalue⟩ := inBoth_iff.1 hboth
    exact hfree field hfield hreserved hvalue
  rw [eventOptions_eq] at hmem ⊢
  rw [optionsNamed_append]
  rcases List.mem_append.1 hmem with hbuiltIn | hcustom
  · have hnone := optionsNamed_eq_nil_iff.2 fun hother =>
      hapart ⟨List.mem_map_of_mem hbuiltIn, hother⟩
    rw [optionsNamed_of_mem (builtInOptions_values ▸ builtInEvents_nodup) hbuiltIn, hnone]
    rfl
  · have hnone := optionsNamed_eq_nil_iff.2 fun hother =>
      hapart ⟨hother, List.mem_map_of_mem hcustom⟩
    rw [optionsNamed_of_mem (customOptions_nodup hkeys) hcustom, hnone]
    rfl

/-- With fields that have keys of their own, the values of the events are distinct if and only if no
field of the projects has a reserved key. A field that has one shares its value with one built-in
event and nothing else, and every value that is not shared so names one option. -/
theorem event_values_distinct_iff (metadata : IssueMetadata) (projects : List String)
    (hkeys : (metadata.fields.map (·.key)).Nodup) :
    let options := eventOptions (some metadata) projects
    let fields := metadata.fieldsForProjects projects
    ((options.map (·.value)).Nodup ↔ ∀ field ∈ fields, field.key ∉ reservedKeys) ∧
    (∀ option ∈ options,
      (∀ field ∈ fields, field.key ∈ reservedKeys → option.value ≠ field.eventOption.value) →
        optionsNamed options option.value = [option]) ∧
    ∀ field ∈ fields, field.key ∈ reservedKeys →
      ∃ entry ∈ builtInEvents, entry.1 = field.eventOption.value ∧
        optionsNamed options field.eventOption.value = [labelled entry, field.eventOption] := by
  intro options fields
  exact ⟨eventValues_nodup_iff hkeys, fun _ hmem hfree => optionsNamed_of_free hkeys hmem hfree,
    fun _ hfield hreserved => optionsNamed_of_reserved hkeys hfield hreserved⟩

/-- One field of all projects, and one of a single project whose key is reserved. -/
def sampleFields : IssueMetadata where
  issueTypes := []
  fields := [⟨"points", "Story Points", .empty, .empty⟩,
    ⟨"any", "Any Team", .empty, .ofList ["OPS"]⟩]

theorem sample_events_are_told_apart :
    (sampleFields.fields.map (·.key)).Nodup ∧
      ((eventOptions (some sampleFields) ["KT"]).map (·.value)).Nodup ∧
      optionsNamed (eventOptions (some sampleFields) ["OPS"]) "event_updated_points" =
        [⟨"event_updated_points", "Issue Updated: Custom - Story Points", none⟩] ∧
      ∃ entry ∈ builtInEvents, entry.1 = "event_updated_any" ∧
        optionsNamed (eventOptions (some sampleFields) ["OPS"]) "event_updated_any" =
          [labelled entry, ⟨"event_updated_any", "Issue Updated: Custom - Any Team", none⟩] := by
  have hkeys : (sampleFields.fields.map (·.key)).Nodup := by decide
  obtain ⟨hiff, -, -⟩ := event_values_distinct_iff sampleFields ["KT"] hkeys
  obtain ⟨-, hfree, hreserved⟩ := event_values_distinct_iff sampleFields ["OPS"] hkeys
  exact ⟨hkeys, hiff.2 (by decide),
    hfree ⟨"event_updated_points", "Issue Updated: Custom - Story Points", none⟩ (by decide)
      (by decide),
    hreserved ⟨"any", "Any Team", .empty, .ofList ["OPS"]⟩ (by decide) (by decide)⟩

/-- The value of the event that a field with a reserved key is updated is that of a built-in one. -/
theorem reserved_key_is_ambiguous :
    (¬∀ (metadata : IssueMetadata) (projects : List String),
      (metadata.fields.map (·.key)).Nodup →
        ((eventOptions (some metadata) projects).map (·.value)).Nodup) ∧
    optionsNamed (eventOptions (some sampleFields) ["OPS"]) "event_updated_any" =
      [⟨"event_updated_any", "Issue Updated: Any", none⟩,
        ⟨"event_updated_any", "Issue Updated: Custom - Any Team", none⟩] := by
  refine ⟨fun h => ?_, by decide⟩
  exact absurd (h sampleFields ["OPS"] (by decide)) (by decide)

end IssueMetadata

end IssueDesk
