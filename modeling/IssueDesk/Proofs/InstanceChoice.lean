import IssueDesk.Configuration.Source
import Mathlib.Data.Finset.Card
import Mathlib.Data.List.Induction

/-! The choice of an instance, as the configuration of a user settles it. What counts are the ids that
are both configured and connected (`Connects`): with two of them there is a choice to be made, and
with one of them the picker starts there unless a saved subscription says otherwise (`StartsOn`). A
saved instance stays through every selection; otherwise the last selection holds. -/

namespace IssueDesk

/-- There is no text, or an empty one. -/
def SaysNothing (text : Option String) : Prop := ∀ s, text = some s → s = ""

theorem saysNothing_iff {text : Option String} : SaysNothing text ↔ nonEmpty? text = none := by
  rw [Option.eq_none_iff_forall_ne_some]
  refine forall_congr' fun s => ?_
  rw [ne_eq, nonEmpty?_eq_some_iff, not_and_not_right]

/-- An option stands for an instance under the name the user gave it, or else under its id. -/
structure Instance.ShownAs (inst : Instance) (option : SelectOption) : Prop where
  value : option.value = inst.id
  named : ∀ name, inst.nickname = some name → name ≠ "" → option.label = name
  unnamed : SaysNothing inst.nickname → option.label = inst.id
  plain : option.avatarUrl = none

theorem Instance.option_shownAs (inst : Instance) : inst.ShownAs inst.option where
  value := rfl
  named name hname hsome := by
    have hlabel : nonEmpty? inst.nickname = some name := nonEmpty?_eq_some_iff.2 ⟨hname, hsome⟩
    show (nonEmpty? inst.nickname).getD inst.id = name
    rw [hlabel, Option.getD_some]
  unnamed hnone := by
    show (nonEmpty? inst.nickname).getD inst.id = inst.id
    rw [saysNothing_iff.1 hnone, Option.getD_none]
  plain := rfl

theorem startingInstance_of_saved {saved userDefault : Option String} {connected : List Instance}
    {id : String} (hsaved : nonEmpty? saved = some id) :
    startingInstance saved connected userDefault = some id := by
  simp only [startingInstance, hsaved]

theorem startingInstance_of_only {saved userDefault : Option String} {connected : List Instance}
    {id : String} (hsaved : nonEmpty? saved = none) (honly : connected.map (·.id) = [id]) :
    startingInstance saved connected userDefault = some id := by
  obtain ⟨only, rfl, rfl⟩ := List.map_eq_singleton_iff.1 honly
  simp only [startingInstance, hsaved]

theorem startingInstance_of_choice {saved userDefault : Option String} {connected : List Instance}
    (hsaved : nonEmpty? saved = none) (hchoice : ∀ id, connected.map (·.id) ≠ [id]) :
    startingInstance saved connected userDefault = nonEmpty? userDefault := by
  match connected with
  | [] => simp only [startingInstance, hsaved]
  | [only] => exact absurd rfl (hchoice only.id)
  | _ :: _ :: _ => simp only [startingInstance, hsaved]

namespace InstancePicker

/-- The picker after selections, first to last. -/
def after (picker : InstancePicker) (ids : List String) : InstancePicker :=
  ids.foldl (fun picker id => (picker.select id).1) picker

theorem after_concat (picker : InstancePicker) (ids : List String) (id : String) :
    picker.after (ids ++ [id]) = ((picker.after ids).select id).1 :=
  List.foldl_append

theorem select_of_locked {picker : InstancePicker} (h : picker.locked = true) (id : String) :
    picker.select id = (picker, false) := by
  rw [select, h, Bool.true_or, if_pos rfl]

theorem after_of_locked {picker : InstancePicker} (h : picker.locked = true) (ids : List String) :
    picker.after ids = picker := by
  induction ids using List.reverseRecOn with
  | nil => rfl
  | append_singleton ids id ih => rw [after_concat, ih, select_of_locked h]

/-- A selection changes what is selected and nothing else. -/
theorem select_same (picker : InstancePicker) (id : String) :
    (picker.select id).1 = { picker with selected := (picker.select id).1.selected } := by
  unfold select
  split <;> rfl

theorem after_same (picker : InstancePicker) (ids : List String) :
    picker.after ids = { picker with selected := (picker.after ids).selected } := by
  induction ids using List.reverseRecOn with
  | nil => rfl
  | append_singleton ids id ih =>
      rw [after_concat, select_same, ih]

theorem after_locked (picker : InstancePicker) (ids : List String) :
    (picker.after ids).locked = picker.locked := by
  rw [after_same]

/-- A picker that is not locked takes every selection, and tells whether it is a new one. -/
theorem select_of_unlocked {picker : InstancePicker} (h : picker.locked = false) (id : String) :
    (picker.select id).1.selected = some id ∧
      ((picker.select id).2 = true ↔ picker.selected ≠ some id) := by
  unfold select
  rw [h, Bool.false_or]
  split
  next hsame =>
    rw [beq_iff_eq] at hsame
    exact ⟨hsame, by simp [hsame]⟩
  next hother =>
    rw [beq_iff_eq] at hother
    exact ⟨rfl, iff_of_true rfl hother⟩

theorem after_of_unlocked {picker : InstancePicker} (h : picker.locked = false)
    (ids : List String) : (picker.after ids).selected = ids.getLast?.or picker.selected := by
  rcases List.eq_nil_or_concat' ids with rfl | ⟨earlier, last, rfl⟩
  · rfl
  · have hlocked := (picker.after_locked earlier).trans h
    rw [after_concat, (select_of_unlocked hlocked last).1, List.getLast?_concat, Option.some_or]

end InstancePicker

namespace Configuration

/-- An instance is configured under an id, and the user has linked that id. -/
def Connects (configuration : Configuration) (connected : List String) (id : String) : Prop :=
  id ∈ configuration.instances.map (·.id) ∧ id ∈ connected

instance (configuration : Configuration) (connected : List String) (id : String) :
    Decidable (configuration.Connects connected id) :=
  inferInstanceAs (Decidable (_ ∧ _))

/-- What a picker starts on: the saved instance, else the only one that is configured and connected,
else the default of the user, else none. -/
inductive StartsOn (configuration : Configuration) (connected : List String)
    (saved : Option String) : Option String → Prop
  | saved {id : String} (hsaved : saved = some id) (hsome : id ≠ "") :
      StartsOn configuration connected saved (some id)
  | only {id : String} (hsaved : SaysNothing saved)
      (honly : ∀ other, configuration.Connects connected other ↔ other = id) :
      StartsOn configuration connected saved (some id)
  | standard {id : String} (hsaved : SaysNothing saved)
      (hchoice : ∀ only, ¬∀ other, configuration.Connects connected other ↔ other = only)
      (hdefault : configuration.defaultInstance = some id) (hsome : id ≠ "") :
      StartsOn configuration connected saved (some id)
  | nowhere (hsaved : SaysNothing saved)
      (hchoice : ∀ only, ¬∀ other, configuration.Connects connected other ↔ other = only)
      (hdefault : SaysNothing configuration.defaultInstance) :
      StartsOn configuration connected saved none

/-- A picker starts somewhere: one of the cases of `StartsOn` is always there. -/
theorem exists_startsOn (configuration : Configuration) (connected : List String)
    (saved : Option String) : ∃ selected, configuration.StartsOn connected saved selected := by
  cases hsaved : nonEmpty? saved with
  | some id =>
      obtain ⟨hid, hsome⟩ := nonEmpty?_eq_some_iff.1 hsaved
      exact ⟨some id, .saved hid hsome⟩
  | none =>
      have hnothing := saysNothing_iff.2 hsaved
      by_cases hexists : ∃ id, ∀ other, configuration.Connects connected other ↔ other = id
      · obtain ⟨id, honly⟩ := hexists
        exact ⟨some id, .only hnothing honly⟩
      · have hchoice := not_exists.1 hexists
        cases hdefault : nonEmpty? configuration.defaultInstance with
        | some id =>
            obtain ⟨hid, hsome⟩ := nonEmpty?_eq_some_iff.1 hdefault
            exact ⟨some id, .standard hnothing hchoice hid hsome⟩
        | none => exact ⟨none, .nowhere hnothing hchoice (saysNothing_iff.2 hdefault)⟩

section

variable {configuration : Configuration}
  (hids : (configuration.instances.map (·.id)).Nodup) (connected : List String)
  (saved : Option String)

theorem mem_connected_ids {id : String} :
    id ∈ (configuration.instancePicker connected saved).connected.map (·.id) ↔
      configuration.Connects connected id := by
  simp only [instancePicker, InstancePicker.start, Connects, List.mem_map, List.mem_filter,
    decide_eq_true_eq]
  constructor
  · rintro ⟨inst, ⟨hmem, hlinked⟩, rfl⟩
    exact ⟨⟨inst, hmem, rfl⟩, hlinked⟩
  · rintro ⟨⟨inst, hmem, rfl⟩, hlinked⟩
    exact ⟨inst, ⟨hmem, hlinked⟩, rfl⟩

include hids

theorem connected_ids_nodup :
    ((configuration.instancePicker connected saved).connected.map (·.id)).Nodup :=
  hids.sublist (List.filter_sublist.map _)

theorem connected_ids_eq_singleton_iff {id : String} :
    (configuration.instancePicker connected saved).connected.map (·.id) = [id] ↔
      ∀ other, configuration.Connects connected other ↔ other = id := by
  rw [← List.perm_singleton,
    List.perm_ext_iff_of_nodup (connected_ids_nodup hids connected saved) (List.nodup_singleton id)]
  refine forall_congr' fun other => ?_
  rw [mem_connected_ids, List.mem_singleton]

theorem StartsOn.selected {selected : Option String}
    (h : configuration.StartsOn connected saved selected) :
    (configuration.instancePicker connected saved).selected = selected := by
  cases h with
  | saved hsaved hsome =>
      exact startingInstance_of_saved (nonEmpty?_eq_some_iff.2 ⟨hsaved, hsome⟩)
  | only hsaved honly =>
      exact startingInstance_of_only (saysNothing_iff.1 hsaved)
        ((connected_ids_eq_singleton_iff hids connected saved).2 honly)
  | standard hsaved hchoice hdefault hsome =>
      refine (startingInstance_of_choice (saysNothing_iff.1 hsaved) fun id honly => ?_).trans
        (nonEmpty?_eq_some_iff.2 ⟨hdefault, hsome⟩)
      exact hchoice id ((connected_ids_eq_singleton_iff hids connected saved).1 honly)
  | nowhere hsaved hchoice hdefault =>
      refine (startingInstance_of_choice (saysNothing_iff.1 hsaved) fun id honly => ?_).trans
        (saysNothing_iff.1 hdefault)
      exact hchoice id ((connected_ids_eq_singleton_iff hids connected saved).1 honly)

theorem startsOn_iff {selected : Option String} :
    configuration.StartsOn connected saved selected ↔
      (configuration.instancePicker connected saved).selected = selected := by
  constructor
  · exact StartsOn.selected hids connected saved
  · rintro rfl
    obtain ⟨selected, hstarts⟩ := configuration.exists_startsOn connected saved
    rwa [hstarts.selected hids connected saved]

theorem isVisible_iff :
    (configuration.instancePicker connected saved).isVisible = true ↔
      ∃ first second, first ≠ second ∧ configuration.Connects connected first ∧
        configuration.Connects connected second := by
  have hnodup := connected_ids_nodup hids connected saved
  have hfewer : (configuration.instancePicker connected saved).connected.length ≤
      (configuration.instancePicker connected saved).installed.length :=
    List.length_filter_le _ _
  have hcard : (configuration.instancePicker connected saved).connected.length =
      ((configuration.instancePicker connected saved).connected.map (·.id)).toFinset.card := by
    rw [List.toFinset_card_of_nodup hnodup, List.length_map]
  have hchoice : (configuration.instancePicker connected saved).isVisible = true ↔
      1 < (configuration.instancePicker connected saved).connected.length := by
    simp only [InstancePicker.isVisible, Bool.and_eq_true, decide_eq_true_eq]
    omega
  rw [hchoice, hcard, Finset.one_lt_card]
  simp only [List.mem_toFinset, mem_connected_ids]
  constructor
  · rintro ⟨first, hfirst, second, hsecond, hne⟩
    exact ⟨first, second, hne, hfirst, hsecond⟩
  · rintro ⟨first, second, hne, hfirst, hsecond⟩
    exact ⟨first, hfirst, second, hsecond, hne⟩

end

/-- The picker of a configuration whose instances have ids of their own. It lists the configured
instances in order. It is shown if and only if two ids are configured and connected. It starts where
`StartsOn` says and nowhere else. A saved instance stays selected, and no call changes anything;
otherwise the last selection holds, and a call tells whether it has changed the selection. All but
the selection stays as it is. -/
theorem picker_follows_configuration (configuration : Configuration)
    (hids : (configuration.instances.map (·.id)).Nodup) (connected : List String)
    (saved : Option String) :
    let picker := configuration.instancePicker connected saved
    List.Forall₂ Instance.ShownAs configuration.instances picker.options ∧
    (picker.isVisible = true ↔ ∃ first second, first ≠ second ∧
      configuration.Connects connected first ∧ configuration.Connects connected second) ∧
    (∀ selected, configuration.StartsOn connected saved selected ↔ picker.selected = selected) ∧
    (∀ id, saved = some id → id ≠ "" → ∀ ids next,
      (picker.after ids).selected = some id ∧ ((picker.after ids).select next).2 = false) ∧
    (SaysNothing saved → ∀ ids next,
      (picker.after ids).selected = ids.getLast?.or picker.selected ∧
      (((picker.after ids).select next).2 = true ↔
        (picker.after (ids ++ [next])).selected ≠ (picker.after ids).selected)) ∧
    ∀ ids, picker.after ids = { picker with selected := (picker.after ids).selected } := by
  intro picker
  refine ⟨?_, isVisible_iff hids connected saved, fun _ => startsOn_iff hids connected saved,
    fun id hsaved hsome ids next => ?_, fun hnothing ids next => ?_, picker.after_same⟩
  · show List.Forall₂ Instance.ShownAs configuration.instances
      (configuration.instances.map Instance.option)
    rw [List.forall₂_map_right_iff, List.forall₂_same]
    exact fun inst _ => inst.option_shownAs
  · have hsays : nonEmpty? saved = some id := nonEmpty?_eq_some_iff.2 ⟨hsaved, hsome⟩
    have hlocked : picker.locked = true := congrArg Option.isSome hsays
    rw [InstancePicker.after_of_locked hlocked, InstancePicker.select_of_locked hlocked]
    exact ⟨startingInstance_of_saved hsays, rfl⟩
  · have hunlocked : picker.locked = false := congrArg Option.isSome (saysNothing_iff.1 hnothing)
    obtain ⟨hselected, hanswer⟩ := InstancePicker.select_of_unlocked
      ((picker.after_locked ids).trans hunlocked) next
    refine ⟨InstancePicker.after_of_unlocked hunlocked ids, ?_⟩
    rw [hanswer, InstancePicker.after_concat, hselected, ne_comm]

/-- Three instances, of which one has a name, and a default. -/
def threeInstances : Configuration :=
  { Configuration.standard with
    instances := [⟨"a", some "Cloud"⟩, ⟨"b", none⟩, ⟨"c", some ""⟩]
    defaultInstance := some "b" }

/-- Of the linked ids one stands twice and one is not configured. -/
theorem picker_of_three_instances :
    let picker := threeInstances.instancePicker ["c", "z", "a", "a"] (some "")
    let kept := threeInstances.instancePicker ["a"] (some "c")
    (threeInstances.instances.map (·.id)).Nodup ∧
      picker.options.map (·.label) = ["Cloud", "b", "c"] ∧ picker.isVisible = true ∧
      picker.selected = some "b" ∧ threeInstances.StartsOn ["z", "a", "a"] none (some "a") ∧
      (picker.after ["a", "a", "c"]).selected = some "c" ∧
      ((picker.after ["a"]).select "a").2 = false ∧ ((picker.after ["a"]).select "c").2 = true ∧
      (kept.after ["a", "b"]).selected = some "c" ∧ ((kept.after ["a"]).select "c").2 = false := by
  intro picker kept
  have hids : (threeInstances.instances.map (·.id)).Nodup := by decide
  have hsaved : SaysNothing (some "") := fun s hs => (Option.some.inj hs).symm
  obtain ⟨-, hvisible, hstart, -, hruns, -⟩ :=
    picker_follows_configuration threeInstances hids ["c", "z", "a", "a"] (some "")
  obtain ⟨-, -, hlone, -⟩ := picker_follows_configuration threeInstances hids ["z", "a", "a"] none
  obtain ⟨-, -, -, hkept, -⟩ := picker_follows_configuration threeInstances hids ["a"] (some "c")
  have hchoice : ∀ only, ¬∀ other,
      threeInstances.Connects ["c", "z", "a", "a"] other ↔ other = only := by
    intro only honly
    exact absurd (((honly "a").1 (by decide)).trans ((honly "c").1 (by decide)).symm) (by decide)
  exact ⟨hids, by decide, hvisible.2 ⟨"a", "c", by decide, by decide, by decide⟩,
    (hstart _).1 (.standard hsaved hchoice rfl (by decide)), (hlone (some "a")).2 (by decide),
    (hruns hsaved ["a", "a", "c"] "").1, by decide, (hruns hsaved ["a"] "c").2.2 (by decide),
    (hkept "c" rfl (by decide) ["a", "b"] "").1, (hkept "c" rfl (by decide) ["a"] "c").2⟩

end Configuration

end IssueDesk
