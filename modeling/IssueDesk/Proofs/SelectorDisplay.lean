import IssueDesk.Proofs.SelectorSelection

/-! What a selector shows for what it holds. A selection is held as it fits the selector, and what fits
stays as it is when it is fitted again. For each value that is held one option is shown, in order: the
first that the labels or else the search results have for it, or the raw value where neither has one
(`StandsFor`). So whatever becomes of these lists, the values that are shown are the values that are
held. -/

namespace IssueDesk

namespace Selection

/-- A selection is one that a selector for one value, or for several, can hold. -/
def Fits : Bool → Selection → Prop
  | false, multi _ => False
  | true, single value => value = ""
  | _, _ => True

theorem fit_fits (isMulti : Bool) (selection : Selection) : (selection.fit isMulti).Fits isMulti := by
  cases selection with
  | none => cases isMulti <;> trivial
  | single value =>
      cases isMulti with
      | false => trivial
      | true =>
          cases hempty : value.isEmpty with
          | true =>
              obtain rfl := String.isEmpty_iff.1 hempty
              exact rfl
          | false => simp [fit, hempty, Fits]
  | multi values =>
      cases isMulti with
      | false => cases values <;> trivial
      | true => trivial

theorem fit_of_fits {isMulti : Bool} {selection : Selection} (h : selection.Fits isMulti) :
    selection.fit isMulti = selection := by
  cases selection with
  | none => rfl
  | single value =>
      cases isMulti with
      | false => rfl
      | true =>
          obtain rfl : value = "" := h
          rfl
  | multi values =>
      cases isMulti with
      | false => exact h.elim
      | true => rfl

theorem fit_fit (isMulti : Bool) (selection : Selection) :
    (selection.fit isMulti).fit isMulti = selection.fit isMulti :=
  fit_of_fits (selection.fit_fits isMulti)

theorem isEmpty_iff {selection : Selection} : selection.isEmpty = true ↔ selection.values = [] := by
  cases selection with
  | none => simp [isEmpty, values]
  | single value => cases hempty : value.isEmpty <;> simp [isEmpty, values, hempty]
  | multi values => exact List.isEmpty_iff

end Selection

namespace Selector

/-- What is shown for a value: the first option for it, the labels before the search results, or the
raw value where there is none. -/
inductive StandsFor (selector : Selector) (value : String) : SelectOption → Prop
  | known {option : SelectOption} {before after : List SelectOption}
      (hlists : selector.labels ++ selector.options = before ++ option :: after)
      (hvalue : option.value = value) (hfirst : ∀ earlier ∈ before, earlier.value ≠ value) :
      StandsFor selector value option
  | unknown (hnone : ∀ option ∈ selector.labels ++ selector.options, option.value ≠ value) :
      StandsFor selector value (.raw value)

theorem StandsFor.value {selector : Selector} {value : String} {option : SelectOption}
    (h : selector.StandsFor value option) : option.value = value := by
  cases h with
  | known hlists hvalue => exact hvalue
  | unknown => rfl

theorem standsFor_iff {selector : Selector} {value : String} {option : SelectOption} :
    selector.StandsFor value option ↔ (selector.known? value).getD (.raw value) = option := by
  unfold known?
  constructor
  · intro h
    cases h with
    | known hlists hvalue hfirst =>
        have hfound : (selector.labels ++ selector.options).find? (·.value == value) =
            some option := by
          refine List.find?_eq_some_iff_append.2 ⟨beq_iff_eq.2 hvalue, _, _, hlists, ?_⟩
          exact fun earlier hmem => by simp [hfirst earlier hmem]
        rw [hfound, Option.getD_some]
    | unknown hnone =>
        rw [List.find?_eq_none.2 fun option hmem => by simp [hnone option hmem], Option.getD_none]
  · rintro rfl
    cases hfound : (selector.labels ++ selector.options).find? (·.value == value) with
    | some option =>
        obtain ⟨hvalue, before, after, hlists, hfirst⟩ := List.find?_eq_some_iff_append.1 hfound
        exact .known hlists (beq_iff_eq.1 hvalue) fun earlier hmem => by
          simpa using hfirst earlier hmem
    | none => exact .unknown fun option hmem => by simpa using List.find?_eq_none.1 hfound option hmem

theorem selectedOptions_standFor (selector : Selector) :
    List.Forall₂ selector.StandsFor selector.selection.values selector.selectedOptions := by
  rw [selectedOptions, List.forall₂_map_right_iff, List.forall₂_same]
  exact fun value _ => standsFor_iff.2 rfl

theorem selectedOptions_values (selector : Selector) :
    selector.selectedOptions.map (·.value) = selector.selection.values := by
  rw [selectedOptions, List.map_map]
  refine (List.map_congr_left fun value _ => ?_).trans (List.map_id _)
  exact (standsFor_iff.2 rfl).value

end Selector

namespace Session

/-- The selection that the host has set last. -/
def lastSet (steps : List (Step α)) : Selection :=
  steps.foldl (fun held action => match action with | .value selection => selection | _ => held)
    .none

theorem run_selection (profile : Profile α) (steps : List (Step α)) :
    ((start profile).run steps).selector.selection = (lastSet steps).fit profile.multi := by
  induction steps using List.reverseRecOn with
  | nil => rfl
  | append_singleton steps action ih =>
      rw [run_concat, step_selection, lastSet, List.foldl_append]
      cases action with
      | value selection =>
          rw [selectionAfter, run_profile]
          rfl
      | _ => exact ih

/-- In every run the selector holds what was set last, as it fits: a selector for one value never
holds a list, one for several never a single value that is not empty, and fitting again changes
nothing. One option is shown for each value that is held, in order, and it stands for that value. A
selector that requires a value is valid if and only if the selection is not empty, and that is so if
and only if an option is shown. -/
theorem shown_is_held (profile : Profile α) (steps : List (Step α)) :
    let selector := ((start profile).run steps).selector
    (profile.multi = false → ∀ values, selector.selection ≠ .multi values) ∧
    (profile.multi = true → ∀ value, selector.selection = .single value → value = "") ∧
    (∀ selection : Selection,
      (selection.fit profile.multi).fit profile.multi = selection.fit profile.multi) ∧
    selector.selection = (lastSet steps).fit profile.multi ∧
    List.Forall₂ selector.StandsFor selector.selection.values selector.selectedOptions ∧
    selector.selectedOptions.map (·.value) = selector.selection.values ∧
    (selector.isValid true = true ↔ selector.selection.isEmpty = false) ∧
    (selector.selection.isEmpty = false ↔ selector.selectedOptions ≠ []) := by
  intro selector
  have hheld : selector.selection = (lastSet steps).fit profile.multi := run_selection profile steps
  have hfits : selector.selection.Fits profile.multi := hheld ▸ (lastSet steps).fit_fits profile.multi
  have hvalues := selector.selectedOptions_values
  refine ⟨fun hsingle values hmulti => ?_, fun hmulti value hsingle => ?_,
    Selection.fit_fit profile.multi, hheld, selector.selectedOptions_standFor, hvalues, ?_, ?_⟩
  · rw [hsingle, hmulti] at hfits
    exact hfits
  · rw [hmulti, hsingle] at hfits
    exact hfits
  · simp [Selector.isValid]
  · rw [← Bool.not_eq_true, Selection.isEmpty_iff, ← hvalues, List.map_eq_nil_iff]

/-- Of three values that are selected a search has shown one, and their lookup finds another one. -/
def lookedUpRun : List (Step SelectOption) :=
  beforeLookup ++ [.value (.multi ["b", "y", "x"]), .wake 2,
    .answer 2 (.ok { data := some [⟨"x", "Ex", none⟩, ⟨"x", "Other", none⟩], error := none }), .poll]

theorem looked_up_values_are_shown :
    let selector := ((start multiProfile).run lookedUpRun).selector
    let single := ((start sampleProfile).run (lookedUpRun ++ [.value (.multi ["", "b"])])).selector
    selector.selection = .multi ["b", "y", "x"] ∧
      selector.selectedOptions = [⟨"b", "Bee", none⟩, .raw "y", ⟨"x", "Ex", none⟩] ∧
      List.Forall₂ selector.StandsFor ["b", "y", "x"] selector.selectedOptions ∧
      (∀ value, selector.selection = .single value → value = "") ∧
      selector.isValid true = true ∧ (∀ values, single.selection ≠ .multi values) ∧
      single.selection = .single "" ∧ single.isValid true = false := by
  intro selector single
  obtain ⟨-, hmulti, -, hheld, hstand, -, hvalid, -⟩ := shown_is_held multiProfile lookedUpRun
  obtain ⟨hsingle, -, -, hlast, -⟩ :=
    shown_is_held sampleProfile (lookedUpRun ++ [.value (.multi ["", "b"])])
  exact ⟨hheld.trans (by decide), by decide, hstand, hmulti rfl, hvalid.2 (by decide), hsingle rfl,
    hlast.trans (by decide), by decide⟩

end Session

end IssueDesk
