import IssueDesk.Proofs.SelectorLabels
import IssueDesk.Proofs.SourceAnswers
import Mathlib.Data.List.Infix

/-! What stands for a selected value. Its option is known if it is among the stored labels or among
the options of the last search; it then is one that the backend has supplied. Else the raw value is
shown. Each of the two lists is replaced as a whole by the answers to one kind of request, so a known
option is lost just if an answer that lacks it is written and the other list lacks it too
(`Spares`). What is stored for a selection is out of reach of a search, but it is stored only if all
of it is at hand, and the answer to a lookup replaces it. -/

namespace IssueDesk

/-- A list has an option for a value. -/
def Offers (options : List SelectOption) (value : String) : Prop :=
  ∃ option ∈ options, option.value = value

/-- The kind of request whose answers go into the other list. -/
def RequestKind.other : RequestKind → RequestKind
  | .search => .lookup
  | .lookup => .search

theorem map_of_mapM {β γ : Type} {f : β → Option γ} {inputs : List β} {outputs : List γ}
    (h : inputs.mapM f = some outputs) : inputs.map f = outputs.map some := by
  induction inputs generalizing outputs with
  | nil =>
      cases h
      rfl
  | cons input rest ih =>
      rw [List.mapM_cons] at h
      cases hinput : f input with
      | none => simp [hinput] at h
      | some output =>
          cases hrest : rest.mapM f with
          | none => simp [hinput, hrest] at h
          | some others =>
              simp only [hinput, hrest, Option.bind_eq_bind, Option.bind_some, Option.pure_def,
                Option.some.injEq] at h
              rw [← h, List.map_cons, List.map_cons, hinput, ih hrest]

/-- A query narrows what a response means without one. -/
theorem Source.fetch_narrows (source : Source α) (query : String)
    (response : Except CallFailure (Envelope α)) :
    ∀ option ∈ (source.fetch query response).settled,
      option ∈ (source.fetch "" response).settled := by
  intro option hmem
  rw [fetch_eq_map] at hmem
  cases hfull : source.fetch "" response with
  | error error =>
      rw [hfull] at hmem
      cases hmem
  | ok full =>
      rw [hfull] at hmem
      exact (List.mem_filter.1 hmem).1

namespace Selector

theorem known?_spec {selector : Selector} {value : String} {option : SelectOption}
    (h : selector.known? value = some option) :
    option ∈ selector.labels ++ selector.options ∧ option.value = value :=
  ⟨List.mem_of_find?_eq_some h, by simpa using List.find?_some h⟩

/-- An option is known if one of the two lists has it. -/
theorem known?_isSome (selector : Selector) (kind : RequestKind) (value : String) :
    (selector.known? value).isSome ↔
      Offers (selector.shown kind) value ∨ Offers (selector.shown kind.other) value := by
  have hlists : (selector.known? value).isSome ↔
      Offers selector.labels value ∨ Offers selector.options value := by
    simp only [known?, List.find?_isSome, List.mem_append, beq_iff_eq, Offers, or_and_right,
      exists_or]
  cases kind with
  | search => exact hlists.trans or_comm
  | lookup => exact hlists

/-- What is shown for a value, wherever it stands in the selection. -/
theorem selectedOptions_getElem? {selector : Selector} {n : Nat} {value : String}
    (h : selector.selection.values[n]? = some value) :
    selector.selectedOptions[n]? = some ((selector.known? value).getD (.raw value)) := by
  rw [selectedOptions, List.getElem?_map, h]
  rfl

/-- Wherever a value stands in the selection, an option that has been supplied is shown for it. -/
def ShowsFrom (selector : Selector) (supplied : List SelectOption) (value : String) : Prop :=
  ∃ option ∈ supplied, option.value = value ∧ selector.known? value = some option ∧
    ∀ n : Nat, selector.selection.values[n]? = some value →
      selector.selectedOptions[n]? = some option

theorem showsFrom_iff {selector : Selector} {supplied : List SelectOption} {value : String}
    (hsupplied : ∀ option ∈ selector.labels ++ selector.options, option ∈ supplied) :
    selector.ShowsFrom supplied value ↔ (selector.known? value).isSome := by
  constructor
  · rintro ⟨option, -, -, hknown, -⟩
    exact Option.isSome_of_eq_some hknown
  · intro hknown
    obtain ⟨option, hoption⟩ := Option.isSome_iff_exists.1 hknown
    obtain ⟨hmem, hvalue⟩ := known?_spec hoption
    refine ⟨option, hsupplied option hmem, hvalue, hoption, fun n hn => ?_⟩
    rw [selectedOptions_getElem? hn, hoption, Option.getD_some]

theorem foldl_take_shown_of_rejected {outcomes : List Outcome} {selector : Selector}
    {kind : RequestKind}
    (h : ∀ outcome ∈ outcomes, outcome.kind = kind → selector.accepts outcome = false) :
    (outcomes.foldl take selector).shown kind = selector.shown kind := by
  induction outcomes generalizing selector with
  | nil => rfl
  | cons outcome rest ih =>
      rw [List.foldl_cons, ih fun other hother hkind => ?_]
      · by_cases hkind : outcome.kind = kind
        · rw [take_of_not_accepts (h outcome List.mem_cons_self hkind)]
        · exact take_shown_of_ne fun hkey => hkind (congrArg Prod.fst hkey)
      · rw [take_accepts]
        exact h other (List.mem_cons_of_mem _ hother) hkind

/-- What is shown after outcomes have been taken was shown before or has come with them. -/
theorem mem_foldl_take_shown {outcomes : List Outcome} {selector : Selector} {kind : RequestKind}
    {option : SelectOption} (h : option ∈ (outcomes.foldl take selector).shown kind) :
    option ∈ selector.shown kind ∨ ∃ outcome ∈ outcomes, option ∈ outcome.answer.settled := by
  induction outcomes generalizing selector with
  | nil => exact Or.inl h
  | cons outcome rest ih =>
      rcases ih h with hshown | ⟨other, hother, hmem⟩
      · by_cases hkey : outcome.key = (kind, selector.latest kind)
        · cases haccepts : selector.accepts outcome with
          | true =>
              obtain ⟨rfl, -⟩ := Prod.mk.injEq .. ▸ hkey
              rw [take_shown_of_accepts haccepts] at hshown
              exact Or.inr ⟨outcome, List.mem_cons_self, hshown⟩
          | false =>
              rw [take_of_not_accepts haccepts] at hshown
              exact Or.inl hshown
        · rw [take_shown_of_ne hkey] at hshown
          exact Or.inl hshown
      · exact Or.inr ⟨other, List.mem_cons_of_mem _ hother, hmem⟩

end Selector

namespace Session

/-- The options that a step brings from the backend, whatever becomes of them. -/
def brings (session : Session α) : Step α → List SelectOption
  | .answer id response =>
      if session.awaits id then (session.profile.source.fetch "" response).settled else []
  | .finish response =>
      if session.direct.isSome then (session.profile.source.fetch "" response).settled else []
  | _ => []

/-- The options that the backend has supplied in a run. -/
def supplied (session : Session α) (steps : List (Step α)) : List SelectOption :=
  session.gathered brings steps

/-- A step writes what an answer gives: an outcome that counts, or the host's own search for the
selection. -/
inductive Settles (session : Session α) : Step α → RequestKind → List SelectOption → Prop
  | outcome {action : Step α} {outcome : Outcome} (htaken : outcome ∈ session.taken action)
      (haccepts : session.selector.accepts outcome = true) :
      Settles session action outcome.kind outcome.answer.settled
  | direct {response : Except CallFailure (Envelope α)} {labels : List SelectOption}
      (hstored : session.stored? (.finish response) = some labels) :
      Settles session (.finish response) .lookup labels

/-- No answer that a step writes takes away the last option for a value. -/
def Spares (session : Session α) (action : Step α) (value : String) : Prop :=
  ∀ kind answer, session.Settles action kind answer →
    Offers answer value ∨ Offers ((session.step action).selector.shown kind.other) value

/-- All that ever becomes of the options. -/
theorem step_options (session : Session α) (action : Step α) :
    (session.step action).selector.options =
      ((session.taken action).foldl Selector.take session.selector).options := by
  have heffect := step_effect session action
  generalize session.step action = session' at heffect ⊢
  cases heffect with
  | aside hstalls hsame hselector hlabels =>
      rw [hstalls.taken]
      exact hselector.options
  | took hrest haction hsame hselector => rw [hselector]
  | typed hmounted hsame hselector => rw [hselector]; rfl
  | asked hstarts hsame hselector => rw [hselector]; rfl
  | unmounted hsame hselector => rw [hselector]; rfl
  | called htask hstage hdue hlatest hsame hselector => rw [hselector]; rfl
  | _ => rfl

/-- What is held after a selection has been set. -/
theorem step_value_selection (session : Session α) (selection : Selection) :
    (session.step (.value selection)).selector.selection = selection.fit session.profile.multi := by
  have hhold := hold_selector session.abandon selection
  have hheld : (session.abandon.hold selection).selector.selection =
      selection.fit session.profile.multi := by
    rw [hhold]
    rfl
  rw [step, setValue]
  dsimp only
  split
  · exact hheld
  · split <;> exact hheld

theorem Settles.shown {session : Session α} (h : Accounted session) {action : Step α}
    {kind : RequestKind} {answer : List SelectOption} (hsettles : session.Settles action kind answer) :
    (session.step action).selector.shown kind = answer := by
  cases hsettles with
  | outcome htaken haccepts => exact h.shown_of_taken htaken haccepts
  | direct hstored =>
      rw [Selector.shown, step_labels, hstored]
      rfl

/-- The labels that are stored for a selection are the options known for its values. -/
theorem stored_of_value {session : Session α} {selection : Selection} {labels : List SelectOption}
    (h : session.stored? (.value selection) = some labels) :
    (selection.fit session.profile.multi).values.map session.selector.known? = labels.map some := by
  rw [stored?] at h
  split at h
  · exact map_of_mapM h
  · cases h

/-- Of a selection that is set no value loses an option that it has among the labels. -/
theorem stored_offers {session : Session α} {selection : Selection} {labels : List SelectOption}
    (h : session.stored? (.value selection) = some labels) {value : String}
    (hselected : value ∈ (session.step (.value selection)).selector.selection.values) :
    Offers labels value := by
  rw [step_value_selection] at hselected
  have hmem := List.mem_map_of_mem hselected (f := session.selector.known?)
  rw [stored_of_value h] at hmem
  obtain ⟨option, hoption, hknown⟩ := List.mem_map.1 hmem
  exact ⟨option, hoption, (Selector.known?_spec hknown.symm).2⟩

/-- Unless an answer is written into it, a list keeps an option for a selected value. -/
theorem offers_kept {session : Session α} {action : Step α} {kind : RequestKind} {value : String}
    (hunsettled : ∀ answer, ¬ session.Settles action kind answer)
    (hselected : value ∈ (session.step action).selector.selection.values)
    (hoffers : Offers (session.selector.shown kind) value) :
    Offers ((session.step action).selector.shown kind) value := by
  have htaken : Offers
      (((session.taken action).foldl Selector.take session.selector).shown kind) value := by
    rw [Selector.foldl_take_shown_of_rejected fun outcome hmem hkind => ?_]
    · exact hoffers
    · subst hkind
      exact Bool.eq_false_iff.2 fun haccepts => hunsettled _ (.outcome hmem haccepts)
  cases kind with
  | search =>
      rw [Selector.shown, step_options]
      exact htaken
  | lookup =>
      rw [Selector.shown, step_labels]
      cases hstored : session.stored? action with
      | none => exact htaken
      | some labels =>
          cases action with
          | value selection => exact stored_offers hstored hselected
          | finish response => exact absurd (.direct hstored) (hunsettled labels)
          | _ => cases hstored

/-- No answer is written when a selection is set. -/
theorem value_unsettled {session : Session α} (selection : Selection) (kind : RequestKind)
    (answer : List SelectOption) : ¬ session.Settles (.value selection) kind answer := by
  intro h
  cases h with
  | outcome htaken => cases htaken

/-- A step leaves a selected value known just if it spares it. -/
theorem step_known_iff {session : Session α} (h : Accounted session) {action : Step α}
    {value : String} (hknown : (session.selector.known? value).isSome)
    (hselected : value ∈ (session.step action).selector.selection.values) :
    ((session.step action).selector.known? value).isSome ↔ session.Spares action value := by
  constructor
  · intro hkept kind answer hsettles
    rw [Selector.known?_isSome _ kind, hsettles.shown h] at hkept
    exact hkept
  · intro hspares
    have hsome : ∃ kind, Offers (session.selector.shown kind) value := by
      rcases (session.selector.known?_isSome .search value).1 hknown with hoffers | hoffers
      · exact ⟨_, hoffers⟩
      · exact ⟨_, hoffers⟩
    obtain ⟨kind, hoffers⟩ := hsome
    rw [Selector.known?_isSome _ kind]
    by_cases hsettled : ∃ answer, session.Settles action kind answer
    · obtain ⟨answer, hsettles⟩ := hsettled
      rw [hsettles.shown h]
      exact hspares kind answer hsettles
    · exact Or.inl (offers_kept (not_exists.1 hsettled) hselected hoffers)

/-- A value that stays selected stays known just if every step spares it. -/
theorem run_known_iff {session : Session α} (h : Accounted session) {after : List (Step α)}
    {value : String} (hknown : (session.selector.known? value).isSome)
    (hselected : ∀ earlier, earlier <+: after →
      value ∈ (session.run earlier).selector.selection.values) :
    (∀ earlier, earlier <+: after → ((session.run earlier).selector.known? value).isSome) ↔
      ∀ earlier action, earlier ++ [action] <+: after →
        (session.run earlier).Spares action value := by
  have hstep : ∀ earlier action, earlier ++ [action] <+: after →
      ((session.run earlier).selector.known? value).isSome →
      (((session.run (earlier ++ [action])).selector.known? value).isSome ↔
        (session.run earlier).Spares action value) := by
    intro earlier action hpart hbefore
    have hstays := hselected _ hpart
    rw [run_concat] at hstays ⊢
    exact step_known_iff (h.along earlier) hbefore hstays
  constructor
  · intro hkept earlier action hpart
    have hbefore := hkept earlier ((List.prefix_append _ _).trans hpart)
    exact (hstep earlier action hpart hbefore).1 (hkept _ hpart)
  · intro hspares earlier hpart
    induction earlier using List.reverseRecOn with
    | nil => exact hknown
    | append_singleton earlier action ih =>
        have hbefore := ih ((List.prefix_append _ _).trans hpart)
        exact (hstep earlier action hpart hbefore).2 (hspares earlier action hpart)

/-- A stored label of a value that stays selected is out of reach of every search. -/
theorem run_labelled {session : Session α} {after : List (Step α)} {value : String}
    (hoffers : Offers (session.selector.shown .lookup) value)
    (hselected : ∀ earlier, earlier <+: after →
      value ∈ (session.run earlier).selector.selection.values)
    (hunsettled : ∀ earlier action answer, earlier ++ [action] <+: after →
      ¬ (session.run earlier).Settles action .lookup answer) :
    Offers ((session.run after).selector.shown .lookup) value := by
  induction after using List.reverseRecOn with
  | nil => exact hoffers
  | append_singleton after action ih =>
      have hearlier : after <+: after ++ [action] := List.prefix_append _ _
      have hbefore := ih (fun earlier hpart => hselected earlier (hpart.trans hearlier))
        fun earlier other answer hpart => hunsettled earlier other answer (hpart.trans hearlier)
      have hstays := hselected _ List.prefix_rfl
      rw [run_concat] at hstays ⊢
      exact offers_kept (fun answer => hunsettled after action answer List.prefix_rfl) hstays hbefore

/-! Whatever is known has come from the backend. -/

theorem supplied_concat (session : Session α) (steps : List (Step α)) (action : Step α) :
    session.supplied (steps ++ [action]) =
      session.supplied steps ++ (session.run steps).brings action :=
  session.gathered_concat _ steps action

theorem supplied_of_response (profile : Profile α) {id : Nat} {steps : List (Step α)}
    {response : Except CallFailure (Envelope α)}
    (h : response ∈ (start profile).responses id steps) :
    ∀ option ∈ (profile.source.fetch "" response).settled,
      option ∈ (start profile).supplied steps := by
  induction steps using List.reverseRecOn with
  | nil => cases h
  | append_singleton steps action ih =>
      intro option hoption
      rw [responses_concat, List.mem_append] at h
      rw [supplied_concat, List.mem_append]
      rcases h with h | h
      · exact Or.inl (ih h option hoption)
      · refine Or.inr ?_
        cases action with
        | answer other brought =>
            rw [replies] at h
            split at h
            next hanswers =>
              obtain rfl := List.mem_singleton.1 h
              rw [brings, hanswers.1, if_pos hanswers.2, run_profile]
              exact hoption
            next => cases h
        | _ => cases h

/-- An outcome that is taken out gives options that have been supplied. -/
theorem supplied_of_taken (profile : Profile α) {steps : List (Step α)} {action : Step α} :
    ∀ outcome ∈ ((start profile).run steps).taken action, ∀ option ∈ outcome.answer.settled,
      option ∈ (start profile).supplied steps := by
  intro outcome htaken option hoption
  obtain ⟨query, response, -, hresponses, hanswer⟩ :=
    (Traced.run profile outcome.id steps).outcome outcome (channel_of_taken htaken) rfl
  have hanswered : response ∈ (start profile).responses outcome.id steps := by
    rw [hresponses]
    exact List.mem_singleton_self response
  rw [hanswer] at hoption
  exact supplied_of_response profile hanswered option
    (profile.source.fetch_narrows query response option hoption)

/-- The host stores labels that are at hand or that it brings. -/
theorem mem_stored {session : Session α} {action : Step α} {labels : List SelectOption}
    (h : session.stored? action = some labels) :
    ∀ option ∈ labels, option ∈ session.selector.labels ++ session.selector.options ∨
      option ∈ session.brings action := by
  intro option hmem
  cases action with
  | value selection =>
      have hfound := List.mem_map_of_mem hmem (f := some)
      rw [← stored_of_value h] at hfound
      obtain ⟨value, -, hknown⟩ := List.mem_map.1 hfound
      exact Or.inl (Selector.known?_spec hknown).1
  | finish response =>
      rw [stored?] at h
      split at h
      next direct hdirect =>
        split at h
        · cases h
          refine Or.inr ?_
          rw [brings, hdirect]
          exact session.profile.source.fetch_narrows direct.query response option hmem
        · cases h
      next => cases h
  | _ => cases h

theorem known_supplied (profile : Profile α) (steps : List (Step α)) :
    ∀ option ∈ ((start profile).run steps).selector.labels ++
      ((start profile).run steps).selector.options, option ∈ (start profile).supplied steps := by
  induction steps using List.reverseRecOn with
  | nil => exact nofun
  | append_singleton steps action ih =>
      have hshown : ∀ kind, ∀ option ∈ ((((start profile).run steps).taken action).foldl
          Selector.take ((start profile).run steps).selector).shown kind,
          option ∈ (start profile).supplied steps := by
        intro kind option hmem
        rcases Selector.mem_foldl_take_shown hmem with hold | ⟨outcome, htaken, hnew⟩
        · cases kind with
          | search => exact ih option (List.mem_append_right _ hold)
          | lookup => exact ih option (List.mem_append_left _ hold)
        · exact supplied_of_taken profile outcome htaken option hnew
      intro option hmem
      rw [run_concat, step_labels, step_options] at hmem
      rw [supplied_concat]
      rcases List.mem_append.1 hmem with hlabel | hoption
      · cases hstored : ((start profile).run steps).stored? action with
        | none =>
            rw [hstored] at hlabel
            exact List.mem_append_left _ (hshown .lookup option hlabel)
        | some labels =>
            rw [hstored] at hlabel
            rcases mem_stored hstored option hlabel with hold | hnew
            · exact List.mem_append_left _ (ih option hold)
            · exact List.mem_append_right _ hnew
      · exact List.mem_append_left _ (hshown .search option hoption)

/-- In every run, take a value that is known when a selection with it is set, and that stays
selected. It is shown by an option of the backend all along if and only if every step spares it. If
all labels of the selection were at hand they are stored, and then only the answer to a lookup, or to
the host's own search for the selection, can take one away. A value without a known option is shown
as it is. -/
theorem label_is_kept_iff_spared (profile : Profile α) (before after : List (Step α))
    (selection : Selection) (value : String) :
    let asked := (start profile).run before
    let steps := fun earlier => before ++ .value selection :: earlier
    let session := fun earlier => (start profile).run (steps earlier)
    (asked.selector.known? value).isSome →
    (∀ earlier, earlier <+: after → value ∈ (session earlier).selector.selection.values) →
    ((∀ earlier, earlier <+: after →
        (session earlier).selector.ShowsFrom ((start profile).supplied (steps earlier)) value) ↔
      ∀ earlier action, earlier ++ [action] <+: after → (session earlier).Spares action value) ∧
    ((asked.stored? (.value selection)).isSome →
      (∀ earlier action answer, earlier ++ [action] <+: after →
        ¬ (session earlier).Settles action .lookup answer) →
      (session after).selector.ShowsFrom ((start profile).supplied (steps after)) value) ∧
    (¬ (session after).selector.ShowsFrom ((start profile).supplied (steps after)) value →
      ∀ n : Nat, (session after).selector.selection.values[n]? = some value →
        (session after).selector.selectedOptions[n]? = some (.raw value)) := by
  intro asked steps session hknown hselected
  have hset : Accounted (asked.step (.value selection)) :=
    (Accounted.run profile before).effect (step_effect asked _)
  have hrun : ∀ earlier, session earlier = (asked.step (.value selection)).run earlier :=
    fun earlier => run_append (start profile) before (.value selection :: earlier)
  have hshows : ∀ earlier,
      (session earlier).selector.ShowsFrom ((start profile).supplied (steps earlier)) value ↔
        ((session earlier).selector.known? value).isSome :=
    fun earlier => Selector.showsFrom_iff (known_supplied profile (steps earlier))
  have hheld : value ∈ (asked.step (.value selection)).selector.selection.values := by
    have hfirst := hselected [] List.nil_prefix
    rw [hrun] at hfirst
    exact hfirst
  simp only [hshows]
  simp only [hrun] at hselected ⊢
  have hstill : ((asked.step (.value selection)).selector.known? value).isSome := by
    refine (step_known_iff (Accounted.run profile before) hknown hheld).2 fun kind answer h => ?_
    exact absurd h (value_unsettled selection kind answer)
  refine ⟨run_known_iff hset hstill hselected, fun hstored hunsettled => ?_,
    fun hunknown n hn => ?_⟩
  · obtain ⟨labels, hlabels⟩ := Option.isSome_iff_exists.1 hstored
    have hoffers : Offers ((asked.step (.value selection)).selector.shown .lookup) value := by
      rw [Selector.shown, step_labels, hlabels]
      exact stored_offers hlabels hheld
    rw [Selector.known?_isSome _ .lookup]
    exact Or.inl (run_labelled hoffers hselected hunsettled)
  · rw [Selector.selectedOptions_getElem? hn, Option.not_isSome_iff_eq_none.1 hunknown]
    rfl

/-! Two values are selected of which a search has shown one, so they are looked up. -/

/-- A selector for several values. -/
def multiProfile : Profile SelectOption := { sampleProfile with multi := true }

/-- The lookup finds both values, and then the next search fails. -/
def afterBothFound : List (Step SelectOption) :=
  [.wake 2,
    .answer 2 (.ok { data := some [⟨"x", "Ex", none⟩, ⟨"b", "Bee", none⟩], error := none }), .poll,
    .input "c", .wait 400, .wake 3, .answer 3 (.error ⟨["no answer"]⟩), .poll]

theorem found_label_is_kept :
    let asked := (start multiProfile).run beforeLookup
    let steps := fun earlier => beforeLookup ++ .value (.multi ["b", "x"]) :: earlier
    let session := fun earlier => (start multiProfile).run (steps earlier)
    (asked.selector.known? "b").isSome ∧
      (∀ earlier, earlier <+: afterBothFound →
        "b" ∈ (session earlier).selector.selection.values) ∧
      (session afterBothFound).selector.options = [] ∧
      (∀ earlier, earlier <+: afterBothFound → (session earlier).selector.ShowsFrom
        ((start multiProfile).supplied (steps earlier)) "b") ∧
      ∀ earlier action, earlier ++ [action] <+: afterBothFound →
        (session earlier).Spares action "b" := by
  intro asked steps session
  have hknown : (asked.selector.known? "b").isSome := by decide
  have hall : ∀ earlier ∈ afterBothFound.inits,
      "b" ∈ (session earlier).selector.selection.values ∧
        ((session earlier).selector.known? "b").isSome := by decide
  have hselected : ∀ earlier, earlier <+: afterBothFound →
      "b" ∈ (session earlier).selector.selection.values :=
    fun earlier hpart => (hall earlier ((List.mem_inits _ _).2 hpart)).1
  have hshows : ∀ earlier, earlier <+: afterBothFound → (session earlier).selector.ShowsFrom
      ((start multiProfile).supplied (steps earlier)) "b" := fun earlier hpart =>
    (Selector.showsFrom_iff (known_supplied multiProfile (steps earlier))).2
      (hall earlier ((List.mem_inits _ _).2 hpart)).2
  obtain ⟨hiff, -, -⟩ := label_is_kept_iff_spared multiProfile beforeLookup afterBothFound
    (.multi ["b", "x"]) "b" hknown hselected
  exact ⟨hknown, hselected, by decide, hshows, hiff.1 hshows⟩

/-- The lookup finds the other value, and then the next search replaces the options. -/
def afterPick : List (Step SelectOption) :=
  [.wake 2, .answer 2 (.ok { data := some [⟨"x", "Ex", none⟩], error := none }), .poll,
    .input "c", .wait 400, .wake 3, .answer 3 (sampleResponse "c"), .poll]

/-- The label of a value that has been selected all along is lost to the next search. -/
theorem picked_label_is_lost :
    let asked := (start multiProfile).run beforeLookup
    let steps := fun earlier => beforeLookup ++ .value (.multi ["b", "x"]) :: earlier
    let session := fun earlier => (start multiProfile).run (steps earlier)
    asked.selector.mounted = true ∧ asked.selector.known? "b" = some ⟨"b", "Bee", none⟩ ∧
      (∀ earlier ∈ afterPick.inits, "b" ∈ (session earlier).selector.selection.values) ∧
      (session (afterPick.take 7)).selector.selectedOptions =
        [⟨"b", "Bee", none⟩, ⟨"x", "Ex", none⟩] ∧
      (session afterPick).selector.mounted = true ∧
      (session afterPick).selector.selectedOptions = [.raw "b", ⟨"x", "Ex", none⟩] ∧
      .raw "b" ∉ (start multiProfile).supplied (steps afterPick) :=
  ⟨by decide, by decide, by decide, by decide, by decide, by decide, by decide⟩

end Session

end IssueDesk
