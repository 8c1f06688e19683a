import IssueDesk.Proofs.SelectorDelivery

/-! The labels that a selector keeps for its selection. They are written in three places: a
selection whose options are at hand stores them, the host's own search for the selection stores what
it finds, and so does the outcome of a lookup when it is taken. Only a lookup takes a new number. So
an earlier lookup loses against a later one, but not against labels that the host has stored in
between: those are overwritten when the answer to the lookup comes. -/

namespace IssueDesk

/-- A resolution of labels: a lookup that is started, or labels that the host stores. -/
inductive Resolution where
  | lookup (id : Nat)
  | stored (labels : List SelectOption)
  deriving DecidableEq

def Resolution.isLookup : Resolution → Bool
  | .lookup _ => true
  | .stored _ => false

namespace Session

/-- The resolution that a step makes. -/
def resolution? (session : Session α) (action : Step α) : Option Resolution :=
  match session.stored? action, action with
  | some labels, _ => some (.stored labels)
  | none, .value selection =>
      if session.startsLookup selection then some (.lookup (session.selector.lastRequest + 1))
      else none
  | none, _ => none

/-- The resolutions that are made in a run, in order. -/
def resolutions (session : Session α) (steps : List (Step α)) : List Resolution :=
  session.gathered (fun before action => (before.resolution? action).toList) steps

/-- A step writes the outcome of a request: the outcome is taken out and is the latest. -/
def writes (session : Session α) (action : Step α) (key : RequestKey) : Prop :=
  ∃ outcome ∈ session.taken action, outcome.key = key ∧ session.selector.accepts outcome = true

/-- All that ever becomes of the labels. -/
theorem step_labels (session : Session α) (action : Step α) :
    (session.step action).selector.labels = (session.stored? action).getD
      ((session.taken action).foldl Selector.take session.selector).labels := by
  have heffect := step_effect session action
  generalize session.step action = session' at heffect ⊢
  cases heffect with
  | aside hstalls hsame hselector hlabels =>
      rw [hstalls.taken]
      exact hlabels
  | took hrest haction hsame hselector =>
      rw [hselector]
      rcases haction with rfl | rfl <;> rfl
  | typed hmounted hsame hselector => rw [hselector]; rfl
  | asked hstarts hsame hselector =>
      rw [hselector]
      simp only [startsLookup, Bool.and_eq_true, Option.isNone_iff_eq_none] at hstarts
      simp [stored?, taken, hstarts]
  | unmounted hsame hselector => rw [hselector]; rfl
  | called htask hstage hdue hlatest hsame hselector => rw [hselector]; rfl
  | _ => rfl

theorem resolution_of_startsLookup {session : Session α} {selection : Selection}
    (h : session.startsLookup selection = true) :
    session.resolution? (.value selection) =
      some (.lookup (session.selector.lastRequest + 1)) := by
  have hnone := h
  simp only [startsLookup, Bool.and_eq_true, Option.isNone_iff_eq_none] at hnone
  simp [resolution?, stored?, hnone, h]

/-- A lookup takes the next number; no other step changes which lookup is the latest. -/
theorem step_latestLookup (session : Session α) (action : Step α) :
    (session.resolution? action = some (.lookup (session.selector.lastRequest + 1)) ∧
      (session.step action).selector.latestLookup = session.selector.lastRequest + 1) ∨
    ((∀ resolution ∈ session.resolution? action, resolution.isLookup = false) ∧
      (session.step action).selector.latestLookup = session.selector.latestLookup) := by
  have heffect := step_effect session action
  generalize session.step action = session' at heffect ⊢
  cases heffect with
  | aside hstalls hsame hselector hlabels =>
      refine Or.inr ⟨?_, hselector.latest .lookup⟩
      intro resolution hmem
      unfold resolution? at hmem
      split at hmem
      next => cases hmem; rfl
      next selection _ =>
        have hlookup : session.startsLookup selection = false := hstalls
        simp [hlookup] at hmem
      next => cases hmem
  | asked hstarts hsame hselector =>
      exact Or.inl ⟨resolution_of_startsLookup hstarts, by rw [hselector]⟩
  | took hrest haction hsame hselector =>
      refine Or.inr ⟨?_, ?_⟩
      · rcases haction with rfl | rfl <;> exact nofun
      · rw [hselector]
        exact Selector.foldl_take_latest _ _ .lookup
  | typed hmounted hsame hselector => exact Or.inr ⟨nofun, by rw [hselector]⟩
  | unmounted hsame hselector => exact Or.inr ⟨nofun, by rw [hselector]⟩
  | called htask hstage hdue hlatest hsame hselector => exact Or.inr ⟨nofun, by rw [hselector]⟩
  | _ => exact Or.inr ⟨nofun, rfl⟩

/-- A lookup stays the latest until another one is started. -/
theorem Accounted.latestLookup_along {session : Session α} (h : Accounted session)
    (steps : List (Step α)) :
    session.selector.latestLookup ≤ (session.run steps).selector.latestLookup ∧
      ((session.run steps).selector.latestLookup = session.selector.latestLookup ↔
        ∀ resolution ∈ session.resolutions steps, resolution.isLookup = false) := by
  induction steps using List.reverseRecOn with
  | nil => exact ⟨Nat.le_refl _, fun _ => nofun, fun _ => rfl⟩
  | append_singleton steps action ih =>
      obtain ⟨hle, hiff⟩ := ih
      have hbound : (session.run steps).selector.latestLookup ≤
          (session.run steps).selector.lastRequest := (h.along steps).latest .lookup
      rw [run_concat, resolutions, gathered_concat]
      simp only [List.mem_append, Option.mem_toList]
      rcases step_latestLookup (session.run steps) action with
        ⟨hlookup, hlatest⟩ | ⟨hnone, hlatest⟩ <;> rw [hlatest]
      · refine ⟨by omega, fun hkept => ?_, fun hall => ?_⟩
        · omega
        · cases hall _ (Or.inr hlookup)
      · refine ⟨hle, fun hkept resolution hmem => ?_, fun hall => ?_⟩
        · rcases hmem with hmem | hmem
          · exact hiff.1 hkept resolution hmem
          · exact hnone resolution hmem
        · exact hiff.2 fun resolution hmem => hall resolution (Or.inl hmem)

/-- The request that a selection starts. -/
theorem asked_value (profile : Profile α) (before later : List (Step α)) (selection : Selection)
    (hstarts : ((start profile).run before).startsLookup selection = true) :
    (start profile).asked (((start profile).run before).selector.lastRequest + 1)
      (before ++ .value selection :: later) = some (.lookup, "") := by
  obtain ⟨hnone, -⟩ := (Traced.run profile _ before).fresh (Nat.lt_succ_self _)
  rw [asked_append, hnone, Option.none_or, asked]
  simp [starts, hstarts]

/-- A request whose outcome is taken out has had its one response. -/
theorem response_of_taken (profile : Profile α) {steps : List (Step α)} (action : Step α)
    {id : Nat} {kind : RequestKind} {query : String}
    (hasked : (start profile).asked id steps = some (kind, query)) :
    ∀ outcome ∈ ((start profile).run steps).taken action, outcome.id = id →
      ∃ response, (start profile).responses id steps = [response] ∧
        outcome.answer = profile.source.fetch query response := by
  intro outcome hmem hid
  obtain ⟨text, response, htext, hresponses, hanswer⟩ :=
    (Traced.run profile id steps).outcome outcome (channel_of_taken hmem) hid
  rw [hasked] at htext
  cases htext
  exact ⟨response, hresponses, hanswer⟩

/-- An outcome that is taken out is written if and only if it is the latest of its kind. -/
theorem writes_iff_latest {session : Session α} {action : Step α} {key : RequestKey}
    (hmounted : session.selector.mounted = true)
    (htaken : key ∈ (session.taken action).map Outcome.key) :
    session.writes action key ↔ session.selector.latest key.1 = key.2 := by
  constructor
  · rintro ⟨outcome, -, rfl, haccepts⟩
    simp only [Selector.accepts, Bool.and_eq_true, beq_iff_eq] at haccepts
    exact haccepts.2.symm
  · intro hlatest
    obtain ⟨outcome, hmem, rfl⟩ := List.mem_map.1 htaken
    refine ⟨outcome, hmem, rfl, ?_⟩
    simp only [Selector.accepts, hmounted, Bool.true_and, beq_iff_eq]
    exact hlatest.symm

/-- What a step that takes a lookup out does to the labels. -/
theorem labels_of_taken {session : Session α} (h : Accounted session) {action : Step α}
    {key : RequestKey} (hmounted : session.selector.mounted = true)
    (htaken : key ∈ (session.taken action).map Outcome.key) :
    (∃ outcome ∈ session.taken action,
        outcome.key = (.lookup, session.selector.latestLookup) ∧
        (session.step action).selector.labels = outcome.answer.settled) ∨
      (.lookup, session.selector.latestLookup) ∉ (session.taken action).map Outcome.key ∧
        (session.step action).selector.labels = session.selector.labels := by
  obtain ⟨any, hany, -⟩ := List.mem_map.1 htaken
  by_cases hcurrent :
      (.lookup, session.selector.latestLookup) ∈ (session.taken action).map Outcome.key
  · obtain ⟨outcome, hmem, hkey⟩ := List.mem_map.1 hcurrent
    obtain ⟨hkind, hid⟩ := Prod.mk.injEq .. ▸ hkey
    have haccepts : session.selector.accepts outcome = true := by
      simp [Selector.accepts, Selector.latest, hmounted, hkind, hid]
    have hshown := h.shown_of_taken hmem haccepts
    rw [hkind] at hshown
    exact Or.inl ⟨outcome, hmem, hkey, hshown⟩
  · refine Or.inr ⟨hcurrent, ?_⟩
    rw [(step_of_taken hany).2]
    exact Selector.foldl_take_shown_of_not_mem hcurrent

/-- A finished lookup is written if and only if no other lookup has been started since. What the
host has stored since makes no difference. So the answer to an older lookup is kept from replacing
labels resolved since exactly if there are none or another lookup has been started. -/
theorem lookup_is_written_iff_last (profile : Profile α) (before after : List (Step α))
    (selection : Selection) (action : Step α) :
    let asked := (start profile).run before
    let id := asked.selector.lastRequest + 1
    let steps := before ++ .value selection :: after
    let session := (start profile).run steps
    let later := (asked.step (.value selection)).resolutions after
    asked.startsLookup selection = true → session.selector.mounted = true →
      (.lookup, id) ∈ (session.taken action).map Outcome.key →
      (session.writes action (.lookup, id) ↔
        ∀ resolution ∈ later, resolution.isLookup = false) ∧
      ((session.writes action (.lookup, id) → later = []) ↔
        later = [] ∨ ∃ resolution ∈ later, resolution.isLookup = true) ∧
      ∃ response, (start profile).responses id steps = [response] ∧
        (session.writes action (.lookup, id) →
          (session.step action).selector.labels = (profile.source.fetch "" response).settled) ∧
        (¬ session.writes action (.lookup, id) →
          (session.step action).selector.labels = session.selector.labels ∨
          ∃ newer ∈ session.taken action, newer.kind = .lookup ∧ id < newer.id ∧
            (session.step action).selector.labels = newer.answer.settled) := by
  intro asked id steps session later hstarts hmounted htaken
  have hasked : Accounted asked := Accounted.run profile before
  have haccounted : Accounted session := Accounted.run profile steps
  have hstarted : (asked.step (.value selection)).selector.latestLookup = id := by
    rcases step_latestLookup asked (.value selection) with ⟨-, hlatest⟩ | ⟨hnone, -⟩
    · exact hlatest
    · cases hnone _ (resolution_of_startsLookup hstarts)
  have hrun : session = (asked.step (.value selection)).run after :=
    run_append (start profile) before (.value selection :: after)
  obtain ⟨hle, hlast⟩ :=
    (hasked.effect (step_effect asked (.value selection))).latestLookup_along after
  rw [← hrun, hstarted] at hle hlast
  have hwrites : session.writes action (.lookup, id) ↔
      ∀ resolution ∈ later, resolution.isLookup = false :=
    (writes_iff_latest hmounted htaken).trans hlast
  refine ⟨hwrites, ?_, ?_⟩
  · rw [hwrites]
    constructor
    · intro hkept
      by_cases hall : ∀ resolution ∈ later, resolution.isLookup = false
      · exact Or.inl (hkept hall)
      · simp only [not_forall, Bool.not_eq_false] at hall
        obtain ⟨resolution, hmem, hlookup⟩ := hall
        exact Or.inr ⟨resolution, hmem, hlookup⟩
    · rintro (hnone | ⟨resolution, hmem, hlookup⟩) hall
      · exact hnone
      · rw [hall resolution hmem] at hlookup
        cases hlookup
  · have hanswered := response_of_taken profile action
      (asked_value profile before after selection hstarts)
    obtain ⟨outcome, hmem, hkey⟩ := List.mem_map.1 htaken
    obtain ⟨response, hresponses, -⟩ := hanswered outcome hmem (congrArg Prod.snd hkey)
    refine ⟨response, hresponses, fun hw => ?_, fun hw => ?_⟩
    · obtain ⟨written, hwritten, hkey', haccepts⟩ := hw
      obtain ⟨hkind, hid⟩ := Prod.mk.injEq .. ▸ hkey'
      obtain ⟨response', hresponses', hanswer⟩ := hanswered written hwritten hid
      have hshown := haccounted.shown_of_taken hwritten haccepts
      rw [hresponses] at hresponses'
      cases hresponses'
      rw [hkind, hanswer] at hshown
      exact hshown
    · rcases labels_of_taken haccounted hmounted htaken with
        ⟨newer, hnewer, hkey', hlabels⟩ | ⟨-, hlabels⟩
      · obtain ⟨hkind, hid⟩ := Prod.mk.injEq .. ▸ hkey'
        have hne : session.selector.latestLookup ≠ id :=
          fun hlatest => hw ((writes_iff_latest hmounted htaken).2 hlatest)
        exact Or.inr ⟨newer, hnewer, hkind, by omega, hlabels⟩
      · exact Or.inl hlabels

/-- A search shows an option with a label. -/
def beforeLookup : List (Step SelectOption) :=
  [.input "b", .wait 400, .wake 1,
    .answer 1 (.ok { data := some [⟨"b", "Bee", none⟩], error := none }), .poll]

/-- While another selection is looked up, that option is selected and a search replaces the
options. -/
def duringLookup : List (Step SelectOption) :=
  [.wake 2, .value (.single "b"), .input "c", .wait 400, .wake 3, .answer 3 (sampleResponse "c"),
    .poll, .answer 2 (sampleResponse "a")]

theorem lookup_is_written_after_host :
    let asked := (start sampleProfile).run beforeLookup
    let steps := beforeLookup ++ .value (.single "a") :: duringLookup
    let session := (start sampleProfile).run steps
    asked.startsLookup (.single "a") = true ∧ session.selector.mounted = true ∧
      (.lookup, 2) ∈ (session.taken .poll).map Outcome.key ∧
      session.writes .poll (.lookup, 2) ∧
      ∃ response, (start sampleProfile).responses 2 steps = [response] ∧
        (session.step .poll).selector.labels =
          (sampleProfile.source.fetch "" response).settled := by
  intro asked steps session
  have hstarts : asked.startsLookup (.single "a") = true := by decide
  have hmounted : session.selector.mounted = true := by decide
  have htaken : (.lookup, 2) ∈ (session.taken .poll).map Outcome.key := by decide
  obtain ⟨hwrites, -, response, hresponses, hlabels, -⟩ :=
    lookup_is_written_iff_last sampleProfile beforeLookup duringLookup (.single "a") .poll
      hstarts hmounted htaken
  have hwritten := hwrites.2 (by decide)
  exact ⟨hstarts, hmounted, htaken, hwritten, response, hresponses, hlabels hwritten⟩

/-- The label of a selection is stored and then overwritten by the answer for an older one. -/
theorem stored_labels_are_overwritten :
    let asked := (start sampleProfile).run beforeLookup
    let session := (start sampleProfile).run
      (beforeLookup ++ .value (.single "a") :: duringLookup)
    asked.startsLookup (.single "a") = true ∧
      (asked.step (.value (.single "a"))).resolutions duringLookup =
        [.stored [⟨"b", "Bee", none⟩]] ∧
      session.selector.mounted = true ∧ session.selector.selection = .single "b" ∧
      session.selector.labels = [⟨"b", "Bee", none⟩] ∧
      session.selector.selectedOptions = [⟨"b", "Bee", none⟩] ∧
      session.writes .poll (.lookup, asked.selector.lastRequest + 1) ∧
      (session.step .poll).selector.labels = [.raw "a"] ∧
      (session.step .poll).selector.selectedOptions = [.raw "b"] :=
  ⟨by decide, by decide, by decide, by decide, by decide, by decide,
    (writes_iff_latest (by decide) (by decide)).2 (by decide), by decide, by decide⟩

end Session

end IssueDesk
