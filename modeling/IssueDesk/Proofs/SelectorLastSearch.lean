import IssueDesk.Proofs.SelectorHistory

/-! The options that a selector shows are those of the last search. After a keystroke the options
stay what they were until the answer to that keystroke's search is written, and from then on they
are that answer; no answer to an earlier search gets in between, however late it comes and whatever
else the host does. -/

namespace IssueDesk

namespace Selector

/-- Two selectors agree in what is shown of a search. -/
structure SameView (selector selector' : Selector) : Prop where
  query : selector'.query = selector.query
  options : selector'.options = selector.options
  loading : selector'.loading = selector.loading
  latestSearch : selector'.latestSearch = selector.latestSearch
  mounted : selector'.mounted = selector.mounted

theorem SameSearch.view {selector selector' : Selector} (h : SameSearch selector selector') :
    SameView selector selector' :=
  ⟨h.query, h.options, h.loading, h.latest .search, h.mounted⟩

theorem SameView.refl (selector : Selector) : SameView selector selector :=
  ⟨rfl, rfl, rfl, rfl, rfl⟩

theorem take_of_unmounted {selector : Selector} (h : selector.mounted = false)
    (outcome : Outcome) : selector.take outcome = selector :=
  take_of_not_accepts (by simp [accepts, h])

theorem foldl_take_of_unmounted {selector : Selector} (h : selector.mounted = false)
    (outcomes : List Outcome) : outcomes.foldl take selector = selector := by
  induction outcomes with
  | nil => rfl
  | cons outcome rest ih => rw [List.foldl_cons, take_of_unmounted h, ih]

end Selector

namespace Session

/-- What is shown of a search changes by a keystroke, by outcomes that are taken and by an
unmount. -/
theorem Effect.view {session session' : Session α} {action : Step α}
    (h : Effect session action session') :
    Selector.SameView session.selector session'.selector ∨
      (∃ query, action = .input query ∧ session.selector.mounted = true) ∨
      (session'.selector = (session.taken action).foldl Selector.take session.selector ∧
        ∃ rest, session.channel = session.taken action ++ rest) ∨
      action = .unmount ∧ session'.selector =
        { session.selector with
          mounted := false
          loading := false
          lastRequest := session.selector.lastRequest + 1
          latestSearch := session.selector.lastRequest + 1 } := by
  cases h with
  | aside hstalls hsame hselector => exact Or.inl hselector.view
  | typed hmounted hsame hselector => exact Or.inr (Or.inl ⟨_, rfl, hmounted⟩)
  | asked hstarts hsame hselector =>
      exact Or.inl (by rw [hselector]; exact ⟨rfl, rfl, rfl, rfl, rfl⟩)
  | took hrest haction hsame hselector => exact Or.inr (Or.inr (Or.inl ⟨hselector, hrest⟩))
  | unmounted hsame hselector => exact Or.inr (Or.inr (Or.inr ⟨rfl, hselector⟩))
  | called htask hstage hdue hlatest hsame hselector =>
      exact Or.inl (hselector ▸ Selector.SameView.refl _)
  | _ => exact Or.inl (Selector.SameView.refl _)

/-- After an unmount the options stay. -/
theorem options_of_unmounted {session : Session α} (h : session.selector.mounted = false)
    (steps : List (Step α)) :
    (session.run steps).selector.mounted = false ∧
      (session.run steps).selector.options = session.selector.options := by
  induction steps using List.reverseRecOn with
  | nil => exact ⟨h, rfl⟩
  | append_singleton steps action ih =>
      obtain ⟨hmounted, hoptions⟩ := ih
      rw [run_concat]
      rcases (step_effect (session.run steps) action).view with
        hview | ⟨query, -, htrue⟩ | ⟨htook, -⟩ | ⟨-, hclosed⟩
      · exact ⟨hview.mounted.trans hmounted, hview.options.trans hoptions⟩
      · rw [hmounted] at htrue
        cases htrue
      · rw [htook, Selector.foldl_take_of_unmounted hmounted]
        exact ⟨hmounted, hoptions⟩
      · rw [hclosed]
        exact ⟨rfl, hoptions⟩

theorem mounted_before {session : Session α} (before after : List (Step α))
    (h : (session.run (before ++ after)).selector.mounted = true) :
    (session.run before).selector.mounted = true := by
  cases hbefore : (session.run before).selector.mounted with
  | true => rfl
  | false =>
      rw [run_append, (options_of_unmounted hbefore after).1] at h
      cases h

/-- The last keystroke of a run. -/
theorem exists_last_input {steps : List (Step α)} (h : ∃ query, Step.input query ∈ steps) :
    ∃ before query after, steps = before ++ .input query :: after ∧
      ∀ later, Step.input later ∉ after := by
  induction steps using List.reverseRecOn with
  | nil =>
      obtain ⟨query, hmem⟩ := h
      cases hmem
  | append_singleton steps action ih =>
      by_cases hinput : ∃ query, action = .input query
      · obtain ⟨query, rfl⟩ := hinput
        exact ⟨steps, query, [], rfl, fun _ hmem => by cases hmem⟩
      · obtain ⟨query, hmem⟩ := h
        rcases List.mem_append.1 hmem with hmem | hmem
        · obtain ⟨before, last, after, rfl, hlast⟩ := ih ⟨query, hmem⟩
          refine ⟨before, last, after ++ [action], by simp, fun later hlater => ?_⟩
          rcases List.mem_append.1 hlater with hlater | hlater
          · exact hlast later hlater
          · exact hinput ⟨later, (List.mem_singleton.1 hlater).symm⟩
        · exact absurd ⟨query, (List.mem_singleton.1 hmem).symm⟩ hinput

/-- What is known of a search while it is the last one: until its answer is written the options are
the old ones and the selector is loading; after that they are what its one response means. -/
structure LastSearch (source : Source α) (id : Nat) (query : String) (old : List SelectOption)
    (responses : List (Except CallFailure (Envelope α))) (selector : Selector) : Prop where
  typed : selector.query = query
  latest : selector.mounted = true → selector.latestSearch = id
  shown : selector.options = old ∧ (selector.mounted = true → selector.loading = true) ∨
    ∃ response, responses = [response] ∧ selector.loading = false ∧
      selector.options = (source.fetch query response).settled

namespace LastSearch

variable {source : Source α} {id : Nat} {query : String} {old : List SelectOption}
  {responses : List (Except CallFailure (Envelope α))} {selector : Selector}

theorem of_view {selector' : Selector} (h : LastSearch source id query old responses selector)
    (hview : Selector.SameView selector selector') :
    LastSearch source id query old responses selector' := by
  refine ⟨hview.query.trans h.typed, fun hmounted => ?_, ?_⟩
  · exact hview.latestSearch.trans (h.latest (hview.mounted ▸ hmounted))
  · rw [hview.options, hview.loading, hview.mounted]
    exact h.shown

/-- An outcome that counts as the answer to a search answers this one. -/
theorem take (h : LastSearch source id query old responses selector) {outcome : Outcome}
    (houtcome : outcome.key = (.search, id) → ∃ response, responses = [response] ∧
      outcome.answer = source.fetch query response) :
    LastSearch source id query old responses (selector.take outcome) := by
  unfold Selector.take
  split
  next haccepts =>
    obtain ⟨kind, number, answer⟩ := outcome
    simp only [Selector.accepts, Bool.and_eq_true, beq_iff_eq] at haccepts
    obtain ⟨hmounted, hnumber⟩ := haccepts
    cases kind with
    | search =>
        have hid : number = id := hnumber.trans (h.latest hmounted)
        obtain ⟨response, hresponses, hanswer⟩ := houtcome (by rw [Outcome.key, hid])
        refine ⟨h.typed, h.latest, Or.inr ⟨response, hresponses, rfl, ?_⟩⟩
        exact congrArg Answer.settled hanswer
    | lookup => exact ⟨h.typed, h.latest, h.shown⟩
  next => exact h

theorem foldl_take (h : LastSearch source id query old responses selector)
    {outcomes : List Outcome}
    (houtcomes : ∀ outcome ∈ outcomes, outcome.key = (.search, id) →
      ∃ response, responses = [response] ∧ outcome.answer = source.fetch query response) :
    LastSearch source id query old responses (outcomes.foldl Selector.take selector) := by
  induction outcomes generalizing selector with
  | nil => exact h
  | cons outcome rest ih =>
      exact ih (h.take (houtcomes outcome List.mem_cons_self))
        (fun other hother => houtcomes other (List.mem_cons_of_mem _ hother))

theorem unmount (h : LastSearch source id query old responses selector) (number : Nat) :
    LastSearch source id query old responses
      { selector with
        mounted := false, loading := false, lastRequest := number, latestSearch := number } := by
  refine ⟨h.typed, nofun, ?_⟩
  rcases h.shown with ⟨hold, -⟩ | ⟨response, hresponses, -, hsettled⟩
  · exact Or.inl ⟨hold, nofun⟩
  · exact Or.inr ⟨response, hresponses, rfl, hsettled⟩

end LastSearch

/-- The first response to a request is the only one. -/
theorem responses_settled (profile : Profile α) (id : Nat) {steps : List (Step α)}
    {response : Except CallFailure (Envelope α)}
    (h : (start profile).responses id steps = [response]) (later : List (Step α)) :
    (start profile).responses id (steps ++ later) = [response] := by
  have hshort := (Traced.run profile id (steps ++ later)).short
  rw [responses_append, h] at hshort ⊢
  cases hmore : ((start profile).run steps).responses id later with
  | nil => rfl
  | cons _ _ => simp [hmore] at hshort

/-- The request that a keystroke starts. -/
theorem asked_input (profile : Profile α) (before later : List (Step α)) (query : String)
    (hmounted : ((start profile).run before).selector.mounted = true) :
    (start profile).asked (((start profile).run before).selector.lastRequest + 1)
      (before ++ .input query :: later) = some (.search, query) := by
  obtain ⟨hnone, -⟩ := (Traced.run profile _ before).fresh (Nat.lt_succ_self _)
  rw [asked_append, hnone, Option.none_or, asked]
  simp [starts, hmounted]

theorem last_search_of_mounted (profile : Profile α) (before after : List (Step α))
    (query : String) (hmounted : ((start profile).run before).selector.mounted = true)
    (hlast : ∀ later, Step.input later ∉ after) :
    LastSearch profile.source (((start profile).run before).selector.lastRequest + 1) query
      ((start profile).run before).selector.options
      ((start profile).responses (((start profile).run before).selector.lastRequest + 1)
        (before ++ .input query :: after))
      ((start profile).run (before ++ .input query :: after)).selector := by
  generalize hid : ((start profile).run before).selector.lastRequest + 1 = id
  induction after using List.reverseRecOn with
  | nil =>
      rw [run_concat]
      cases step_effect ((start profile).run before) (.input query) with
      | aside hstalls => exact absurd (hmounted.symm.trans hstalls) (by decide)
      | typed _ _ hselector =>
          rw [hselector]
          exact ⟨rfl, fun _ => hid, Or.inl ⟨rfl, fun _ => rfl⟩⟩
      | took _ haction => rcases haction with haction | haction <;> cases haction
  | append_singleton after action ih =>
      have hlater := ih (fun later hmem => hlast later (List.mem_append_left _ hmem))
      have hasked := asked_input profile before after query hmounted
      have htraced := Traced.run profile id (before ++ .input query :: after)
      rw [hid] at hasked
      rw [hasked] at htraced
      have hsplit : before ++ .input query :: (after ++ [action]) =
          (before ++ .input query :: after) ++ [action] := by simp
      rw [hsplit, run_concat]
      have hgrown : LastSearch profile.source id query ((start profile).run before).selector.options
          ((start profile).responses id ((before ++ .input query :: after) ++ [action]))
          ((start profile).run (before ++ .input query :: after)).selector := by
        refine ⟨hlater.typed, hlater.latest, hlater.shown.imp_right ?_⟩
        rintro ⟨response, hresponses, hshown⟩
        exact ⟨response, responses_settled profile id hresponses _, hshown⟩
      rcases (step_effect ((start profile).run (before ++ .input query :: after)) action).view with
        hview | ⟨later, rfl, -⟩ | ⟨htook, rest, hrest⟩ | ⟨-, hclosed⟩
      · exact hgrown.of_view hview
      · exact absurd (List.mem_append_right _ List.mem_cons_self) (hlast later)
      · rw [htook]
        refine hgrown.foldl_take fun outcome hmem hkey => ?_
        have hchannel : outcome ∈ ((start profile).run (before ++ .input query :: after)).channel :=
          hrest ▸ List.mem_append_left _ hmem
        obtain ⟨text, response, htext, hresponses, hanswer⟩ :=
          htraced.outcome outcome hchannel (congrArg Prod.snd hkey)
        simp only [Option.some.injEq, Prod.mk.injEq] at htext
        obtain ⟨-, rfl⟩ := htext
        exact ⟨response, responses_settled profile id hresponses _, hanswer⟩
      · rw [hclosed]
        exact hgrown.unmount _

/-- In every run, a mounted selector that has been typed into and is not loading shows what the one
response to the search of the last keystroke means; and after a keystroke the options are those from
before it or that search's answer, never an earlier search's. -/
theorem options_follow_last_input (profile : Profile α) (steps : List (Step α)) :
    let session := (start profile).run steps
    (session.selector.mounted = true → session.selector.loading = false →
      (∃ query, Step.input query ∈ steps) →
      ∃ before query after response, steps = before ++ .input query :: after ∧
        (∀ later, Step.input later ∉ after) ∧
        session.selector.query = query ∧
        (start profile).asked session.selector.latestSearch steps = some (.search, query) ∧
        session.selector.latestSearch = ((start profile).run before).selector.lastRequest + 1 ∧
        (start profile).responses session.selector.latestSearch steps = [response] ∧
        session.selector.options = (profile.source.fetch query response).settled) ∧
    (∀ before query after, steps = before ++ .input query :: after →
      (∀ later, Step.input later ∉ after) →
      session.selector.options = ((start profile).run before).selector.options ∨
      ∃ response,
        (start profile).responses (((start profile).run before).selector.lastRequest + 1) steps =
          [response] ∧
        session.selector.options = (profile.source.fetch query response).settled) := by
  intro session
  constructor
  · intro hmounted hidle htyped
    obtain ⟨before, query, after, rfl, hlast⟩ := exists_last_input htyped
    have hbefore := mounted_before before (.input query :: after) hmounted
    have hshown := last_search_of_mounted profile before after query hbefore hlast
    have hlatest := hshown.latest hmounted
    rcases hshown.shown with ⟨-, hloading⟩ | ⟨response, hresponses, -, hsettled⟩
    · rw [hloading hmounted] at hidle
      cases hidle
    · refine ⟨before, query, after, response, rfl, hlast, hshown.typed, ?_, hlatest, ?_, hsettled⟩
      · rw [hlatest]
        exact asked_input profile before after query hbefore
      · rw [hlatest]
        exact hresponses
  · rintro before query after rfl hlast
    cases hbefore : ((start profile).run before).selector.mounted with
    | true =>
        rcases (last_search_of_mounted profile before after query hbefore hlast).shown with
          ⟨hold, -⟩ | ⟨response, hresponses, -, hsettled⟩
        · exact Or.inl hold
        · exact Or.inr ⟨response, hresponses, hsettled⟩
    | false =>
        have hclosed := options_of_unmounted hbefore (.input query :: after)
        rw [← run_append] at hclosed
        exact Or.inl hclosed.2

/-- The answer to the first of two searches comes last. -/
def lateAnswerRun : List (Step SelectOption) :=
  [.input "a", .wait 400, .wake 1, .input "ab", .wait 400, .wake 2,
    .answer 2 (sampleResponse "ab"), .answer 1 (sampleResponse "a"), .poll]

theorem late_answer_is_not_shown :
    let session := (start sampleProfile).run lateAnswerRun
    session.selector.mounted = true ∧ session.selector.loading = false ∧
      session.selector.options = [.raw "ab"] ∧
      ∃ before query after response, lateAnswerRun = before ++ .input query :: after ∧
        (∀ later, Step.input later ∉ after) ∧
        session.selector.query = query ∧
        (start sampleProfile).asked session.selector.latestSearch lateAnswerRun =
          some (.search, query) ∧
        session.selector.latestSearch =
          ((start sampleProfile).run before).selector.lastRequest + 1 ∧
        (start sampleProfile).responses session.selector.latestSearch lateAnswerRun = [response] ∧
        session.selector.options = (sampleProfile.source.fetch query response).settled :=
  ⟨by decide, by decide, by decide,
    (options_follow_last_input sampleProfile lateAnswerRun).1 (by decide) (by decide)
      ⟨"a", List.mem_cons_self⟩⟩

end Session

end IssueDesk
