import IssueDesk.Proofs.SelectorCalls
import IssueDesk.Proofs.SelectorLastSearch

/-! When the search of a keystroke calls the backend. It waits for its quiet period (`Waiting`)
until it is woken after that and calls once, or until a later keystroke or an unmount supersedes it,
and then it never calls. The quiet period is over when the task is woken, which is never too early
but may be late. Of keystrokes in quick succession only the last can make a call. -/

namespace IssueDesk

namespace Step

/-- A keystroke and an unmount supersede the search before them. -/
def supersedes : Step α → Bool
  | .input _ | .unmount => true
  | _ => false

def isInput : Step α → Bool
  | .input _ => true
  | _ => false

end Step

/-- From every keystroke it takes less than a pause to the next one or to the end. -/
def rapid (pause : Nat) : List (Step α) → Bool
  | [] => true
  | action :: later =>
      (!action.isInput || decide (elapsed (later.takeWhile (!·.isInput)) < pause)) &&
        rapid pause later

theorem rapid_append {pause : Nat} {earlier later : List (Step α)} {query : String}
    (h : rapid pause (earlier ++ .input query :: later) = true) :
    elapsed (later.takeWhile (!·.isInput)) < pause := by
  induction earlier with
  | nil =>
      simp only [List.nil_append, rapid, Bool.and_eq_true] at h
      exact of_decide_eq_true h.1
  | cons action earlier ih =>
      simp only [List.cons_append, rapid, Bool.and_eq_true] at h
      exact ih h.2

theorem elapsed_append (steps later : List (Step α)) :
    elapsed (steps ++ later) = elapsed steps + elapsed later := by
  induction steps with
  | nil => exact (Nat.zero_add _).symm
  | cons action steps ih => rw [List.cons_append, elapsed, elapsed, ih, Nat.add_assoc]

/-- A task is woken after a pause, and nothing supersedes a search before that. -/
def QuietUntilWoken (id pause : Nat) (steps : List (Step α)) : Prop :=
  ∃ quiet later, steps = quiet ++ .wake id :: later ∧
    (∀ action ∈ quiet, action.supersedes = false) ∧ pause ≤ elapsed quiet

theorem quietUntilWoken_cons (id pause : Nat) (action : Step α) (later : List (Step α)) :
    QuietUntilWoken id pause (action :: later) ↔
      (action = .wake id ∧ pause = 0) ∨
        action.supersedes = false ∧ QuietUntilWoken id (pause - action.duration) later := by
  constructor
  · rintro ⟨quiet, rest, hsteps, hquiet, hpause⟩
    cases quiet with
    | nil =>
        obtain ⟨rfl, -⟩ := List.cons.inj hsteps
        exact Or.inl ⟨rfl, Nat.le_zero.1 hpause⟩
    | cons first quiet =>
        obtain ⟨rfl, hlater⟩ := List.cons.inj hsteps
        rw [elapsed] at hpause
        refine Or.inr ⟨hquiet action List.mem_cons_self, quiet, rest, hlater, ?_, by omega⟩
        intro other hother
        exact hquiet other (List.mem_cons_of_mem _ hother)
  · rintro (⟨rfl, rfl⟩ | ⟨haction, quiet, rest, rfl, hquiet, hpause⟩)
    · exact ⟨[], later, rfl, nofun, Nat.zero_le _⟩
    · refine ⟨action :: quiet, rest, rfl, ?_, by rw [elapsed]; omega⟩
      intro other hother
      rcases List.mem_cons.1 hother with rfl | hother
      · exact haction
      · exact hquiet other hother

/-- What is superseded within the pause is not woken in time. -/
theorem not_quietUntilWoken_of_early {id pause : Nat} {gap later : List (Step α)}
    {action : Step α} (hsupersedes : action.supersedes = true) (hearly : elapsed gap < pause) :
    ¬ QuietUntilWoken id pause (gap ++ action :: later) := by
  rintro ⟨quiet, rest, hsteps, hquiet, hpause⟩
  rcases List.append_eq_append_iff.1 hsteps with ⟨more, rfl, hmore⟩ | ⟨more, rfl, -⟩
  · cases more with
    | nil =>
        obtain ⟨rfl, -⟩ := List.cons.inj hmore
        cases hsupersedes
    | cons first more =>
        obtain ⟨rfl, -⟩ := List.cons.inj hmore
        rw [hquiet action (List.mem_append_right _ List.mem_cons_self)] at hsupersedes
        cases hsupersedes
  · rw [elapsed_append] at hearly
    omega

namespace Session

/-- A search waits for its quiet period and has not been superseded. -/
structure Waiting (id : Nat) (query : String) (due : Nat) (session : Session α) : Prop where
  task : session.task? id = some ⟨.search, id, query, .pending due⟩
  latest : session.selector.latestSearch = id
  mounted : session.selector.mounted = true
  uncalled : ∀ call ∈ session.calls .search, call.1 ≠ id

/-- A search has been superseded before it made its call. -/
structure Superseded (id : Nat) (session : Session α) : Prop where
  latest : session.selector.latestSearch ≠ id
  bound : id ≤ session.selector.lastRequest
  uncalled : ∀ call ∈ session.calls .search, call.1 ≠ id

/-- Which search is the latest is changed by nothing but what supersedes it. -/
theorem step_of_not_supersedes (session : Session α) {action : Step α}
    (h : action.supersedes = false) :
    (session.step action).selector.latestSearch = session.selector.latestSearch ∧
      (session.step action).selector.mounted = session.selector.mounted := by
  rcases (step_effect session action).view with hview | ⟨query, rfl, -⟩ | ⟨htook, -⟩ | ⟨rfl, -⟩
  · exact ⟨hview.latestSearch, hview.mounted⟩
  · cases h
  · rw [htook]
    exact ⟨Selector.foldl_take_latest _ _ .search,
      Selector.foldl_take_mounted _ _⟩
  · cases h

theorem step_of_supersedes {session : Session α} {action : Step α}
    (h : action.supersedes = true) (hmounted : session.selector.mounted = true) :
    (session.step action).selector.latestSearch = session.selector.lastRequest + 1 ∧
      (session.step action).selector.lastRequest = session.selector.lastRequest + 1 := by
  cases action with
  | input query =>
      obtain ⟨-, hselector⟩ := inputChanged_of_mounted session.abandon query hmounted
      rw [step, hselector]
      exact ⟨rfl, rfl⟩
  | unmount => exact ⟨rfl, rfl⟩
  | _ => cases h

namespace Superseded

variable {session : Session α} {id : Nat}

theorem step (h : Superseded id session) (action : Step α) :
    Superseded id (session.step action) := by
  have heffect := step_effect session action
  have hbound := h.bound
  have hlast := heffect.lastRequest
  refine ⟨?_, Nat.le_trans hbound hlast, ?_⟩
  · rcases heffect.view with hview | ⟨query, rfl, hmounted⟩ | ⟨htook, -⟩ | ⟨-, hclosed⟩
    · rw [hview.latestSearch]
      exact h.latest
    · rw [(step_of_supersedes rfl hmounted).1]
      omega
    · rw [htook]
      exact fun heq => h.latest ((Selector.foldl_take_latest _ _ .search).symm.trans heq)
    · rw [hclosed]
      show session.selector.lastRequest + 1 ≠ id
      omega
  · refine heffect.uncalled h.uncalled fun task hcall heq => ?_
    exact h.latest (hcall.latest.trans heq)

theorem along (h : Superseded id session) (steps : List (Step α)) :
    Superseded id (session.run steps) := by
  induction steps using List.reverseRecOn with
  | nil => exact h
  | append_singleton steps action ih =>
      rw [run_concat]
      exact ih.step action

end Superseded

namespace Waiting

variable {session : Session α} {id due : Nat} {query : String}

/-- A keystroke starts a search that waits. -/
theorem typed (haccounted : Accounted session) (hpaced : Paced session) (query : String)
    (hmounted : session.selector.mounted = true) :
    Waiting (session.selector.lastRequest + 1) query (session.now + session.profile.debounce)
      (session.step (.input query)) := by
  have heffect := step_effect session (.input query)
  generalize session.step (.input query) = session' at heffect ⊢
  cases heffect with
  | aside hstalls => exact absurd (hmounted.symm.trans hstalls) (by decide)
  | took _ haction => rcases haction with haction | haction <;> cases haction
  | typed _ hsame hselector =>
      refine ⟨?_, by rw [hselector], by rw [hselector]; exact hmounted, fun call hcall => ?_⟩
      · have hnone := haccounted.task?_fresh (Nat.lt_succ_self session.selector.lastRequest)
        rw [hsame.task?, task?_spawn, hnone, if_pos rfl]
        rfl
      · have hcall' : call ∈ session.calls .search := hsame.calls .search ▸ hcall
        have := hpaced.fresh haccounted call hcall'
        omega

/-- Woken when it is due, a search that waits makes its call. -/
theorem called (h : Waiting id query due session) (hdue : due ≤ session.now) :
    (id, query) ∈ (session.step (.wake id)).calls .search := by
  have hlate : ¬ session.now < due := Nat.not_lt.2 hdue
  have hwake : session.step (.wake id) = (session.log .debug "searching"
      [("request_id", toString id), ("query", query)]).callFor
        ⟨.search, id, query, .pending due⟩ := by
    simp [Session.step, wake, h.task, h.latest, hlate]
  rw [hwake, calls_callFor, if_pos rfl]
  exact List.mem_append_right _ (List.mem_singleton_self _)

theorem superseded (h : Waiting id query due session) (haccounted : Accounted session)
    {action : Step α} (haction : action.supersedes = true) :
    Superseded id (session.step action) := by
  obtain ⟨hlatest, hlast⟩ := step_of_supersedes haction h.mounted
  have hid := h.latest
  have hbound : session.selector.latestSearch ≤ session.selector.lastRequest :=
    haccounted.latest .search
  refine ⟨by omega, by omega, (step_effect session action).uncalled h.uncalled ?_⟩
  intro task hcall
  rw [hcall.woken] at haction
  cases haction

theorem step (h : Waiting id query due session) (haccounted : Accounted session)
    {action : Step α} (haction : action.supersedes = false)
    (hwake : ¬ (action = .wake id ∧ due ≤ session.now)) :
    Waiting id query due (session.step action) := by
  have heffect := step_effect session action
  obtain ⟨hlatest, hmounted⟩ := step_of_not_supersedes session haction
  refine ⟨?_, hlatest.trans h.latest, hmounted.trans h.mounted, ?_⟩
  · rcases heffect.pending_kept haccounted h.task rfl with hkept | hwoken
    · exact hkept
    · exact absurd hwoken hwake
  · refine heffect.uncalled h.uncalled fun task hcall hid => hwake ?_
    obtain ⟨due', hstage, hdue⟩ := hcall.due
    have htask := hcall.found
    have haction := hcall.woken
    rw [hid] at haction
    rw [hid, h.task] at htask
    cases htask
    cases hstage
    exact ⟨haction, hdue⟩

/-- A search that waits makes its call if and only if it is left alone until it is woken. -/
theorem along (h : Waiting id query due session) (haccounted : Accounted session)
    (steps : List (Step α)) :
    (QuietUntilWoken id (due - session.now) steps →
      (id, query) ∈ (session.run steps).calls .search) ∧
    (¬ QuietUntilWoken id (due - session.now) steps →
      ∀ call ∈ (session.run steps).calls .search, call.1 ≠ id) := by
  induction steps generalizing session with
  | nil =>
      refine ⟨?_, fun _ => h.uncalled⟩
      rintro ⟨quiet, later, hsteps, -⟩
      simp at hsteps
  | cons action later ih =>
      have hnow := (step_effect session action).now
      have hpause : due - session.now - action.duration = due - (session.step action).now := by
        omega
      rw [quietUntilWoken_cons, hpause, Nat.sub_eq_zero_iff_le]
      by_cases hwake : action = .wake id ∧ due ≤ session.now
      · obtain ⟨rfl, hdue⟩ := hwake
        have hcalled := (calls_kept (session.step (.wake id)) later).subset
          (h.called hdue)
        exact ⟨fun _ => hcalled, fun hnot => absurd (Or.inl ⟨rfl, hdue⟩) hnot⟩
      · cases haction : action.supersedes with
        | true =>
            refine ⟨?_, fun _ => ((h.superseded haccounted haction).along later).uncalled⟩
            rintro (hwoken | ⟨hfalse, -⟩)
            · exact absurd hwoken hwake
            · cases hfalse
        | false =>
            have haccounted' := haccounted.effect (step_effect session action)
            obtain ⟨hquiet, hnot⟩ := ih (h.step haccounted haction hwake) haccounted'
            refine ⟨?_, fun hno => hnot fun hlater => hno (Or.inr ⟨rfl, hlater⟩)⟩
            rintro (hwoken | ⟨-, hlater⟩)
            · exact absurd hwoken hwake
            · exact hquiet hlater

end Waiting

/-- Of calls with increasing numbers, those that can only be one call are that one or none. -/
theorem filter_calls_of_unique {calls : List (Nat × String)}
    (hincreasing : (calls.map Prod.fst).Pairwise (· < ·)) {p : Nat × String → Bool}
    {only : Nat × String} (honly : ∀ call ∈ calls, p call = true → call = only) :
    calls.filter p = [] ∨ calls.filter p = [only] := by
  have hsorted : ((calls.filter p).map Prod.fst).Pairwise (· < ·) :=
    hincreasing.sublist (List.filter_sublist.map Prod.fst)
  have hall : ∀ call ∈ calls.filter p, call = only := by
    intro call hcall
    obtain ⟨hmem, hp⟩ := List.mem_filter.1 hcall
    exact honly call hmem hp
  generalize calls.filter p = kept at hsorted hall ⊢
  rcases kept with _ | ⟨first, _ | ⟨second, rest⟩⟩
  · exact Or.inl rfl
  · exact Or.inr (by rw [hall first List.mem_cons_self])
  · have hfirst := hall first List.mem_cons_self
    have hsecond := hall second (List.mem_cons_of_mem _ List.mem_cons_self)
    rw [hfirst, hsecond] at hsorted
    exact absurd ((List.pairwise_cons.1 hsorted).1 only.1 List.mem_cons_self) (Nat.lt_irrefl _)

/-- The search of a keystroke makes its call if and only if it is left alone until it is woken. -/
theorem call_of_quiet (profile : Profile α) (before after : List (Step α)) (query : String)
    (hmounted : ((start profile).run before).selector.mounted = true) :
    let id := ((start profile).run before).selector.lastRequest + 1
    let session := (start profile).run (before ++ .input query :: after)
    (QuietUntilWoken id profile.debounce after → (id, query) ∈ session.calls .search) ∧
      (¬ QuietUntilWoken id profile.debounce after →
        ∀ call ∈ session.calls .search, call.1 ≠ id) := by
  intro id session
  have haccounted := Accounted.run profile before
  have heffect := step_effect ((start profile).run before) (.input query)
  have hwaiting := Waiting.typed haccounted (Paced.run profile before) query hmounted
  have hpause : ((start profile).run before).now +
      ((start profile).run before).profile.debounce -
        (((start profile).run before).step (.input query)).now = profile.debounce := by
    rw [heffect.now, run_profile]
    exact Nat.add_sub_cancel_left _ _
  have hrun : session = (((start profile).run before).step (.input query)).run after :=
    run_append (start profile) before (.input query :: after)
  have hcalled := hwaiting.along (haccounted.effect heffect) after
  rw [hpause, ← hrun] at hcalled
  exact hcalled

/-- A keystroke makes no call if something supersedes it within its quiet period. -/
theorem uncalled_of_early (profile : Profile α) (before gap later : List (Step α))
    (query : String) (action : Step α)
    (hmounted : ((start profile).run before).selector.mounted = true)
    (haction : action.supersedes = true) (hgap : elapsed gap < profile.debounce) :
    ∀ call ∈ ((start profile).run
        (before ++ .input query :: (gap ++ action :: later))).calls .search,
      call.1 ≠ ((start profile).run before).selector.lastRequest + 1 :=
  (call_of_quiet profile before (gap ++ action :: later) query hmounted).2
    (not_quietUntilWoken_of_early haction hgap)

/-- After some steps comes the next keystroke. -/
theorem exists_next_input (steps later : List (Step α)) (last : String) :
    ∃ action rest, Step.supersedes action = true ∧
      steps ++ .input last :: later = steps.takeWhile (!·.isInput) ++ action :: rest := by
  induction steps with
  | nil => exact ⟨.input last, later, rfl, rfl⟩
  | cons first steps ih =>
      cases hinput : first.isInput with
      | true =>
          refine ⟨first, steps ++ .input last :: later, ?_, by simp [hinput]⟩
          cases first <;> first | rfl | cases hinput
      | false =>
          obtain ⟨action, rest, haction, hsteps⟩ := ih
          exact ⟨action, rest, haction, by simp [hinput, hsteps]⟩

/-- A keystroke takes a number. -/
theorem lastRequest_of_input {session : Session α} {before : List (Step α)}
    (hmounted : (session.run before).selector.mounted = true) (query : String)
    (later : List (Step α)) :
    (session.run before).selector.lastRequest + 1 ≤
      (session.run (before ++ .input query :: later)).selector.lastRequest := by
  have hsupersedes : (Step.input query : Step α).supersedes = true := rfl
  have htyped := (step_of_supersedes hsupersedes hmounted).2
  have hlater := run_lastRequest ((session.run before).step (.input query)) later
  rw [htyped] at hlater
  rw [run_append]
  exact hlater

/-- Of the searches that are started from a burst of keystrokes on, up to that of the last one, no
other than the last can make a call. -/
theorem call_of_burst (profile : Profile α) (before burst after : List (Step α)) (last : String)
    (hrapid : rapid profile.debounce burst = true) :
    ∀ call ∈ ((start profile).run (before ++ burst ++ .input last :: after)).calls .search,
      ((start profile).run before).selector.lastRequest < call.1 →
      call.1 ≤ ((start profile).run (before ++ burst)).selector.lastRequest + 1 →
      call = (((start profile).run (before ++ burst)).selector.lastRequest + 1, last) := by
  intro call hcall hfirst hlast
  have hasked := asked_of_call profile hcall
  obtain ⟨earlier, later, hsteps, hmounted, hid⟩ := exists_input_of_asked hasked
  -- The keystroke of the call is the last one of the burst, or an earlier one, or none of it.
  have hwithin : ∀ xs ys, burst = xs ++ .input call.2 :: ys → earlier = before ++ xs → False := by
    rintro xs ys rfl rfl
    obtain ⟨action, rest, haction, hnext⟩ := exists_next_input ys after last
    have huncalled := uncalled_of_early profile (before ++ xs) _ rest call.2 action hmounted haction
      (rapid_append hrapid)
    rw [← hnext] at huncalled
    refine huncalled call ?_ hid.symm
    simpa using hcall
  have hend : earlier = before ++ burst → call.2 = last → call =
      (((start profile).run (before ++ burst)).selector.lastRequest + 1, last) := by
    rintro rfl rfl
    exact Prod.ext hid.symm rfl
  rcases List.append_eq_append_iff.1 hsteps with ⟨more, hmore, hrest⟩ | ⟨more, hmore, hrest⟩
  · cases more with
    | nil =>
        rw [List.append_nil] at hmore
        obtain ⟨hinput, -⟩ := List.cons.inj hrest
        exact hend hmore (Step.input.inj hinput).symm
    | cons first more =>
        obtain ⟨rfl, -⟩ := List.cons.inj hrest
        rw [hmore] at hmounted hid
        have hopen := mounted_before (before ++ burst) (.input last :: more) hmounted
        have := lastRequest_of_input hopen last more
        omega
  · cases more with
    | nil =>
        rw [List.append_nil] at hmore
        obtain ⟨hinput, -⟩ := List.cons.inj hrest
        exact hend hmore.symm (Step.input.inj hinput)
    | cons first more =>
        obtain ⟨rfl, -⟩ := List.cons.inj hrest
        rcases List.append_eq_append_iff.1 hmore with ⟨xs, rfl, hxs⟩ | ⟨ys, rfl, hys⟩
        · exact (hwithin xs more hxs rfl).elim
        · cases ys with
          | nil => exact (hwithin [] more hys.symm (by simp)).elim
          | cons first ys =>
              obtain ⟨rfl, -⟩ := List.cons.inj hys
              have := lastRequest_of_input hmounted call.2 ys
              omega

/-- In every run a keystroke makes exactly one call, with its text, if its search is left alone
until it is woken after the quiet period, and otherwise it makes none and yields nothing. A call is
made for the latest search, with the text asked for it, the numbers of the calls increase, and a
burst of keystrokes makes at most one call, with the last text. -/
theorem debounce_law (profile : Profile α) :
    (∀ before query after, ((start profile).run before).selector.mounted = true →
      let id := ((start profile).run before).selector.lastRequest + 1
      let steps := before ++ .input query :: after
      let made := (((start profile).run steps).calls .search).filter (·.1 == id)
      (made = [(id, query)] ↔ QuietUntilWoken id profile.debounce after) ∧
      (¬ QuietUntilWoken id profile.debounce after →
        made = [] ∧ (start profile).yields id steps = [])) ∧
    (∀ steps action,
      let session := (start profile).run steps
      (session.step action).calls .search = session.calls .search ∨
      ∃ query, (start profile).asked session.selector.latestSearch steps = some (.search, query) ∧
        (session.step action).calls .search =
          session.calls .search ++ [(session.selector.latestSearch, query)]) ∧
    (∀ steps, ((((start profile).run steps).calls .search).map Prod.fst).Pairwise (· < ·)) ∧
    (∀ before burst last after, rapid profile.debounce burst = true →
      let first := ((start profile).run before).selector.lastRequest + 1
      let id := ((start profile).run (before ++ burst)).selector.lastRequest + 1
      let session := (start profile).run (before ++ burst ++ .input last :: after)
      let made := (session.calls .search).filter fun call => first ≤ call.1 && call.1 ≤ id
      made = [] ∨ made = [(id, last)]) := by
  refine ⟨?_, ?_, fun steps => (Paced.run profile steps).increasing, ?_⟩
  · intro before query after hmounted id steps made
    obtain ⟨hquiet, hnot⟩ := call_of_quiet profile before after query hmounted
    have hnone : ¬ QuietUntilWoken id profile.debounce after → made = [] := by
      intro hno
      refine List.filter_eq_nil_iff.2 fun call hcall => ?_
      simpa using hnot hno call hcall
    refine ⟨⟨fun hmade => ?_, fun hwoken => ?_⟩, fun hno => ⟨hnone hno, ?_⟩⟩
    · by_contra hno
      rw [hnone hno] at hmade
      cases hmade
    · have hcall := hquiet hwoken
      have honly : ∀ call ∈ ((start profile).run steps).calls .search,
          (call.1 == id) = true → call = (id, query) := by
        intro call hmem hid
        have hasked := asked_of_call profile hmem
        rw [beq_iff_eq.1 hid, asked_of_call profile hcall] at hasked
        cases hasked
        exact Prod.ext (beq_iff_eq.1 hid) rfl
      rcases filter_calls_of_unique (Paced.run profile steps).increasing honly with hnil | hone
      · have himpossible := List.filter_eq_nil_iff.1 hnil (id, query) hcall
        simp at himpossible
      · exact hone
    · refine List.eq_nil_iff_forall_not_mem.2 fun outcome hmem => ?_
      obtain ⟨text, hasked, hcalled⟩ := called_of_yields profile id hmem
      rw [asked_input profile before after query hmounted] at hasked
      simp only [Option.some.injEq, Prod.mk.injEq] at hasked
      exact hnot hno (id, text) (hcalled hasked.1.symm) rfl
  · intro steps action session
    rcases (step_effect session action).search_call with hsame | ⟨task, hcall⟩
    · exact Or.inl hsame
    · obtain ⟨hasked, -⟩ := (Traced.run profile task.id steps).task task hcall.found
      rw [hcall.kind] at hasked
      rw [hcall.latest]
      exact Or.inr ⟨task.query, hasked, hcall.calls⟩
  · intro before burst last after hrapid first id session made
    refine filter_calls_of_unique (Paced.run profile _).increasing fun call hcall hrange => ?_
    simp only [Bool.and_eq_true, decide_eq_true_eq] at hrange
    exact call_of_burst profile before burst after last hrapid call hcall hrange.1 hrange.2

/-- Two keystrokes in quick succession, before a third. -/
def typingBurst : List (Step SelectOption) :=
  [.input "a", .wait 100, .input "ab", .wait 399]

/-- The three searches are woken, the first two of them in vain. -/
def typingRest : List (Step SelectOption) :=
  [.wait 1, .wake 1, .wait 399, .wake 2, .wake 3]

theorem last_of_burst_calls :
    let session := (start sampleProfile).run (typingBurst ++ .input "abc" :: typingRest)
    ((start sampleProfile).run typingBurst).selector.mounted = true ∧
      QuietUntilWoken 3 sampleProfile.debounce typingRest ∧
      (session.calls .search).filter (·.1 == 3) = [(3, "abc")] ∧
      rapid sampleProfile.debounce typingBurst = true ∧
      ((session.calls .search).filter (fun call => 1 ≤ call.1 && call.1 ≤ 3) = [] ∨
        (session.calls .search).filter (fun call => 1 ≤ call.1 && call.1 ≤ 3) = [(3, "abc")]) ∧
      session.calls .search = [(3, "abc")] := by
  have hmounted : ((start sampleProfile).run typingBurst).selector.mounted = true := by decide
  have hwoken : QuietUntilWoken 3 sampleProfile.debounce typingRest :=
    ⟨[.wait 1, .wake 1, .wait 399, .wake 2], [], rfl, by decide, by decide⟩
  have hrapid : rapid sampleProfile.debounce typingBurst = true := by decide
  obtain ⟨hquiet, -, -, hburst⟩ := debounce_law sampleProfile
  exact ⟨hmounted, hwoken, (hquiet typingBurst "abc" typingRest hmounted).1.2 hwoken, hrapid,
    hburst [] typingBurst "abc" typingRest hrapid, by decide⟩

end Session

end IssueDesk
