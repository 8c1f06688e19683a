import IssueDesk.Proofs.SelectorSelection

/-! When the backend is called for a selection. Setting a selection starts a lookup if the options at
hand do not have all of it, and the selector remembers for which selection that was: as long as no
other selection is set, nothing makes it look up the same one again. A lookup makes its one call when
its task runs (`Unrun`, `Called`); it cannot be superseded before that, not even by an unmount. A host
that resolves its selection makes one call of its own. -/

namespace IssueDesk

namespace Event

/-- A call of the backend, with its caller and its text. -/
def backendCall? : Event → Option (Caller × String)
  | .called caller query => some (caller, query)
  | _ => none

end Event

namespace Session

/-- All calls of the backend, in order. -/
def backendCalls (session : Session α) : List (Caller × String) :=
  session.journal.filterMap Event.backendCall?

/-- The calls that a lookup has made, with their texts. -/
def lookupCalls (session : Session α) (id : Nat) : List (Nat × String) :=
  (session.calls .lookup).filter (·.1 == id)

/-- A step starts a lookup: a task for it is there after the step, and no task with its id was there
before. -/
def StartsLookupAs (session : Session α) (action : Step α) (id : Nat) : Prop :=
  (∃ task ∈ (session.step action).tasks, task.kind = .lookup ∧ task.id = id) ∧
    ∀ task ∈ session.tasks, task.id ≠ id

/-- Some value of a selection has no option at hand. -/
theorem atHand_isNone {session : Session α} {selection : Selection} :
    (session.atHand selection).isNone = true ↔
      ∃ value ∈ (selection.fit session.profile.multi).values,
        session.selector.known? value = none := by
  unfold atHand
  generalize (selection.fit session.profile.multi).values = values
  induction values with
  | nil => simp
  | cons value rest ih =>
      rw [List.mapM_cons]
      cases hvalue : session.selector.known? value with
      | none => simp [hvalue]
      | some option =>
          cases hrest : rest.mapM session.selector.known? with
          | none => simpa [hvalue, hrest] using ih
          | some labels => simpa [hvalue, hrest] using ih

theorem startsLookup_iff {session : Session α} {selection : Selection} :
    session.startsLookup selection = true ↔ session.seesTo selection = true ∧
      ∃ value ∈ (selection.fit session.profile.multi).values,
        session.selector.known? value = none := by
  rw [startsLookup, Bool.and_eq_true, atHand_isNone]

/-- The task of a lookup that has just been started. -/
theorem task?_of_startsLookup {session : Session α} (h : Accounted session)
    {selection : Selection} (hstarts : session.startsLookup selection = true) :
    (session.step (.value selection)).task? (session.selector.lastRequest + 1) =
      some ⟨.lookup, session.selector.lastRequest + 1, "", .pending session.now⟩ := by
  obtain ⟨hsame, -⟩ := setValue_of_startsLookup session.abandon selection hstarts
  have htask := ((SameRequests.abandon session).spawn _).trans hsame
  refine (htask.task? _).trans ?_
  rw [task?_spawn, h.task?_fresh (Nat.lt_succ_self _), Option.none_or]
  exact if_pos rfl

/-- Lookups are started by setting selections, under the next id. -/
theorem startsLookupAs_iff (profile : Profile α) (steps : List (Step α)) (action : Step α)
    (id : Nat) :
    ((start profile).run steps).StartsLookupAs action id ↔
      id = ((start profile).run steps).selector.lastRequest + 1 ∧
        ∃ selection, action = .value selection ∧
          ((start profile).run steps).startsLookup selection = true := by
  have haccounted := Accounted.run profile steps
  have heffect := step_effect ((start profile).run steps) action
  constructor
  · rintro ⟨⟨task, hmem, hkind, rfl⟩, hfresh⟩
    have hnodup := tasks_nodup (haccounted.effect heffect).nodup
    have hold : ∀ old, ((start profile).run steps).task? task.id ≠ some old := by
      intro old hfound
      obtain ⟨hmem', hid⟩ := mem_of_task? hfound
      exact hfresh old hmem' hid
    have hfound := task?_of_mem hnodup hmem
    rcases heffect.task_from haccounted hfound with hsame | ⟨hnew, -⟩ | ⟨old, hfound', -⟩
    · exact absurd hsame (hold task)
    · refine ⟨hnew, ?_⟩
      -- What the task was asked for is the only thing that tells which step has started it.
      have hasked := ((Traced.run profile task.id (steps ++ [action])).task task
        (by rw [run_concat]; exact hfound)).1
      obtain ⟨hnone, -⟩ := (Traced.run profile task.id steps).fresh (by omega)
      rw [asked_concat, hnone, Option.none_or, hkind] at hasked
      cases action with
      | value selection =>
          refine ⟨selection, rfl, ?_⟩
          by_contra hidle
          rw [starts, Bool.eq_false_iff.2 hidle] at hasked
          cases hasked
      | input query =>
          rw [starts] at hasked
          split at hasked <;> cases hasked
      | _ => cases hasked
    · exact absurd hfound' (hold old)
  · rintro ⟨rfl, selection, rfl, hstarts⟩
    obtain ⟨hmem, hid⟩ := mem_of_task? (task?_of_startsLookup haccounted hstarts)
    refine ⟨⟨_, hmem, rfl, rfl⟩, fun task hmem' hsame => ?_⟩
    have hfresh := haccounted.task?_fresh (Nat.lt_succ_self _)
    have hfound := task?_of_mem (tasks_nodup haccounted.nodup) hmem'
    rw [hsame, hfresh] at hfound
    cases hfound

/-- A lookup that is started is remembered. -/
theorem labelsFor_of_startsLookup {session : Session α} {selection : Selection}
    (h : session.startsLookup selection = true) :
    (session.step (.value selection)).selector.labelsFor =
      some (selection.fit session.profile.multi) := by
  obtain ⟨-, hselector⟩ := setValue_of_startsLookup session.abandon selection h
  rw [step, hselector]
  rfl

/-- Between two lookups for one selection another one has been set. -/
theorem exists_other_between (profile : Profile α) {before between : List (Step α)}
    {first second : Selection}
    (hfirst : ((start profile).run before).startsLookup first = true)
    (hsecond : ((start profile).run (before ++ .value first :: between)).startsLookup second = true)
    (hsame : second.fit profile.multi = first.fit profile.multi) :
    ∃ other, .value other ∈ between ∧ (other.fit profile.multi).isEmpty = false ∧
      other.fit profile.multi ≠ first.fit profile.multi := by
  by_contra hnone
  have hmulti : ∀ steps, ((start profile).run steps).profile.multi = profile.multi :=
    fun steps => by rw [run_profile]; rfl
  have hlabels := labelsFor_of_startsLookup hfirst
  rw [hmulti] at hlabels
  have hidle : ∀ other, .value other ∈ between →
      (other.fit (((start profile).run before).step (.value first)).profile.multi).isEmpty = true ∨
        other.fit (((start profile).run before).step (.value first)).profile.multi =
          first.fit profile.multi := by
    intro other hmem
    rw [← run_concat, hmulti]
    by_contra hother
    simp only [not_or, Bool.not_eq_true] at hother
    exact hnone ⟨other, hmem, hother⟩
  have hkept := ((Remembers.run profile before).step (.value first)).run_kept hlabels hidle
  rw [startsLookup_iff, seesTo_iff, hmulti, hsame] at hsecond
  apply hsecond.1.2.2
  rw [run_append]
  exact hkept

/-! The call of a lookup. -/

theorem Effect.lookup_call {session session' : Session α} {action : Step α}
    (h : Effect session action session') : session'.calls .lookup = session.calls .lookup ∨
      ∃ task due, action = .wake task.id ∧ session.task? task.id = some task ∧
        task.stage = .pending due ∧ task.kind = .lookup ∧
        session'.task? task.id = some { task with stage := .awaiting } ∧
        session'.calls .lookup = session.calls .lookup ++ [(task.id, task.query)] := by
  cases h with
  | aside hstalls hsame hselector hlabels => exact Or.inl (hsame.calls .lookup)
  | took hrest haction hsame hselector =>
      exact Or.inl ((hsame.calls .lookup).trans ((takeOut_keeps _ _).2.2 .lookup))
  | typed hmounted hsame hselector => exact Or.inl (hsame.calls .lookup)
  | asked hstarts hsame hselector => exact Or.inl (hsame.calls .lookup)
  | unmounted hsame hselector => exact Or.inl (hsame.calls .lookup)
  | @called id task due _ htask hstage hdue hlatest hsame hselector =>
      obtain ⟨-, rfl⟩ := mem_of_task? htask
      have hcalls := (hsame.calls .lookup).trans (calls_callFor session task .lookup)
      cases hkind : task.kind with
      | search => exact Or.inl (by simpa [hkind] using hcalls)
      | lookup =>
          rw [if_pos hkind] at hcalls
          have hmove := task?_move
            (session.emit (.called (.request task.kind task.id) task.query)) task .awaiting task.id
          rw [if_pos rfl] at hmove
          exact Or.inr ⟨task, due, rfl, htask, hstage, hkind, (hsame.task? task.id).trans hmove,
            hcalls⟩
  | _ => exact Or.inl rfl

/-- A lookup has been started, and its task has not run yet. -/
structure Unrun (id : Nat) (session : Session α) : Prop where
  task : ∃ due, session.task? id = some ⟨.lookup, id, "", .pending due⟩ ∧ due ≤ session.now
  uncalled : session.lookupCalls id = []

/-- The task of a lookup has run and made its call. -/
structure Called (id : Nat) (session : Session α) : Prop where
  issued : id ≤ session.selector.lastRequest
  past : ∀ task due, session.task? id = some task → task.stage ≠ .pending due
  called : session.lookupCalls id = [(id, "")]

theorem lookupCalls_of_eq {session session' : Session α} (id : Nat)
    (h : session'.calls .lookup = session.calls .lookup) :
    session'.lookupCalls id = session.lookupCalls id := by
  rw [lookupCalls, h, lookupCalls]

theorem lookupCalls_concat {session session' : Session α} (id : Nat) {call : Nat × String}
    (h : session'.calls .lookup = session.calls .lookup ++ [call]) :
    session'.lookupCalls id = session.lookupCalls id ++ if call.1 = id then [call] else [] := by
  rw [lookupCalls, h, List.filter_append, lookupCalls]
  simp only [List.filter_cons, List.filter_nil, beq_iff_eq]

/-- No call has been made under an id that has not been issued. -/
theorem lookupCalls_fresh (profile : Profile α) (steps : List (Step α)) {id : Nat}
    (hid : ((start profile).run steps).selector.lastRequest < id) :
    ((start profile).run steps).lookupCalls id = [] := by
  induction steps using List.reverseRecOn with
  | nil => rfl
  | append_singleton steps action ih =>
      rw [run_concat] at hid ⊢
      have heffect := step_effect ((start profile).run steps) action
      have hbefore := ih (Nat.lt_of_le_of_lt heffect.lastRequest hid)
      rcases heffect.lookup_call with hsame | ⟨task, due, -, htask, -, -, -, hcalls⟩
      · rw [lookupCalls_of_eq id hsame, hbefore]
      · have hfresh := mt (Accounted.run profile steps).task?_fresh
          (by rw [htask]; exact Option.some_ne_none task)
        have hne : task.id ≠ id := by
          have := heffect.lastRequest
          omega
        rw [lookupCalls_concat id hcalls, hbefore, if_neg hne]
        rfl

theorem Unrun.of_startsLookup (profile : Profile α) {before : List (Step α)} {selection : Selection}
    (h : ((start profile).run before).startsLookup selection = true) :
    Unrun (((start profile).run before).selector.lastRequest + 1)
      (((start profile).run before).step (.value selection)) := by
  have heffect := step_effect ((start profile).run before) (.value selection)
  refine ⟨⟨_, task?_of_startsLookup (Accounted.run profile before) h, ?_⟩, ?_⟩
  · rw [heffect.now]
    exact Nat.le_add_right _ _
  · rcases heffect.lookup_call with hsame | ⟨task, due, hwake, -⟩
    · rw [lookupCalls_of_eq _ hsame]
      exact lookupCalls_fresh profile before (Nat.lt_succ_self _)
    · cases hwake

/-- A lookup waits for its task to run, and makes its call when it does. -/
theorem Unrun.step {session : Session α} {id : Nat} (h : Unrun id session)
    (haccounted : Accounted session) (action : Step α) :
    (action ≠ .wake id ∧ Unrun id (session.step action)) ∨
      action = .wake id ∧ Called id (session.step action) := by
  obtain ⟨due, htask, hdue⟩ := h.task
  have heffect := step_effect session action
  by_cases hwake : action = .wake id
  · subst hwake
    refine Or.inr ⟨rfl, ?_⟩
    have hissued : id ≤ session.selector.lastRequest := by
      by_contra hfresh
      rw [haccounted.task?_fresh (by omega)] at htask
      cases htask
    rcases heffect.lookup_call with hsame | ⟨task, due', hwoken, hfound, -, -, hmoved, hcalls⟩
    · exfalso
      generalize session.step (.wake id) = session' at heffect hsame
      cases heffect with
      | aside hstalls => exact absurd hdue (Nat.not_le_of_lt (hstalls _ due htask rfl))
      | took _ haction => rcases haction with haction | haction <;> cases haction
      | called hfound hstage hdue' hlatest hcalled =>
          rw [htask] at hfound
          cases hfound
          have hcalls := (hcalled.calls .lookup).trans (calls_callFor session _ .lookup)
          rw [hsame, if_pos rfl] at hcalls
          simp at hcalls
      | superseded hfound _ _ hkind =>
          rw [htask] at hfound
          cases hfound
          cases hkind
    · cases hwoken
      rw [htask] at hfound
      have hquery : "" = task.query := congrArg Task.query (Option.some.inj hfound)
      refine ⟨Nat.le_trans hissued heffect.lastRequest, fun other due'' hother => ?_, ?_⟩
      · rw [hmoved] at hother
        cases hother
        exact nofun
      · rw [lookupCalls_concat _ hcalls, h.uncalled, if_pos rfl, ← hquery]
        rfl
  · refine Or.inl ⟨hwake, ⟨due, ?_, ?_⟩, ?_⟩
    · rcases heffect.pending_kept haccounted htask rfl with hkept | ⟨hwoken, -⟩
      · exact hkept
      · exact absurd hwoken hwake
    · rw [heffect.now]
      omega
    · rcases heffect.lookup_call with hsame | ⟨task, due', hwoken, -, -, -, -, hcalls⟩
      · rw [lookupCalls_of_eq id hsame, h.uncalled]
      · have hne : task.id ≠ id := by
          rintro rfl
          exact hwake hwoken
        rw [lookupCalls_concat id hcalls, h.uncalled, if_neg hne]
        rfl

/-- A lookup that has made its call makes no other. -/
theorem Called.step {session : Session α} {id : Nat} (h : Called id session)
    (haccounted : Accounted session) (action : Step α) : Called id (session.step action) := by
  have heffect := step_effect session action
  refine ⟨Nat.le_trans h.issued heffect.lastRequest, fun task due htask hstage => ?_, ?_⟩
  · rcases heffect.pending_from haccounted htask hstage with hold | hnew
    · exact h.past task due hold hstage
    · have := h.issued
      omega
  · rcases heffect.lookup_call with hsame | ⟨task, due, -, hfound, hstage, -, -, hcalls⟩
    · rw [lookupCalls_of_eq id hsame, h.called]
    · have hne : task.id ≠ id := by
        rintro rfl
        exact h.past task due hfound hstage
      rw [lookupCalls_concat id hcalls, h.called, if_neg hne]
      rfl

theorem Unrun.along {session : Session α} {id : Nat} (h : Unrun id session)
    (haccounted : Accounted session) (later : List (Step α)) :
    (.wake id ∉ later ∧ Unrun id (session.run later)) ∨
      .wake id ∈ later ∧ Called id (session.run later) := by
  induction later using List.reverseRecOn with
  | nil => exact Or.inl ⟨List.not_mem_nil, h⟩
  | append_singleton later action ih =>
      rw [run_concat]
      rcases ih with ⟨hbefore, hunrun⟩ | ⟨hbefore, hcalled⟩
      · rcases hunrun.step (haccounted.along later) action with ⟨hother, hkept⟩ | ⟨hwoken, hcalled⟩
        · refine Or.inl ⟨fun hmem => ?_, hkept⟩
          rcases List.mem_append.1 hmem with hmem | hmem
          · exact hbefore hmem
          · exact hother (List.mem_singleton.1 hmem).symm
        · exact Or.inr ⟨List.mem_append_right _ (List.mem_singleton.2 hwoken.symm), hcalled⟩
      · exact Or.inr ⟨List.mem_append_left _ hbefore, hcalled.step (haccounted.along later) action⟩

/-! The calls that the host makes to resolve its selection. -/

theorem backendCalls_emit (session : Session α) (event : Event) :
    (session.emit event).backendCalls =
      session.backendCalls ++ event.backendCall?.toList := by
  unfold backendCalls emit
  rw [List.filterMap_append]
  cases hcall : event.backendCall? <;> simp [hcall]

theorem backendCalls_reportError (session : Session α) (hasError : Bool) :
    (session.reportError hasError).backendCalls = session.backendCalls := by
  unfold reportError
  split
  · rfl
  · exact (backendCalls_emit _ _).trans (List.append_nil _)

theorem backendCalls_settle (session : Session α) (query : String) (answer : Answer) :
    (session.settle query answer).1.backendCalls = session.backendCalls := by
  cases answer with
  | ok options => rfl
  | error error =>
      have hlog : (session.log (errorLevel error) error.message [("query", query)]).backendCalls =
          session.backendCalls := (backendCalls_emit _ _).trans (List.append_nil _)
      simp only [settle]
      split
      · rw [backendCalls_reportError, hlog]
      · exact hlog

theorem backendCalls_resolve (session : Session α) :
    (session.step .resolve).backendCalls = session.backendCalls ++
      if session.selector.selection.isEmpty then [] else [(.host, "")] := by
  show session.abandon.beginResolve.backendCalls = _
  unfold beginResolve
  cases hempty : session.selector.selection.isEmpty with
  | true =>
      rw [if_pos (show session.abandon.selector.selection.isEmpty = true from hempty)]
      exact (List.append_nil _).symm
  | false =>
      rw [if_neg (by simp [abandon, hempty])]
      have hcalled := backendCalls_emit (session.abandon.reportError false) (.called .host "")
      rw [backendCalls_reportError] at hcalled
      exact hcalled

theorem backendCalls_finish (session : Session α)
    (response : Except CallFailure (Envelope α)) :
    (session.step (.finish response)).backendCalls = session.backendCalls := by
  show (session.finishDirect response).1.backendCalls = _
  unfold finishDirect
  cases hdirect : session.direct with
  | none => rfl
  | some direct =>
      have hsettle := backendCalls_settle { session with direct := none } direct.query
        (session.profile.source.fetch direct.query response)
      dsimp only
      split <;> exact hsettle

/-- In every run a lookup is started only by setting a selection, while the selector is mounted, and
only if the selection is not empty and has a value without an option at hand. Between two lookups for
one selection another selection has been set, and it was not empty. A lookup calls the backend once,
without a text, when its task runs, and not before; and a host that resolves its selection calls it
once if the selection is not empty, and else not at all. -/
theorem lookups_are_not_repeated (profile : Profile α) :
    (∀ steps action id, ((start profile).run steps).StartsLookupAs action id →
      ∃ selection, action = .value selection ∧
        ((start profile).run steps).selector.mounted = true ∧
        (selection.fit profile.multi).isEmpty = false ∧
        ∃ value ∈ (selection.fit profile.multi).values,
          ((start profile).run steps).selector.known? value = none) ∧
    (∀ before between first second id again,
      ((start profile).run before).StartsLookupAs (.value first) id →
      ((start profile).run (before ++ .value first :: between)).StartsLookupAs
        (.value second) again →
      second.fit profile.multi = first.fit profile.multi →
      ∃ other, .value other ∈ between ∧ (other.fit profile.multi).isEmpty = false ∧
        other.fit profile.multi ≠ first.fit profile.multi) ∧
    (∀ before action later id, ((start profile).run before).StartsLookupAs action id →
      (.wake id ∈ later →
        ((start profile).run (before ++ action :: later)).lookupCalls id = [(id, "")]) ∧
      (.wake id ∉ later →
        ((start profile).run (before ++ action :: later)).lookupCalls id = [])) ∧
    ∀ (session : Session α) (response : Except CallFailure (Envelope α)),
      (session.step .resolve).backendCalls = session.backendCalls ++
        (if session.selector.selection.isEmpty then [] else [(.host, "")]) ∧
      (session.step (.finish response)).backendCalls = session.backendCalls := by
  refine ⟨?_, ?_, ?_, fun session response =>
    ⟨backendCalls_resolve session, backendCalls_finish session response⟩⟩
  · intro steps action id hstarts
    obtain ⟨-, selection, rfl, hlookup⟩ := (startsLookupAs_iff profile steps action id).1 hstarts
    rw [startsLookup_iff, seesTo_iff, run_profile] at hlookup
    obtain ⟨⟨hmounted, hsome, -⟩, hunknown⟩ := hlookup
    exact ⟨selection, rfl, hmounted, hsome, hunknown⟩
  · intro before between first second id again hfirst hsecond hsame
    obtain ⟨-, _, ⟨⟩, hfirst⟩ := (startsLookupAs_iff profile before _ id).1 hfirst
    obtain ⟨-, _, ⟨⟩, hsecond⟩ := (startsLookupAs_iff profile _ _ again).1 hsecond
    exact exists_other_between profile hfirst hsecond hsame
  · intro before action later id hstarts
    obtain ⟨rfl, selection, rfl, hlookup⟩ := (startsLookupAs_iff profile before action id).1 hstarts
    have haccounted := (Accounted.run profile before).effect (step_effect _ (.value selection))
    have hrun : (start profile).run (before ++ .value selection :: later) =
        (((start profile).run before).step (.value selection)).run later :=
      run_append (start profile) before (.value selection :: later)
    rw [hrun]
    rcases (Unrun.of_startsLookup profile hlookup).along haccounted later with
      ⟨hnot, hunrun⟩ | ⟨hwoken, hcalled⟩
    · exact ⟨fun hmem => absurd hmem hnot, fun _ => hunrun.uncalled⟩
    · exact ⟨fun _ => hcalled.called, fun hmem => absurd hwoken hmem⟩

/-- The lookup of a selection fails; the selection is set again, written in another way, then
cleared, and then the host goes over to another one. -/
def otherSelections : List (Step SelectOption) :=
  [.wake 1, .answer 1 (.error ⟨["timed out"]⟩), .poll, .value (.multi ["x"]), .value .none,
    .value (.single "y")]

theorem lookups_of_alternating_selections :
    let before := (start sampleProfile).run []
    let between := (start sampleProfile).run ([] ++ .value (.single "x") :: otherSelections)
    let after := (start sampleProfile).run
      (([] ++ .value (.single "x") :: otherSelections) ++ .value (.multi ["x", "z"]) :: [.wake 3])
    before.StartsLookupAs (.value (.single "x")) 1 ∧
      between.StartsLookupAs (.value (.multi ["x", "z"])) 3 ∧
      (∃ value ∈ ["x"], between.selector.known? value = none) ∧
      (∃ other, .value other ∈ otherSelections ∧
        (other.fit sampleProfile.multi).isEmpty = false ∧
        other.fit sampleProfile.multi ≠ .single "x") ∧
      between.lookupCalls 1 = [(1, "")] ∧ between.lookupCalls 3 = [] ∧
      after.lookupCalls 3 = [(3, "")] := by
  intro before between after
  obtain ⟨honly, hother, hcalls, -⟩ := lookups_are_not_repeated sampleProfile
  have hfirst : before.StartsLookupAs (.value (.single "x")) 1 :=
    (startsLookupAs_iff sampleProfile _ _ _).2 ⟨by decide, _, rfl, by decide⟩
  have hsecond : between.StartsLookupAs (.value (.multi ["x", "z"])) 3 :=
    (startsLookupAs_iff sampleProfile _ _ _).2 ⟨by decide, _, rfl, by decide⟩
  obtain ⟨_, ⟨⟩, -, -, hunknown⟩ := honly _ _ _ hsecond
  exact ⟨hfirst, hsecond, hunknown, hother _ _ _ _ _ _ hfirst hsecond rfl,
    (hcalls _ _ otherSelections _ hfirst).1 (by simp [otherSelections]), by decide,
    (hcalls _ _ [.wake 3] _ hsecond).1 (by simp)⟩

end Session

end IssueDesk
