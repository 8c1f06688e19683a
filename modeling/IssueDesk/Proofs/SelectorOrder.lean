import IssueDesk.Proofs.SelectorDelivery
import IssueDesk.Proofs.SelectorErrors

/-! The order in which results are taken. Of outcomes of different requests at most one of each kind
counts. The one writes the options and the other the labels; either may raise the error state, and it
does not matter which of them does (`take_comm`). All other outcomes change nothing. So outcomes that
stand in the channel together come to the same, in whatever order they have come into it. -/

namespace IssueDesk

namespace Selector

/-- Outcomes of two requests may be taken in either order. -/
theorem take_comm (selector : Selector) {first second : Outcome} (h : first.id ≠ second.id) :
    (selector.take first).take second = (selector.take second).take first := by
  cases hfirst : selector.accepts first with
  | false =>
      have hlater : (selector.take second).accepts first = false := by
        rw [take_accepts, hfirst]
      rw [take_of_not_accepts hfirst, take_of_not_accepts hlater]
  | true =>
      cases hsecond : selector.accepts second with
      | false =>
          have hlater : (selector.take first).accepts second = false := by
            rw [take_accepts, hsecond]
          rw [take_of_not_accepts hsecond, take_of_not_accepts hlater]
      | true =>
          -- Both count, so they are of different kinds: each kind has one latest request.
          have hkinds : first.kind ≠ second.kind := by
            intro hkind
            simp only [accepts, Bool.and_eq_true, beq_iff_eq] at hfirst hsecond
            exact h (hfirst.2.trans (hkind ▸ hsecond.2.symm))
          have hfirst' : (selector.take second).accepts first = true := by
            rw [take_accepts, hfirst]
          have hsecond' : (selector.take first).accepts second = true := by
            rw [take_accepts, hsecond]
          rw [take, if_pos hsecond', take, if_pos hfirst, take, if_pos hfirst', take,
            if_pos hsecond]
          cases hkind : first.kind <;> cases hkind' : second.kind
          · exact absurd (hkind.trans hkind'.symm) hkinds
          · simp [Bool.or_right_comm]
          · simp [Bool.or_right_comm]
          · exact absurd (hkind.trans hkind'.symm) hkinds

theorem foldl_take_perm {outcomes order : List Outcome}
    (hnodup : (outcomes.map Outcome.id).Nodup) (hperm : outcomes.Perm order)
    (selector : Selector) : outcomes.foldl take selector = order.foldl take selector := by
  apply hperm.foldl_eq'
  intro first hfirst second hsecond current
  by_cases hid : first.id = second.id
  · have hsame : first = second := List.inj_on_of_nodup_map hnodup hfirst hsecond hid
    rw [hsame]
  · exact current.take_comm hid

theorem alarmed_perm {outcomes order : List Outcome} (hperm : outcomes.Perm order)
    (selector : Selector) : selector.alarmed outcomes = selector.alarmed order :=
  hperm.any_eq

end Selector

namespace Session

/-- Outcomes change something if one of them counts. -/
theorem applyAll_snd (session : Session α) (outcomes : List Outcome) :
    (session.applyAll outcomes).2 = outcomes.any session.selector.accepts := by
  induction outcomes generalizing session with
  | nil => rfl
  | cons outcome rest ih =>
      have hkind : (session.apply outcome).2.isSome = session.selector.accepts outcome := by
        rw [apply_snd]
        cases session.selector.accepts outcome <;> rfl
      have hlater : rest.any (session.apply outcome).1.selector.accepts =
          rest.any session.selector.accepts := by
        rw [apply_selector]
        exact congrArg rest.any (funext fun other => Selector.take_accepts _ _ _)
      show ((session.apply outcome).2.isSome || ((session.apply outcome).1.applyAll rest).2) = _
      rw [ih, hkind, hlater, List.any_cons]

theorem receiveAll_selector (session : Session α) :
    (session.receiveAll session.channel).selector = session.selector := by
  rw [receiveAll_eq_takeOut, takeOut_selector]

theorem poll_snd (session : Session α) :
    session.poll.2 = session.channel.any session.selector.accepts := by
  rw [poll, applyAll_snd, receiveAll_selector]

theorem errorChannel_poll (session : Session α) :
    session.poll.1.errorChannel =
      if session.selector.alarmed session.channel then session.errorChannel.report true
      else session.errorChannel := by
  rw [poll, errorChannel_applyAll, receiveAll_selector, errorChannel_receiveAll]

/-- Outcomes of different requests come to the same in every order: to the same selector, to the same
reports of the error state, and to the same answer whether something has changed. So it is with
outcomes that are applied one by one and with those that a poll finds in the channel. Whatever the
order, an outcome that is the latest of its kind is shown, and the answer tells whether there is
one. -/
theorem results_commute (session : Session α) {outcomes order : List Outcome}
    (hmounted : session.selector.mounted = true) (hnodup : (outcomes.map Outcome.id).Nodup)
    (hperm : outcomes.Perm order) :
    let queued := fun channel => ({ session with channel } : Session α)
    ((session.applyAll order).1.selector = (session.applyAll outcomes).1.selector ∧
      (session.applyAll order).1.errorChannel = (session.applyAll outcomes).1.errorChannel ∧
      (session.applyAll order).2 = (session.applyAll outcomes).2) ∧
    ((queued order).poll.1.selector = (queued outcomes).poll.1.selector ∧
      (queued order).poll.1.errorChannel = (queued outcomes).poll.1.errorChannel ∧
      (queued order).poll.2 = (queued outcomes).poll.2) ∧
    (∀ outcome ∈ outcomes, outcome.id = session.selector.latest outcome.kind →
      (queued order).poll.1.selector.shown outcome.kind = outcome.answer.settled) ∧
    ((queued order).poll.2 = true ↔
      ∃ outcome ∈ outcomes, outcome.id = session.selector.latest outcome.kind) := by
  intro queued
  have hfold := Selector.foldl_take_perm hnodup hperm session.selector
  have halarmed := Selector.alarmed_perm hperm session.selector
  have hany : order.any session.selector.accepts = outcomes.any session.selector.accepts :=
    hperm.symm.any_eq
  have haccepts : ∀ outcome : Outcome, session.selector.accepts outcome = true ↔
      outcome.id = session.selector.latest outcome.kind := by
    intro outcome
    simp [Selector.accepts, hmounted]
  have hpolled : (queued order).poll.1.selector =
      outcomes.foldl Selector.take session.selector :=
    (poll_selector (queued order)).trans hfold.symm
  refine ⟨⟨?_, ?_, ?_⟩, ⟨?_, ?_, ?_⟩, ?_, ?_⟩
  · rw [applyAll_selector, applyAll_selector, hfold]
  · rw [errorChannel_applyAll, errorChannel_applyAll, halarmed]
  · rw [applyAll_snd, applyAll_snd, hany]
  · exact hpolled.trans (poll_selector (queued outcomes)).symm
  · rw [errorChannel_poll, errorChannel_poll]
    show (if session.selector.alarmed order then session.errorChannel.report true
      else session.errorChannel) = _
    rw [← halarmed]
    rfl
  · exact (poll_snd (queued order)).trans (hany.trans (poll_snd (queued outcomes)).symm)
  · intro outcome hmem hlatest
    have hkeys : (outcomes.map Outcome.key).Nodup :=
      List.Nodup.of_map Prod.snd (by rw [List.map_map]; exact hnodup)
    rw [hpolled]
    exact Selector.foldl_take_shown_of_mem hkeys hmem ((haccepts outcome).2 hlatest)
  · have hanswer : (queued order).poll.2 = outcomes.any session.selector.accepts :=
      (poll_snd (queued order)).trans hany
    rw [hanswer, List.any_eq_true]
    exact exists_congr fun outcome => and_congr_right fun _ => haccepts outcome

/-- Two searches and two lookups are under way. -/
def crowdedRun : List (Step SelectOption) :=
  [.input "a", .input "ab", .value (.single "x"), .value (.single "y")]

/-- The latest search has failed and the latest lookup has not; the others are the other way. -/
def crowdedOutcomes : List Outcome :=
  [⟨.search, 1, .ok [.raw "a"]⟩, ⟨.lookup, 3, .error (.backend "late")⟩,
    ⟨.search, 2, .error (.backend "no answer")⟩, ⟨.lookup, 4, .ok [.raw "y"]⟩]

theorem crowded_results_commute :
    let session := (start sampleProfile).run crowdedRun
    let queued := fun channel => ({ session with channel } : Session SelectOption)
    session.selector.mounted = true ∧ (crowdedOutcomes.map Outcome.id).Nodup ∧
      crowdedOutcomes.Perm crowdedOutcomes.reverse ∧
      (queued crowdedOutcomes.reverse).poll.1.selector =
        (queued crowdedOutcomes).poll.1.selector ∧
      (queued crowdedOutcomes.reverse).poll.1.errorChannel = ⟨true, [true]⟩ ∧
      (queued crowdedOutcomes.reverse).poll.1.selector.labels = [.raw "y"] ∧
      (queued crowdedOutcomes.reverse).poll.2 = true := by
  intro session queued
  have hmounted : session.selector.mounted = true := by decide
  have hnodup : (crowdedOutcomes.map Outcome.id).Nodup := by decide
  have hperm : crowdedOutcomes.Perm crowdedOutcomes.reverse := (List.reverse_perm _).symm
  obtain ⟨-, ⟨hselector, hchannel, -⟩, hshown, hanswer⟩ :=
    results_commute session hmounted hnodup hperm
  have hmem : ⟨.lookup, 4, .ok [.raw "y"]⟩ ∈ crowdedOutcomes := by simp [crowdedOutcomes]
  exact ⟨hmounted, hnodup, hperm, hselector, hchannel.trans (by decide),
    hshown _ hmem (by decide), hanswer.2 ⟨_, hmem, by decide⟩⟩

end Session

end IssueDesk
