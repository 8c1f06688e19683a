import Mathlib.Data.List.Induction
import Mathlib.Data.List.Infix

/-! What is underway in a history: something that begins at one event and ends at another, such as a
request and the answer to it. Whether an event begins something may depend on what came before it;
whether it ends something does not. A flag that is set by every beginning and cleared by every end
says what is underway (`underway_iff`), and there is never more than one thing underway just if
nothing ever begins while something is (`oneAtATime_iff`). -/

namespace IssueDesk

variable {α : Type} {begins : List α → α → Prop} {ends : α → Prop} {history : List α}

/-- Something began in the history, and nothing after that ended it. -/
def Underway (begins : List α → α → Prop) (ends : α → Prop) (history : List α) : Prop :=
  ∃ earlier event later, history = earlier ++ event :: later ∧ begins earlier event ∧
    ∀ e ∈ later, ¬ends e

/-- Between two beginnings there is always an end. -/
def OneAtATime (begins : List α → α → Prop) (ends : α → Prop) (history : List α) : Prop :=
  ∀ earlier first between second later,
    history = earlier ++ first :: (between ++ second :: later) →
    begins earlier first → begins (earlier ++ first :: between) second → ∃ e ∈ between, ends e

theorem not_underway_nil : ¬Underway begins ends [] := by
  rintro ⟨earlier, event, later, hsplit, -⟩
  simp at hsplit

theorem underway_concat {event : α} :
    Underway begins ends (history ++ [event]) ↔
      begins history event ∨ Underway begins ends history ∧ ¬ends event := by
  constructor
  · rintro ⟨earlier, first, later, hsplit, hbegins, hlater⟩
    rcases List.eq_nil_or_concat' later with rfl | ⟨rest, last, rfl⟩
    · obtain ⟨rfl, hevent⟩ := List.append_inj' hsplit rfl
      obtain rfl := List.singleton_inj.1 hevent
      exact Or.inl hbegins
    · rw [← List.cons_append, ← List.append_assoc] at hsplit
      obtain ⟨rfl, hevent⟩ := List.append_inj' hsplit rfl
      obtain rfl := List.singleton_inj.1 hevent
      refine Or.inr ⟨⟨earlier, first, rest, rfl, hbegins, fun e he => ?_⟩, ?_⟩
      · exact hlater e (List.mem_append_left _ he)
      · exact hlater event (List.mem_append_right _ List.mem_cons_self)
  · rintro (hbegins | ⟨⟨earlier, first, later, rfl, hbegins, hlater⟩, hends⟩)
    · exact ⟨history, event, [], rfl, hbegins, nofun⟩
    · refine ⟨earlier, first, later ++ [event], by simp, hbegins, fun e he => ?_⟩
      rcases List.mem_append.1 he with he | he
      · exact hlater e he
      · exact List.mem_singleton.1 he ▸ hends

/-- A flag that each beginning sets and each end clears says what is underway. -/
theorem underway_iff (flag : List α → Prop) (hnil : ¬flag [])
    (hconcat : ∀ history event,
      flag (history ++ [event]) ↔ begins history event ∨ flag history ∧ ¬ends event)
    (history : List α) : flag history ↔ Underway begins ends history := by
  induction history using List.reverseRecOn with
  | nil => exact iff_of_false hnil not_underway_nil
  | append_singleton earlier event ih => rw [hconcat, underway_concat, ih]

/-- There is an end between any two beginnings just if nothing begins while something is underway. -/
theorem oneAtATime_iff :
    OneAtATime begins ends history ↔
      ∀ earlier event later, history = earlier ++ event :: later → begins earlier event →
        ¬Underway begins ends earlier := by
  constructor
  · rintro hone earlier second later hsplit hsecond ⟨before, first, between, rfl, hfirst, hnone⟩
    rw [List.append_assoc, List.cons_append] at hsplit
    obtain ⟨e, he, hends⟩ := hone before first between second later hsplit hfirst hsecond
    exact hnone e he hends
  · intro hfree earlier first between second later hsplit hfirst hsecond
    by_contra hnone
    push Not at hnone
    rw [← List.cons_append, ← List.append_assoc] at hsplit
    exact hfree _ second later hsplit hsecond ⟨earlier, first, between, rfl, hfirst, hnone⟩

/-- What is underway then began at one event only. -/
theorem OneAtATime.unique (h : OneAtATime begins ends history)
    {earlier later earlier' later' : List α} {event event' : α}
    (hsplit : history = earlier ++ event :: later)
    (hsplit' : history = earlier' ++ event' :: later') (hbegins : begins earlier event)
    (hbegins' : begins earlier' event') (hlater : ∀ e ∈ later, ¬ends e)
    (hlater' : ∀ e ∈ later', ¬ends e) : earlier = earlier' := by
  rcases List.append_eq_append_iff.1 (hsplit.symm.trans hsplit') with
    ⟨between, rfl, hrest⟩ | ⟨between, rfl, hrest⟩
  · cases between with
    | nil => exact (List.append_nil earlier).symm
    | cons first between =>
        obtain ⟨rfl, rfl⟩ := List.cons_eq_cons.1 hrest
        obtain ⟨e, he, hends⟩ := h _ _ _ _ _ hsplit hbegins hbegins'
        exact absurd hends (hlater e (List.mem_append_left _ he))
  · cases between with
    | nil => exact List.append_nil earlier'
    | cons first between =>
        obtain ⟨rfl, rfl⟩ := List.cons_eq_cons.1 hrest
        obtain ⟨e, he, hends⟩ := h _ _ _ _ _ hsplit' hbegins' hbegins
        exact absurd hends (hlater' e (List.mem_append_left _ he))

end IssueDesk
