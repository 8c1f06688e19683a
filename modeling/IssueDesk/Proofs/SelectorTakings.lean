import IssueDesk.Proofs.SelectorOrder

/-! The ways in which a host takes results. A poll takes all that is in the channel; a host that asks
for updates takes one outcome after the other, passes over those that have been superseded, and stops
at the first that counts. `Takes` says what is seen of outcomes that are taken: what becomes of the
selector, and what is told of its error state. It composes, so it does not matter in which portions
the outcomes are taken. `Hears` adds what a host that asks for updates is told on the way. -/

namespace IssueDesk

namespace Selector

theorem foldl_take_accepts (outcomes : List Outcome) (selector : Selector) (outcome : Outcome) :
    (outcomes.foldl take selector).accepts outcome = selector.accepts outcome :=
  foldl_take_keeps (·.accepts outcome) (take_accepts · · outcome) outcomes selector

theorem foldl_take_alarmed (outcomes later : List Outcome) (selector : Selector) :
    (outcomes.foldl take selector).alarmed later = selector.alarmed later := by
  simp only [alarmed, foldl_take_accepts]

/-- Of the outcomes up to the first one that counts, only that one counts. -/
theorem filter_untilAccepted (selector : Selector) (outcomes : List Outcome) :
    (selector.untilAccepted outcomes).filter selector.accepts =
      (outcomes.find? selector.accepts).toList := by
  induction outcomes with
  | nil => rfl
  | cons outcome rest ih =>
      cases haccepts : selector.accepts outcome with
      | true => simp [untilAccepted, haccepts]
      | false => simp [untilAccepted, haccepts, ih]

theorem untilAccepted_eq_nil_iff {selector : Selector} {outcomes : List Outcome} :
    selector.untilAccepted outcomes = [] ↔ outcomes = [] := by
  cases outcomes with
  | nil => exact Iff.rfl
  | cons outcome rest =>
      unfold untilAccepted
      split <;> simp

end Selector

namespace Session

/-- Outcomes have been taken: the selector has what they write, and a failure among them that counts
has been told. -/
structure Takes (session : Session α) (outcomes : List Outcome) (session' : Session α) : Prop where
  selector : session'.selector = outcomes.foldl Selector.take session.selector
  errorChannel : session'.errorChannel =
    if session.selector.alarmed outcomes then session.errorChannel.report true
    else session.errorChannel

namespace Takes

theorem refl (session : Session α) : Takes session [] session := ⟨rfl, rfl⟩

theorem trans {first second third : Session α} {outcomes later : List Outcome}
    (h : Takes first outcomes second) (h' : Takes second later third) :
    Takes first (outcomes ++ later) third where
  selector := by rw [h'.selector, h.selector, List.foldl_append]
  errorChannel := by
    have halarmed : second.selector.alarmed later = first.selector.alarmed later := by
      rw [h.selector, Selector.foldl_take_alarmed]
    have hboth : first.selector.alarmed (outcomes ++ later) =
        (first.selector.alarmed outcomes || first.selector.alarmed later) := List.any_append
    rw [h'.errorChannel, h.errorChannel, halarmed, hboth]
    -- A second failure finds the error state raised and is not told.
    cases first.selector.alarmed outcomes <;> cases first.selector.alarmed later <;>
      simp [ErrorChannel.report_of_eq]

/-- What is seen is settled by the outcomes that are taken. -/
theorem unique {session first second : Session α} {outcomes : List Outcome}
    (h : Takes session outcomes first) (h' : Takes session outcomes second) :
    first.selector = second.selector ∧ first.errorChannel = second.errorChannel :=
  ⟨h.selector.trans h'.selector.symm, h.errorChannel.trans h'.errorChannel.symm⟩

theorem mounted {session session' : Session α} {outcomes : List Outcome}
    (h : Takes session outcomes session') :
    session'.selector.mounted = session.selector.mounted := by
  rw [h.selector, Selector.foldl_take_mounted]

/-- Which outcomes count does not change by taking some. -/
theorem accepts {session session' : Session α} {outcomes : List Outcome}
    (h : Takes session outcomes session') :
    session'.selector.accepts = session.selector.accepts := by
  rw [h.selector]
  exact funext (Selector.foldl_take_accepts outcomes session.selector)

theorem poll (session : Session α) : Takes session session.channel session.poll.1 :=
  ⟨poll_selector session, errorChannel_poll session⟩

end Takes

theorem poll_channel (session : Session α) : session.poll.1.channel = [] := by
  rw [(poll_same session).channel]
  exact takeOut_channel (List.append_nil _).symm

theorem foldl_enqueue (session : Session α) (outcomes : List Outcome) :
    outcomes.foldl enqueue session = { session with channel := session.channel ++ outcomes } := by
  induction outcomes generalizing session with
  | nil => simp
  | cons outcome rest ih => simp [ih, enqueue]

/-- Outcomes come into the channel in several parts, and there is a poll after each part. The answers
of the polls are kept in order. -/
def pollParts (session : Session α) : List (List Outcome) → Session α × List Bool
  | [] => (session, [])
  | part :: later =>
      let (session, changed) := (part.foldl enqueue session).poll
      let (session, answers) := session.pollParts later
      (session, changed :: answers)

/-- Polls after each part of some outcomes take these outcomes, and one of the polls changes
something if one of the outcomes counts. -/
theorem pollParts_takes (session : Session α) (hchannel : session.channel = [])
    (parts : List (List Outcome)) :
    Takes session parts.flatten (session.pollParts parts).1 ∧
      (session.pollParts parts).2.any id = parts.flatten.any session.selector.accepts := by
  induction parts generalizing session with
  | nil => exact ⟨Takes.refl session, rfl⟩
  | cons part later ih =>
      let queued := part.foldl enqueue session
      have hqueued : queued = { session with channel := part } := by
        rw [show queued = _ from foldl_enqueue session part, hchannel, List.nil_append]
      have hpart : queued.channel = part := by rw [hqueued]
      have hpolled : Takes session part queued.poll.1 := by
        have hpoll := Takes.poll queued
        rw [hpart] at hpoll
        exact ⟨by rw [hpoll.selector, hqueued], by rw [hpoll.errorChannel, hqueued]; rfl⟩
      have hanswer : queued.poll.2 = part.any session.selector.accepts := by
        rw [poll_snd, hpart, hqueued]
      obtain ⟨htakes, hany⟩ := ih queued.poll.1 (poll_channel queued)
      refine ⟨hpolled.trans htakes, ?_⟩
      show (queued.poll.2 || (queued.poll.1.pollParts later).2.any id) = _
      rw [hany, hpolled.accepts, hanswer, List.flatten_cons, List.any_append]

/-! A host that asks for updates. -/

/-- The kind of request whose result has been applied. -/
def Update.kind? : Update → Option RequestKind
  | .applied kind => some kind
  | .closed | .waiting => none

theorem takeUntilCurrent_snd (session : Session α) (outcomes : List Outcome) :
    (session.takeUntilCurrent outcomes).2 =
      match outcomes.find? session.selector.accepts with
      | some outcome => .applied outcome.kind
      | none => .waiting := by
  induction outcomes generalizing session with
  | nil => rfl
  | cons outcome rest ih =>
      have hkind := apply_snd (session.receive outcome rest) outcome
      have hselector := apply_selector (session.receive outcome rest) outcome
      rw [receive_selector] at hkind hselector
      cases haccepts : session.selector.accepts outcome with
      | true =>
          rw [haccepts, if_pos rfl] at hkind
          simp [takeUntilCurrent, hkind, haccepts]
      | false =>
          rw [haccepts, if_neg Bool.false_ne_true] at hkind
          rw [Selector.take_of_not_accepts haccepts] at hselector
          simp [takeUntilCurrent, hkind, haccepts, ih, hselector]

theorem applied_mem_iff {updates : List Update} {kind : RequestKind} :
    .applied kind ∈ updates ↔ kind ∈ updates.filterMap Update.kind? := by
  rw [List.mem_filterMap]
  constructor
  · exact fun hmem => ⟨_, hmem, rfl⟩
  · rintro ⟨update, hmem, hkind⟩
    cases update with
    | applied other =>
        cases hkind
        exact hmem
    | closed => cases hkind
    | waiting => cases hkind

/-- Outcomes have been taken from the front of the channel. The host has heard of those that count, in
order, and not that the selector is unmounted. -/
structure Hears (session : Session α) (outcomes : List Outcome) (updates : List Update)
    (session' : Session α) : Prop where
  channel : session.channel = outcomes ++ session'.channel
  takes : Takes session outcomes session'
  kinds : updates.filterMap Update.kind? =
    (outcomes.filter session.selector.accepts).map Outcome.kind
  unclosed : .closed ∉ updates

namespace Hears

theorem refl (session : Session α) : Hears session [] [] session :=
  ⟨rfl, Takes.refl session, rfl, List.not_mem_nil⟩

theorem trans {first second third : Session α} {outcomes outcomes' : List Outcome}
    {updates updates' : List Update} (h : Hears first outcomes updates second)
    (h' : Hears second outcomes' updates' third) :
    Hears first (outcomes ++ outcomes') (updates ++ updates') third where
  channel := by rw [h.channel, h'.channel, List.append_assoc]
  takes := h.takes.trans h'.takes
  kinds := by
    rw [List.filterMap_append, h.kinds, h'.kinds, h.takes.accepts, List.filter_append, List.map_append]
  unclosed hmem := (List.mem_append.1 hmem).elim h.unclosed h'.unclosed

/-- A host that asks once hears of the first outcome that counts, or it goes on waiting with the
channel empty. -/
theorem nextUpdate (session : Session α) (hmounted : session.selector.mounted = true) :
    Hears session (session.selector.untilAccepted session.channel) [session.nextUpdate.2]
      session.nextUpdate.1 := by
  obtain ⟨rest, hrest⟩ := Selector.untilAccepted_append session.selector session.channel
  obtain ⟨hsame, hselector⟩ := next_same session hmounted
  have hsnd : session.nextUpdate.2 =
      match session.channel.find? session.selector.accepts with
      | some outcome => .applied outcome.kind
      | none => .waiting := by
    simp only [Session.nextUpdate, hmounted, Bool.not_true, Bool.false_eq_true, if_false]
    exact takeUntilCurrent_snd session session.channel
  have hchannel := errorChannel_nextUpdate session
  rw [taken, if_pos hmounted] at hchannel
  refine ⟨?_, ⟨hselector, hchannel⟩, ?_, ?_⟩
  · rw [hsame.channel, takeOut_channel hrest]
    exact hrest
  · rw [Selector.filter_untilAccepted, hsnd]
    cases session.channel.find? session.selector.accepts <;> rfl
  · rw [hsnd]
    cases session.channel.find? session.selector.accepts <;> simp

end Hears

/-- The host asks for an update again and again, a number of times. What it hears is kept in order. -/
def listen (session : Session α) : Nat → Session α × List Update
  | 0 => (session, [])
  | n + 1 =>
      let (session, update) := session.nextUpdate
      let (session, updates) := session.listen n
      (session, update :: updates)

theorem nextUpdate_mounted {session : Session α} (hmounted : session.selector.mounted = true) :
    session.nextUpdate.1.selector.mounted = true :=
  (Hears.nextUpdate session hmounted).takes.mounted.trans hmounted

/-- An update takes at least one outcome, if there is one. -/
theorem length_nextUpdate {session : Session α} (hmounted : session.selector.mounted = true) :
    session.nextUpdate.1.channel.length ≤ session.channel.length - 1 := by
  have hlength := congrArg List.length (Hears.nextUpdate session hmounted).channel
  rw [List.length_append] at hlength
  by_cases hempty : session.channel = []
  · rw [hempty, List.length_nil] at hlength
    omega
  · have htaken : session.selector.untilAccepted session.channel ≠ [] :=
      mt Selector.untilAccepted_eq_nil_iff.1 hempty
    have hsome := List.length_pos_iff.2 htaken
    omega

theorem listen_hears (session : Session α) (hmounted : session.selector.mounted = true) (n : Nat) :
    ∃ outcomes, Hears session outcomes (session.listen n).2 (session.listen n).1 := by
  induction n generalizing session with
  | zero => exact ⟨[], Hears.refl session⟩
  | succ n ih =>
      obtain ⟨outcomes, hears⟩ := ih session.nextUpdate.1 (nextUpdate_mounted hmounted)
      exact ⟨_, (Hears.nextUpdate session hmounted).trans hears⟩

/-- Whoever asks often enough finds the channel empty. -/
theorem length_listen (session : Session α) (hmounted : session.selector.mounted = true) (n : Nat) :
    (session.listen n).1.channel.length ≤ session.channel.length - n := by
  induction n generalizing session with
  | zero => exact Nat.le_refl _
  | succ n ih =>
      have hshorter := length_nextUpdate hmounted
      have hlisten := ih session.nextUpdate.1 (nextUpdate_mounted hmounted)
      show (session.nextUpdate.1.listen n).1.channel.length ≤ _
      omega

/-- However the outcomes in the channel are taken, the same is seen of it: the same selector and the
same reports of the error state. So it is with one poll, with a poll after each part of the outcomes,
and with asking for updates until the channel is empty, which it is after as many updates as there
are outcomes. A poll changes something if and only if an update is applied. The updates that are
applied are of the kinds of the outcomes that count, in order, and while the selector is mounted a
host that asks does not hear that it is closed. -/
theorem takings_agree (session : Session α) (hmounted : session.selector.mounted = true) :
    let current := session.channel.filter fun outcome =>
      outcome.id == session.selector.latest outcome.kind
    (∀ parts : List (List Outcome), parts.flatten = session.channel →
      let several := ({ session with channel := [] } : Session α).pollParts parts
      several.1.selector = session.poll.1.selector ∧
      several.1.errorChannel = session.poll.1.errorChannel ∧
      several.2.any id = session.poll.2) ∧
    (∃ n ≤ session.channel.length, (session.listen n).1.channel = []) ∧
    (∀ n, (session.listen n).1.channel = [] →
      (session.listen n).1.selector = session.poll.1.selector ∧
      (session.listen n).1.errorChannel = session.poll.1.errorChannel ∧
      (session.poll.2 = true ↔ ∃ kind, .applied kind ∈ (session.listen n).2) ∧
      (session.listen n).2.filterMap Update.kind? = current.map Outcome.kind) ∧
    ∀ n, .closed ∉ (session.listen n).2 := by
  intro current
  have haccepts : ∀ outcome, session.selector.accepts outcome =
      (outcome.id == session.selector.latest outcome.kind) := by
    intro outcome
    rw [Selector.accepts, hmounted, Bool.true_and]
  have hcurrent : session.channel.filter session.selector.accepts = current :=
    List.filter_congr fun outcome _ => haccepts outcome
  have hpoll := Takes.poll session
  refine ⟨fun parts hparts => ?_, ⟨_, Nat.le_refl _, ?_⟩, fun n hempty => ?_, fun n => ?_⟩
  · obtain ⟨htakes, hany⟩ :=
      pollParts_takes ({ session with channel := [] } : Session α) rfl parts
    rw [hparts] at htakes hany
    -- What is in the channel counts for nothing before it is taken.
    have hsame : Takes session session.channel
        (({ session with channel := [] } : Session α).pollParts parts).1 :=
      ⟨htakes.selector, htakes.errorChannel⟩
    obtain ⟨hselector, hchannel⟩ := hsame.unique hpoll
    exact ⟨hselector, hchannel, hany.trans (poll_snd session).symm⟩
  · have hlength := length_listen session hmounted session.channel.length
    rw [Nat.sub_self] at hlength
    exact List.length_eq_zero_iff.1 (Nat.le_zero.1 hlength)
  · obtain ⟨outcomes, hears⟩ := listen_hears session hmounted n
    have hall : outcomes = session.channel := by
      rw [hears.channel, hempty, List.append_nil]
    rw [hall] at hears
    obtain ⟨hselector, hchannel⟩ := hears.takes.unique hpoll
    have hkinds := hears.kinds
    rw [hcurrent] at hkinds
    refine ⟨hselector, hchannel, ?_, hkinds⟩
    simp only [applied_mem_iff, hkinds, ← hcurrent]
    rw [poll_snd, List.any_eq_true]
    constructor
    · rintro ⟨outcome, hmem, hcounts⟩
      exact ⟨_, List.mem_map_of_mem (List.mem_filter.2 ⟨hmem, hcounts⟩)⟩
    · rintro ⟨kind, hkind⟩
      obtain ⟨outcome, hmem, -⟩ := List.mem_map.1 hkind
      exact ⟨outcome, List.mem_filter.1 hmem⟩
  · obtain ⟨outcomes, hears⟩ := listen_hears session hmounted n
    exact hears.unclosed

/-- The outcomes of `crowdedOutcomes` have come in: the second half of them counts. -/
def crowdedSession : Session SelectOption :=
  { (start sampleProfile).run crowdedRun with channel := crowdedOutcomes }

theorem crowded_takings_agree :
    let parts := [crowdedOutcomes.take 1, [], crowdedOutcomes.drop 1]
    let several := ({ crowdedSession with channel := [] } : Session SelectOption).pollParts parts
    crowdedSession.selector.mounted = true ∧ parts.flatten = crowdedSession.channel ∧
      several.1.selector = crowdedSession.poll.1.selector ∧ several.2 = [false, false, true] ∧
      (crowdedSession.listen 3).1.channel = [] ∧
      (crowdedSession.listen 3).1.selector = crowdedSession.poll.1.selector ∧
      (crowdedSession.listen 3).1.errorChannel = ⟨true, [true]⟩ ∧
      (crowdedSession.listen 3).2 = [.applied .search, .applied .lookup, .waiting] ∧
      crowdedSession.poll.2 = true := by
  intro parts several
  have hmounted : crowdedSession.selector.mounted = true := by decide
  have hparts : parts.flatten = crowdedSession.channel := rfl
  have hempty : (crowdedSession.listen 3).1.channel = [] := by decide
  obtain ⟨hseveral, -, hlisten, -⟩ := takings_agree crowdedSession hmounted
  obtain ⟨hpolled, -, -⟩ := hseveral parts hparts
  obtain ⟨hheard, hchannel, happlied, -⟩ := hlisten 3 hempty
  exact ⟨hmounted, hparts, hpolled, by decide, hempty, hheard, hchannel.trans (by decide),
    by decide, happlied.2 ⟨.search, by decide⟩⟩

end Session

end IssueDesk
