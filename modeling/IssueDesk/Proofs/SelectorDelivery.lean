import IssueDesk.Proofs.SelectorChannel
import Mathlib.Data.List.Nodup

/-! How outcomes get from the tasks to the selector. What a request puts into the channel in a run
(`yields`) is counted against what stands in the channel and what the host has taken out
(`Delivered`): nothing is put in twice, nothing that has been put in is lost while the selector is
mounted, and what is taken out and counts is written. -/

namespace IssueDesk

namespace Selector

/-- What the selector shows of the answers to one kind of request. -/
def shown (selector : Selector) : RequestKind → List SelectOption
  | .search => selector.options
  | .lookup => selector.labels

/-- An outcome of another request leaves what is shown of a kind. -/
theorem take_shown_of_ne {selector : Selector} {outcome : Outcome} {kind : RequestKind}
    (h : outcome.key ≠ (kind, selector.latest kind)) :
    (selector.take outcome).shown kind = selector.shown kind := by
  obtain ⟨ofKind, id, answer⟩ := outcome
  unfold take
  split
  next haccepts =>
    simp only [accepts, Bool.and_eq_true, beq_iff_eq] at haccepts
    have hkind : ofKind ≠ kind := by
      rintro rfl
      exact h (by rw [Outcome.key, haccepts.2])
    cases ofKind <;> cases kind <;> first | rfl | exact absurd rfl hkind
  next => rfl

theorem take_shown_of_accepts {selector : Selector} {outcome : Outcome}
    (h : selector.accepts outcome = true) :
    (selector.take outcome).shown outcome.kind = outcome.answer.settled := by
  obtain ⟨kind, id, answer⟩ := outcome
  unfold take
  rw [if_pos h]
  cases kind <;> rfl

theorem foldl_take_shown_of_not_mem {outcomes : List Outcome} {selector : Selector}
    {kind : RequestKind} (h : (kind, selector.latest kind) ∉ outcomes.map Outcome.key) :
    (outcomes.foldl take selector).shown kind = selector.shown kind := by
  induction outcomes generalizing selector with
  | nil => rfl
  | cons outcome rest ih =>
      obtain ⟨hfirst, hrest⟩ := not_or.1 (List.mem_cons.not.1 h)
      rw [List.foldl_cons, ih (by rw [take_latest]; exact hrest)]
      exact take_shown_of_ne (Ne.symm hfirst)

/-- Of outcomes of different requests, the one that counts is written and stays. -/
theorem foldl_take_shown_of_mem {outcomes : List Outcome} {selector : Selector}
    (hnodup : (outcomes.map Outcome.key).Nodup) {outcome : Outcome} (hmem : outcome ∈ outcomes)
    (h : selector.accepts outcome = true) :
    (outcomes.foldl take selector).shown outcome.kind = outcome.answer.settled := by
  obtain ⟨before, after, rfl⟩ := List.append_of_mem hmem
  have hlatest : outcome.id = selector.latest outcome.kind := by
    simp only [accepts, Bool.and_eq_true, beq_iff_eq] at h
    exact h.2
  have hkept : (before.foldl take selector).accepts outcome = true := by
    rw [foldl_take_keeps (·.accepts outcome) (fun _ _ => take_accepts _ _ _)]
    exact h
  rw [List.foldl_append, List.foldl_cons, foldl_take_shown_of_not_mem]
  · exact take_shown_of_accepts hkept
  · rw [take_latest, foldl_take_latest, ← hlatest]
    rw [List.map_append, List.map_cons] at hnodup
    exact (List.nodup_cons.1 (List.nodup_append.1 hnodup).2.1).1

end Selector

namespace Session

/-- The outcomes that a step puts into the channel, behind those that the host leaves there. -/
def puts (session : Session α) (action : Step α) : List Outcome :=
  (session.step action).channel.drop (session.channel.length - (session.taken action).length)

/-- The outcomes that a request yields in a run. -/
def yields (session : Session α) (id : Nat) (steps : List (Step α)) : List Outcome :=
  session.gathered (fun before action => (before.puts action).filter (·.id == id)) steps

/-- How often the outcome of a request has been taken out of the channel. -/
def received (session : Session α) (id : Nat) : Nat := session.receipts.countP (·.2 == id)

/-- How often the outcome of a request stands in the channel. -/
def queued (session : Session α) (id : Nat) : Nat := session.channel.countP (·.id == id)

/-- Outcomes move through the channel in three ways. The host takes the first ones, a task puts one
at the end, or an unmount drops them all. -/
theorem Effect.delivers {session session' : Session α} {action : Step α}
    (h : Effect session action session') (haccounted : Accounted session)
    (hqueued : Queued session) :
    (∃ rest, session.channel = session.taken action ++ rest ∧ session'.channel = rest ∧
        session'.receipts = session.receipts ++ (session.taken action).map Outcome.key ∧
        session'.selector.mounted = session.selector.mounted) ∨
      (∃ outcome task, session.task? outcome.id = some task ∧ task.kind = outcome.kind ∧
        (∀ due, task.stage ≠ .pending due) ∧ session.taken action = [] ∧
        session'.channel = session.channel ++ [outcome] ∧
        session'.receipts = session.receipts ∧ session.selector.mounted = true) ∨
      session'.channel = [] ∧ session'.receipts = session.receipts ∧
        session'.selector.mounted = false := by
  have hidle : session.taken action = [] → session'.channel = session.channel →
      session'.receipts = session.receipts →
      session'.selector.mounted = session.selector.mounted →
      ∃ rest, session.channel = session.taken action ++ rest ∧ session'.channel = rest ∧
        session'.receipts = session.receipts ++ (session.taken action).map Outcome.key ∧
        session'.selector.mounted = session.selector.mounted := by
    intro htaken hchannel hreceipts hmounted
    refine ⟨session.channel, ?_, hchannel, ?_, hmounted⟩
    · rw [htaken]
      rfl
    · rw [htaken, hreceipts]
      exact (List.append_nil _).symm
  cases h with
  | aside hstalls hsame hselector =>
      exact Or.inl (hidle hstalls.taken hsame.channel hsame.receipts hselector.mounted)
  | typed hmounted hsame hselector =>
      exact Or.inl (hidle rfl hsame.channel hsame.receipts (by rw [hselector]))
  | asked hstarts hsame hselector =>
      exact Or.inl (hidle rfl hsame.channel hsame.receipts (by rw [hselector]))
  | took hrest haction hsame hselector =>
      obtain ⟨rest, hrest⟩ := hrest
      have hreceipts := (takeOut_spec haccounted.nodup hrest).2
      refine Or.inl ⟨rest, hrest, ?_, hsame.receipts.trans hreceipts, ?_⟩
      · exact hsame.channel.trans (takeOut_channel hrest)
      · rw [hselector, Selector.foldl_take_mounted]
  | unmounted hsame hselector =>
      exact Or.inr (Or.inr ⟨hsame.channel, hsame.receipts, by rw [hselector]⟩)
  | called htask hstage hdue hlatest hsame hselector =>
      have hreceipts := hsame.receipts.trans (receipts_callFor session _)
      exact Or.inl (hidle rfl hsame.channel hreceipts (by rw [hselector]))
  | sent htask hstage hmounted hfree =>
      exact Or.inr (Or.inl ⟨_, _, htask, rfl, fun due => by simp [hstage], rfl, rfl, rfl,
        hmounted⟩)
  | filled htask hstage =>
      have hmounted := hqueued.mounted_of_granted (mem_of_task? htask).1
        (by rw [Task.isGranted, hstage])
      exact Or.inr (Or.inl ⟨_, _, htask, rfl, fun due => by simp [hstage], rfl, rfl, rfl,
        hmounted⟩)
  | _ => exact Or.inl (hidle rfl rfl rfl rfl)

/-- What a request has yielded is accounted for: it is in the channel or has been taken out, as long
as the selector is mounted. -/
structure Delivered (id : Nat) (yielded : List Outcome) (session : Session α) : Prop where
  short : yielded.length ≤ 1
  bound : session.received id + session.queued id ≤ yielded.length
  exact : session.selector.mounted = true →
    session.received id + session.queued id = yielded.length

/-- The outcome of a request is in the channel or taken out at most once. -/
theorem Accounted.received_queued {session : Session α} (h : Accounted session) (id : Nat) :
    session.received id + session.queued id ≤ 1 := by
  have hcount : (session.ledger.map Prod.snd).count id ≤ 1 :=
    List.nodup_iff_count.1 h.nodup id
  simp only [ledger, outstanding, List.map_append, List.map_map, List.count_append] at hcount
  have hreceived : session.received id = (session.receipts.map Prod.snd).count id := by
    rw [received, List.count, List.countP_map]
    rfl
  have hqueued : session.queued id =
      (session.channel.map (Prod.snd ∘ Outcome.key)).count id := by
    rw [queued, List.count, List.countP_map]
    rfl
  omega

namespace Delivered

variable {session session' : Session α} {id : Nat} {yielded : List Outcome}

theorem start (profile : Profile α) (id : Nat) : Delivered id [] (start profile) :=
  ⟨Nat.zero_le 1, Nat.le_refl 0, fun _ => rfl⟩

theorem step (h : Delivered id yielded session) (haccounted : Accounted session)
    (hqueued : Queued session) (action : Step α) :
    Delivered id (yielded ++ (session.puts action).filter (·.id == id)) (session.step action) := by
  have hshort := h.short
  have hbound := h.bound
  have hexact := h.exact
  have heffect := step_effect session action
  have hlimit := (haccounted.effect heffect).received_queued id
  rcases heffect.delivers haccounted hqueued with
    ⟨rest, hchannel, hchannel', hreceipts, hmounted⟩ |
      ⟨outcome, _, -, -, -, htaken, hchannel, hreceipts, hmounted⟩ | ⟨hchannel, hreceipts, hmounted⟩
  · have hputs : session.puts action = [] := by
      rw [puts, hchannel', hchannel]
      simp
    have hmoved : (session.step action).received id + (session.step action).queued id =
        session.received id + session.queued id := by
      simp only [received, queued, hchannel, hchannel', hreceipts, List.countP_append,
        List.countP_map]
      exact Nat.add_assoc _ _ _
    rw [hputs, List.filter_nil, List.append_nil]
    refine ⟨hshort, by omega, fun hm => ?_⟩
    have := hexact (hmounted ▸ hm)
    omega
  · have hputs : session.puts action = [outcome] := by
      rw [puts, hchannel, htaken]
      simp
    have hmoved : (session.step action).received id + (session.step action).queued id =
        session.received id + session.queued id +
          ([outcome].filter (·.id == id)).length := by
      rw [received, queued, hchannel, hreceipts, List.countP_append, ← List.countP_eq_length_filter]
      exact (Nat.add_assoc _ _ _).symm
    have := hexact hmounted
    rw [hputs]
    refine ⟨?_, ?_, fun _ => ?_⟩ <;>
      rw [List.length_append] <;>
      omega
  · have hputs : session.puts action = [] := by
      rw [puts, hchannel, List.drop_nil]
    have hdropped : (session.step action).received id + (session.step action).queued id =
        session.received id := by
      simp only [received, queued, hchannel, hreceipts, List.countP_nil, Nat.add_zero]
    rw [hputs, List.filter_nil, List.append_nil]
    exact ⟨hshort, by omega, fun hm => absurd (hmounted.symm.trans hm) (by decide)⟩

theorem run (profile : Profile α) (id : Nat) (steps : List (Step α)) :
    Delivered id ((Session.start profile).yields id steps) ((Session.start profile).run steps) := by
  induction steps using List.reverseRecOn with
  | nil => exact start profile id
  | append_singleton steps action ih =>
      rw [run_concat, yields, gathered_concat]
      exact ih.step (Accounted.run profile steps) (Queued.run profile steps) action

end Delivered

/-- What the host takes out is of different requests. -/
theorem Accounted.taken_nodup {session : Session α} (h : Accounted session) {action : Step α}
    (hrest : ∃ rest, session.channel = session.taken action ++ rest) :
    ((session.taken action).map Outcome.key).Nodup := by
  obtain ⟨rest, hchannel⟩ := hrest
  have hledger : session.taken action |>.map Outcome.key |>.Sublist session.ledger := by
    rw [ledger, outstanding, hchannel, List.map_append]
    refine List.Sublist.trans ?_ (List.sublist_append_left _ _)
    exact (List.sublist_append_left _ _).trans (List.sublist_append_right _ _)
  exact hledger.nodup (List.Nodup.of_map _ h.nodup)

/-- What is taken out is applied. -/
theorem step_of_taken {session : Session α} {action : Step α} {outcome : Outcome}
    (hmem : outcome ∈ session.taken action) :
    (∃ rest, session.channel = session.taken action ++ rest) ∧
      (session.step action).selector =
        (session.taken action).foldl Selector.take session.selector := by
  have heffect := step_effect session action
  generalize session.step action = session' at heffect ⊢
  cases heffect with
  | took hrest haction hsame hselector => exact ⟨hrest, hselector⟩
  | aside hstalls =>
      rw [hstalls.taken] at hmem
      cases hmem
  | _ => cases hmem

theorem channel_of_taken {session : Session α} {action : Step α} {outcome : Outcome}
    (h : outcome ∈ session.taken action) : outcome ∈ session.channel := by
  obtain ⟨⟨rest, hchannel⟩, -⟩ := step_of_taken h
  exact hchannel ▸ List.mem_append_left _ h

/-- An outcome that counts is written when the host takes it out, whatever else is taken with it. -/
theorem Accounted.shown_of_taken {session : Session α} (h : Accounted session) {action : Step α}
    {outcome : Outcome} (hmem : outcome ∈ session.taken action)
    (haccepts : session.selector.accepts outcome = true) :
    (session.step action).selector.shown outcome.kind = outcome.answer.settled := by
  obtain ⟨hrest, hselector⟩ := step_of_taken hmem
  rw [hselector]
  exact Selector.foldl_take_shown_of_mem (h.taken_nodup hrest) hmem haccepts

theorem idle_of_taken {session : Session α} {action : Step α} {outcome : Outcome}
    (hmem : outcome ∈ session.taken action) (hmounted : session.selector.mounted = true)
    (hkey : outcome.key = (.search, session.selector.latestSearch)) :
    (session.step action).selector.loading = false := by
  rw [(step_of_taken hmem).2, Bool.eq_false_iff, Ne, Selector.foldl_take_loading]
  rintro ⟨-, hnotin⟩
  exact hnotin hmounted (hkey ▸ List.mem_map_of_mem hmem)

theorem Accounted.latest_count {session : Session α} (h : Accounted session) (kind : RequestKind)
    (hmounted : session.selector.mounted = true) (hlatest : session.selector.latest kind ≠ 0) :
    session.outstanding.count (kind, session.selector.latest kind) +
      session.receipts.count (kind, session.selector.latest kind) = 1 := by
  have hmem := h.kept hmounted kind hlatest
  have hnodup : session.ledger.Nodup := List.Nodup.of_map _ h.nodup
  rw [← List.count_append]
  exact List.count_eq_one_of_mem hnodup hmem

/-- The selector is loading while the latest search is under way. -/
theorem Accounted.loading_iff {session : Session α} (h : Accounted session)
    (hmounted : session.selector.mounted = true) :
    session.selector.loading = true ↔
      session.outstanding.count (.search, session.selector.latestSearch) = 1 := by
  by_cases hzero : session.selector.latestSearch = 0
  · have hidle : session.selector.loading ≠ true := fun hl => (h.loading.1 hl).2.1 hzero
    have hnone : (RequestKind.search, session.selector.latestSearch) ∉ session.outstanding := by
      intro hmem
      have := (h.bound _ (List.mem_append_left _ hmem)).1
      omega
    rw [List.count_eq_zero.2 hnone]
    simp [hidle]
  · have hcount := h.latest_count .search hmounted hzero
    have hreceived : (RequestKind.search, session.selector.latestSearch) ∉ session.receipts ↔
        session.receipts.count (.search, session.selector.latestSearch) = 0 :=
      List.count_eq_zero.symm
    have hlatest : session.selector.latest .search = session.selector.latestSearch := rfl
    rw [hlatest] at hcount
    rw [h.loading, hreceived]
    constructor
    · rintro ⟨-, -, hnone⟩
      omega
    · intro hone
      exact ⟨hmounted, hzero, by omega⟩

/-- In every run the channel holds no more than it can, and those who wait for a place are served in
order. Every request yields at most one outcome, and no outcome is taken out twice. While the
selector is mounted, what has been yielded is in the channel or has been taken out; the latest
request of each kind is under way or its outcome has been taken out, and for the search this is what
loading tells; and an outcome that is the latest of its kind is written when it is taken out. -/
theorem every_outcome_is_accounted (profile : Profile α) (steps : List (Step α)) :
    let session := (start profile).run steps
    session.places ≤ channelCapacity ∧
    (∀ action, (session.step action).selector.mounted = true → ∃ joined,
      (session.step action).waiters =
        session.waiters.drop (session.taken action).length ++ joined) ∧
    (∀ id, ((start profile).yields id steps).length ≤ 1 ∧ session.received id ≤ 1 ∧
      session.received id + session.queued id ≤ ((start profile).yields id steps).length) ∧
    (session.selector.mounted = true →
      (∀ id, session.received id + session.queued id =
        ((start profile).yields id steps).length) ∧
      (session.selector.loading = true ↔
        session.outstanding.count (.search, session.selector.latestSearch) = 1) ∧
      (∀ kind, session.selector.latest kind ≠ 0 →
        session.outstanding.count (kind, session.selector.latest kind) +
          session.receipts.count (kind, session.selector.latest kind) = 1) ∧
      ((.search, session.selector.latestSearch) ∈ session.receipts →
        session.selector.loading = false) ∧
      ∀ action, ∀ outcome ∈ session.taken action,
        outcome.id = session.selector.latest outcome.kind →
          (session.step action).selector.shown outcome.kind = outcome.answer.settled ∧
          (outcome.kind = .search → (session.step action).selector.loading = false)) := by
  intro session
  have haccounted : Accounted session := Accounted.run profile steps
  have hdelivered := fun id => Delivered.run profile id steps
  refine ⟨(Queued.run profile steps).bound,
    fun action hmounted => (step_effect session action).waiters haccounted hmounted,
    fun id => ⟨(hdelivered id).short, ?_, ?_⟩, ?_⟩
  · have := haccounted.received_queued id
    omega
  · exact (hdelivered id).bound
  · intro hmounted
    refine ⟨fun id => (hdelivered id).exact hmounted, haccounted.loading_iff hmounted,
      fun kind => haccounted.latest_count kind hmounted, ?_, ?_⟩
    · intro hreceived
      by_contra hloading
      exact (haccounted.loading.1 (by simpa using hloading)).2.2 hreceived
    · intro action outcome hmem hlatest
      have haccepts : session.selector.accepts outcome = true := by
        simp [Selector.accepts, hmounted, hlatest]
      refine ⟨haccounted.shown_of_taken hmem haccepts, fun hkind => ?_⟩
      exact idle_of_taken hmem hmounted (by rw [Outcome.key, hlatest, hkind]; rfl)

/-- Seventeen searches are answered before the host looks: the last of them waits for a place. -/
def backlogRun : List (Step SelectOption) :=
  (List.range 17).flatMap fun n =>
    [.input "q", .wait 400, .wake (n + 1), .answer (n + 1) (sampleResponse "r")]

theorem blocked_answer_is_not_lost :
    let backlog := (start sampleProfile).run backlogRun
    let sent := (start sampleProfile).run (backlogRun ++ [.poll, .send 17])
    backlog.places = channelCapacity ∧ backlog.waiting = 1 ∧ backlog.selector.loading = true ∧
      backlog.outstanding.count (.search, backlog.selector.latestSearch) = 1 ∧
      (sent.step .poll).selector.options = [.raw "r"] ∧
      ∃ outcome ∈ sent.taken .poll, outcome.key = (.search, 17) ∧
        (sent.step .poll).selector.shown outcome.kind = outcome.answer.settled ∧
        (sent.step .poll).selector.loading = false := by
  dsimp only
  have hloading : ((start sampleProfile).run backlogRun).selector.loading = true := by
    decide +kernel
  have hlatest : ((start sampleProfile).run
      (backlogRun ++ [.poll, .send 17])).selector.latest .search = 17 := by decide +kernel
  have hbacklog := (every_outcome_is_accounted sampleProfile backlogRun).2.2.2 (by decide +kernel)
  have hsent := (every_outcome_is_accounted sampleProfile
    (backlogRun ++ [.poll, .send 17])).2.2.2 (by decide +kernel)
  have htaken : (.search, 17) ∈ (((start sampleProfile).run
      (backlogRun ++ [.poll, .send 17])).taken .poll).map Outcome.key := by decide +kernel
  obtain ⟨outcome, hmem, hkey⟩ := List.mem_map.1 htaken
  obtain ⟨hkind, hid⟩ := Prod.mk.injEq .. ▸ hkey
  rw [← hlatest, ← hkind] at hid
  obtain ⟨hshown, hidle⟩ := hsent.2.2.2.2 .poll outcome hmem hid
  exact ⟨by decide +kernel, by decide +kernel, hloading, hbacklog.2.1.1 hloading,
    by decide +kernel, outcome, hmem, hkey, hshown, hidle hkind⟩

end Session

end IssueDesk
