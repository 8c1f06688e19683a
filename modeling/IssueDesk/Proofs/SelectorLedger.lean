import IssueDesk.Proofs.SelectorSteps
import Mathlib.Data.List.Induction
import Mathlib.Tactic.Tauto

/-! The ledger of requests: those that are under way, as a task or as an outcome in the channel, and
those whose outcome the host has taken. A task that goes on and an outcome that is taken only move
inside the ledger; a request enters it when it starts and leaves it when a superseded search gives
up or when the selector is unmounted. -/

namespace IssueDesk

open scoped List

theorem Task.perm_cons_filter_id {tasks : List Task} (hnodup : (tasks.map Task.id).Nodup)
    {task : Task} (hmem : task ∈ tasks) :
    tasks.Perm (task :: tasks.filter (·.id ≠ task.id)) := by
  induction tasks with
  | nil => cases hmem
  | cons first rest ih =>
      obtain ⟨hfirst, hrest⟩ := List.nodup_cons.1 hnodup
      rcases List.mem_cons.1 hmem with rfl | hmem
      · have hothers : ∀ other ∈ rest, decide (other.id ≠ task.id) = true := by
          intro other hother
          refine decide_eq_true fun h => hfirst ?_
          exact h ▸ List.mem_map_of_mem hother
        simp only [ne_eq, not_true_eq_false, decide_false, Bool.false_eq_true, not_false_eq_true,
          List.filter_cons_of_neg, List.filter_eq_self.2 hothers]
        exact List.Perm.refl _
      · have hne : first.id ≠ task.id := fun h => hfirst (h ▸ List.mem_map_of_mem hmem)
        have hkept : (first :: rest).filter (·.id ≠ task.id) =
            first :: rest.filter (·.id ≠ task.id) :=
          List.filter_cons_of_pos (decide_eq_true hne)
        rw [hkept]
        exact ((ih hrest hmem).cons first).trans (List.Perm.swap _ _ _)

namespace Selector

theorem take_loading (selector : Selector) (outcome : Outcome) :
    (selector.take outcome).loading = true ↔ selector.loading = true ∧
      (selector.mounted = true → (.search, selector.latestSearch) ≠ outcome.key) := by
  obtain ⟨kind, id, answer⟩ := outcome
  cases kind with
  | search =>
      by_cases h : selector.mounted = true ∧ id = selector.latestSearch
      · simp [take, accepts, latest, Outcome.key, h.1, h.2]
      · have haccepts : selector.accepts ⟨.search, id, answer⟩ = false := by
          simpa [accepts, latest] using h
        rw [take_of_not_accepts haccepts]
        simp only [Outcome.key, ne_eq, Prod.mk.injEq, true_and]
        exact ⟨fun hl => ⟨hl, fun hm he => h ⟨hm, he.symm⟩⟩, fun hl => hl.1⟩
  | lookup =>
      simp only [Outcome.key, ne_eq, Prod.mk.injEq, reduceCtorEq, false_and, not_false_eq_true,
        implies_true, and_true]
      unfold take
      split <;> rfl

/-- The selector stops loading when it takes the outcome of the latest search. -/
theorem foldl_take_loading (outcomes : List Outcome) (selector : Selector) :
    (outcomes.foldl take selector).loading = true ↔ selector.loading = true ∧
      (selector.mounted = true →
        (.search, selector.latestSearch) ∉ outcomes.map Outcome.key) := by
  induction outcomes generalizing selector with
  | nil => simp
  | cons outcome rest ih =>
      have hlatest : (selector.take outcome).latestSearch = selector.latestSearch :=
        selector.take_latest outcome .search
      rw [List.foldl_cons, ih, take_loading, take_mounted, hlatest, List.map_cons, List.mem_cons,
        not_or]
      tauto

end Selector

namespace Session

/-- The requests under way. -/
def outstanding (session : Session α) : List RequestKey :=
  session.tasks.map Task.key ++ session.channel.map Outcome.key

/-- The requests under way and those whose outcome has been taken. -/
def ledger (session : Session α) : List RequestKey := session.outstanding ++ session.receipts

theorem SameRequests.outstanding {session session' : Session α}
    (h : SameRequests session session') : session'.outstanding = session.outstanding := by
  simp only [Session.outstanding, h.tasks, h.channel]

theorem SameRequests.ledger {session session' : Session α} (h : SameRequests session session') :
    session'.ledger = session.ledger := by
  simp only [Session.ledger, h.outstanding, h.receipts]

/-- No two tasks have one id. -/
theorem tasks_nodup {session : Session α} (h : (session.ledger.map Prod.snd).Nodup) :
    (session.tasks.map Task.id).Nodup := by
  simp only [ledger, outstanding, List.map_append, List.map_map, List.append_assoc] at h
  exact (List.nodup_append.1 h).1

theorem outstanding_spawn (session : Session α) (task : Task) :
    (session.spawn task).outstanding.Perm (task.key :: session.outstanding) := by
  simp only [outstanding, spawn, List.map_append, List.map_cons, List.map_nil, List.append_assoc,
    List.singleton_append]
  exact List.perm_middle

theorem outstanding_remove {session : Session α} {task : Task}
    (hnodup : (session.tasks.map Task.id).Nodup) (hmem : task ∈ session.tasks) :
    session.outstanding.Perm (task.key :: (session.remove task.id).outstanding) := by
  have htasks := (Task.perm_cons_filter_id hnodup hmem).map Task.key
  exact htasks.append_right (session.channel.map Outcome.key)

theorem outstanding_move {session : Session α} {task : Task} (stage : Stage)
    (hnodup : (session.tasks.map Task.id).Nodup) (hmem : task ∈ session.tasks) :
    (session.move task stage).outstanding.Perm session.outstanding :=
  (outstanding_spawn _ _).trans (outstanding_remove hnodup hmem).symm

theorem outstanding_enqueue (session : Session α) (outcome : Outcome) :
    (session.enqueue outcome).outstanding.Perm (outcome.key :: session.outstanding) := by
  simp only [outstanding, enqueue, List.map_append, List.map_cons, List.map_nil,
    ← List.append_assoc]
  exact List.perm_append_comm

theorem outstanding_grant (session : Session α) (hnodup : (session.tasks.map Task.id).Nodup) :
    session.grant.outstanding.Perm session.outstanding := by
  rcases grant_cases session with ⟨-, h⟩ | ⟨task, answer, hfound, -, h⟩ <;> rw [h]
  exact outstanding_move _ hnodup (List.mem_of_find?_eq_some hfound)

theorem receipts_grant (session : Session α) : session.grant.receipts = session.receipts := by
  rcases grant_cases session with ⟨-, h⟩ | ⟨task, answer, -, -, h⟩ <;> rw [h]
  rfl

theorem receipts_receive (session : Session α) (outcome : Outcome) (rest : List Outcome) :
    (session.receive outcome rest).receipts = session.receipts ++ [outcome.key] := by
  rw [receive, receipts_grant]
  simp [receipts, emit, Event.receipt?, Outcome.key]

theorem ledger_receive {session : Session α} {outcome : Outcome} {rest : List Outcome}
    (hnodup : (session.tasks.map Task.id).Nodup) (hchannel : session.channel = outcome :: rest) :
    (session.receive outcome rest).ledger.Perm session.ledger := by
  have hgrant := outstanding_grant
    ({ session with channel := rest }.emit (.received outcome.kind outcome.id)) hnodup
  have hreceipts := receipts_receive session outcome rest
  have houtstanding : session.outstanding.Perm
      (outcome.key :: ({ session with channel := rest } : Session α).outstanding) := by
    simp only [outstanding, hchannel, List.map_cons]
    exact List.perm_middle
  calc
    (session.receive outcome rest).outstanding ++ (session.receive outcome rest).receipts
        ~ ({ session with channel := rest } : Session α).outstanding ++
          (session.receipts ++ [outcome.key]) := hreceipts ▸ hgrant.append_right _
    _ ~ outcome.key :: (({ session with channel := rest } : Session α).outstanding ++
          session.receipts) := by
        rw [← List.append_assoc]
        exact List.perm_append_comm
    _ ~ session.outstanding ++ session.receipts := (houtstanding.append_right _).symm

theorem takeOut_spec {outcomes rest : List Outcome} {session : Session α}
    (hnodup : (session.ledger.map Prod.snd).Nodup)
    (hchannel : session.channel = outcomes ++ rest) :
    (session.takeOut outcomes).ledger.Perm session.ledger ∧
      (session.takeOut outcomes).receipts = session.receipts ++ outcomes.map Outcome.key := by
  induction outcomes generalizing session with
  | nil => simp [takeOut]
  | cons outcome later ih =>
      have hfirst := ledger_receive (tasks_nodup hnodup) hchannel
      have hnodup' : ((session.receive outcome (later ++ rest)).ledger.map Prod.snd).Nodup :=
        (hfirst.map Prod.snd).nodup_iff.2 hnodup
      obtain ⟨hledger, hreceipts⟩ := ih hnodup' (receive_channel session outcome (later ++ rest))
      simp only [takeOut, hchannel, List.cons_append, List.tail_cons]
      refine ⟨hledger.trans hfirst, ?_⟩
      rw [hreceipts, receipts_receive, List.append_assoc, List.map_cons, List.singleton_append]

theorem receipts_callFor (session : Session α) (task : Task) :
    (session.callFor task).receipts = session.receipts := by
  simp [receipts, callFor, move, remove, spawn, emit, Event.receipt?]

theorem ledger_callFor {session : Session α} {task : Task}
    (hnodup : (session.tasks.map Task.id).Nodup) (hmem : task ∈ session.tasks) :
    (session.callFor task).ledger ~ session.ledger := by
  have hmove := outstanding_move .awaiting hnodup hmem
  rw [ledger, ledger, receipts_callFor]
  exact hmove.append_right _

/-- A task that has its answer is exchanged for its outcome. -/
theorem ledger_remove_enqueue {session : Session α} {task : Task} (answer : Answer)
    (hnodup : (session.tasks.map Task.id).Nodup) (hmem : task ∈ session.tasks) :
    ((session.remove task.id).enqueue ⟨task.kind, task.id, answer⟩).ledger ~ session.ledger := by
  have hqueued := outstanding_enqueue (session.remove task.id) ⟨task.kind, task.id, answer⟩
  exact (hqueued.trans (outstanding_remove hnodup hmem).symm).append_right _

theorem ledger_closed (session : Session α) : session.closed.ledger <+ session.ledger := by
  have htasks : session.closed.tasks.map Task.key <+ session.tasks.map Task.key :=
    List.filter_sublist.map Task.key
  exact (htasks.append (List.nil_sublist _)).append (List.Sublist.refl _)

theorem ledger_remove (session : Session α) (id : Nat) :
    (session.remove id).ledger <+ session.ledger := by
  have htasks : (session.remove id).tasks.map Task.key <+ session.tasks.map Task.key :=
    List.filter_sublist.map Task.key
  exact (htasks.append (List.Sublist.refl _)).append (List.Sublist.refl _)

/-- The books are right: every request has one entry under an id that has been issued, the latest
request of each kind stays in the ledger while the selector is mounted, and the selector is loading
just as long as the outcome of the latest search has not been taken. -/
structure Accounted (session : Session α) : Prop where
  nodup : (session.ledger.map Prod.snd).Nodup
  bound : ∀ key ∈ session.ledger, 0 < key.2 ∧ key.2 ≤ session.selector.lastRequest
  latest : ∀ kind, session.selector.latest kind ≤ session.selector.lastRequest
  kept : session.selector.mounted = true → ∀ kind, session.selector.latest kind ≠ 0 →
    (kind, session.selector.latest kind) ∈ session.ledger
  loading : session.selector.loading = true ↔ session.selector.mounted = true ∧
    session.selector.latestSearch ≠ 0 ∧
      (RequestKind.search, session.selector.latestSearch) ∉ session.receipts

namespace Accounted

variable {session session' : Session α}

theorem start (profile : Profile α) : Accounted (start profile) where
  nodup := List.nodup_nil
  bound := by simp [ledger, outstanding, receipts, Session.start]
  latest kind := by cases kind <;> exact Nat.le_refl 0
  kept _ kind hlatest := by cases kind <;> exact absurd rfl hlatest
  loading := by simp [Session.start]

/-- Nothing enters the ledger and nothing leaves it. -/
theorem of_perm (h : Accounted session) (hledger : session'.ledger ~ session.ledger)
    (hreceipts : session'.receipts = session.receipts)
    (hselector : Selector.SameSearch session.selector session'.selector) : Accounted session' where
  nodup := (hledger.map Prod.snd).nodup_iff.2 h.nodup
  bound key hkey := by
    rw [hselector.lastRequest]
    exact h.bound key (hledger.mem_iff.1 hkey)
  latest kind := by
    rw [hselector.latest, hselector.lastRequest]
    exact h.latest kind
  kept hmounted kind hlatest := by
    rw [hselector.latest] at hlatest ⊢
    rw [hselector.mounted] at hmounted
    exact hledger.mem_iff.2 (h.kept hmounted kind hlatest)
  loading := by
    have hlatest : session'.selector.latestSearch = session.selector.latestSearch :=
      hselector.latest .search
    rw [hselector.loading, hselector.mounted, hreceipts, hlatest]
    exact h.loading

/-- What has been received was in the ledger. -/
theorem receipt_le (h : Accounted session) {key : RequestKey} (hkey : key ∈ session.receipts) :
    key.2 ≤ session.selector.lastRequest :=
  (h.bound key (List.mem_append_right _ hkey)).2

/-- A request has been entered under the next id, as the latest of its kind. -/
theorem opened (h : Accounted session) {kind : RequestKind}
    (hledger : session'.ledger ~ (kind, session.selector.lastRequest + 1) :: session.ledger)
    (hmounted : session'.selector.mounted = session.selector.mounted)
    (hlast : session'.selector.lastRequest = session.selector.lastRequest + 1)
    (hlatest : ∀ other, session'.selector.latest other =
      if other = kind then session.selector.lastRequest + 1 else session.selector.latest other)
    (hloading : session'.selector.loading = true ↔ session'.selector.mounted = true ∧
      session'.selector.latestSearch ≠ 0 ∧
        (RequestKind.search, session'.selector.latestSearch) ∉ session'.receipts) :
    Accounted session' where
  nodup := by
    rw [(hledger.map Prod.snd).nodup_iff, List.map_cons, List.nodup_cons]
    refine ⟨fun hmem => ?_, h.nodup⟩
    obtain ⟨key, hkey, hid⟩ := List.mem_map.1 hmem
    have := (h.bound key hkey).2
    omega
  bound key hkey := by
    rw [hlast]
    rcases List.mem_cons.1 (hledger.mem_iff.1 hkey) with rfl | hkey
    · exact ⟨Nat.succ_pos _, Nat.le_refl _⟩
    · have := h.bound key hkey
      omega
  latest other := by
    have hold := h.latest other
    rw [hlatest, hlast]
    split <;> omega
  kept hm other hne := by
    rw [hlatest] at hne ⊢
    rw [hledger.mem_iff]
    split at hne
    next hkind => simp [hkind]
    next hkind =>
      rw [if_neg hkind]
      exact List.mem_cons_of_mem _ (h.kept (hmounted ▸ hm) other hne)
  loading := hloading

theorem typed (h : Accounted session) {query : String} {task : Task}
    (hkey : task.key = (.search, session.selector.lastRequest + 1))
    (hmounted : session.selector.mounted = true)
    (hsame : SameRequests (session.spawn task) session')
    (hselector : session'.selector =
      { session.selector with
        query
        hasError := false
        loading := true
        lastRequest := session.selector.lastRequest + 1
        latestSearch := session.selector.lastRequest + 1 }) : Accounted session' := by
  have hledger : session'.ledger ~
      (.search, session.selector.lastRequest + 1) :: session.ledger := by
    rw [hsame.ledger, ← hkey]
    exact (outstanding_spawn session task).append_right _
  have hreceipts : session'.receipts = session.receipts := hsame.receipts
  have hfresh : (RequestKind.search, session.selector.lastRequest + 1) ∉ session.receipts :=
    fun hmem => Nat.not_succ_le_self _ (h.receipt_le hmem)
  refine h.opened hledger ?_ ?_ ?_ ?_ <;> rw [hselector]
  · intro other
    cases other <;> rfl
  · simp [hreceipts, hmounted, hfresh]

theorem asked (h : Accounted session) {selection : Selection} {task : Task}
    (hkey : task.key = (.lookup, session.selector.lastRequest + 1))
    (hsame : SameRequests (session.spawn task) session')
    (hselector : session'.selector =
      { session.selector with
        selection
        labelsFor := some selection
        lastRequest := session.selector.lastRequest + 1
        latestLookup := session.selector.lastRequest + 1 }) : Accounted session' := by
  have hledger : session'.ledger ~
      (.lookup, session.selector.lastRequest + 1) :: session.ledger := by
    rw [hsame.ledger, ← hkey]
    exact (outstanding_spawn session task).append_right _
  have hreceipts : session'.receipts = session.receipts := hsame.receipts
  refine h.opened hledger ?_ ?_ ?_ ?_ <;> rw [hselector]
  · intro other
    cases other <;> rfl
  · rw [hreceipts]
    exact h.loading

theorem took (h : Accounted session) {outcomes rest : List Outcome}
    (hchannel : session.channel = outcomes ++ rest)
    (hsame : SameRequests (session.takeOut outcomes) session')
    (hselector : session'.selector = outcomes.foldl Selector.take session.selector) :
    Accounted session' := by
  obtain ⟨hledger, hreceipts⟩ := takeOut_spec h.nodup hchannel
  rw [← hsame.ledger] at hledger
  rw [← hsame.receipts] at hreceipts
  have hmounted : session'.selector.mounted = session.selector.mounted := by
    rw [hselector, Selector.foldl_take_mounted]
  have hlatest : ∀ kind, session'.selector.latest kind = session.selector.latest kind := by
    intro kind
    rw [hselector, Selector.foldl_take_latest]
  have hlast : session'.selector.lastRequest = session.selector.lastRequest := by
    rw [hselector, Selector.foldl_take_lastRequest]
  refine ⟨(hledger.map Prod.snd).nodup_iff.2 h.nodup, ?_, ?_, ?_, ?_⟩
  · intro key hkey
    rw [hlast]
    exact h.bound key (hledger.mem_iff.1 hkey)
  · intro kind
    rw [hlatest, hlast]
    exact h.latest kind
  · intro hm kind hne
    rw [hlatest] at hne ⊢
    exact hledger.mem_iff.2 (h.kept (hmounted ▸ hm) kind hne)
  · have hsearch : session'.selector.latestSearch = session.selector.latestSearch :=
      hlatest .search
    rw [hmounted, hsearch, hreceipts, List.mem_append, not_or, hselector,
      Selector.foldl_take_loading, h.loading]
    tauto

/-- What has left the ledger was not wanted any more: the selector is unmounted. -/
theorem of_sublist (h : Accounted session) (hledger : session'.ledger <+ session.ledger)
    (hmounted : session'.selector.mounted = false) (hloading : session'.selector.loading = false)
    (hlast : session.selector.lastRequest ≤ session'.selector.lastRequest)
    (hlatest : ∀ kind, session'.selector.latest kind ≤ session'.selector.lastRequest) :
    Accounted session' where
  nodup := (hledger.map Prod.snd).nodup h.nodup
  bound key hkey := by
    have := h.bound key (hledger.subset hkey)
    omega
  latest := hlatest
  kept hm := by simp [hmounted] at hm
  loading := by simp [hmounted, hloading]

/-- A search that has been superseded gives up. -/
theorem superseded (h : Accounted session) {task : Task} (hmem : task ∈ session.tasks)
    (hkind : task.kind = .search) (hlatest : session.selector.latestSearch ≠ task.id) :
    Accounted (session.remove task.id) where
  nodup := ((ledger_remove session task.id).map Prod.snd).nodup h.nodup
  bound key hkey := h.bound key ((ledger_remove session task.id).subset hkey)
  latest := h.latest
  kept hmounted kind hne := by
    have hremove := outstanding_remove (tasks_nodup h.nodup) hmem
    have hledger : session.ledger ~ task.key :: (session.remove task.id).ledger :=
      hremove.append_right session.receipts
    have hentry := hledger.mem_iff.1 (h.kept hmounted kind hne)
    rcases List.mem_cons.1 hentry with hentry | hentry
    · exfalso
      obtain ⟨hkind', hid⟩ := Prod.mk.injEq .. ▸ hentry
      rw [hkind'.trans hkind] at hid
      exact hlatest hid
    · exact hentry
  loading := h.loading

theorem effect {action : Step α} (h : Accounted session)
    (heffect : Effect session action session') : Accounted session' := by
  have htasks := tasks_nodup h.nodup
  cases heffect with
  | aside hstalls hsame hselector =>
      exact h.of_perm (hsame.ledger ▸ .refl _) hsame.receipts hselector
  | typed hmounted hsame hselector => exact h.typed rfl hmounted hsame hselector
  | asked hstarts hsame hselector => exact h.asked rfl hsame hselector
  | took hrest haction hsame hselector =>
      obtain ⟨rest, hrest⟩ := hrest
      exact h.took hrest hsame hselector
  | unmounted hsame hselector =>
      have hledger : session'.ledger <+ session.ledger := by
        rw [hsame.ledger]
        exact ledger_closed session
      refine h.of_sublist hledger ?_ ?_ ?_ ?_ <;> rw [hselector]
      · exact Nat.le_succ _
      · intro kind
        cases kind with
        | search => exact Nat.le_refl _
        | lookup => exact Nat.le_succ_of_le (h.latest .lookup)
  | called htask hstage hdue hlatest hsame hselector =>
      have hledger := ledger_callFor htasks (mem_of_task? htask).1
      exact h.of_perm (hsame.ledger ▸ hledger) (hsame.receipts.trans (receipts_callFor session _))
        (Selector.SameSearch.of_eq hselector)
  | superseded htask hstage hdue hkind hlatest =>
      obtain ⟨hmem, rfl⟩ := mem_of_task? htask
      exact h.superseded hmem hkind hlatest
  | sent htask hstage hmounted hplaces =>
      obtain ⟨hmem, rfl⟩ := mem_of_task? htask
      exact h.of_perm (ledger_remove_enqueue _ htasks hmem) rfl (Selector.SameSearch.refl _)
  | blocked htask hstage hmounted hplaces =>
      exact h.of_perm ((outstanding_move _ htasks (mem_of_task? htask).1).append_right _) rfl
        (Selector.SameSearch.refl _)
  | lost htask hstage hmounted =>
      have hloading : session.selector.loading = false := by
        have hloading := h.loading
        simpa [hmounted] using hloading
      exact h.of_sublist (ledger_remove session _) hmounted hloading (Nat.le_refl _) h.latest
  | filled htask hstage =>
      obtain ⟨hmem, rfl⟩ := mem_of_task? htask
      exact h.of_perm (ledger_remove_enqueue _ htasks hmem) rfl (Selector.SameSearch.refl _)
  | waited ms => exact h.of_perm (.refl _) rfl (Selector.SameSearch.refl _)

theorem along (h : Accounted session) (steps : List (Step α)) : Accounted (session.run steps) := by
  induction steps using List.reverseRecOn with
  | nil => exact h
  | append_singleton steps action ih =>
      rw [run_concat]
      exact ih.effect (step_effect _ action)

theorem run (profile : Profile α) (steps : List (Step α)) :
    Accounted ((Session.start profile).run steps) :=
  (start profile).along steps

/-- A run keeps what every step keeps while the books are right. -/
theorem keeps (h : Accounted session) {invariant : Session α → Prop} (hstart : invariant session)
    (hstep : ∀ {before after : Session α} {action : Step α}, invariant before →
      Accounted before → Effect before action after → invariant after)
    (steps : List (Step α)) : invariant (session.run steps) := by
  induction steps using List.reverseRecOn with
  | nil => exact hstart
  | append_singleton steps action ih =>
      rw [run_concat]
      exact hstep ih (h.along steps) (step_effect _ action)

end Accounted

end Session

end IssueDesk
