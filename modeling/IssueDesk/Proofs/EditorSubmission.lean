import IssueDesk.Proofs.EditorProjects
import IssueDesk.Proofs.TrimmedText

/-! What comes of submitting the form. Each check of the form is stated by itself (`HasFlaw`), with
the name as it is without the blanks around it; a form that passes them all sends what it holds, and
any other form is told the first check that it fails, and stays as it is. What is sent has no blanks
around its name, so that opening it and sending it again gives the same subscription. -/

namespace IssueDesk

/-- The checks of a form, in the order in which they are made. -/
def SubscriptionFlaw.order : List SubscriptionFlaw :=
  [missingName, nameTooLong, missingProjects, missingEvents, missingRoles]

theorem SubscriptionFlaw.mem_order (flaw : SubscriptionFlaw) : flaw ∈ order := by
  cases flaw <;> decide

namespace Editor

/-- The form does not pass the check. A name of blanks is none, and lengths are in characters. -/
def HasFlaw (editor : Editor) : SubscriptionFlaw → Prop
  | .missingName => Text.Trims editor.name ""
  | .nameTooLong => ∃ name, Text.Trims editor.name name ∧ 100 < Text.charCount name
  | .missingProjects => editor.filters.projects = []
  | .missingEvents => editor.filters.events = []
  | .missingRoles => editor.filters.selfRoles = []

/-- A check that the form does not pass, after having passed those before it. -/
def IsFirstFlaw (editor : Editor) (flaw : SubscriptionFlaw) : Prop :=
  ∃ earlier later, SubscriptionFlaw.order = earlier ++ flaw :: later ∧ editor.HasFlaw flaw ∧
    ∀ passed ∈ earlier, ¬editor.HasFlaw passed

/-- Everything is there that a subscription needs. -/
structure Complete (editor : Editor) : Prop where
  name : ∃ name, Text.Trims editor.name name ∧ 1 ≤ Text.charCount name ∧ Text.charCount name ≤ 100
  projects : editor.filters.projects ≠ []
  events : editor.filters.events ≠ []
  selfRoles : editor.filters.selfRoles ≠ []

theorem hasFlaw_missingName {editor : Editor} :
    editor.HasFlaw .missingName ↔ (Text.trim editor.name).isEmpty = true := by
  rw [HasFlaw, Text.trims_iff, String.isEmpty_iff, eq_comm]

theorem hasFlaw_nameTooLong {editor : Editor} :
    editor.HasFlaw .nameTooLong ↔ maxNameLength < Text.charCount (Text.trim editor.name) := by
  constructor
  · rintro ⟨name, htrims, hlong⟩
    rwa [Text.trims_iff.1 htrims] at hlong
  · intro hlong
    exact ⟨_, Text.trims_trim editor.name, hlong⟩

instance (editor : Editor) : (flaw : SubscriptionFlaw) → Decidable (editor.HasFlaw flaw)
  | .missingName => decidable_of_iff' _ hasFlaw_missingName
  | .nameTooLong => decidable_of_iff' _ hasFlaw_nameTooLong
  | .missingProjects => inferInstanceAs (Decidable (_ = _))
  | .missingEvents => inferInstanceAs (Decidable (_ = _))
  | .missingRoles => inferInstanceAs (Decidable (_ = _))

theorem find?_hasFlaw_cons (editor : Editor) (flaw : SubscriptionFlaw)
    (later : List SubscriptionFlaw) :
    ((flaw :: later).find? fun flaw => editor.HasFlaw flaw) =
      if editor.HasFlaw flaw then some flaw else later.find? fun flaw => editor.HasFlaw flaw := by
  by_cases h : editor.HasFlaw flaw
  · simp [h]
  · simp [h]

/-- The checks are made in their order, and the first that fails is told. -/
theorem flaw?_eq_find? (editor : Editor) :
    editor.flaw? = SubscriptionFlaw.order.find? fun flaw => editor.HasFlaw flaw := by
  simp only [flaw?, SubscriptionFlaw.order, find?_hasFlaw_cons, List.find?_nil,
    ← hasFlaw_missingName, ← hasFlaw_nameTooLong, List.isEmpty_iff]
  rfl

theorem flaw?_eq_some_iff {editor : Editor} {flaw : SubscriptionFlaw} :
    editor.flaw? = some flaw ↔ editor.IsFirstFlaw flaw := by
  rw [flaw?_eq_find?, List.find?_eq_some_iff_append]
  simp only [decide_eq_true_eq, Bool.not_eq_true', decide_eq_false_iff_not]
  constructor
  · rintro ⟨hflaw, earlier, later, hsplit, hpassed⟩
    exact ⟨earlier, later, hsplit, hflaw, hpassed⟩
  · rintro ⟨earlier, later, hsplit, hflaw, hpassed⟩
    exact ⟨hflaw, earlier, later, hsplit, hpassed⟩

/-- A form is complete just if it passes every check. -/
theorem complete_iff {editor : Editor} : editor.Complete ↔ ∀ flaw, ¬editor.HasFlaw flaw := by
  constructor
  · rintro ⟨⟨name, htrims, hsome, hshort⟩, hprojects, hevents, hroles⟩ flaw hflaw
    cases flaw with
    | missingName =>
        rw [(Text.trims_iff.1 htrims).trans (Text.trims_iff.1 hflaw).symm] at hsome
        exact absurd hsome (by decide)
    | nameTooLong =>
        obtain ⟨name', htrims', hlong⟩ := hflaw
        rw [(Text.trims_iff.1 htrims').trans (Text.trims_iff.1 htrims).symm] at hlong
        omega
    | missingProjects => exact hprojects hflaw
    | missingEvents => exact hevents hflaw
    | missingRoles => exact hroles hflaw
  · intro hnone
    have hname := hnone .missingName
    have hlength := hnone .nameTooLong
    rw [hasFlaw_missingName, String.isEmpty_iff, ← String.toList_eq_nil_iff] at hname
    rw [hasFlaw_nameTooLong, Nat.not_lt] at hlength
    refine ⟨⟨_, Text.trims_trim editor.name, List.length_pos_iff.2 hname, hlength⟩, ?_, ?_, ?_⟩
    · exact hnone .missingProjects
    · exact hnone .missingEvents
    · exact hnone .missingRoles

theorem flaw?_eq_none_iff {editor : Editor} : editor.flaw? = none ↔ editor.Complete := by
  rw [flaw?_eq_find?, List.find?_eq_none, complete_iff]
  constructor
  · intro hnone flaw hflaw
    exact hnone flaw flaw.mem_order (decide_eq_true hflaw)
  · intro hnone flaw _ hflaw
    exact hnone flaw (of_decide_eq_true hflaw)

theorem submit_of_complete {editor : Editor} (h : editor.Complete) :
    editor.submit = ({ editor with submitting := true, error := none }, .ok editor.payload) := by
  rw [submit, flaw?_eq_none_iff.2 h]

theorem submit_of_flaw {editor : Editor} {flaw : SubscriptionFlaw} (h : editor.IsFirstFlaw flaw) :
    editor.submit = (editor, .error flaw) := by
  rw [submit, flaw?_eq_some_iff.2 h]

theorem IsFirstFlaw.not_complete {editor : Editor} {flaw : SubscriptionFlaw}
    (h : editor.IsFirstFlaw flaw) : ¬editor.Complete := by
  obtain ⟨-, -, -, hflaw, -⟩ := h
  exact fun hcomplete => complete_iff.1 hcomplete flaw hflaw

/-- A submission has one of two ends. -/
theorem complete_or_isFirstFlaw (editor : Editor) :
    editor.Complete ∨ ∃ flaw, editor.IsFirstFlaw flaw := by
  cases hflaw : editor.flaw? with
  | none => exact Or.inl (flaw?_eq_none_iff.1 hflaw)
  | some flaw => exact Or.inr ⟨flaw, flaw?_eq_some_iff.1 hflaw⟩

theorem submit_eq_ok_iff {editor : Editor} {sent : Subscription} :
    editor.submit.2 = .ok sent ↔ editor.Complete ∧ editor.payload = sent := by
  rcases editor.complete_or_isFirstFlaw with hcomplete | ⟨flaw, hflaw⟩
  · rw [submit_of_complete hcomplete, Except.ok.injEq]
    exact (and_iff_right hcomplete).symm
  · rw [submit_of_flaw hflaw]
    exact iff_of_false nofun fun h => hflaw.not_complete h.1

theorem submit_eq_error_iff {editor : Editor} {flaw : SubscriptionFlaw} :
    editor.submit.2 = .error flaw ↔ editor.IsFirstFlaw flaw := by
  constructor
  · intro hrefused
    rcases editor.complete_or_isFirstFlaw with hcomplete | ⟨first, hfirst⟩
    · rw [submit_of_complete hcomplete] at hrefused
      cases hrefused
    · rw [submit_of_flaw hfirst] at hrefused
      cases hrefused
      exact hfirst
  · intro hflaw
    rw [submit_of_flaw hflaw]

/-- The subscription is what the form holds, the blanks around the name apart. -/
structure Holds (editor : Editor) (subscription : Subscription) : Prop where
  id : subscription.id = editor.existingId
  channelId : subscription.channelId = editor.channelId
  name : Text.Trims editor.name subscription.name
  instanceId : subscription.instanceId = editor.instanceId
  filters : subscription.filters = editor.filters

theorem holds_payload (editor : Editor) : editor.Holds editor.payload :=
  ⟨rfl, rfl, Text.trims_trim editor.name, rfl, rfl⟩

theorem payload_edit_payload (editor : Editor) :
    (edit editor.payload).payload = editor.payload := by
  have hname : Text.trim editor.payload.name = editor.payload.name := Text.trim_trim editor.name
  rw [payload, show (edit editor.payload).name = editor.payload.name from rfl, hname]
  rfl

theorem Complete.edit_payload {editor : Editor} (h : editor.Complete) :
    (edit editor.payload).Complete := by
  obtain ⟨⟨name, htrims, hlength⟩, hprojects, hevents, hroles⟩ := h
  obtain rfl : name = editor.payload.name := Text.trims_iff.1 htrims
  have hsame : Text.Trims editor.payload.name editor.payload.name :=
    Text.trims_iff.2 (Text.trim_trim editor.name).symm
  exact ⟨⟨_, hsame, hlength⟩, hprojects, hevents, hroles⟩

/-- A form sends exactly if it is complete, and is told the first check that it fails exactly if it
is not; then it stays as it is. A form that sends is marked as submitting, shows no failure, and is
otherwise as before. It sends what it holds, and that, opened again, is sent again as it is. So a
stored subscription that is opened and sent changes at most in the blanks around its name. -/
theorem submission_is_exact (editor : Editor) :
    ((∃ sent, editor.submit.2 = .ok sent) ↔ editor.Complete) ∧
    (∀ flaw, editor.submit.2 = .error flaw ↔ editor.IsFirstFlaw flaw) ∧
    (∀ flaw, editor.submit.2 = .error flaw → editor.submit.1 = editor) ∧
    (∀ sent, editor.submit.2 = .ok sent →
      editor.submit.1 = { editor with submitting := true, error := none } ∧
      editor.Holds sent ∧ (edit sent).submit.2 = .ok sent) ∧
    ∀ stored sent : Subscription, (edit stored).submit.2 = .ok sent →
      sent = { stored with name := sent.name } ∧ Text.Trims stored.name sent.name := by
  refine ⟨?_, fun flaw => submit_eq_error_iff, ?_, ?_, ?_⟩
  · constructor
    · rintro ⟨sent, hsent⟩
      exact (submit_eq_ok_iff.1 hsent).1
    · intro hcomplete
      exact ⟨_, submit_eq_ok_iff.2 ⟨hcomplete, rfl⟩⟩
  · intro flaw hrefused
    rw [submit_of_flaw (submit_eq_error_iff.1 hrefused)]
  · intro sent hsent
    obtain ⟨hcomplete, rfl⟩ := submit_eq_ok_iff.1 hsent
    refine ⟨?_, editor.holds_payload, ?_⟩
    · rw [submit_of_complete hcomplete]
    · exact submit_eq_ok_iff.2 ⟨hcomplete.edit_payload, editor.payload_edit_payload⟩
  · intro stored sent hsent
    obtain ⟨-, rfl⟩ := submit_eq_ok_iff.1 hsent
    exact ⟨rfl, Text.trims_trim stored.name⟩

def spacedSubscription : Subscription := { storedSubscription with name := "\u2003 Ops\n" }

/-- A form with too long a name and nothing else. -/
def longNamed : Editor := { create "channel1" with name := String.ofList (List.replicate 101 'x') }

theorem spaced_name_is_sent_trimmed :
    (edit spacedSubscription).Complete ∧
      (edit spacedSubscription).submit.2 = .ok storedSubscription ∧
      (edit spacedSubscription).submit.1 =
        { edit spacedSubscription with submitting := true, error := none } ∧
      (edit storedSubscription).submit.2 = .ok storedSubscription ∧
      Text.Trims "\u2003 Ops\n" "Ops" ∧ longNamed.submit.2 = .error .nameTooLong ∧
      longNamed.IsFirstFlaw .nameTooLong ∧ longNamed.submit.1 = longNamed := by
  have hpassed : (edit spacedSubscription).flaw? = none := by decide +kernel
  have hsent : (edit spacedSubscription).submit.2 = .ok storedSubscription :=
    submit_eq_ok_iff.2 ⟨flaw?_eq_none_iff.1 hpassed, by decide +kernel⟩
  have hflaw : longNamed.flaw? = some .nameTooLong := by decide +kernel
  have hrefused : longNamed.submit.2 = .error .nameTooLong :=
    submit_eq_error_iff.2 (flaw?_eq_some_iff.1 hflaw)
  obtain ⟨hcomplete, -, -, hkept, hstored⟩ := submission_is_exact (edit spacedSubscription)
  obtain ⟨-, hfirst, hsame, -⟩ := submission_is_exact longNamed
  obtain ⟨hafter, -, hagain⟩ := hkept _ hsent
  exact ⟨hcomplete.1 ⟨_, hsent⟩, hsent, hafter, hagain, (hstored _ _ hsent).2, hrefused,
    (hfirst _).1 hrefused, hsame _ hrefused⟩

end Editor

end IssueDesk
