import IssueDesk.IssueMetadata
import IssueDesk.Proofs.CodecEdits
import IssueDesk.Subscription.Filters
import IssueDesk.Tracker.Entity
import IssueDesk.Tracker.Envelope

/-! The types on the wire, each read back from what is written of it. For a record type it is enough
that its fields have different keys and are read back themselves, and that one which is not written
stands for what is not there. A set is written as its keys in order, and a map as its entries, so
both are found again by putting them in one after the other. -/

namespace IssueDesk

open Wire

/-! Sets and maps. -/

/-- What is put in behind all that is there stays in its order. -/
theorem foldl_insert_of_pairwise {β γ : Type} {insert : γ → β → γ} (held : γ → List β)
    (key : β → String) (hinsert : ∀ collection item,
      (∀ other ∈ held collection, key other < key item) →
        held (insert collection item) = held collection ++ [item])
    (items : List β) {collection : γ}
    (h : (held collection ++ items).Pairwise fun first second => key first < key second) :
    held (items.foldl insert collection) = held collection ++ items := by
  induction items generalizing collection with
  | nil => simp
  | cons item rest ih =>
      have hbefore : ∀ other ∈ held collection, key other < key item := fun other hother =>
        (List.pairwise_append.1 h).2.2 other hother item List.mem_cons_self
      have hheld := hinsert collection item hbefore
      rw [List.foldl_cons, ih (by rw [hheld]; simpa using h), hheld]
      simp

theorem insertEntry_of_forall_lt {key : String} {value : α} {entries : List (String × α)}
    (h : ∀ entry ∈ entries, entry.1 < key) :
    insertEntry key value entries = entries ++ [(key, value)] := by
  induction entries with
  | nil => rfl
  | cons entry rest ih =>
      obtain ⟨hfirst, hrest⟩ := List.forall_mem_cons.1 h
      have hlt : ¬ key < entry.1 := String.lt_asymm hfirst
      have hne : key ≠ entry.1 := (String.ne_of_lt hfirst).symm
      simp [insertEntry, hlt, hne, ih hrest]

theorem insertKey_of_forall_lt {key : String} {keys : List String} (h : ∀ k ∈ keys, k < key) :
    insertKey key keys = keys ++ [key] := by
  have hentries : insertEntry key () (keys.map (·, ())) = keys.map (·, ()) ++ [(key, ())] :=
    insertEntry_of_forall_lt (by simpa using h)
  have hkeys := congrArg (List.map Prod.fst) hentries
  rw [keys_insertEntry] at hkeys
  simpa [Function.comp_def] using hkeys

theorem KeySet.ofList_keys (set : KeySet) : ofList set.keys = set := by
  have hkeys : (ofList set.keys).keys = empty.keys ++ set.keys :=
    foldl_insert_of_pairwise KeySet.keys id (fun _ _ h => insertKey_of_forall_lt h)
      set.keys set.increasing
  rcases set with ⟨keys, increasing⟩
  exact (KeySet.mk.injEq ..).mpr hkeys

theorem KeyMap.ofList_entries (map : KeyMap α) : ofList map.entries = map := by
  have hentries : (ofList map.entries).entries = empty.entries ++ map.entries :=
    foldl_insert_of_pairwise KeyMap.entries Prod.fst (fun _ _ h => insertEntry_of_forall_lt h)
      map.entries (List.pairwise_map.1 map.increasing)
  rcases map with ⟨entries, increasing⟩
  exact (KeyMap.mk.injEq ..).mpr hentries

/-! The types. -/

theorem SelectOption.roundTrips : SelectOption.codec.RoundTrips :=
  .of_record (by decide) (fun _ => rfl) (fun _ => rfl)
    ⟨.required .text, .required .text, .omittable .text nofun, trivial⟩

theorem BackendError.roundTrips : BackendError.codec.RoundTrips :=
  .of_record (by decide) (fun _ => rfl) (fun _ => rfl) ⟨.required .text, trivial⟩

theorem Envelope.roundTrips {item : Codec α} (h : item.Faithful) :
    (Envelope.codec item).RoundTrips :=
  have hdistinct : ["data", "error"].Nodup := by decide
  .of_record hdistinct (fun _ => rfl) (fun _ => rfl)
    ⟨.nullable h.list nofun,
      .nullable BackendError.roundTrips.faithful BackendError.roundTrips.encode_ne_null, trivial⟩

theorem User.avatars_faithful : User.avatarCodec.Faithful := by
  intro origin urls
  have hentries : ∀ entries : List (String × String),
      Codec.text.decodeMembers origin none
        (Document.ofMembers (entries.map fun entry => (entry.1, .text entry.2))) = .ok entries := by
    intro entries
    induction entries with
    | nil => rfl
    | cons entry rest ih =>
        simp only [List.map_cons, Document.ofMembers, Codec.decodeMembers, bind_eq_ok, pure_eq_ok]
        exact ⟨entry.1, rfl, entry.2, rfl, rest, ih, rfl⟩
  exact map_eq_ok.2 ⟨urls.entries, hentries urls.entries, KeyMap.ofList_entries urls⟩

theorem User.roundTrips : User.codec.RoundTrips :=
  .of_record (by decide) (fun _ => rfl) (fun _ => rfl)
    ⟨.withDefault .text, .optional .text nofun, .required .text, .withDefault avatars_faithful,
      trivial⟩

theorem Transition.target_roundTrips : Transition.targetCodec.RoundTrips :=
  .of_record (by decide) (fun _ => rfl) (fun _ => rfl) ⟨.required .text, trivial⟩

theorem Transition.roundTrips : Transition.codec.RoundTrips :=
  .of_record (by decide) (fun _ => rfl) (fun _ => rfl)
    ⟨.required .text, .required .text, .required target_roundTrips.faithful, trivial⟩

theorem Issue.summary_roundTrips : Issue.summaryCodec.RoundTrips :=
  .of_record (by decide) (fun _ => rfl) (fun _ => rfl) ⟨.withDefault .text, trivial⟩

theorem Issue.roundTrips : Issue.codec.RoundTrips :=
  .of_record (by decide) (fun _ => rfl) (fun _ => rfl)
    ⟨.required .text, .withDefault summary_roundTrips.faithful, trivial⟩

theorem Instance.roundTrips : Instance.codec.RoundTrips :=
  .of_record (by decide) (fun _ => rfl) (fun _ => rfl)
    ⟨.required .text, .optional .text nofun, trivial⟩

theorem ProjectList.roundTrips : ProjectList.codec.RoundTrips :=
  .of_record (by decide) (fun _ => rfl) (fun _ => rfl)
    ⟨.withDefault SelectOption.roundTrips.faithful.list, .optional .text nofun, trivial⟩

theorem IssueType.roundTrips : IssueType.codec.RoundTrips :=
  .of_record (by decide) (fun _ => rfl) (fun _ => rfl)
    ⟨.required .text, .required .text, trivial⟩

theorem CustomField.keys_faithful : CustomField.keysCodec.Faithful :=
  Codec.Faithful.text.list.convert KeySet.ofList_keys

theorem CustomField.roundTrips : CustomField.codec.RoundTrips :=
  .of_record (by decide) (fun _ => rfl) (fun _ => rfl)
    ⟨.required .text, .required .text, .withDefault keys_faithful, .withDefault keys_faithful,
      trivial⟩

theorem IssueMetadata.roundTrips : IssueMetadata.codec.RoundTrips :=
  .of_record (by decide) (fun _ => rfl) (fun _ => rfl)
    ⟨.withDefault IssueType.roundTrips.faithful.list,
      .withDefault CustomField.roundTrips.faithful.list, trivial⟩

theorem Inclusion.faithful : Inclusion.variants.codec.Faithful :=
  Variants.faithful fun inclusion => by cases inclusion <;> decide

theorem FieldFilter.roundTrips : FieldFilter.codec.RoundTrips :=
  .of_record (by decide) (fun _ => rfl) (fun _ => rfl)
    ⟨.required .text, .withDefault Inclusion.faithful, .withDefault Codec.Faithful.text.list,
      trivial⟩

theorem Filters.roundTrips : Filters.codec.RoundTrips :=
  have htexts := Codec.Faithful.text.list
  .of_record (by decide) (fun _ => rfl) (fun _ => rfl)
    ⟨.withDefault htexts, .withDefault htexts, .withDefault htexts,
      .withDefault FieldFilter.roundTrips.faithful.list, .withDefault htexts, trivial⟩

theorem Subscription.roundTrips : Subscription.codec.RoundTrips :=
  .of_record (by decide) (fun _ => rfl) (fun _ => rfl)
    ⟨.omittable .text nofun, .required .text, .required .text, .required .text,
      .required Filters.roundTrips.faithful, trivial⟩

/-- Whatever is written of a value of a wire type is read as that value, from text, from a value
and from settings, and so is all that can be made of it by ordering the members of the records in it
anew, by adding members that such a record does not know and by leaving out those whose field holds
the value of an absent one. -/
theorem wire_types_round_trip :
    SelectOption.codec.RoundTrips ∧
      (Envelope.codec User.codec).RoundTrips ∧ (Envelope.codec Transition.codec).RoundTrips ∧
      (Envelope.codec Issue.codec).RoundTrips ∧
      (Envelope.codec SelectOption.codec).RoundTrips ∧
      User.codec.RoundTrips ∧ Transition.codec.RoundTrips ∧ Issue.codec.RoundTrips ∧
      Instance.codec.RoundTrips ∧ ProjectList.codec.RoundTrips ∧ IssueType.codec.RoundTrips ∧
      CustomField.codec.RoundTrips ∧ IssueMetadata.codec.RoundTrips ∧
      FieldFilter.codec.RoundTrips ∧ Filters.codec.RoundTrips ∧ Subscription.codec.RoundTrips :=
  ⟨SelectOption.roundTrips, Envelope.roundTrips User.roundTrips.faithful,
    Envelope.roundTrips Transition.roundTrips.faithful,
    Envelope.roundTrips Issue.roundTrips.faithful,
    Envelope.roundTrips SelectOption.roundTrips.faithful, User.roundTrips, Transition.roundTrips,
    Issue.roundTrips, Instance.roundTrips, ProjectList.roundTrips, IssueType.roundTrips,
    CustomField.roundTrips, IssueMetadata.roundTrips, FieldFilter.roundTrips, Filters.roundTrips,
    Subscription.roundTrips⟩

/-- A subscription in which a filter excludes values of one field and another one has no values. -/
def sampleSubscription : Subscription where
  id := none
  channelId := "town"
  name := "bugs"
  instanceId := "inst"
  filters :=
    { events := ["created"]
      fields := [⟨"priority", .excludeAny, ["3"]⟩, ⟨"team", .includeAny, []⟩] }

/-- The subscription as another program may write it. -/
def rewrittenSubscription : Json :=
  .object [("note", .null),
    ("filters", .object [("events", .texts ["created"]), ("issue_types", .texts []),
      ("fields", .array [.object [("key", .text "priority"), ("inclusion", .text "exclude_any"),
        ("values", .texts ["3"])], .object [("key", .text "team"), ("values", .texts [])]]),
      ("self", .texts [])]),
    ("channel_id", .text "town"), ("name", .text "bugs"), ("instance_id", .text "inst")]

theorem rewritten_subscription_round_trips :
    Relation.ReflTransGen (Subscription.codec.Edit sampleSubscription)
        (Subscription.codec.encode sampleSubscription) rewrittenSubscription ∧
      Subscription.codec.ofJson rewrittenSubscription = .ok sampleSubscription := by
  let inclusion : Component :=
    ⟨.withDefault "inclusion" Inclusion.variants.codec .includeAny, .includeAny⟩
  let projects : Component := ⟨.withDefault "projects" Codec.text.list [], []⟩
  let fields : Component :=
    ⟨.withDefault "fields" FieldFilter.codec.list [], sampleSubscription.filters.fields⟩
  let filters : Component := ⟨.required "filters" Filters.codec, sampleSubscription.filters⟩
  have hfilter : FieldFilter.codec.IsRecord _ _ :=
    .of_record (by decide) (fun _ => rfl) (fun _ => rfl)
  have hfilters : Filters.codec.IsRecord _ _ :=
    .of_record (by decide) (fun _ => rfl) (fun _ => rfl)
  have hsubscription : Subscription.codec.IsRecord _ _ :=
    .of_record (by decide) (fun _ => rfl) (fun _ => rfl)
  let outer : List (String × Json) :=
    [("channel_id", .text "town"), ("name", .text "bugs"), ("instance_id", .text "inst")]
  have hmember : ∀ json json', Filters.codec.Edit sampleSubscription.filters json json' →
      Subscription.codec.Edit sampleSubscription (.object (outer ++ [("filters", json)]))
        (.object (outer ++ [("filters", json')])) := fun json json' =>
    @Codec.Edit.member _ _ _ _ _ _ sampleSubscription filters json json' outer [] hsubscription
      (.tail _ (.tail _ (.tail _ (.tail _ (.head _)))))
  -- Inside the filters a list without values is left out, and then the choice of the last filter.
  have hprojects := @Codec.Edit.removed _ _ _ _ _ _ sampleSubscription.filters projects
    (.texts []) [("events", .texts ["created"])] [("issue_types", .texts []),
      ("fields", FieldFilter.codec.list.encode sampleSubscription.filters.fields),
      ("self", .texts [])] hfilters (.tail _ (.head _)) rfl
  have hinclusion := @Codec.Edit.removed _ _ _ _ _ _ ⟨"team", .includeAny, []⟩ inclusion
    (.text "include_any") [("key", .text "team")] [("values", .texts [])] hfilter
    (.tail _ (.head _)) rfl
  have hlast := @Codec.Edit.later _ _ ⟨"priority", .excludeAny, ["3"]⟩ _
    (FieldFilter.codec.encode ⟨"priority", .excludeAny, ["3"]⟩) _ _
    (@Codec.Edit.first _ _ _ [] _ _ [] hinclusion)
  have hfields := @Codec.Edit.member _ _ _ _ _ _ sampleSubscription.filters fields _ _
    [("events", .texts ["created"]), ("issue_types", .texts [])] [("self", .texts [])] hfilters
    (.tail _ (.tail _ (.tail _ (.head _)))) hlast
  have hnote : ∀ json, Subscription.codec.Edit sampleSubscription
      (.object (outer ++ [("filters", json)]))
      (.object (outer ++ [("note", .null), ("filters", json)])) := fun json =>
    @Codec.Edit.added _ _ _ _ _ _ _ "note" .null outer [("filters", json)] hsubscription
      (by decide)
  have hedits : Relation.ReflTransGen (Subscription.codec.Edit sampleSubscription)
      (Subscription.codec.encode sampleSubscription) rewrittenSubscription :=
    .head (hmember _ _ hprojects) <| .head (hmember _ _ hfields) <| .head (hnote _) <|
      .single (.permuted hsubscription List.perm_append_comm)
  obtain ⟨-, -, -, -, -, -, -, -, -, -, -, -, -, -, -, hround⟩ := wire_types_round_trip
  exact ⟨hedits, hround.reads .value _ _ hedits⟩

end IssueDesk
