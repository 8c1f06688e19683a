import IssueDesk.Proofs.FirstOccurrences
import IssueDesk.Selector.Source

/-! What a response means for a query. An error in it counts whatever comes with it; else the answer
holds the options of the entities at certain places, in their order (`PickedAt`): a place is chosen
if no earlier option has its value and the option there fits the query. Repetitions are dropped
before the query is looked at, so an option that fits is not listed for one before it that does not.
Hence the list for a query is cut out of the list for none, and an option of the latter is found
again by its own text. -/

namespace IssueDesk

variable {α : Type}

/-- The part of an option that a query can be held against. -/
def SelectOption.part (option : SelectOption) : NarrowBy → String
  | .label => option.label
  | .value => option.value

namespace Source

/-- Nothing is typed, or nothing narrows, or what is typed is the whole of the part that narrows. -/
def Fits (source : Source α) (query : String) (option : SelectOption) : Prop :=
  query ≠ "" → ∀ key, source.narrow = some key → option.part key = query

/-- The options that entities give for a query: at each place the first with its value, if it fits
the query. -/
def Lists (source : Source α) (query : String) (entities : List α)
    (options : List SelectOption) : Prop :=
  let offered := entities.map source.toOption
  PickedAt offered
    (fun place => (∀ earlier < place, (offered.get earlier).value ≠ (offered.get place).value) ∧
      source.Fits query (offered.get place)) options

/-- What a response means for a query. -/
inductive Means (source : Source α) (query : String) :
    Except CallFailure (Envelope α) → Answer → Prop
  | failed (failure : CallFailure) : Means source query (.error failure) (.error (.transport failure))
  | refused {envelope : Envelope α} {error : BackendError} (herror : envelope.error = some error) :
      Means source query (.ok envelope) (.error (.backend error.message))
  | listed {envelope : Envelope α} {options : List SelectOption} (hnone : envelope.error = none)
      (hlists : source.Lists query (envelope.data.getD []) options) :
      Means source query (.ok envelope) (.ok options)

theorem keeps_iff (source : Source α) (query : String) (option : SelectOption) :
    source.keeps query option = true ↔ source.Fits query option := by
  unfold keeps Fits
  by_cases hquery : query = ""
  · simp [hquery]
  · cases source.narrow with
    | none => simp
    | some key => cases key <;> simp [hquery, SelectOption.part]

theorem options_lists (source : Source α) (query : String) (entities : List α) :
    source.Lists query entities (source.options query entities) := by
  have hfirst := distinctBy_pickedAt (·.value) (entities.map source.toOption)
  refine (hfirst.filter (source.keeps query)).congr fun place => ?_
  rw [keeps_iff]

theorem fetch_means (source : Source α) (query : String)
    (response : Except CallFailure (Envelope α)) :
    source.Means query response (source.fetch query response) := by
  cases response with
  | error failure => exact .failed failure
  | ok envelope =>
      cases herror : envelope.error with
      | some error =>
          simp only [fetch, herror]
          exact .refused herror
      | none =>
          simp only [fetch, herror]
          exact .listed herror (source.options_lists query _)

/-- A response means one thing. -/
theorem Means.unique {source : Source α} {query : String}
    {response : Except CallFailure (Envelope α)} {answer other : Answer}
    (h : source.Means query response answer) (h' : source.Means query response other) :
    answer = other := by
  cases h with
  | failed failure =>
      cases h'
      rfl
  | refused herror =>
      cases h' with
      | refused herror' =>
          rw [herror] at herror'
          cases herror'
          rfl
      | listed hnone =>
          rw [herror] at hnone
          cases hnone
  | listed hnone hlists =>
      cases h' with
      | refused herror' =>
          rw [hnone] at herror'
          cases herror'
      | listed _ hlists' => rw [PickedAt.unique hlists hlists']

/-- A query narrows what a response means without one. -/
theorem fetch_eq_map (source : Source α) (query : String)
    (response : Except CallFailure (Envelope α)) :
    source.fetch query response =
      (source.fetch "" response).map (·.filter (source.keeps query)) := by
  cases response with
  | error failure => rfl
  | ok envelope =>
      cases herror : envelope.error with
      | some error => simp only [fetch, herror, Except.map]
      | none =>
          have hall : ∀ options : List SelectOption, options.filter (source.keeps "") = options :=
            fun options => List.filter_eq_self.2 fun option _ => rfl
          simp only [fetch, herror, Except.map, options, hall]

/-- The options for a query are cut out of the full list. -/
theorem exists_full {source : Source α} {query : String}
    {response : Except CallFailure (Envelope α)} {options : List SelectOption}
    (h : source.fetch query response = .ok options) :
    ∃ full, source.fetch "" response = .ok full ∧ options = full.filter (source.keeps query) := by
  rw [fetch_eq_map] at h
  cases hfull : source.fetch "" response with
  | error error =>
      rw [hfull] at h
      cases h
  | ok full =>
      rw [hfull] at h
      cases h
      exact ⟨full, rfl, rfl⟩

theorem keeps_of_unnarrowed {source : Source α} (h : source.narrow = none) (query : String) :
    source.keeps query = fun _ => true := by
  funext option
  simp [keeps, h]

theorem keeps_of_narrowed {source : Source α} {key : NarrowBy} {query : String}
    (h : source.narrow = some key) (hquery : query ≠ "") :
    source.keeps query = fun option => option.part key == query := by
  funext option
  cases key <;> simp [keeps, h, hquery, SelectOption.part]

theorem options_values_nodup (source : Source α) (query : String) (entities : List α) :
    ((source.options query entities).map (·.value)).Nodup :=
  List.pairwise_map.2 ((distinctBy_pairwise _ _).filter _)

/-- An option that is listed when nothing is typed is found again by the part that narrows. -/
theorem found_by_part {source : Source α} {key : NarrowBy}
    {response : Except CallFailure (Envelope α)} {full : List SelectOption} {option : SelectOption}
    (hkey : source.narrow = some key) (hfull : source.fetch "" response = .ok full)
    (hmem : option ∈ full) :
    ∃ found, source.fetch (option.part key) response = .ok found ∧ option ∈ found := by
  have hfits : source.Fits (option.part key) option := by
    intro _ other hother
    rw [hkey] at hother
    cases hother
    rfl
  refine ⟨full.filter (source.keeps (option.part key)), ?_, ?_⟩
  · rw [fetch_eq_map, hfull]
    rfl
  · exact List.mem_filter.2 ⟨hmem, (source.keeps_iff _ _).2 hfits⟩

/-- Every response means one answer for a query: a failed call and an error in the response are
passed on, and otherwise the options are the first ones of their values that fit the query, in the
order of the backend. So their values are distinct, a query that narrows gives just those options of
the full list that have it as their label or value, none besides, and each option of the full list is
found by its own. -/
theorem fetch_is_exact (source : Source α) (query : String)
    (response : Except CallFailure (Envelope α)) :
    (∀ answer, source.fetch query response = answer ↔ source.Means query response answer) ∧
    (∀ envelope, response = .ok envelope → envelope.error = none → envelope.data = none →
      source.fetch query response = .ok []) ∧
    (∀ options, source.fetch query response = .ok options →
      (options.map (·.value)).Nodup ∧
        ∃ full, source.fetch "" response = .ok full ∧ options.Sublist full) ∧
    (source.narrow = none → source.fetch query response = source.fetch "" response) ∧
    ∀ key, source.narrow = some key →
      (query ≠ "" → source.fetch query response =
        (source.fetch "" response).map (·.filter fun option => option.part key == query)) ∧
      ∀ full, source.fetch "" response = .ok full → ∀ option ∈ full,
        ∃ found, source.fetch (option.part key) response = .ok found ∧ option ∈ found := by
  have hmeans := source.fetch_means query response
  refine ⟨fun answer => ⟨fun hanswer => hanswer ▸ hmeans, hmeans.unique⟩, ?_, ?_, ?_, ?_⟩
  · rintro envelope rfl herror hdata
    simp only [fetch, herror, hdata]
    rfl
  · intro options hoptions
    rw [hoptions] at hmeans
    cases hmeans with
    | listed hnone hlists =>
        obtain ⟨full, hfull, hcut⟩ := exists_full hoptions
        refine ⟨?_, full, hfull, ?_⟩
        · rw [PickedAt.unique hlists (source.options_lists query _)]
          exact source.options_values_nodup query _
        · rw [hcut]
          exact List.filter_sublist
  · intro hnarrow
    rw [fetch_eq_map, keeps_of_unnarrowed hnarrow]
    cases source.fetch "" response <;> simp [Except.map]
  · intro key hkey
    refine ⟨fun hquery => ?_, fun full hfull option hmem => found_by_part hkey hfull hmem⟩
    rw [← keeps_of_narrowed hkey hquery]
    exact source.fetch_eq_map query response

/-- Options that are narrowed by their labels. -/
def labelSource : Source SelectOption := { toOption := id, narrow := some .label }

/-- A response that has two values twice, under another label each. -/
def doubledResponse : Except CallFailure (Envelope SelectOption) :=
  .ok {
    data := some [⟨"1", "Done", none⟩, ⟨"2", "Open", none⟩, ⟨"1", "Open", none⟩,
      ⟨"3", "Open", none⟩, ⟨"2", "Blocked", none⟩]
    error := none }

/-- A later option with a value that has gone before is not found by its label, although the one
that went before does not fit. -/
theorem repeated_values_are_listed_once :
    labelSource.narrow = some .label ∧ "Open" ≠ "" ∧
      labelSource.fetch "" doubledResponse =
        .ok [⟨"1", "Done", none⟩, ⟨"2", "Open", none⟩, ⟨"3", "Open", none⟩] ∧
      labelSource.Means "Open" doubledResponse
        (.ok [⟨"2", "Open", none⟩, ⟨"3", "Open", none⟩]) ∧
      (["2", "3"] : List String).Nodup ∧
      labelSource.fetch "Blocked" doubledResponse =
        (labelSource.fetch "" doubledResponse).map
          (·.filter fun option => option.part .label == "Blocked") ∧
      (∃ found, labelSource.fetch "Done" doubledResponse = .ok found ∧
        ⟨"1", "Done", none⟩ ∈ found) ∧
      labelSource.fetch "Open" (.ok ⟨none, none⟩) = .ok [] := by
  have hopen : labelSource.fetch "Open" doubledResponse =
      .ok [⟨"2", "Open", none⟩, ⟨"3", "Open", none⟩] := by rfl
  have hfull : labelSource.fetch "" doubledResponse =
      .ok [⟨"1", "Done", none⟩, ⟨"2", "Open", none⟩, ⟨"3", "Open", none⟩] := by rfl
  obtain ⟨hmeans, -, hlisted, -, -⟩ := fetch_is_exact labelSource "Open" doubledResponse
  obtain ⟨-, -, -, -, hnarrowed⟩ := fetch_is_exact labelSource "Blocked" doubledResponse
  obtain ⟨-, hwithout, -, -, -⟩ := fetch_is_exact labelSource "Open" (.ok ⟨none, none⟩)
  obtain ⟨hblocked, hfound⟩ := hnarrowed .label rfl
  exact ⟨rfl, by decide, hfull, (hmeans _).1 hopen, (hlisted _ hopen).1, hblocked (by decide),
    hfound _ hfull _ List.mem_cons_self, hwithout _ rfl rfl rfl⟩

end Source

end IssueDesk
