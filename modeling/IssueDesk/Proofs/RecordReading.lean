import IssueDesk.Wire.Record
import Mathlib.Data.List.Nodup

/-! What an object gives of a record. A reader goes through the members with a draft of the record
and fills in the fields that they leave open. What comes of it can be said without the draft, field
by field: a field has a single member, which holds its value, or it has none, and the value is the
one for an absent field (`Field.Gives`). So neither the order of the members counts nor what stands
under other keys, and a member may be put in the place of another that is read alike. -/

namespace IssueDesk

theorem bind_eq_ok {ε α β : Type} {read : Except ε α} {next : α → Except ε β} {value : β} :
    read >>= next = .ok value ↔ ∃ first, read = .ok first ∧ next first = .ok value := by
  cases read with
  | error fault => exact ⟨nofun, nofun⟩
  | ok first =>
      constructor
      · exact fun h => ⟨first, rfl, h⟩
      · rintro ⟨_, hfirst, hnext⟩
        cases hfirst
        exact hnext

theorem pure_eq_ok {ε α : Type} {first value : α} :
    (pure first : Except ε α) = .ok value ↔ first = value := by
  simp [pure, Except.pure]

theorem map_eq_ok {ε α β : Type} {read : Except ε α} {make : α → β} {value : β} :
    read.map make = .ok value ↔ ∃ first, read = .ok first ∧ make first = value := by
  cases read <;> simp [Except.map]

/-! A JSON value has no faults for a reader to meet. -/

namespace Document

mutual
theorem skip_ofJson (json : Json) : (ofJson json).skip = none := by
  cases json with
  | array items => simp [ofJson, skip, skipItems_ofItems items]
  | object members => simp [ofJson, skip, skipMembers_ofMembers members]
  | _ => rfl

theorem skipItems_ofItems (items : List Json) : skipItems (ofItems items) = none := by
  cases items with
  | nil => rfl
  | cons item rest => simp [ofItems, skipItems, skip_ofJson item, skipItems_ofItems rest]

theorem skipMembers_ofMembers (members : List (String × Json)) :
    skipMembers (ofMembers members) = none := by
  cases members with
  | nil => rfl
  | cons member rest =>
      obtain ⟨key, json⟩ := member
      simp [ofMembers, skipMembers, skip_ofJson json, skipMembers_ofMembers rest]
end

end Document

namespace Wire

/-- A codec reads a value from a JSON value. -/
def Codec.Reads (codec : Codec α) (origin : Origin) (value : α) (json : Json) : Prop :=
  codec.decode origin (Document.ofJson json) = .ok value

/-- The members with a key. -/
def under (key : String) (members : List (String × Json)) : List (String × Json) :=
  members.filter (·.1 = key)

theorem under_cons_self (key : String) (json : Json) (rest : List (String × Json)) :
    under key ((key, json) :: rest) = (key, json) :: under key rest := by simp [under]

theorem under_cons_of_ne {key other : String} (h : other ≠ key) (json : Json)
    (rest : List (String × Json)) : under key ((other, json) :: rest) = under key rest := by
  simp [under, h]

/-- The members of an object give a field its value; `draft` is what has been read of it before. -/
inductive Field.Gives (field : Field α) (origin : Origin) (members : List (String × Json))
    (draft : Option α) (value : α) : Prop
  | settled (hnone : under field.key members = []) (hvalue : draft.or field.absent = some value)
  | member {json : Json} (hdraft : draft = none)
      (hone : under field.key members = [(field.key, json)])
      (hread : field.codec.Reads origin value json)

namespace Field

variable {field : Field α} {origin : Origin} {members members' : List (String × Json)}
  {draft : Option α} {value : α}

/-- Only the members with the key of the field count, and not their order. -/
theorem Gives.of_perm (h : field.Gives origin members draft value)
    (hperm : (under field.key members).Perm (under field.key members')) :
    field.Gives origin members' draft value := by
  cases h with
  | settled hnone hvalue => exact .settled (List.nil_perm.1 (hnone ▸ hperm)) hvalue
  | member hdraft hone hread =>
      exact .member hdraft (List.singleton_perm.1 (hone ▸ hperm)).symm hread

theorem gives_cons_of_ne {key : String} (h : key ≠ field.key) (json : Json) :
    field.Gives origin ((key, json) :: members) draft value ↔
      field.Gives origin members draft value := by
  have hunder := under_cons_of_ne h json members
  exact ⟨fun hgives => hgives.of_perm (.of_eq hunder),
    fun hgives => hgives.of_perm (.of_eq hunder.symm)⟩

/-- A field that has been read takes no further member. -/
theorem gives_some {first : α} :
    field.Gives origin members (some first) value ↔
      under field.key members = [] ∧ first = value := by
  constructor
  · intro h
    cases h with
    | settled hnone hvalue => exact ⟨hnone, Option.some.inj hvalue⟩
    | member hdraft => cases hdraft
  · rintro ⟨hnone, rfl⟩
    exact .settled hnone rfl

theorem gives_cons_self {json : Json} :
    field.Gives origin ((field.key, json) :: members) draft value ↔
      draft = none ∧ under field.key members = [] ∧ field.codec.Reads origin value json := by
  have hunder := under_cons_self field.key json members
  constructor
  · intro h
    cases h with
    | settled hnone =>
        rw [hunder] at hnone
        cases hnone
    | member hdraft hone hread =>
        rw [hunder, List.cons.injEq, Prod.mk.injEq] at hone
        obtain ⟨⟨-, rfl⟩, hnone⟩ := hone
        exact ⟨hdraft, hnone, hread⟩
  · rintro ⟨hdraft, hnone, hread⟩
    exact .member hdraft (by rw [hunder, hnone]) hread

theorem gives_nil : field.Gives origin [] draft value ↔ draft.or field.absent = some value := by
  constructor
  · intro h
    cases h with
    | settled hnone hvalue => exact hvalue
    | member hdraft hone => cases hone
  · exact .settled rfl

end Field

namespace Fields

/-- The members give every field its value. -/
def Gives (origin : Origin) (members : List (String × Json)) : Fields ρ δ → δ → ρ → Prop
  | nil, _, _ => True
  | cons field rest, (draft, drafts), (value, others) =>
      field.Gives origin members draft value ∧ rest.Gives origin members drafts others

variable {origin : Origin} {members : List (String × Json)} {key : String} {json : Json}

theorem gives_cons_of_not_mem {fields : Fields ρ δ} {draft : δ} {record : ρ}
    (h : key ∉ fields.keys) :
    fields.Gives origin ((key, json) :: members) draft record ↔
      fields.Gives origin members draft record := by
  induction fields with
  | nil => rfl
  | cons field rest ih =>
      simp only [keys, List.mem_cons, not_or] at h
      exact and_congr (Field.gives_cons_of_ne h.1 json) (ih h.2)

/-- A member that comes next has its field read, or is passed over. -/
theorem put_gives {fields : Fields ρ δ} (hnodup : fields.keys.Nodup) {draft : δ} {record : ρ} :
    (∃ next, fields.put origin key (Document.ofJson json) draft = .ok next ∧
        fields.Gives origin members next record) ↔
      fields.Gives origin ((key, json) :: members) draft record := by
  induction fields with
  | nil => simp [put, Document.skip_ofJson, Gives]
  | cons field rest ih =>
      obtain ⟨draft, drafts⟩ := draft
      obtain ⟨value, others⟩ := record
      obtain ⟨hfresh, hrest⟩ := List.nodup_cons.1 hnodup
      by_cases hkey : field.key = key
      · subst hkey
        have hothers : rest.Gives origin ((field.key, json) :: members) drafts others ↔
            rest.Gives origin members drafts others := gives_cons_of_not_mem hfresh
        cases draft with
        | some first => simp [put, mismatch, Gives, Field.gives_cons_self]
        | none =>
            have hput : ∀ next, (cons field rest).put origin field.key (Document.ofJson json)
                (none, drafts) = .ok next ↔
                  ∃ first, field.codec.Reads origin first json ∧ (some first, drafts) = next := by
              intro next
              simp only [put, if_true, bind_eq_ok, pure_eq_ok]
              rfl
            simp only [hput, Gives, Field.gives_cons_self, hothers]
            constructor
            · rintro ⟨_, ⟨first, hread, rfl⟩, hfield, hrest⟩
              obtain ⟨hnone, rfl⟩ := Field.gives_some.1 hfield
              exact ⟨⟨trivial, hnone, hread⟩, hrest⟩
            · rintro ⟨⟨-, hnone, hread⟩, hrest⟩
              exact ⟨_, ⟨value, hread, rfl⟩, Field.gives_some.2 ⟨hnone, rfl⟩, hrest⟩
      · have hput : ∀ next, (cons field rest).put origin key (Document.ofJson json)
            (draft, drafts) = .ok next ↔
              ∃ later, rest.put origin key (Document.ofJson json) drafts = .ok later ∧
                (draft, later) = next := by
          intro next
          simp only [put, if_neg hkey, bind_eq_ok, pure_eq_ok]
        simp only [hput, Gives, Field.gives_cons_of_ne (Ne.symm hkey), ← ih hrest]
        constructor
        · rintro ⟨_, ⟨later, hlater, rfl⟩, hfield, hothers⟩
          exact ⟨hfield, later, hlater, hothers⟩
        · rintro ⟨hfield, later, hlater, hothers⟩
          exact ⟨_, ⟨later, hlater, rfl⟩, hfield, hothers⟩

/-- Once no more members come, the fields that are still open have their value for an absent one. -/
theorem finish_gives {fields : Fields ρ δ} {draft : δ} {record : ρ} :
    fields.finish draft = .ok record ↔ fields.Gives origin [] draft record := by
  induction fields with
  | nil => exact ⟨fun _ => trivial, fun _ => rfl⟩
  | cons field rest ih =>
      obtain ⟨draft, drafts⟩ := draft
      obtain ⟨value, others⟩ := record
      simp only [Gives, Field.gives_nil, ← ih, finish]
      cases draft.or field.absent with
      | none => simp [mismatch]
      | some settled =>
          simp only [bind_eq_ok, pure_eq_ok, Prod.mk.injEq, Option.some.injEq]
          constructor
          · rintro ⟨later, hlater, hvalue, rfl⟩
            exact ⟨hvalue, hlater⟩
          · rintro ⟨hvalue, hothers⟩
            exact ⟨others, hothers, hvalue, rfl⟩

theorem putAll_gives {fields : Fields ρ δ} (hnodup : fields.keys.Nodup) {draft : δ} {record : ρ} :
    (∃ last, fields.putAll origin (Document.ofMembers members) draft = .ok last ∧
        fields.finish last = .ok record) ↔
      fields.Gives origin members draft record := by
  induction members generalizing draft with
  | nil =>
      simp only [Document.ofMembers, putAll, Except.ok.injEq, exists_eq_left']
      exact finish_gives
  | cons member rest ih =>
      obtain ⟨key, json⟩ := member
      have hstep : ∀ last, fields.putAll origin (Document.ofMembers ((key, json) :: rest)) draft =
          .ok last ↔ ∃ next, fields.put origin key (Document.ofJson json) draft = .ok next ∧
            fields.putAll origin (Document.ofMembers rest) next = .ok last := by
        intro last
        simp only [Document.ofMembers, putAll, readResult, bind_eq_ok, Except.ok.injEq,
          exists_eq_left']
      rw [← put_gives hnodup]
      simp only [hstep, ← ih]
      constructor
      · rintro ⟨last, ⟨next, hnext, hrest⟩, hlast⟩
        exact ⟨next, hnext, last, hrest, hlast⟩
      · rintro ⟨next, hnext, last, hrest, hlast⟩
        exact ⟨last, ⟨next, hnext, hrest⟩, hlast⟩

/-- An object without faults is read as a record if its members give every field its value. -/
theorem ofMembers_gives {fields : Fields ρ δ} (hnodup : fields.keys.Nodup) {record : ρ} :
    fields.ofMembers origin (Document.ofMembers members) none = .ok record ↔
      fields.Gives origin members fields.blank record := by
  rw [← putAll_gives hnodup]
  simp [ofMembers, ended, bind_eq_ok]

end Fields

/-! The fields of a record, each with its value. -/

structure Component where
  {Content : Type}
  field : Field Content
  value : Content

def Component.Gives (component : Component) (origin : Origin) (members : List (String × Json)) :
    Prop :=
  component.field.Gives origin members none component.value

def Fields.components : Fields ρ δ → ρ → List Component
  | nil, _ => []
  | cons field rest, (value, others) => ⟨field, value⟩ :: rest.components others

namespace Fields

theorem components_keys (fields : Fields ρ δ) (record : ρ) :
    (fields.components record).map (·.field.key) = fields.keys := by
  induction fields with
  | nil => rfl
  | cons field rest ih => exact congrArg (field.key :: ·) (ih record.2)

theorem key_mem_keys {fields : Fields ρ δ} {record : ρ} {component : Component}
    (h : component ∈ fields.components record) : component.field.key ∈ fields.keys := by
  rw [← fields.components_keys record]
  exact List.mem_map_of_mem h

theorem gives_blank {fields : Fields ρ δ} {origin : Origin} {members : List (String × Json)}
    {record : ρ} :
    fields.Gives origin members fields.blank record ↔
      ∀ component ∈ fields.components record, component.Gives origin members := by
  induction fields with
  | nil => exact ⟨fun _ => nofun, fun _ => trivial⟩
  | cons field rest ih =>
      obtain ⟨value, others⟩ := record
      simp only [Gives, blank, components, List.forall_mem_cons, ih]
      rfl

end Fields

/-- A codec is the one of a record type. The fields of the type have different keys, and a value is
nothing but the values of its fields. -/
structure Codec.IsRecord (codec : Codec α) (fields : Fields ρ δ) (parts : α → ρ) : Prop where
  distinct : fields.keys.Nodup
  described : ∃ name make, codec = .record name fields make parts ∧
    (∀ x, make (parts x) = x) ∧ ∀ record, parts (make record) = record

namespace Codec.IsRecord

variable {codec : Codec α} {fields : Fields ρ δ} {parts : α → ρ}

theorem of_record {name : String} {make : ρ → α} (hdistinct : fields.keys.Nodup)
    (hmake : ∀ x, make (parts x) = x) (hparts : ∀ record, parts (make record) = record) :
    (Codec.record name fields make parts).IsRecord fields parts :=
  ⟨hdistinct, name, make, rfl, hmake, hparts⟩

theorem encode (h : codec.IsRecord fields parts) (x : α) :
    codec.encode x = .object (fields.members (parts x)) := by
  obtain ⟨name, make, rfl, -⟩ := h.described
  rfl

theorem reads_iff (h : codec.IsRecord fields parts) {origin : Origin} {x : α}
    {members : List (String × Json)} :
    codec.Reads origin x (.object members) ↔
      ∀ component ∈ fields.components (parts x), component.Gives origin members := by
  obtain ⟨name, make, rfl, hmake, hparts⟩ := h.described
  rw [← Fields.gives_blank, ← Fields.ofMembers_gives h.distinct]
  refine map_eq_ok.trans ⟨?_, fun hread => ⟨parts x, hread, hmake x⟩⟩
  rintro ⟨record, hread, rfl⟩
  rwa [hparts]

/-- Of the fields of a value one is found by its key. -/
theorem eq_of_key_eq (h : codec.IsRecord fields parts) {x : α} {component other : Component}
    (hmem : component ∈ fields.components (parts x)) (hother : other ∈ fields.components (parts x))
    (hkey : other.field.key = component.field.key) : other = component := by
  have hdistinct := h.distinct
  rw [← fields.components_keys (parts x)] at hdistinct
  exact List.inj_on_of_nodup_map hdistinct hother hmem hkey

/-- The order of the members does not count. -/
theorem reads_perm (h : codec.IsRecord fields parts) {origin : Origin} {x : α}
    {members members' : List (String × Json)} (hperm : members.Perm members')
    (hreads : codec.Reads origin x (.object members)) :
    codec.Reads origin x (.object members') := by
  rw [h.reads_iff] at hreads ⊢
  exact fun component hmem => (hreads component hmem).of_perm (hperm.filter _)

/-- A member counts for the field with its key and for no other. -/
theorem reads_cons_iff (h : codec.IsRecord fields parts) {origin : Origin} {x : α}
    {component : Component} (hmem : component ∈ fields.components (parts x)) {json : Json}
    {members : List (String × Json)} :
    codec.Reads origin x (.object ((component.field.key, json) :: members)) ↔
      under component.field.key members = [] ∧
        component.field.codec.Reads origin component.value json ∧
        ∀ other ∈ fields.components (parts x), other ≠ component → other.Gives origin members := by
  rw [h.reads_iff]
  have hother {other : Component} (hothermem : other ∈ fields.components (parts x))
      (hne : other ≠ component) :
      other.Gives origin ((component.field.key, json) :: members) ↔ other.Gives origin members :=
    Field.gives_cons_of_ne (fun hkey => hne (h.eq_of_key_eq hmem hothermem hkey.symm)) json
  constructor
  · intro hgives
    obtain ⟨-, hnone, hread⟩ := Field.gives_cons_self.1 (hgives component hmem)
    exact ⟨hnone, hread, fun other hothermem hne =>
      (hother hothermem hne).1 (hgives other hothermem)⟩
  · rintro ⟨hnone, hread, hothers⟩ other hothermem
    by_cases heq : other = component
    · subst heq
      exact Field.gives_cons_self.2 ⟨rfl, hnone, hread⟩
    · exact (hother hothermem heq).2 (hothers other hothermem heq)

end Codec.IsRecord

end Wire

end IssueDesk
