import IssueDesk.Proofs.RecordReading
import Mathlib.Logic.Relation

/-! What is written on the wire is read back, and so is what others may make of it. They may order
the members of a record as they like, add members that the record does not know, and leave out those
that hold the value of an absent field, in a record at any depth (`Codec.Edit`). One such edit
leaves what is read as it was (`Edit.reads`), for every codec; that a codec reads its own writing is
put together from its parts. -/

namespace IssueDesk

namespace Wire

/-- One edit of the JSON for a value, in a record that it is or has inside. -/
inductive Codec.Edit : {α : Type} → Codec α → α → Json → Json → Prop
  | permuted {α ρ δ : Type} {codec : Codec α} {fields : Fields ρ δ} {parts : α → ρ} {x : α}
      {members members' : List (String × Json)} (hrecord : codec.IsRecord fields parts)
      (hperm : members.Perm members') : Edit codec x (.object members) (.object members')
  | added {α ρ δ : Type} {codec : Codec α} {fields : Fields ρ δ} {parts : α → ρ} {x : α}
      {key : String} {json : Json} {before after : List (String × Json)}
      (hrecord : codec.IsRecord fields parts) (hunknown : key ∉ fields.keys) :
      Edit codec x (.object (before ++ after)) (.object (before ++ (key, json) :: after))
  | removed {α ρ δ : Type} {codec : Codec α} {fields : Fields ρ δ} {parts : α → ρ} {x : α}
      {component : Component} {json : Json} {before after : List (String × Json)}
      (hrecord : codec.IsRecord fields parts) (hmem : component ∈ fields.components (parts x))
      (habsent : component.field.absent = some component.value) :
      Edit codec x (.object (before ++ (component.field.key, json) :: after))
        (.object (before ++ after))
  | member {α ρ δ : Type} {codec : Codec α} {fields : Fields ρ δ} {parts : α → ρ} {x : α}
      {component : Component} {json json' : Json} {before after : List (String × Json)}
      (hrecord : codec.IsRecord fields parts) (hmem : component ∈ fields.components (parts x))
      (hedit : Edit component.field.codec component.value json json') :
      Edit codec x (.object (before ++ (component.field.key, json) :: after))
        (.object (before ++ (component.field.key, json') :: after))
  | first {α : Type} {codec : Codec α} {x : α} {xs : List α} {json json' : Json}
      {items : List Json} (hedit : Edit codec x json json') :
      Edit codec.list (x :: xs) (.array (json :: items)) (.array (json' :: items))
  | later {α : Type} {codec : Codec α} {x : α} {xs : List α} {json : Json}
      {items items' : List Json} (hedit : Edit codec.list xs (.array items) (.array items')) :
      Edit codec.list (x :: xs) (.array (json :: items)) (.array (json :: items'))
  | some {α : Type} {codec : Codec α} {x : α} {json json' : Json}
      (hedit : Edit codec x json json') : Edit codec.optional (some x) json json'

namespace Codec

variable {codec : Codec α} {origin : Origin}

theorem list_reads_nil : codec.list.Reads origin [] (.array []) := rfl

theorem list_reads_cons {x : α} {xs : List α} {json : Json} {items : List Json} :
    codec.list.Reads origin (x :: xs) (.array (json :: items)) ↔
      codec.Reads origin x json ∧ codec.list.Reads origin xs (.array items) := by
  have hitems : ∀ values, codec.list.Reads origin values (.array items) ↔
      codec.decodeItems origin none (Document.ofItems items) = .ok values := fun _ => Iff.rfl
  have hcons : codec.list.Reads origin (x :: xs) (.array (json :: items)) ↔
      codec.decodeItems origin none (Document.ofJson json :: Document.ofItems items) =
        .ok (x :: xs) := Iff.rfl
  rw [hcons, hitems, decodeItems]
  simp only [bind_eq_ok, pure_eq_ok, List.cons.injEq]
  constructor
  · rintro ⟨value, hvalue, values, hvalues, rfl, rfl⟩
    exact ⟨hvalue, hvalues⟩
  · rintro ⟨hvalue, hvalues⟩
    exact ⟨x, hvalue, xs, hvalues, rfl, rfl⟩

/-- Null stands for no value. -/
theorem optional_reads_some {x : α} {json : Json} :
    codec.optional.Reads origin (some x) json ↔ json ≠ .null ∧ codec.Reads origin x json := by
  cases json <;> simp [Reads, optional, Document.ofJson, map_eq_ok]

theorem Edit.ne_null {x : α} {json json' : Json} (h : codec.Edit x json json') : json' ≠ .null := by
  induction h with
  | some hedit ih => exact ih
  | _ => exact nofun

/-- An edit leaves what is read as it was. -/
theorem Edit.reads {x : α} {json json' : Json} (h : codec.Edit x json json')
    (hreads : codec.Reads origin x json) : codec.Reads origin x json' := by
  induction h with
  | permuted hrecord hperm => exact hrecord.reads_perm hperm hreads
  | added hrecord hunknown =>
      refine hrecord.reads_perm List.perm_middle.symm (hrecord.reads_iff.2 fun other hother => ?_)
      have hne := ne_of_mem_of_not_mem (Fields.key_mem_keys hother) hunknown
      exact (Field.gives_cons_of_ne hne.symm _).2 (hrecord.reads_iff.1 hreads other hother)
  | @removed _ _ _ _ _ _ _ component _ _ _ hrecord hmem habsent =>
      have hhead := hrecord.reads_perm List.perm_middle hreads
      obtain ⟨hnone, -, hothers⟩ := (hrecord.reads_cons_iff hmem).1 hhead
      refine hrecord.reads_iff.2 fun other hother => ?_
      by_cases heq : other = component
      · subst heq
        exact .settled hnone habsent
      · exact hothers other hother heq
  | member hrecord hmem hedit ih =>
      have hhead := hrecord.reads_perm List.perm_middle hreads
      obtain ⟨hnone, hread, hothers⟩ := (hrecord.reads_cons_iff hmem).1 hhead
      refine hrecord.reads_perm List.perm_middle.symm ?_
      exact (hrecord.reads_cons_iff hmem).2 ⟨hnone, ih hread, hothers⟩
  | first hedit ih =>
      obtain ⟨hfirst, hlater⟩ := list_reads_cons.1 hreads
      exact list_reads_cons.2 ⟨ih hfirst, hlater⟩
  | later hedit ih =>
      obtain ⟨hfirst, hlater⟩ := list_reads_cons.1 hreads
      exact list_reads_cons.2 ⟨hfirst, ih hlater⟩
  | some hedit ih =>
      obtain ⟨-, hread⟩ := optional_reads_some.1 hreads
      exact optional_reads_some.2 ⟨hedit.ne_null, ih hread⟩

/-! A codec that reads what it has written. -/

def Faithful (codec : Codec α) : Prop := ∀ origin x, codec.Reads origin x (codec.encode x)

theorem Faithful.text : text.Faithful := fun _ _ => rfl

theorem Faithful.list (h : codec.Faithful) : codec.list.Faithful := by
  intro origin values
  induction values with
  | nil => exact list_reads_nil
  | cons value rest ih => exact list_reads_cons.2 ⟨h origin value, ih⟩

/-- What is written of a value must not be taken for no value. -/
theorem Faithful.optional (h : codec.Faithful) (hnull : ∀ x, codec.encode x ≠ .null) :
    codec.optional.Faithful := by
  intro origin value
  cases value with
  | none => rfl
  | some x => exact optional_reads_some.2 ⟨hnull x, h origin x⟩

theorem Faithful.convert (h : codec.Faithful) {make : α → β} {parts : β → α}
    (hmake : ∀ x, make (parts x) = x) : (codec.convert make parts).Faithful :=
  fun origin x => map_eq_ok.2 ⟨parts x, h origin (parts x), hmake x⟩

end Codec

theorem Variants.faithful {variants : Variants α}
    (h : ∀ x, variants.all.lookup (variants.name x) = some x) : variants.codec.Faithful := by
  intro origin x
  have hfind : variants.find (variants.name x) = .ok x := by simp [find, h x]
  cases origin <;> exact hfind

/-- A field that is read back. One that is not written has to be read where it is absent. -/
structure Field.Faithful (field : Field α) : Prop where
  codec : field.codec.Faithful
  hidden : ∀ value, field.hidden value = true → field.absent = some value

namespace Field.Faithful

variable {key : String} {codec : Codec α}

theorem required (h : codec.Faithful) : (required key codec).Faithful := ⟨h, nofun⟩

theorem withDefault (h : codec.Faithful) {value : α} : (withDefault key codec value).Faithful :=
  ⟨h, nofun⟩

theorem nullable (h : codec.Faithful) (hnull : ∀ x, codec.encode x ≠ .null) :
    (nullable key codec).Faithful := ⟨h.optional hnull, nofun⟩

theorem optional (h : codec.Faithful) (hnull : ∀ x, codec.encode x ≠ .null) :
    (optional key codec).Faithful := ⟨h.optional hnull, nofun⟩

theorem omittable (h : codec.Faithful) (hnull : ∀ x, codec.encode x ≠ .null) :
    (omittable key codec).Faithful where
  codec := h.optional hnull
  hidden _ hvalue := congrArg some (Option.isNone_iff_eq_none.1 hvalue).symm

end Field.Faithful

namespace Fields

def Faithful : Fields ρ δ → Prop
  | nil => True
  | cons field rest => field.Faithful ∧ rest.Faithful

theorem under_members {fields : Fields ρ δ} {key : String} (h : key ∉ fields.keys) (record : ρ) :
    under key (fields.members record) = [] := by
  induction fields with
  | nil => rfl
  | cons field rest ih =>
      simp only [keys, List.mem_cons, not_or] at h
      have hrest := ih h.2 record.2
      simp only [members]
      split
      · exact hrest
      · rw [under_cons_of_ne (Ne.symm h.1), hrest]

theorem Faithful.gives {fields : Fields ρ δ} (h : fields.Faithful) (hdistinct : fields.keys.Nodup)
    (origin : Origin) (record : ρ) :
    fields.Gives origin (fields.members record) fields.blank record := by
  induction fields with
  | nil => trivial
  | cons field rest ih =>
      obtain ⟨value, others⟩ := record
      obtain ⟨hfield, hrest⟩ := h
      obtain ⟨hfresh, hdistinct⟩ := List.nodup_cons.1 hdistinct
      have hnone := under_members hfresh others
      have hothers := ih hrest hdistinct others
      simp only [members]
      split
      next hhidden => exact ⟨.settled hnone (hfield.hidden value hhidden), hothers⟩
      next =>
        exact ⟨Field.gives_cons_self.2 ⟨rfl, hnone, hfield.codec origin value⟩,
          (gives_cons_of_not_mem hfresh).2 hothers⟩

end Fields

/-- A record type whose values are read back from what is written of them, whatever edits have been
made to it. -/
structure Codec.RoundTrips (codec : Codec α) : Prop where
  record : ∃ (ρ δ : Type) (fields : Fields ρ δ) (parts : α → ρ), codec.IsRecord fields parts
  reads : ∀ origin x json, Relation.ReflTransGen (codec.Edit x) (codec.encode x) json →
    codec.Reads origin x json

namespace Codec.RoundTrips

variable {codec : Codec α}

theorem faithful (h : codec.RoundTrips) : codec.Faithful :=
  fun origin x => h.reads origin x _ .refl

theorem encode_ne_null (h : codec.RoundTrips) (x : α) : codec.encode x ≠ .null := by
  obtain ⟨ρ, δ, fields, parts, hrecord⟩ := h.record
  rw [hrecord.encode]
  exact nofun

/-- A record type round-trips if its fields have different keys and each of them is read back. -/
theorem of_record {name : String} {fields : Fields ρ δ} {make : ρ → α} {parts : α → ρ}
    (hdistinct : fields.keys.Nodup) (hmake : ∀ x, make (parts x) = x)
    (hparts : ∀ record, parts (make record) = record) (hfields : fields.Faithful) :
    (Codec.record name fields make parts).RoundTrips where
  record := ⟨ρ, δ, fields, parts, .of_record hdistinct hmake hparts⟩
  reads origin x json hedits := by
    have hrecord : (Codec.record name fields make parts).IsRecord fields parts :=
      .of_record hdistinct hmake hparts
    induction hedits with
    | refl =>
        rw [hrecord.encode, hrecord.reads_iff, ← Fields.gives_blank]
        exact hfields.gives hdistinct origin (parts x)
    | tail _ hedit ih => exact hedit.reads ih

end Codec.RoundTrips

end Wire

end IssueDesk
