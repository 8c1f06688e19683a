import IssueDesk.Wire.Record

/-! A subscription of a channel to issue events, and the filters that say which events it wants. -/

namespace IssueDesk

open Wire

/-- How an issue's values of a field relate to the values of the filter. -/
inductive Inclusion where
  | includeAny
  | includeAll
  | excludeAny
  | empty
  deriving DecidableEq, Repr, Inhabited

namespace Inclusion

def variants : Variants Inclusion where
  all :=
    [("include_any", includeAny), ("include_all", includeAll), ("exclude_any", excludeAny),
      ("empty", empty)]
  name
    | includeAny => "include_any"
    | includeAll => "include_all"
    | excludeAny => "exclude_any"
    | empty => "empty"

end Inclusion

structure FieldFilter where
  key : String
  inclusion : Inclusion
  values : List String
  deriving DecidableEq, Repr

def FieldFilter.codec : Codec FieldFilter :=
  .record "FilterValue"
    (.cons (.required "key" .text) <|
      .cons (.withDefault "inclusion" Inclusion.variants.codec .includeAny) <|
      .cons (.withDefault "values" Codec.text.list []) .nil)
    (fun (key, inclusion, values, _) => { key, inclusion, values })
    (fun f => (f.key, f.inclusion, f.values, ()))

structure Filters where
  events : List String := []
  projects : List String := []
  issueTypes : List String := []
  fields : List FieldFilter := []
  selfRoles : List String := []
  deriving DecidableEq, Repr, Inhabited

def Filters.codec : Codec Filters :=
  .record "SubscriptionFilters"
    (.cons (.withDefault "events" Codec.text.list []) <|
      .cons (.withDefault "projects" Codec.text.list []) <|
      .cons (.withDefault "issue_types" Codec.text.list []) <|
      .cons (.withDefault "fields" FieldFilter.codec.list []) <|
      .cons (.withDefault "self" Codec.text.list []) .nil)
    (fun (events, projects, issueTypes, fields, selfRoles, _) =>
      { events, projects, issueTypes, fields, selfRoles })
    (fun f => (f.events, f.projects, f.issueTypes, f.fields, f.selfRoles, ()))

structure Subscription where
  id : Option String
  channelId : String
  name : String
  instanceId : String
  filters : Filters
  deriving DecidableEq, Repr

def Subscription.codec : Codec Subscription :=
  .record "ChannelSubscription"
    (.cons (.omittable "id" .text) <| .cons (.required "channel_id" .text) <|
      .cons (.required "name" .text) <| .cons (.required "instance_id" .text) <|
      .cons (.required "filters" Filters.codec) .nil)
    (fun (id, channelId, name, instanceId, filters, _) =>
      { id, channelId, name, instanceId, filters })
    (fun s => (s.id, s.channelId, s.name, s.instanceId, s.filters, ()))

end IssueDesk
