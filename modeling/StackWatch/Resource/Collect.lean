import StackWatch.Http.Client
import StackWatch.Resource.Form

/-!
# From an answer to entities

An answer holds its resource under one member of its body: `itemsOf` takes an array from there and
`objectOf` whatever is there. `collect` makes the items of an array into a map of entities by
identifier. It fails at the first item that cannot be identified, so that a map is never partial; of
two items with one identifier the later counts.

How an item is identified depends on the collection: by its `id`, which may be a number; nodes
rather by their `uuid`; the counters of an amphora by their listener; and conductors by their host
name, where those without one are passed over.
-/

namespace StackWatch

/-- The identifier of an item of a collection, nothing if the item is passed over. -/
def Listing.identify (l : Listing) (url : String) (item : Json) : Except ApiError (Option String) :=
  match l with
  | .nodes =>
    match (item.get? "uuid").bind Json.str? with
    | some uuid => .ok (some uuid)
    | none => (entityId url item).map some
  | .conductors => .ok ((item.get? "hostname").bind Json.str?)
  | .amphoraStatistics _ =>
    match (item.get? "listener_id").bind Json.str? with
    | some listener => .ok (some listener)
    | none => .error (.decode url (.missing "listener_id"))
  | _ => (entityId url item).map some

/-- The entries of the items that `identify` does not pass over, up to its first failure. -/
def entriesOf (identify : Json → Except ApiError (Option String)) (entity : Json → Entity) :
    List Json → Except ApiError (List (String × Entity))
  | [] => .ok []
  | item :: rest =>
    match identify item with
    | .error e => .error e
    | .ok id =>
      match entriesOf identify entity rest with
      | .error e => .error e
      | .ok entries =>
        .ok (match id with
          | some id => (id, entity item) :: entries
          | none => entries)

/-- The entities of some items, by identifier. -/
def collect (identify : Json → Except ApiError (Option String)) (entity : Json → Entity)
    (items : List Json) : Except ApiError (KeyMap Entity) :=
  (entriesOf identify entity items).map KeyMap.ofList

/-- The entities of a collection that came from a URL. -/
def Listing.collect (l : Listing) (url : String) (items : List Json) :
    Except ApiError (KeyMap Entity) :=
  StackWatch.collect (l.identify url) l.form.entity items

/-- The limits that came from a URL, their value under a member. -/
def collectLimits (member url : String) (items : List Json) : Except ApiError (KeyMap Entity) :=
  collect (fun item => (entityId url item).map some) (Form.limit member).entity items

end StackWatch
