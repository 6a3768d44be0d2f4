import Mathlib.Data.List.Pairwise
import StackWatch.Proofs.Attempt
import StackWatch.Session.Operation
import StackWatch.Proofs.Escaping

/-!
# URLs tell queries apart

Identifiers stand in a path as they are, whatever characters they consist of, so a URL cannot be
taken apart without knowing what it is for. It can be taken apart all the same. All resources that
differ in their identifiers alone form a `Route`: what follows the endpoint begins for all of them
with one `head`, and the rest gives the identifiers back. No head of a component begins another
(`routes_apart`), once the end of a URL counts as a character of its own. So the URL of a resource
tells which resource it is of (`Resource.url_injective`).
-/

namespace StackWatch

/-! ## What follows the endpoint -/

namespace Target

variable {before after segments : List String} {id value value' name name' : String}

theorem text_path : text ⟨before ++ id :: after, []⟩ =
    pathText before ++ "/" ++ id ++ pathText after := by
  simp [text, pathText, queryText, String.append_assoc]

theorem text_parameter : text ⟨segments, [(name, value)]⟩ =
    pathText segments ++ "?" ++ name ++ "=" ++ Percent.encode value := by
  simp [text, queryText, parameterText, String.append_assoc]

theorem text_parameters : text ⟨segments, [(name, value), (name', value')]⟩ =
    pathText segments ++ "?" ++ name ++ "=" ++ Percent.encode value ++ "&" ++ name' ++ "=" ++
      Percent.encode value' := by
  simp [text, queryText, parameterText, String.append_assoc]

theorem text_path_parameter : text ⟨before ++ id :: after, [(name, value)]⟩ =
    pathText before ++ "/" ++ id ++ pathText after ++ "?" ++ name ++ "=" ++
      Percent.encode value := by
  rw [text_parameter]
  simp [pathText, String.append_assoc]

/-- What has a segment is not empty. -/
theorem text_ne_empty {t : Target} (h : t.segments ≠ []) : t.text ≠ "" := by
  obtain ⟨segment, rest, hsegments⟩ := List.exists_cons_of_ne_nil h
  rw [text, hsegments, pathText, List.map_cons, String.join_cons]
  simp

end Target

/-- The mark of the end of a URL. -/
def stop : Char := '\x00'

/-- What follows the endpoint in the URL of a resource, with the mark of its end. -/
def Resource.trail (r : Resource) : List Char := r.target.text.toList ++ [stop]

/-! ## Routes -/

/-- The resources that differ in their identifiers alone. -/
structure Route where
  /-- the identifiers -/
  Ids : Type
  resource : Ids → Resource
  /-- how the trail of each begins -/
  head : List Char
  /-- and how it goes on -/
  rest : Ids → List Char
  trail_eq : ∀ ids, (resource ids).trail = head ++ rest ids
  injective : ∀ ids ids', rest ids = rest ids' → ids = ids'

namespace Route

/-- Two texts that end in a separator and what it does not occur in. -/
theorem last_separator {c : Char} {first first' last last' : List Char} (hlast : c ∉ last)
    (hlast' : c ∉ last') (h : first ++ c :: last = first' ++ c :: last') :
    first = first' ∧ last = last' := by
  rcases List.append_eq_append_iff.1 h with ⟨between, rfl, heq⟩ | ⟨between, rfl, heq⟩
  · cases between with
    | nil => exact ⟨(List.append_nil _).symm, (List.cons.inj heq).2⟩
    | cons _ between =>
      obtain rfl := (List.cons.inj heq).2
      exact absurd (by simp) hlast
  · cases between with
    | nil => exact ⟨List.append_nil _, (List.cons.inj heq).2.symm⟩
    | cons _ between =>
      obtain rfl := (List.cons.inj heq).2
      exact absurd (by simp) hlast'

/-- A parameter at the end, and its end. -/
def lastParameter (value : String) : List Char := (Percent.encode value).toList ++ [stop]

theorem lastParameter_injective {value value' : String}
    (h : lastParameter value = lastParameter value') : value = value' :=
  Percent.encode_injective (String.toList_inj.1 (List.append_cancel_right h))

theorem notMem_lastParameter (value : String) : '=' ∉ lastParameter value := by
  rw [lastParameter, List.mem_append, not_or]
  exact ⟨Percent.not_mem_encode (by decide) value, by decide⟩

/-- An identifier, whatever follows it, and a parameter at the end. -/
theorem pair_injective {written : String → List Char}
    (hwritten : ∀ id id', written id = written id' → id = id') (between : List Char)
    {ids ids' : String × String}
    (h : written ids.1 ++ between ++ '=' :: lastParameter ids.2 =
      written ids'.1 ++ between ++ '=' :: lastParameter ids'.2) : ids = ids' := by
  obtain ⟨hfirst, hlast⟩ := last_separator (notMem_lastParameter _) (notMem_lastParameter _) h
  exact Prod.ext (hwritten _ _ (List.append_cancel_right hfirst)) (lastParameter_injective hlast)

/-- A resource without identifiers. -/
def place (r : Resource) : Route where
  Ids := Unit
  resource _ := r
  head := r.trail
  rest _ := []
  trail_eq _ := (List.append_nil _).symm
  injective _ _ _ := rfl

/-- Resources with an identifier in the path. -/
def inPath (resource : String → Resource) (before after : List String)
    (htarget : ∀ id, (resource id).target = ⟨before ++ id :: after, []⟩) : Route where
  Ids := String
  resource := resource
  head := (Target.pathText before ++ "/").toList
  rest id := id.toList ++ ((Target.pathText after).toList ++ [stop])
  trail_eq id := by
    rw [Resource.trail, htarget, Target.text_path]
    simp
  injective id id' h := String.toList_inj.1 (List.append_cancel_right h)

/-- Resources with one parameter. -/
def inQuery (resource : String → Resource) (segments : List String) (name : String)
    (htarget : ∀ id, (resource id).target = ⟨segments, [(name, id)]⟩) : Route where
  Ids := String
  resource := resource
  head := (Target.pathText segments ++ "?" ++ name ++ "=").toList
  rest := lastParameter
  trail_eq id := by
    rw [Resource.trail, htarget, Target.text_parameter]
    simp [lastParameter]
  injective id id' := lastParameter_injective

/-- Resources with two parameters. -/
def inQueries (resource : String × String → Resource) (segments : List String) (name name' : String)
    (htarget : ∀ ids, (resource ids).target = ⟨segments, [(name, ids.1), (name', ids.2)]⟩) :
    Route where
  Ids := String × String
  resource := resource
  head := (Target.pathText segments ++ "?" ++ name ++ "=").toList
  rest ids := (Percent.encode ids.1).toList ++ ("&" ++ name').toList ++ '=' :: lastParameter ids.2
  trail_eq ids := by
    rw [Resource.trail, htarget, Target.text_parameters]
    simp [lastParameter]
  injective ids ids' :=
    pair_injective (fun _ _ h => Percent.encode_injective (String.toList_inj.1 h)) _

/-- Resources with an identifier in the path and one parameter. -/
def inBoth (resource : String × String → Resource) (before after : List String) (name : String)
    (htarget : ∀ ids, (resource ids).target = ⟨before ++ ids.1 :: after, [(name, ids.2)]⟩) :
    Route where
  Ids := String × String
  resource := resource
  head := (Target.pathText before ++ "/").toList
  rest ids :=
    ids.1.toList ++ (Target.pathText after ++ "?" ++ name).toList ++ '=' :: lastParameter ids.2
  trail_eq ids := by
    rw [Resource.trail, htarget, Target.text_path_parameter]
    simp [lastParameter]
  injective ids ids' := pair_injective (fun _ _ h => String.toList_inj.1 h) _

/-- Two routes of which neither begins as the other. -/
def Apart (route route' : Route) : Prop :=
  ¬ route.head <+: route'.head ∧ ¬ route'.head <+: route.head

instance : Std.Symm Apart := ⟨fun _ _ h => ⟨h.2, h.1⟩⟩

end Route

/-- The routes of a component. -/
def routes : Component → List Route
  | .identity => [
    .place (.listing .domains), .place (.listing .projects), .place (.listing .users),
    .place (.listing .groups), .place (.listing .services),
    .place .registeredLimits, .place .limits,
    .inPath (.listing ∘ .groupUsers) ["v3", "groups"] ["users"] fun _ => rfl]
  | .compute => [
    .place (.listing .computeServices), .place (.listing .flavors), .place (.listing .hypervisors),
    .place (.listing .aggregates), .place .computeLimits,
    .inPath .quotaSet ["os-quota-sets"] [] fun _ => rfl,
    .inQuery .servers ["servers", "detail"] "project_id" fun _ => rfl]
  | .network => [
    .place (.listing .agents), .inPath .networkQuotas ["v2.0", "quotas"] [] fun _ => rfl]
  | .baremetal => [.place (.listing .nodes), .place (.listing .conductors)]
  | .loadBalancer => [
    .inQuery (.listing ∘ .loadBalancers) ["v2", "lbaas", "loadbalancers"] "project_id" fun _ => rfl,
    .inPath .loadBalancerStatistics ["v2", "lbaas", "loadbalancers"] ["stats"] fun _ => rfl,
    .inQuery (.listing ∘ .listeners) ["v2", "lbaas", "listeners"] "project_id" fun _ => rfl,
    .inQueries (fun ids => .listing (.listenersOf ids.2 ids.1)) ["v2", "lbaas", "listeners"]
      "loadbalancer_id" "project_id" fun _ => rfl,
    .inPath .listenerStatistics ["v2", "lbaas", "listeners"] ["stats"] fun _ => rfl,
    .inQuery (.listing ∘ .pools) ["v2", "lbaas", "pools"] "project_id" fun _ => rfl,
    .inQueries (fun ids => .listing (.poolsOf ids.2 ids.1)) ["v2", "lbaas", "pools"]
      "loadbalancer_id" "project_id" fun _ => rfl,
    .inBoth (fun ids => .listing (.members ids.2 ids.1)) ["v2", "lbaas", "pools"] ["members"]
      "project_id" fun _ => rfl,
    .inQuery (.listing ∘ .healthMonitors) ["v2", "lbaas", "healthmonitors"] "project_id"
      fun _ => rfl,
    .inQueries (fun ids => .listing (.healthMonitorsOf ids.2 ids.1))
      ["v2", "lbaas", "healthmonitors"]
      "pool_id" "project_id" fun _ => rfl,
    .place (.listing .amphorae),
    .inQuery (.listing ∘ .amphoraeOf) ["v2", "octavia", "amphorae"] "loadbalancer_id" fun _ => rfl,
    .inPath (.listing ∘ .amphoraStatistics) ["v2", "octavia", "amphorae"] ["stats"] fun _ => rfl]
  | .blockStorage => []

/-- **No head begins another.** -/
theorem routes_apart (c : Component) : (routes c).Pairwise Route.Apart := by
  have h : ((routes c).map Route.head).Pairwise fun a b => ¬ a <+: b ∧ ¬ b <+: a := by
    cases c <;> decide +kernel
  exact (List.pairwise_map (f := Route.head)).1 h

/-! ## Telling resources apart -/

namespace Resource

/-- The query that reads a resource as one of its collections; a flavor is
read for a server alone. -/
def query? : Resource → Option Operation
  | listing l => some (.ask (.listing l))
  | registeredLimits | limits => some (.ask .identityLimits)
  | computeLimits => some (.ask .computeLimits)
  | flavor _ => none
  | quotaSet project => some (.ask (.quotaSet project))
  | servers project => some (.ask (.servers project))
  | networkQuotas project => some (.ask (.networkQuotas project))
  | loadBalancerStatistics loadBalancer => some (.ask (.loadBalancerStatistics loadBalancer))
  | listenerStatistics listener => some (.ask (.listenerStatistics listener))

theorem query?_of_mem {shape : Shape} {q : Query shape} {r : Resource} (h : r ∈ q.collections) :
    r.query? = some (.ask q) := by
  cases q <;> simp only [Query.collections, List.mem_cons, List.not_mem_nil, or_false] at h
  case identityLimits => rcases h with rfl | rfl <;> rfl
  all_goals
    subst h
    rfl

/-- What the routes of a component lead to. -/
theorem mem_routes (c : Component) (i : Fin (routes c).length) (ids : ((routes c).get i).Ids) :
    ∃ route ∈ routes c, ∃ ids', route.resource ids' = ((routes c).get i).resource ids :=
  ⟨_, List.get_mem _ i, ids, rfl⟩

/-- **Every resource that a query reads is on a route** of its component. -/
theorem on_route : ∀ r : Resource, r.query?.isSome = true →
    ∃ route ∈ routes r.component, ∃ ids, route.resource ids = r
  | .listing .domains, _ => mem_routes .identity ⟨0, by decide⟩ ()
  | .listing .projects, _ => mem_routes .identity ⟨1, by decide⟩ ()
  | .listing .users, _ => mem_routes .identity ⟨2, by decide⟩ ()
  | .listing .groups, _ => mem_routes .identity ⟨3, by decide⟩ ()
  | .listing .services, _ => mem_routes .identity ⟨4, by decide⟩ ()
  | .registeredLimits, _ => mem_routes .identity ⟨5, by decide⟩ ()
  | .limits, _ => mem_routes .identity ⟨6, by decide⟩ ()
  | .listing (.groupUsers group), _ => mem_routes .identity ⟨7, by decide⟩ group
  | .listing .computeServices, _ => mem_routes .compute ⟨0, by decide⟩ ()
  | .listing .flavors, _ => mem_routes .compute ⟨1, by decide⟩ ()
  | .listing .hypervisors, _ => mem_routes .compute ⟨2, by decide⟩ ()
  | .listing .aggregates, _ => mem_routes .compute ⟨3, by decide⟩ ()
  | .computeLimits, _ => mem_routes .compute ⟨4, by decide⟩ ()
  | .quotaSet project, _ => mem_routes .compute ⟨5, by decide⟩ project
  | .servers project, _ => mem_routes .compute ⟨6, by decide⟩ project
  | .listing .agents, _ => mem_routes .network ⟨0, by decide⟩ ()
  | .networkQuotas project, _ => mem_routes .network ⟨1, by decide⟩ project
  | .listing .nodes, _ => mem_routes .baremetal ⟨0, by decide⟩ ()
  | .listing .conductors, _ => mem_routes .baremetal ⟨1, by decide⟩ ()
  | .listing (.loadBalancers project), _ => mem_routes .loadBalancer ⟨0, by decide⟩ project
  | .loadBalancerStatistics loadBalancer, _ => mem_routes .loadBalancer ⟨1, by decide⟩ loadBalancer
  | .listing (.listeners project), _ => mem_routes .loadBalancer ⟨2, by decide⟩ project
  | .listing (.listenersOf project loadBalancer), _ =>
    mem_routes .loadBalancer ⟨3, by decide⟩ (loadBalancer, project)
  | .listenerStatistics listener, _ => mem_routes .loadBalancer ⟨4, by decide⟩ listener
  | .listing (.pools project), _ => mem_routes .loadBalancer ⟨5, by decide⟩ project
  | .listing (.poolsOf project loadBalancer), _ =>
    mem_routes .loadBalancer ⟨6, by decide⟩ (loadBalancer, project)
  | .listing (.members project pool), _ => mem_routes .loadBalancer ⟨7, by decide⟩ (pool, project)
  | .listing (.healthMonitors project), _ => mem_routes .loadBalancer ⟨8, by decide⟩ project
  | .listing (.healthMonitorsOf project pool), _ =>
    mem_routes .loadBalancer ⟨9, by decide⟩ (pool, project)
  | .listing .amphorae, _ => mem_routes .loadBalancer ⟨10, by decide⟩ ()
  | .listing (.amphoraeOf loadBalancer), _ => mem_routes .loadBalancer ⟨11, by decide⟩ loadBalancer
  | .listing (.amphoraStatistics amphora), _ => mem_routes .loadBalancer ⟨12, by decide⟩ amphora

/-- **A URL tells which resource of a component it is of.** -/
theorem url_injective {r r' : Resource} {endpoint : String} (hr : r.query?.isSome = true)
    (hr' : r'.query?.isSome = true) (hcomponent : r.component = r'.component)
    (hurl : r.url endpoint = r'.url endpoint) : r = r' := by
  obtain ⟨route, hroute, ids, rfl⟩ := r.on_route hr
  obtain ⟨route', hroute', ids', rfl⟩ := r'.on_route hr'
  have htrail : route.head ++ route.rest ids = route'.head ++ route'.rest ids' := by
    rw [← route.trail_eq, ← route'.trail_eq, trail, trail,
      (String.append_right_inj endpoint).1 hurl]
  by_cases hsame : route = route'
  · subst hsame
    rw [route.injective ids ids' (List.append_cancel_left htrail)]
  · rw [← hcomponent] at hroute'
    have hapart := (routes_apart _).forall hroute hroute' hsame
    have hhead : route'.head <+: route.head ++ route.rest ids := ⟨_, htrail.symm⟩
    rcases List.prefix_or_prefix_of_prefix (List.prefix_append _ _) hhead with h | h
    · exact absurd h hapart.1
    · exact absurd h hapart.2

/-- **No resource stands at the endpoint itself.** -/
theorem url_ne_endpoint (r : Resource) (endpoint : String) : r.url endpoint ≠ endpoint := by
  have hsegments : r.target.segments ≠ [] := by
    cases r with
    | listing l => cases l <;> exact List.cons_ne_nil _ _
    | _ => exact List.cons_ne_nil _ _
  intro h
  rw [url, String.append_eq_left_iff] at h
  exact Target.text_ne_empty hsegments h

end Resource

end StackWatch
