import ScalingMetrics.Http.Router
import ScalingMetrics.Proofs.Http.Paths
import ScalingMetrics.Proofs.Results
import ScalingMetrics.Proofs.Store.Lookup

/-!
# Answers to requests for values of objects

A request whose path leads to values of objects is answered from the store. The answer holds the
documents of those selected values that can be served.
-/

namespace ScalingMetrics

variable {history : List StoreAction} {v : ObjectValue}

/-! ### Documents of values -/

/-- The first member is found under its name if no other one has it. -/
theorem Json.member?_obj_first {name : String} {rest : List (String × Json)}
    (h : ∀ m ∈ rest, m.1 ≠ name) (j : Json) : (obj ((name, j) :: rest)).member? name = some j := by
  have hrest : rest.reverse.find? (fun m => m.1 == name) = none := by
    simpa [List.find?_eq_none] using h
  rw [member?, List.reverse_cons, List.find?_append, hrest]
  simp

/-- The namespace of the object that a served value describes. -/
def describedNamespace? (j : Json) : Option String :=
  ((j.member? "describedObject").bind (·.member? "namespace")).bind Json.asString?

theorem describedNamespace?_view {j : Json} (h : v.view = .ok j) :
    describedNamespace? j = some v.describedObject.ns := by
  rw [ObjectValue.view] at h
  obtain ⟨quantity, -, rfl⟩ := map_eq_ok_iff.mp h
  have hwindow : ∀ m ∈ windowMember v.windowSeconds, m.1 ≠ "describedObject" := by
    cases v.windowSeconds <;> simp [windowMember]
  have hselector : ∀ m ∈ selectorMember v.metric.selector, m.1 ≠ "describedObject" := by
    cases v.metric.selector with
    | none => simp [selectorMember]
    | some s => rw [selectorMember]; split <;> simp
  rw [describedNamespace?]
  simp only [List.cons_append]
  rw [Json.member?_obj_first]
  · rfl
  · intro m hm
    simp only [List.nil_append, List.mem_cons, List.mem_append, List.not_mem_nil, or_false] at hm
    rcases hm with rfl | rfl | (hm | rfl) | hm
    · simp
    · simp
    · exact hwindow m hm
    · simp
    · exact hselector m hm

/-- A value of zero can be served. -/
theorem exists_view_of_zero (h : v.value = .zero false) : ∃ j, v.view = .ok j := by
  have hquantity : quantity? (.zero false) = some "0" := by decide +kernel
  rw [ObjectValue.view, quantityOf, h, hquantity]
  exact ⟨_, rfl⟩

/-! ### Addresses and paths -/

namespace Http

variable {address path : String} {q : SelectorQuery} {values : List ObjectValue}

/-- The path to values of objects that an address leads to. -/
def objectPath? (address : String) : Option String :=
  match route? (splitAddress address).1 with
  | some (.customValues path) => decodeSegment? path
  | _ => none

/-- An address with a path to values of objects is answered from the store. -/
theorem answer_of_objectPath? (h : objectPath? address = some path) (site : Site) :
    answer site "GET" address =
      withQuery (splitAddress address).2 (answerObjects site.store path) := by
  rw [objectPath?] at h
  split at h
  · next escaped hroute => simp [answer, hroute, answerRoute, h]
  · cases h

theorem withQuery_of_ok {query : List Char} (h : SelectorQuery.parse query = .ok q)
    (f : SelectorQuery → Traced Response) : withQuery query f = f q := by
  rw [withQuery, h]

/-- Behind an answer without failure there is a query that names no selector twice. -/
theorem parse_eq_ok_of_status {query : List Char} {f : SelectorQuery → Traced Response}
    (h : (withQuery query f).value.status = 200) : ∃ q, SelectorQuery.parse query = .ok q := by
  cases hq : SelectorQuery.parse query with
  | ok q => exact ⟨q, rfl⟩
  | error name => simp [withQuery, hq, Response.plain] at h

/-! ### Values in an answer -/

/-- The list of the values that can be served. -/
def served (p : ObjectPath) (values : List ObjectValue) : Response :=
  .document 200 (valueList "MetricValueList" customGroupVersion
    (serveAll ObjectValue.view p.metric values).value)

/-- Served are the documents of the values that have one. -/
theorem mem_serveAll_iff {α : Type} {view : α → Except ApiError Json} {metric : String}
    {as : List α} {j : Json} :
    j ∈ (serveAll view metric as).value ↔ ∃ a ∈ as, view a = .ok j := by
  induction as with
  | nil => simp [serveAll]
  | cons a as ih =>
      rw [serveAll]
      cases ha : view a with
      | ok i => simp [ih, ha, eq_comm]
      | error e => simp [ih, ha]

theorem status_failure_ne (e : ApiError) : (Response.failure e).status ≠ 200 := by
  cases e <;> simp [Response.failure, Response.document, ApiError.code]

variable {s : Store} {p : ObjectPath}

theorem answerObjects_of_not_parsed (h : ObjectPath.parse? path = none) :
    (answerObjects s path q).value = .failure .notFound := by
  rw [answerObjects, h]
  rfl

theorem answerObjects_of_error {e : ApiError} (hp : ObjectPath.parse? path = some p)
    (hvalues : objectValues s p q = .error e) : (answerObjects s path q).value = .failure e := by
  simp [answerObjects, hp, hvalues]

theorem answerObjects_of_ok (hp : ObjectPath.parse? path = some p)
    (hvalues : objectValues s p q = .ok values) :
    (answerObjects s path q).value = served p values := by
  simp [answerObjects, hp, hvalues, served]

/-- A request whose path selects values is answered with these. -/
theorem answer_of_objectValues {site : Site} (h : objectPath? address = some path)
    (hq : SelectorQuery.parse (splitAddress address).2 = .ok q)
    (hp : ObjectPath.parse? path = some p) (hvalues : objectValues site.store p q = .ok values) :
    (answer site "GET" address).value = served p values := by
  rw [answer_of_objectPath? h, withQuery_of_ok hq, answerObjects_of_ok hp hvalues]

/-- An answer without failure lists values that the path selects. -/
theorem served_of_status (h : (answerObjects s path q).value.status = 200) :
    ∃ p values, ObjectPath.parse? path = some p ∧ objectValues s p q = .ok values ∧
      (answerObjects s path q).value = served p values := by
  cases hp : ObjectPath.parse? path with
  | none =>
      rw [answerObjects_of_not_parsed hp] at h
      exact absurd h (status_failure_ne _)
  | some p =>
      cases hvalues : objectValues s p q with
      | ok values => exact ⟨p, values, rfl, hvalues, answerObjects_of_ok hp hvalues⟩
      | error e =>
          rw [answerObjects_of_error hp hvalues] at h
          exact absurd h (status_failure_ne e)

/-- A held value that a path asks for: it has the metric and the group-resource of the path, and it
describes an object of the namespace of the path, if the path names one. -/
structure Asked (s : Store) (p : ObjectPath) (v : ObjectValue) : Prop where
  held : s.Has v
  metric : v.metric.name = p.metric
  resource : GroupResource.ofObject v.describedObject = p.groupResource
  ns : p.ns ≠ "" → v.describedObject.ns = p.ns

/-- The values under the address of a path are those that it asks for. -/
theorem mem_bySelector_address_iff {selector : Selector} :
    v ∈ (Store.replay history).bySelector p.address p.ns selector ↔
      Asked (.replay history) p v ∧ selector.accepts v.metric.labels = true := by
  have hns : p.address.namespaced = true ↔ p.ns ≠ "" := by simp [ObjectPath.address]
  rw [Store.mem_bySelector_replay_iff, ← Store.has_replay_iff, hns]
  constructor
  · rintro ⟨held, metric, resource, ns, accepted⟩
    exact ⟨⟨held, metric, resource, ns⟩, accepted⟩
  · rintro ⟨⟨held, metric, resource, ns⟩, accepted⟩
    exact ⟨held, metric, resource, ns, accepted⟩

/-- A path selects only values that it asks for. -/
theorem asked_of_objectValues (h : objectValues (.replay history) p q = .ok values)
    (hv : v ∈ values) : Asked (.replay history) p v := by
  rw [objectValues] at h
  split at h
  · split at h
    · cases h
    · simp only at h
      split at h
      · cases h
      · cases h
        exact (mem_bySelector_address_iff.mp hv).1
  · split at h
    · cases h
    · split at h
      · cases h
      · next w hw =>
        cases h
        obtain rfl := List.mem_singleton.mp hv
        rw [Store.byName?_replay] at hw
        exact (mem_bySelector_address_iff.mp (List.mem_of_find?_eq_some hw)).1

/-- Without a selector, a wildcard selects all values under its address. -/
theorem objectValues_of_wildcard (hall : p.isWildcard = true) (hq : q.labelSelector = none)
    (hv : v ∈ s.bySelector p.address p.ns .everything) :
    objectValues s p q = .ok (s.bySelector p.address p.ns .everything) := by
  have hne : (s.bySelector p.address p.ns .everything).isEmpty = false := by
    simpa using List.ne_nil_of_mem hv
  simp [objectValues, hall, hq, querySelector, hne]

end Http

end ScalingMetrics
