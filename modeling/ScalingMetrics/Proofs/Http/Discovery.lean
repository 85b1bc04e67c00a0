import ScalingMetrics.Proofs.Http.Addresses
import ScalingMetrics.Proofs.Store.Contents

/-!
# Fetching what is listed

The discovery document lists the addresses of the held values, each by the text of its
group-resource and the name of its metric. A line is fetched in a namespace by the path with both
texts and a wildcard. That works for the kinds of the table; any other kind is listed with an empty
text, and a path with an empty segment leads nowhere.
-/

namespace ScalingMetrics

namespace Store

/-! ### Lines of the discovery document -/

/-- A value that a namespaced line stands for in a namespace. -/
structure Behind (s : Store) (resource metric ns : String) (v : ObjectValue) : Prop where
  held : s.Has v
  line : v.address.listedName = resource ++ "/" ++ metric
  ns : v.describedObject.ns = ns

end Store

/-- The namespace of the object and the name of the metric can be put into a path. -/
def ObjectValue.Addressable (v : ObjectValue) : Prop :=
  ∀ t ∈ [v.describedObject.ns, v.metric.name], t ≠ "" ∧ '/' ∉ t.toList

instance (v : ObjectValue) : Decidable v.Addressable :=
  inferInstanceAs (Decidable (∀ t ∈ _, _))

namespace ObjectValue.Addressable

variable {v : ObjectValue}

theorem ns (h : v.Addressable) : v.describedObject.ns ≠ "" ∧ '/' ∉ v.describedObject.ns.toList :=
  h _ (by simp)

theorem metric (h : v.Addressable) : v.metric.name ≠ "" ∧ '/' ∉ v.metric.name.toList :=
  h _ (by simp)

theorem address_eq (h : v.Addressable) : (ObjectKey.ofValue v).address = v.address := by
  simp [ObjectKey.address, ObjectKey.ofValue, address, h.ns.1]

/-- The parts of a line are read back from it. -/
theorem listedName_eq_iff (h : v.Addressable) {resource metric : String} :
    v.address.listedName = resource ++ "/" ++ metric ↔
      (GroupResource.ofObject v.describedObject).render = resource ∧ v.metric.name = metric := by
  constructor
  · intro heq
    have hchars := congrArg String.toList heq
    simp only [CustomAddress.listedName, String.toList_append, List.append_assoc] at hchars
    obtain ⟨hresource, hmetric⟩ := Text.append_cons_inj
      (GroupResource.not_mem_render_ofObject v.describedObject) h.metric.2 hchars
    exact ⟨String.toList_inj.mp hresource, String.toList_inj.mp hmetric⟩
  · rintro ⟨rfl, rfl⟩
    rfl

end ObjectValue.Addressable

namespace Store

variable {history : List StoreAction} {resource metric ns : String} {v : ObjectValue}

/-- A line is listed exactly if there is a value behind it. -/
theorem listed_iff (addressable : ∀ v, (replay history).Has v → v.Addressable) :
    (∃ a ∈ (replay history).customAddresses,
      a.listedName = resource ++ "/" ++ metric ∧ a.namespaced = true) ↔
      ∃ ns v, (replay history).Behind resource metric ns v := by
  constructor
  · rintro ⟨a, ha, hline, -⟩
    obtain ⟨v, hv, rfl⟩ := mem_customAddresses_replay_iff.mp ha
    rw [(addressable v hv).address_eq] at hline
    exact ⟨_, v, hv, hline, rfl⟩
  · rintro ⟨ns, v, held, line, -⟩
    exact ⟨v.address, mem_customAddresses_replay_iff.mpr ⟨v, held, (addressable v held).address_eq⟩,
      line, rfl⟩

namespace Behind

theorem listed_as (h : (replay history).Behind resource metric ns v) (hv : v.Addressable) :
    (GroupResource.ofObject v.describedObject).render = resource ∧ v.metric.name = metric :=
  hv.listedName_eq_iff.mp h.line

/-- The texts of the line and the namespace are segments of a path. -/
theorem segments (h : (replay history).Behind resource metric ns v) (hv : v.Addressable) :
    ns ≠ "" ∧ metric ≠ "" ∧ ∀ t ∈ [ns, resource, "*", metric], '/' ∉ t.toList := by
  obtain ⟨rfl, rfl⟩ := h.listed_as hv
  rw [← h.ns]
  refine ⟨hv.ns.1, hv.metric.1, ?_⟩
  simp [hv.ns.2, hv.metric.2, GroupResource.not_mem_render_ofObject]

/-- The path of the line in the namespace selects the value. -/
theorem mem_bySelector (h : (replay history).Behind resource metric ns v) (hv : v.Addressable) :
    v ∈ (replay history).bySelector
      (ObjectPath.mk ns (.parse resource) "*" metric).address ns .everything := by
  obtain ⟨hresource, hmetric⟩ := h.listed_as hv
  refine Http.mem_bySelector_address_iff.mpr ⟨⟨h.held, hmetric, ?_, fun _ => h.ns⟩, rfl⟩
  rw [← hresource]
  exact (GroupResource.parse_render_ofObject _).symm

end Behind

end Store

namespace Http

open ObjectPath

variable {history : List StoreAction} {address resource metric ns : String} {v : ObjectValue}
  {q : SelectorQuery}

theorem answer_customRoot (site : Site) : (answer site "GET" customRoot).value =
    .document 200 (customDiscovery site.store.customAddresses) := by
  have hsplit : splitAddress customRoot = (customRoot.toList, []) := by decide
  have hroute : route? customRoot.toList = some .customDiscovery := by decide
  simp [answer, hsplit, hroute, answerRoute]

/-- All values behind a line with a resource are fetched by its path. -/
theorem fetched_of_resource {health : HealthRegistry} {meters : Meters}
    (addressable : ∀ v, (Store.replay history).Has v → v.Addressable)
    (rendered : ∀ v, (Store.replay history).Has v → ∃ j, v.view = .ok j)
    (h : (Store.replay history).Behind resource metric ns v) (hresource : resource ≠ "")
    (asked : objectPath? address = some (inNamespace ns resource "*" metric))
    (hq : SelectorQuery.parse (splitAddress address).2 = .ok q) (all : q.labelSelector = none) :
    ∃ items, (answer ⟨.replay history, health, meters⟩ "GET" address).value =
        .document 200 (valueList "MetricValueList" customGroupVersion items) ∧
      ∀ w, (Store.replay history).Behind resource metric ns w →
        ∃ item ∈ items, w.view = .ok item := by
  obtain ⟨-, hmetric, segments⟩ := h.segments (addressable v h.held)
  have hp : parse? (inNamespace ns resource "*" metric) =
      some ⟨ns, .parse resource, "*", metric⟩ := by
    rw [parse?_inNamespace segments hmetric, ofSegments?_of_ne hresource (by decide) hmetric]
  have hvalues := objectValues_of_wildcard (p := ⟨ns, .parse resource, "*", metric⟩) rfl all
    (h.mem_bySelector (addressable v h.held))
  refine ⟨_, answer_of_objectValues asked hq hp hvalues, ?_⟩
  intro w hw
  obtain ⟨item, hitem⟩ := rendered w hw.held
  exact ⟨item, mem_serveAll_iff.mpr ⟨w, hw.mem_bySelector (addressable w hw.held), hitem⟩, hitem⟩

/-- The path of a line without a resource leads nowhere. -/
theorem not_found_of_no_resource {site : Site}
    (segments : ∀ t ∈ [ns, "", "*", metric], '/' ∉ t.toList) (hmetric : metric ≠ "")
    (asked : objectPath? address = some (inNamespace ns "" "*" metric))
    (hq : SelectorQuery.parse (splitAddress address).2 = .ok q) :
    (answer site "GET" address).value = .failure .notFound := by
  have hp : parse? (inNamespace ns "" "*" metric) = none := by
    rw [parse?_inNamespace segments hmetric]
    exact ofSegments?_of_empty ..
  rw [answer_of_objectPath? asked, withQuery_of_ok hq, answerObjects_of_not_parsed hp]

/-- Let all held values be addressable and fit to be served. A line of the discovery document stands
for the values behind it. In each namespace with such values the path of the line has an address. If
their kinds are in the table, a request for it without a selector is answered with the documents of
all of them. If they are not, the line has no resource, and the request leads nowhere. -/
theorem listed_values_served (history : List StoreAction) (health : HealthRegistry)
    (meters : Meters) (resource metric : String)
    (addressable : ∀ v, (Store.replay history).Has v → v.Addressable)
    (rendered : ∀ v, (Store.replay history).Has v → ∃ j, v.view = .ok j) :
    (answer ⟨.replay history, health, meters⟩ "GET" customRoot).value =
        .document 200 (customDiscovery (Store.replay history).customAddresses) ∧
    ((∃ a ∈ (Store.replay history).customAddresses,
        a.listedName = resource ++ "/" ++ metric ∧ a.namespaced = true) ↔
      ∃ ns v, (Store.replay history).Behind resource metric ns v) ∧
    ∀ ns v, (Store.replay history).Behind resource metric ns v →
      (resource = "" ↔ v.describedObject.kind ∉ GroupResource.tableKinds) ∧
      (∃ address, objectPath? address = some (inNamespace ns resource "*" metric) ∧
        (splitAddress address).2 = []) ∧
      ∀ address q, objectPath? address = some (inNamespace ns resource "*" metric) →
        SelectorQuery.parse (splitAddress address).2 = .ok q → q.labelSelector = none →
          (resource ≠ "" → ∃ items,
            (answer ⟨.replay history, health, meters⟩ "GET" address).value =
              .document 200 (valueList "MetricValueList" customGroupVersion items) ∧
            ∀ w, (Store.replay history).Behind resource metric ns w →
              ∃ item ∈ items, w.view = .ok item) ∧
          (resource = "" →
            (answer ⟨.replay history, health, meters⟩ "GET" address).value =
              .failure .notFound) := by
  refine ⟨answer_customRoot _, Store.listed_iff addressable, ?_⟩
  intro ns v behind
  have hv := addressable v behind.held
  obtain ⟨-, hmetric, segments⟩ := behind.segments hv
  refine ⟨?_, ?_, ?_⟩
  · rw [← (behind.listed_as hv).1]
    exact GroupResource.render_ofObject_eq_empty_iff
  · apply exists_address
    intro hempty
    have hchars := congrArg String.toList hempty
    simp [inNamespace, Text.joinStrings] at hchars
  · intro address q asked hq all
    refine ⟨fun hresource => ?_, ?_⟩
    · exact fetched_of_resource addressable rendered behind hresource asked hq all
    · rintro rfl
      exact not_found_of_no_resource segments hmetric asked hq

/-- A value of an object in the namespace `shop`. -/
def inShop (apiVersion kind name : String) : ObjectValue :=
  ⟨⟨apiVersion, kind, name, "shop"⟩, ⟨"rps", none⟩, ⟨0, 0⟩, none, .zero false⟩

/-- An ingress and an object whose kind is not in the table. -/
def twoKinds : List StoreAction :=
  [.insert (.object "shop" (inShop "networking.k8s.io/v1" "Ingress" "front")) ⟨60, 0⟩,
    .insert (.object "shop" (inShop "apps/v1" "Deployment" "web")) ⟨60, 0⟩]

theorem held_twoKinds (h : (Store.replay twoKinds).Has v) :
    v = inShop "networking.k8s.io/v1" "Ingress" "front" ∨
      v = inShop "apps/v1" "Deployment" "web" := by
  have hvalues : (Store.replay twoKinds).custom.values.map (fun e => e.value.value) =
      [inShop "apps/v1" "Deployment" "web", inShop "networking.k8s.io/v1" "Ingress" "front"] := by
    decide
  obtain ⟨expiry, h⟩ := h
  have hmem := List.mem_map_of_mem (f := fun e : Stored LabelledValue => e.value.value)
    (SortedMap.mem_values_iff.mpr ⟨_, h⟩)
  rw [hvalues] at hmem
  simpa [LabelledValue.ofValue, or_comm] using hmem

theorem addressable_twoKinds : ∀ v, (Store.replay twoKinds).Has v → v.Addressable := by
  intro v h
  rcases held_twoKinds h with rfl | rfl
  · decide
  · decide

theorem rendered_twoKinds : ∀ v, (Store.replay twoKinds).Has v → ∃ j, v.view = .ok j := by
  intro v h
  rcases held_twoKinds h with rfl | rfl
  · exact exists_view_of_zero rfl
  · exact exists_view_of_zero rfl

theorem listed_values_served_ingress :
    (∀ v, (Store.replay twoKinds).Has v → v.Addressable) ∧
      (∀ v, (Store.replay twoKinds).Has v → ∃ j, v.view = .ok j) ∧
      ∃ address items,
        objectPath? address =
          some (inNamespace "shop" "ingresses.networking.k8s.io" "*" "rps") ∧
        (answer ⟨.replay twoKinds, .empty, .zero⟩ "GET" address).value =
          .document 200 (valueList "MetricValueList" customGroupVersion items) ∧
        ∃ item ∈ items,
          (inShop "networking.k8s.io/v1" "Ingress" "front").view = .ok item := by
  have behind : (Store.replay twoKinds).Behind "ingresses.networking.k8s.io" "rps" "shop"
      (inShop "networking.k8s.io/v1" "Ingress" "front") := ⟨⟨⟨60, 0⟩, by decide⟩, by decide, rfl⟩
  obtain ⟨-, ⟨address, asked, hquery⟩, fetched⟩ := (listed_values_served twoKinds .empty .zero
    "ingresses.networking.k8s.io" "rps" addressable_twoKinds rendered_twoKinds).2.2 _ _ behind
  obtain ⟨items, hanswer, hitems⟩ :=
    (fetched address ⟨none, none⟩ asked (by rw [hquery]; rfl) rfl).1 (by decide)
  exact ⟨addressable_twoKinds, rendered_twoKinds, address, items, asked, hanswer,
    hitems _ behind⟩

/-- An object whose kind is not in the table is listed and cannot be fetched. -/
theorem listed_line_not_found :
    ∃ address v,
      (∀ v, (Store.replay twoKinds).Has v → v.Addressable) ∧
      (∀ v, (Store.replay twoKinds).Has v → ∃ j, v.view = .ok j) ∧
      (∃ a ∈ (Store.replay twoKinds).customAddresses,
        a.listedName = "" ++ "/" ++ "rps" ∧ a.namespaced = true) ∧
      (Store.replay twoKinds).Behind "" "rps" "shop" v ∧
      objectPath? address = some (inNamespace "shop" "" "*" "rps") ∧
      (splitAddress address).2 = [] ∧
      (answer ⟨.replay twoKinds, .empty, .zero⟩ "GET" address).value.status = 404 :=
  ⟨customRoot ++ "/namespaces/shop//*/rps", inShop "apps/v1" "Deployment" "web",
    addressable_twoKinds, rendered_twoKinds, by decide, ⟨⟨⟨60, 0⟩, by decide⟩, by decide, rfl⟩,
    by decide, by decide, by decide⟩

end Http

end ScalingMetrics
