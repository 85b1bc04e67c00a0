import ScalingMetrics.Proofs.Http.Namespaces
import ScalingMetrics.Proofs.Store.Contents

/-!
# Wildcard requests without values

A request for all objects finds nothing only where its address is not listed. An address in a
namespace is listed with every value that the request could select, so a selector never makes it
fail. The address at the root is listed for objects outside namespaces alone, although a request
for it selects from all namespaces: there the selector decides.
-/

namespace ScalingMetrics

namespace Http

/-- A request for all objects of a path, with a selector that can be read. -/
structure WildcardRequest (address : String) (p : ObjectPath) (selector : Selector) : Prop where
  all : p.isWildcard = true
  path : ∃ path, objectPath? address = some path ∧ ObjectPath.parse? path = some p
  query : ∃ q, SelectorQuery.parse (splitAddress address).2 = .ok q ∧
    querySelector q.labelSelector = .ok selector

/-- The status of the answer to a request for an address. -/
def statusOf (site : Site) (address : String) : Nat := (answer site "GET" address).value.status

/-- A value that a path asks for has labels that the selector accepts. -/
def Selects (s : Store) (p : ObjectPath) (selector : Selector) : Prop :=
  ∃ v, Asked s p v ∧ selector.accepts v.metric.labels = true

variable {history : List StoreAction} {p : ObjectPath} {selector selector' : Selector}
  {address address' : String}

theorem bySelector_eq_nil_iff :
    (Store.replay history).bySelector p.address p.ns selector = [] ↔
      ¬ Selects (.replay history) p selector := by
  simp only [Selects, not_exists, List.eq_nil_iff_forall_not_mem, mem_bySelector_address_iff]

/-- A request for all objects fails if it selects no value and its address is not listed. -/
theorem WildcardRequest.status (request : WildcardRequest address p selector)
    (history : List StoreAction) (health : HealthRegistry) (meters : Meters) :
    (statusOf ⟨.replay history, health, meters⟩ address = 404 ∧
        ¬ Selects (.replay history) p selector ∧
        p.address ∉ (Store.replay history).customAddresses) ∨
      (statusOf ⟨.replay history, health, meters⟩ address = 200 ∧
        (Selects (.replay history) p selector ∨
          p.address ∈ (Store.replay history).customAddresses)) := by
  obtain ⟨path, asked, hp⟩ := request.path
  obtain ⟨q, hq, hselector⟩ := request.query
  rw [statusOf, answer_of_objectPath? asked, withQuery_of_ok hq]
  by_cases hnothing : ¬ Selects (.replay history) p selector ∧
      p.address ∉ (Store.replay history).customAddresses
  · have hvalues : objectValues (.replay history) p q = .error (notFound p) := by
      simp [objectValues, request.all, hselector, bySelector_eq_nil_iff, hnothing]
    rw [answerObjects_of_error hp hvalues]
    exact .inl ⟨rfl, hnothing⟩
  · have hvalues : objectValues (.replay history) p q =
        .ok ((Store.replay history).bySelector p.address p.ns selector) := by
      simp [objectValues, request.all, hselector, bySelector_eq_nil_iff, hnothing]
    rw [answerObjects_of_ok hp hvalues]
    refine .inr ⟨rfl, ?_⟩
    rwa [not_and_or, not_not, not_not] at hnothing

/-- The selectors of two requests matter only if the address is not listed. -/
theorem WildcardRequest.status_eq_iff (request : WildcardRequest address p selector)
    (request' : WildcardRequest address' p selector') (history : List StoreAction)
    (health : HealthRegistry) (meters : Meters) :
    statusOf ⟨.replay history, health, meters⟩ address =
        statusOf ⟨.replay history, health, meters⟩ address' ↔
      p.address ∈ (Store.replay history).customAddresses ∨
        (Selects (.replay history) p selector ↔ Selects (.replay history) p selector') := by
  rcases request.status history health meters with
    ⟨h, unselected, unlisted⟩ | ⟨h, known⟩
  · rcases request'.status history health meters with
      ⟨h', unselected', -⟩ | ⟨h', known'⟩
    · rw [h, h']
      exact iff_of_true rfl (.inr (iff_of_false unselected unselected'))
    · rw [h, h']
      simp [unselected, unlisted, known'.resolve_right unlisted]
  · rcases request'.status history health meters with
      ⟨h', unselected', unlisted⟩ | ⟨h', known'⟩
    · rw [h, h']
      simp [unselected', unlisted, known.resolve_right unlisted]
    · rw [h, h']
      refine iff_of_true rfl (or_iff_not_imp_left.mpr fun unlisted => ?_)
      exact iff_of_true (known.resolve_right unlisted) (known'.resolve_right unlisted)

/-- The address of a path is listed if some value of its metric and its group-resource is held
that has a namespace exactly if the path names one. -/
theorem listed_iff_known :
    p.address ∈ (Store.replay history).customAddresses ↔
      ∃ v, (Store.replay history).Has v ∧
        GroupResource.ofObject v.describedObject = p.groupResource ∧ v.metric.name = p.metric ∧
        (v.describedObject.ns ≠ "" ↔ p.ns ≠ "") := by
  have named : p.address.namespaced = true ↔ p.ns ≠ "" := by simp [ObjectPath.address]
  rw [Store.mem_customAddresses_replay_iff]
  simp only [Store.address_ofValue_eq_iff, named]
  rfl

/-- Outside namespaces, listed are the objects without a namespace that the path asks for. -/
theorem listed_at_root_iff (root : p.ns = "") :
    p.address ∈ (Store.replay history).customAddresses ↔
      ∃ v, Asked (.replay history) p v ∧ v.describedObject.ns = "" := by
  rw [listed_iff_known]
  refine exists_congr fun v => ?_
  constructor
  · rintro ⟨held, resource, metric, ns⟩
    exact ⟨⟨held, metric, resource, fun named => absurd root named⟩, by simpa [root] using ns⟩
  · rintro ⟨asked, ns⟩
    exact ⟨asked.held, asked.resource, asked.metric, by simp [root, ns]⟩

/-- In a namespace, what can be selected is listed. -/
theorem listed_of_selects (named : p.ns ≠ "") (h : Selects (.replay history) p selector) :
    p.address ∈ (Store.replay history).customAddresses := by
  obtain ⟨v, asked, -⟩ := h
  refine listed_iff_known.mpr ⟨v, asked.held, asked.resource, asked.metric, ?_⟩
  rw [asked.ns named]

/-- Two requests for all objects of a path are answered by values or not at all. If the path names
a namespace, they are answered alike, and fail only if no namespace has the metric. Otherwise they
are answered alike exactly if some object without namespace has the metric, or if both selectors
accept a value, or if neither does. -/
theorem wildcard_status (history : List StoreAction) (health : HealthRegistry) (meters : Meters)
    (request : WildcardRequest address p selector)
    (request' : WildcardRequest address' p selector') :
    (∀ a ∈ [address, address'], statusOf ⟨.replay history, health, meters⟩ a = 200 ∨
      statusOf ⟨.replay history, health, meters⟩ a = 404) ∧
    (p.ns ≠ "" →
      statusOf ⟨.replay history, health, meters⟩ address =
        statusOf ⟨.replay history, health, meters⟩ address' ∧
      (statusOf ⟨.replay history, health, meters⟩ address = 404 ↔
        ¬ ∃ v, (Store.replay history).Has v ∧
          GroupResource.ofObject v.describedObject = p.groupResource ∧
          v.metric.name = p.metric ∧ v.describedObject.ns ≠ "")) ∧
    (p.ns = "" →
      (statusOf ⟨.replay history, health, meters⟩ address =
          statusOf ⟨.replay history, health, meters⟩ address' ↔
        (∃ v, Asked (.replay history) p v ∧ v.describedObject.ns = "") ∨
          (Selects (.replay history) p selector ↔ Selects (.replay history) p selector'))) := by
  refine ⟨?_, ?_, ?_⟩
  · have answered : ∀ {address selector}, WildcardRequest address p selector →
        statusOf ⟨.replay history, health, meters⟩ address = 200 ∨
          statusOf ⟨.replay history, health, meters⟩ address = 404 :=
      fun r => (r.status history health meters).symm.imp And.left And.left
    simpa using ⟨answered request, answered request'⟩
  · intro named
    have listed : ∀ {selector}, Selects (.replay history) p selector →
        p.address ∈ (Store.replay history).customAddresses := listed_of_selects named
    constructor
    · rw [request.status_eq_iff request']
      refine or_iff_not_imp_left.mpr fun unlisted => ?_
      exact iff_of_false (mt listed unlisted) (mt listed unlisted)
    · have known : p.address ∈ (Store.replay history).customAddresses ↔ _ := listed_iff_known
      simp only [named, ne_eq, not_false_eq_true, iff_true] at known
      rw [← known]
      rcases request.status history health meters with ⟨h, -, unlisted⟩ | ⟨h, some⟩
      · exact iff_of_true h unlisted
      · rw [h]
        simp [some.elim listed id]
  · intro root
    rw [request.status_eq_iff request', listed_at_root_iff root]

/-- The selector of the objects with an application. -/
def withApp : Selector := ⟨∅, [⟨"app", .exists, []⟩]⟩

theorem wildcard_status_shop :
    ∃ p, p.ns ≠ "" ∧ WildcardRequest (podsAddress "shop") p .everything ∧
      WildcardRequest (podsAddress "shop" ++ "?labelSelector=app") p withApp ∧
      (Store.replay twoNamespaces).bySelector p.address p.ns withApp = [] ∧
      statusOf ⟨.replay twoNamespaces, .empty, .zero⟩ (podsAddress "shop") = 200 ∧
      statusOf ⟨.replay twoNamespaces, .empty, .zero⟩ (podsAddress "shop") =
        statusOf ⟨.replay twoNamespaces, .empty, .zero⟩
          (podsAddress "shop" ++ "?labelSelector=app") := by
  have request : WildcardRequest (podsAddress "shop") ⟨"shop", ⟨"", "pods"⟩, "*", "rps"⟩
      .everything :=
    ⟨rfl, ⟨ObjectPath.inNamespace "shop" "pods" "*" "rps", by decide, by decide⟩,
      ⟨⟨none, none⟩, rfl, rfl⟩⟩
  have request' : WildcardRequest (podsAddress "shop" ++ "?labelSelector=app")
      ⟨"shop", ⟨"", "pods"⟩, "*", "rps"⟩ withApp :=
    ⟨rfl, ⟨ObjectPath.inNamespace "shop" "pods" "*" "rps", by decide, by decide⟩,
      ⟨⟨some "app", none⟩, by decide, by decide⟩⟩
  have alike := (wildcard_status twoNamespaces .empty .zero request request').2.1 (by decide)
  exact ⟨_, by decide, request, request', by decide, by decide, alike.1⟩

/-- At the root, the same pods are found without a selector and unknown with one. -/
theorem root_wildcard_filtered :
    ∃ p, WildcardRequest (customRoot ++ "/pods/*/rps") p .everything ∧
      WildcardRequest (customRoot ++ "/pods/*/rps?labelSelector=app") p withApp ∧
      statusOf ⟨.replay twoNamespaces, .empty, .zero⟩ (customRoot ++ "/pods/*/rps") = 200 ∧
      statusOf ⟨.replay twoNamespaces, .empty, .zero⟩
        (customRoot ++ "/pods/*/rps?labelSelector=app") = 404 :=
  ⟨⟨"", ⟨"", "pods"⟩, "*", "rps"⟩,
    ⟨rfl, ⟨ObjectPath.atRoot "pods" "*" "rps", by decide, by decide⟩, ⟨⟨none, none⟩, rfl, rfl⟩⟩,
    ⟨rfl, ⟨ObjectPath.atRoot "pods" "*" "rps", by decide, by decide⟩,
      ⟨⟨some "app", none⟩, by decide, by decide⟩⟩,
    by decide, by decide⟩

end Http

end ScalingMetrics
