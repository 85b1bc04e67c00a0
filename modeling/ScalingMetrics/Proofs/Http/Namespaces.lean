import ScalingMetrics.Proofs.Http.Answers

/-!
# Namespaces of answers

The path of a namespace selects values of that namespace alone. An empty namespace stands for none,
though: a path with one selects the values of all namespaces.
-/

namespace ScalingMetrics

namespace Http

open ObjectPath

variable {history : List StoreAction} {address ns resource name metric : String}

/-- The values that the path of a namespace selects describe objects of that namespace. -/
theorem ns_of_mem_objectValues {p : ObjectPath} {q : SelectorQuery} {values : List ObjectValue}
    (segments : ∀ t ∈ [ns, resource, name, metric], '/' ∉ t.toList) (named : ns ≠ "")
    (hp : parse? (inNamespace ns resource name metric) = some p)
    (hvalues : objectValues (Store.replay history) p q = .ok values) {v : ObjectValue}
    (hv : v ∈ values) : v.describedObject.ns = ns := by
  have asked := asked_of_objectValues hvalues hv
  rcases ns_of_parse? segments named hp with rfl | hroot
  · exact asked.ns named
  · have hword : (GroupResource.ofObject v.describedObject).resource = "namespaces" := by
      rw [asked.resource, hroot]
    exact absurd hword (GroupResource.ofObject_plain v.describedObject).2.2

/-- A path without the name of its namespace is read as one at the root. -/
theorem parse?_inNamespace_empty (segments : ∀ t ∈ [resource, name, metric], '/' ∉ t.toList)
    (hresource : resource ≠ "") (hmetric : metric ≠ "") :
    parse? (inNamespace "" resource name metric) = parse? (atRoot resource name metric) := by
  have all : ∀ t ∈ ["", resource, name, metric], '/' ∉ t.toList :=
    List.forall_mem_cons.mpr ⟨by decide, segments⟩
  rw [parse?_inNamespace all hmetric, parse?_atRoot segments hresource hmetric]
  rfl

/-- An answer without failure to a path in a named namespace lists only values of objects of that
namespace, whatever the query. A path that leaves the name of the namespace empty is answered like
the one at the root, which selects values of all namespaces. -/
theorem answers_stay_in_namespace (history : List StoreAction) (health : HealthRegistry)
    (meters : Meters) (segments : ∀ t ∈ [ns, resource, name, metric], '/' ∉ t.toList)
    (asked : objectPath? address = some (inNamespace ns resource name metric)) :
    (ns ≠ "" → ∀ r, (answer ⟨.replay history, health, meters⟩ "GET" address).value = r →
      r.status = 200 →
        ∃ items, r = .document 200 (valueList "MetricValueList" customGroupVersion items) ∧
          ∀ item ∈ items, describedNamespace? item = some ns) ∧
    (ns = "" → resource ≠ "" → metric ≠ "" → ∀ root,
      objectPath? root = some (atRoot resource name metric) →
      (splitAddress root).2 = (splitAddress address).2 →
        answer ⟨.replay history, health, meters⟩ "GET" address =
          answer ⟨.replay history, health, meters⟩ "GET" root) := by
  constructor
  · rintro named r rfl hstatus
    rw [answer_of_objectPath? asked] at hstatus ⊢
    obtain ⟨q, hq⟩ := parse_eq_ok_of_status hstatus
    rw [withQuery_of_ok hq] at hstatus ⊢
    obtain ⟨p, values, hp, hvalues, hserved⟩ := served_of_status hstatus
    refine ⟨_, hserved, ?_⟩
    intro item hitem
    obtain ⟨v, hv, hview⟩ := mem_serveAll_iff.mp hitem
    rw [describedNamespace?_view hview, ns_of_mem_objectValues segments named hp hvalues hv]
  · rintro rfl hresource hmetric root hroot hquery
    have hsame : answerObjects (.replay history) (inNamespace "" resource name metric) =
        answerObjects (.replay history) (atRoot resource name metric) := by
      funext q
      rw [answerObjects, answerObjects,
        parse?_inNamespace_empty (List.forall_mem_cons.mp segments).2 hresource hmetric]
    rw [answer_of_objectPath? asked, answer_of_objectPath? hroot, hquery, hsame]

/-- A value of a pod of the namespace. -/
def podIn (ns : String) : ObjectValue :=
  ⟨⟨"v1", "Pod", "web", ns⟩, ⟨"rps", none⟩, ⟨0, 0⟩, none, .zero false⟩

/-- Pods of one name in two namespaces. -/
def twoNamespaces : List StoreAction :=
  [.insert (.pods "shop" (podIn "shop")) ⟨60, 0⟩, .insert (.pods "farm" (podIn "farm")) ⟨60, 0⟩]

/-- Where the values of all pods of the namespace are found. -/
def podsAddress (ns : String) : String := customRoot ++ "/namespaces/" ++ ns ++ "/pods/*/rps"

theorem answers_stay_in_namespace_shop :
    ∃ r, (∀ t ∈ ["shop", "pods", "*", "rps"], '/' ∉ t.toList) ∧
      objectPath? (podsAddress "shop") = some (inNamespace "shop" "pods" "*" "rps") ∧
      (answer ⟨.replay twoNamespaces, .empty, .zero⟩ "GET" (podsAddress "shop")).value = r ∧
      r.status = 200 ∧
      ∃ items, r = .document 200 (valueList "MetricValueList" customGroupVersion items) ∧
        ∀ item ∈ items, describedNamespace? item = some "shop" := by
  have segments : ∀ t ∈ ["shop", "pods", "*", "rps"], '/' ∉ t.toList := by decide
  have asked : objectPath? (podsAddress "shop") = some (inNamespace "shop" "pods" "*" "rps") := by
    decide
  have hstatus : (answer ⟨.replay twoNamespaces, .empty, .zero⟩ "GET"
      (podsAddress "shop")).value.status = 200 := by
    decide
  have stays := (answers_stay_in_namespace twoNamespaces .empty .zero segments asked).1 (by decide)
  exact ⟨_, segments, asked, rfl, hstatus, stays _ rfl hstatus⟩

/-- With an empty namespace, a path is answered with values of every namespace. -/
theorem empty_namespace_answers_all :
    ∃ items item,
      objectPath? (podsAddress "") = some (inNamespace "" "pods" "*" "rps") ∧
      (answer ⟨.replay twoNamespaces, .empty, .zero⟩ "GET" (podsAddress "")).value =
        .document 200 (valueList "MetricValueList" customGroupVersion items) ∧
      item ∈ items ∧ describedNamespace? item ≠ some "" := by
  have asked : objectPath? (podsAddress "") = some (inNamespace "" "pods" "*" "rps") := by decide
  have hp : parse? (inNamespace "" "pods" "*" "rps") = some ⟨"", ⟨"", "pods"⟩, "*", "rps"⟩ := by
    decide
  have hvalues : objectValues (.replay twoNamespaces) ⟨"", ⟨"", "pods"⟩, "*", "rps"⟩ ⟨none, none⟩ =
      .ok [podIn "farm", podIn "shop"] := by
    rfl
  obtain ⟨item, hitem⟩ := exists_view_of_zero (v := podIn "shop") rfl
  refine ⟨_, item, asked, answer_of_objectValues asked rfl hp hvalues,
    mem_serveAll_iff.mpr ⟨podIn "shop", by simp, hitem⟩, ?_⟩
  rw [describedNamespace?_view hitem]
  decide

end Http

end ScalingMetrics
