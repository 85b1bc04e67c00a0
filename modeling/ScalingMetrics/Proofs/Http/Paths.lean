import Mathlib.Data.List.DropRight
import ScalingMetrics.Http.ObjectPath

/-!
# Reading paths to values of objects

The resource of a path is the text of a group-resource, and those of the table are read back from
their texts. Segments without slashes are told apart again, except for empty ones at the end.
-/

namespace ScalingMetrics

/-! ### Group-resources in paths -/

/-- What stands before the first slash holds none. -/
theorem ObjectRef.not_mem_group (o : ObjectRef) : '/' ∉ o.group.toList := by
  rw [group]
  cases h : Text.cut? '/' o.apiVersion.toList with
  | none => simp
  | some pair => simpa using Text.not_mem_of_cut? h

namespace GroupResource

variable {g : GroupResource} {o : ObjectRef}

/-- The kinds that the table has a resource for. -/
def tableKinds : List String :=
  ["Pod", "Ingress", "RouteGroup", "ScalingSchedule", "ClusterScalingSchedule"]

/-- The resources of the table. -/
def tableResources : List String :=
  ["pods", "ingresses", "routegroups", "scalingschedules", "clusterscalingschedules"]

theorem ofObject_cases (o : ObjectRef) :
    o.kind ∈ tableKinds ∧ (ofObject o).resource ∈ tableResources ∨
      o.kind ∉ tableKinds ∧ ofObject o = ⟨"", ""⟩ := by
  rw [ofObject]
  split
  · next h => simp [tableKinds, tableResources, h]
  · next h => simp [tableKinds, tableResources, h]
  · next h => simp [tableKinds, tableResources, h]
  · next h => simp [tableKinds, tableResources, h]
  · next h => simp [tableKinds, tableResources, h]
  · next hpod hingress hroutes hschedule hcluster =>
      refine .inr ⟨?_, rfl⟩
      simpa [tableKinds] using ⟨hpod, hingress, hroutes, hschedule, hcluster⟩

/-- A resource of the table can be told from a group and from other parts of a path. -/
theorem tableResources_plain : ∀ r ∈ tableResources,
    '.' ∉ r.toList ∧ '/' ∉ r.toList ∧ r ≠ "" ∧ r ≠ "namespaces" := by
  decide

theorem ofObject_plain (o : ObjectRef) :
    '.' ∉ (ofObject o).resource.toList ∧ '/' ∉ (ofObject o).resource.toList ∧
      (ofObject o).resource ≠ "namespaces" := by
  rcases ofObject_cases o with ⟨-, h⟩ | ⟨-, h⟩
  · obtain ⟨hdot, hslash, -, hword⟩ := tableResources_plain _ h
    exact ⟨hdot, hslash, hword⟩
  · rw [h]
    decide

theorem not_mem_group_ofObject (o : ObjectRef) : '/' ∉ (ofObject o).group.toList := by
  rw [ofObject]
  split
  · simp
  · exact o.not_mem_group
  · simp
  · simp
  · simp
  · simp

/-- The text of a group-resource is read back, unless there is a dot in the resource. -/
theorem parse_render (h : '.' ∉ g.resource.toList) : parse g.render = g := by
  obtain ⟨group, resource⟩ := g
  rw [render]
  split
  · next hgroup =>
      obtain rfl : group = "" := by simpa using hgroup
      rw [parse, Text.cut?_eq_none_iff.mpr h]
  · have htext : (resource ++ "." ++ group).toList = resource.toList ++ '.' :: group.toList := by
      simp
    simp only [parse, htext, Text.cut?_append_cons h, String.ofList_toList]

theorem parse_render_ofObject (o : ObjectRef) : parse (ofObject o).render = ofObject o :=
  parse_render (ofObject_plain o).1

theorem not_mem_render_ofObject (o : ObjectRef) : '/' ∉ (ofObject o).render.toList := by
  have hresource := (ofObject_plain o).2.1
  rw [render]
  split
  · exact hresource
  · simpa [not_or] using ⟨hresource, not_mem_group_ofObject o⟩

/-- The text is empty for the kinds outside the table. -/
theorem render_ofObject_eq_empty_iff : (ofObject o).render = "" ↔ o.kind ∉ tableKinds := by
  rcases ofObject_cases o with ⟨hkind, h⟩ | ⟨hkind, h⟩
  · have hne := (tableResources_plain _ h).2.2.1
    simp only [hkind, not_true_eq_false, iff_false]
    rw [render]
    split
    · exact hne
    · simp [hne]
  · simp [hkind, h, render]

end GroupResource

/-! ### Reading a path -/

namespace ObjectPath

open Text

/-- The path to values of objects of a namespace. -/
def inNamespace (ns resource name metric : String) : String :=
  joinStrings "/" ["namespaces", ns, resource, name, metric]

/-- The path to values of objects at the root. -/
def atRoot (resource name metric : String) : String := joinStrings "/" [resource, name, metric]

theorem head?_joined_ne {word : String} (hword : word ≠ "") (h : '/' ∉ word.toList)
    (pieces : List String) : (joinStrings "/" (word :: pieces)).toList.head? ≠ some '/' := by
  have hhead : word.toList.head? ≠ some '/' := fun heq => h (List.mem_of_mem_head? heq)
  cases pieces with
  | nil => exact hhead
  | cons second rest =>
      rw [joinStrings_cons (List.cons_ne_nil second rest), String.append_assoc,
        String.toList_append, List.head?_append_of_ne_nil]
      · exact hhead
      · simpa using hword

/-- A path is cut into its pieces, without the empty ones at its end. -/
theorem segments_joined {word : String} (hword : word ≠ "") {pieces : List String}
    (h : ∀ p ∈ word :: pieces, '/' ∉ p.toList) :
    splitOn '/' (trimSeparators '/' (joinStrings "/" (word :: pieces)).toList) =
      (word :: pieces.rdropWhile (· = "")).map String.toList := by
  have hhead := head?_joined_ne hword (h word List.mem_cons_self)
  induction pieces using List.reverseRecOn with
  | nil =>
      have hend : word.toList.getLast? ≠ some '/' := by
        intro heq
        exact h word List.mem_cons_self (List.mem_of_mem_getLast? heq)
      have hfirst : word.toList.head? ≠ some '/' := hhead []
      change splitOn '/' (trimSeparators '/' word.toList) = [word.toList]
      rw [trimSeparators_eq_self hfirst hend, splitOn_of_not_mem (h word List.mem_cons_self)]
  | append_singleton pieces last ih =>
      rw [← List.cons_append] at h ⊢
      have hjoined : joinStrings "/" (word :: pieces ++ [last]) =
          joinStrings "/" (word :: pieces) ++ "/" ++ last :=
        joinStrings_concat (List.cons_ne_nil word pieces)
      by_cases hlast : last = ""
      · rw [List.rdropWhile_concat_pos _ _ _ (by simpa using hlast), hjoined, hlast,
          String.append_empty, String.toList_append]
        exact (congrArg (splitOn '/') (trimSeparators_concat '/' _)).trans
          (ih fun p hp => h p (List.mem_append_left _ hp))
      · have hend : (joinStrings "/" (word :: pieces ++ [last])).toList.getLast? ≠ some '/' := by
          rw [hjoined, String.toList_append, List.getLast?_append_of_ne_nil]
          · intro heq
            exact h last (by simp) (List.mem_of_mem_getLast? heq)
          · simpa using hlast
        have hfirst : (joinStrings "/" (word :: pieces ++ [last])).toList.head? ≠ some '/' :=
          hhead (pieces ++ [last])
        rw [List.rdropWhile_concat_neg _ _ _ (by simpa using hlast), ← List.cons_append,
          trimSeparators_eq_self hfirst hend, splitOn_joinStrings rfl (by simp) h]

variable {ns resource name metric : String} {p : ObjectPath}

theorem ofSegments?_eq_some {ns resource name metric : List Char}
    (h : ofSegments? ns resource name metric = some p) :
    p = ⟨.ofList ns, .parse (.ofList resource), .ofList name, .ofList metric⟩ := by
  rw [ofSegments?] at h
  split at h
  · cases h
  · exact (Option.some.inj h).symm

theorem ofSegments?_of_empty (ns name metric : List Char) : ofSegments? ns [] name metric = none :=
  rfl

theorem ofSegments?_of_ne (hresource : resource ≠ "") (hname : name ≠ "") (hmetric : metric ≠ "") :
    ofSegments? ns.toList resource.toList name.toList metric.toList =
      some ⟨ns, .parse resource, name, metric⟩ := by
  simp [ofSegments?, hresource, hname, hmetric]

theorem parse?_inNamespace (segments : ∀ t ∈ [ns, resource, name, metric], '/' ∉ t.toList)
    (hlast : metric ≠ "") :
    parse? (inNamespace ns resource name metric) =
      ofSegments? ns.toList resource.toList name.toList metric.toList := by
  have hdrop : [ns, resource, name, metric].rdropWhile (· = "") = [ns, resource, name, metric] := by
    simp [List.rdropWhile, hlast]
  rw [parse?, inNamespace,
    segments_joined (by decide) (List.forall_mem_cons.mpr ⟨by decide, segments⟩), hdrop]
  rfl

theorem parse?_atRoot (segments : ∀ t ∈ [resource, name, metric], '/' ∉ t.toList)
    (hfirst : resource ≠ "") (hlast : metric ≠ "") :
    parse? (atRoot resource name metric) =
      ofSegments? [] resource.toList name.toList metric.toList := by
  have hdrop : [name, metric].rdropWhile (· = "") = [name, metric] := by
    simp [List.rdropWhile, hlast]
  rw [parse?, atRoot, segments_joined hfirst segments, hdrop]
  rfl

/-- The path of a namespace is read as such, unless its last two segments are empty: then it is a
path at the root, to a resource `namespaces`. -/
theorem ns_of_parse? (segments : ∀ t ∈ [ns, resource, name, metric], '/' ∉ t.toList)
    (named : ns ≠ "") (h : parse? (inNamespace ns resource name metric) = some p) :
    p.ns = ns ∨ p.groupResource = ⟨"", "namespaces"⟩ := by
  by_cases hmetric : metric = ""
  · rw [parse?, inNamespace,
      segments_joined (by decide) (List.forall_mem_cons.mpr ⟨by decide, segments⟩)] at h
    by_cases hname : name = ""
    · by_cases hresource : resource = ""
      · have hdrop : [ns, resource, name, metric].rdropWhile (· = "") = [ns] := by
          simp [List.rdropWhile, hmetric, hname, hresource, named]
        rw [hdrop] at h
        cases h
      · have hdrop : [ns, resource, name, metric].rdropWhile (· = "") = [ns, resource] := by
          simp [List.rdropWhile, hmetric, hname, hresource]
        rw [hdrop] at h
        rw [ofSegments?_eq_some h]
        exact .inr rfl
    · have hdrop : [ns, resource, name, metric].rdropWhile (· = "") = [ns, resource, name] := by
        simp [List.rdropWhile, hmetric, hname]
      rw [hdrop] at h
      cases h
  · rw [parse?_inNamespace segments hmetric] at h
    rw [ofSegments?_eq_some h]
    exact .inl String.ofList_toList

/-! ### Paths to values of an object -/

/-- A text that can stand between two slashes of a path as a name. -/
def IsSegment (s : String) : Prop := s ≠ "" ∧ '/' ∉ s.toList

instance : DecidablePred IsSegment := fun _ => inferInstanceAs (Decidable (_ ∧ _))

/-- The path with more slashes before and behind it. -/
def slashed (before : Nat) (path : String) (after : Nat) : String :=
  .ofList (List.replicate before '/') ++ path ++ .ofList (List.replicate after '/')

theorem parse?_slashed (before : Nat) (path : String) (after : Nat) :
    parse? (slashed before path after) = parse? path := by
  have chars : (slashed before path after).toList =
      List.replicate before '/' ++ path.toList ++ List.replicate after '/' := by
    simp [slashed]
  rw [parse?, chars, trimSeparators_surrounded, parse?]

theorem parse?_inNamespace_of_segments (hns : IsSegment ns) (hresource : IsSegment resource)
    (hname : IsSegment name) (hmetric : IsSegment metric) :
    parse? (inNamespace ns resource name metric) = some ⟨ns, .parse resource, name, metric⟩ := by
  have segments : ∀ t ∈ [ns, resource, name, metric], '/' ∉ t.toList := by
    simp [hns.2, hresource.2, hname.2, hmetric.2]
  rw [parse?_inNamespace segments hmetric.1, ofSegments?_of_ne hresource.1 hname.1 hmetric.1]

theorem parse?_atRoot_of_segments (hresource : IsSegment resource) (hname : IsSegment name)
    (hmetric : IsSegment metric) :
    parse? (atRoot resource name metric) = some ⟨"", .parse resource, name, metric⟩ := by
  have segments : ∀ t ∈ [resource, name, metric], '/' ∉ t.toList := by
    simp [hresource.2, hname.2, hmetric.2]
  have whole : ofSegments? "".toList resource.toList name.toList metric.toList =
      some ⟨"", .parse resource, name, metric⟩ :=
    ofSegments?_of_ne hresource.1 hname.1 hmetric.1
  rw [parse?_atRoot segments hresource.1 hmetric.1]
  exact whole

theorem isSegment_render_ofObject {o : ObjectRef} (h : o.kind ∈ GroupResource.tableKinds) :
    IsSegment (GroupResource.ofObject o).render := by
  refine ⟨fun hempty => ?_, GroupResource.not_mem_render_ofObject o⟩
  exact GroupResource.render_ofObject_eq_empty_iff.mp hempty h

/-- For an object of a kind in the table, the path of a namespace and the path at the root name what
they were made of, whatever the other segments are and however many slashes are around the path. -/
theorem object_paths_decoded {o : ObjectRef} (h : o.kind ∈ GroupResource.tableKinds)
    (hname : IsSegment name) (hmetric : IsSegment metric) (before after : Nat) :
    (∀ ns, IsSegment ns →
      parse? (slashed before (inNamespace ns (GroupResource.ofObject o).render name metric) after) =
        some ⟨ns, .ofObject o, name, metric⟩ ∧
      address ⟨ns, .ofObject o, name, metric⟩ = ⟨.ofObject o, true, metric⟩) ∧
    parse? (slashed before (atRoot (GroupResource.ofObject o).render name metric) after) =
      some ⟨"", .ofObject o, name, metric⟩ ∧
    address ⟨"", .ofObject o, name, metric⟩ = ⟨.ofObject o, false, metric⟩ := by
  have hresource := isSegment_render_ofObject h
  refine ⟨fun ns hns => ⟨?_, ?_⟩, ?_, rfl⟩
  · rw [parse?_slashed, parse?_inNamespace_of_segments hns hresource hname hmetric,
      GroupResource.parse_render_ofObject]
  · simp [address, hns.1]
  · rw [parse?_slashed, parse?_atRoot_of_segments hresource hname hmetric,
      GroupResource.parse_render_ofObject]

theorem object_paths_decoded_namespaces :
    parse? "//namespaces/namespaces/ingresses.networking.k8s.io/namespaces/rps/" =
      some ⟨"namespaces", ⟨"networking.k8s.io", "ingresses"⟩, "namespaces", "rps"⟩ ∧
    parse? "//ingresses.networking.k8s.io/namespaces/rps/" =
      some ⟨"", ⟨"networking.k8s.io", "ingresses"⟩, "namespaces", "rps"⟩ := by
  have hobject : GroupResource.ofObject ⟨"networking.k8s.io/v1", "Ingress", "front", "shop"⟩ =
      ⟨"networking.k8s.io", "ingresses"⟩ := rfl
  have hrender : GroupResource.render ⟨"networking.k8s.io", "ingresses"⟩ =
      "ingresses.networking.k8s.io" := rfl
  have hinside : slashed 2
      (inNamespace "namespaces" "ingresses.networking.k8s.io" "namespaces" "rps") 1 =
      "//namespaces/namespaces/ingresses.networking.k8s.io/namespaces/rps/" := by decide
  have hroot : slashed 2 (atRoot "ingresses.networking.k8s.io" "namespaces" "rps") 1 =
      "//ingresses.networking.k8s.io/namespaces/rps/" := by decide
  have hkind : (ObjectRef.mk "networking.k8s.io/v1" "Ingress" "front" "shop").kind ∈
      GroupResource.tableKinds := by decide
  have hword : IsSegment "namespaces" := by decide
  have hmetric : IsSegment "rps" := by decide
  obtain ⟨inside, root, -⟩ := object_paths_decoded hkind hword hmetric 2 1
  have inside := (inside "namespaces" hword).1
  rw [hobject, hrender, hinside] at inside
  rw [hobject, hrender, hroot] at root
  exact ⟨inside, root⟩

end ObjectPath

end ScalingMetrics
