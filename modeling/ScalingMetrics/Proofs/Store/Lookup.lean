import ScalingMetrics.Proofs.Store.History
import ScalingMetrics.Proofs.Store.Labels

/-!
# Finding a value by its own selector

A query by name returns the first of the values that its selector accepts, by ascending key. The
selector that fixes the labels of a metric also accepts every value with further labels. So a query
by the selector of a value finds that value exactly if no value with its labels and further ones
stands before it, and that is decided by the texts of their labels.
-/

namespace ScalingMetrics

/-! ### First of a list in order -/

/-- In a list in order, the first element that passes a test is the one before all others that
pass it. -/
theorem find?_eq_some_iff_of_pairwise {α : Type} {r : α → α → Prop}
    (asymm : ∀ {a b}, r a b → ¬ r b a) {p : α → Bool} {l : List α} (h : l.Pairwise r) {a : α} :
    l.find? p = some a ↔ a ∈ l ∧ p a = true ∧ ∀ b ∈ l, p b = true → b = a ∨ r a b := by
  induction l with
  | nil => simp
  | cons c l ih =>
      obtain ⟨hbefore, hl⟩ := List.pairwise_cons.mp h
      cases hc : p c with
      | false =>
          have hne : ∀ {b}, p b = true → b ≠ c := by
            rintro b hb rfl
            exact absurd hb (by simp [hc])
          rw [List.find?_cons_of_neg (by simp [hc]), ih hl]
          constructor
          · rintro ⟨hmem, ha, hfirst⟩
            refine ⟨List.mem_cons_of_mem c hmem, ha, ?_⟩
            intro b hb hpass
            exact hfirst b ((List.mem_cons.mp hb).resolve_left (hne hpass)) hpass
          · rintro ⟨hmem, ha, hfirst⟩
            refine ⟨(List.mem_cons.mp hmem).resolve_left (hne ha), ha, ?_⟩
            intro b hb hpass
            exact hfirst b (List.mem_cons_of_mem c hb) hpass
      | true =>
          rw [List.find?_cons_of_pos hc, Option.some.injEq]
          constructor
          · rintro rfl
            refine ⟨List.mem_cons_self, hc, ?_⟩
            intro b hb _
            exact (List.mem_cons.mp hb).imp_right (hbefore b)
          · rintro ⟨hmem, -, hfirst⟩
            rcases List.mem_cons.mp hmem with rfl | hmem
            · rfl
            · exact (hfirst c List.mem_cons_self hc).resolve_right (asymm (hbefore a hmem))

/-! ### What a selector of labels accepts -/

/-- Every label is one of the other labels. -/
def Labels.Within (a b : Labels) : Prop := ∀ k v, a.get? k = some v → b.get? k = some v

namespace MetricId

/-- The selector that a metric is looked up by. Without one, everything is selected. -/
def ownSelector (m : MetricId) : Selector := m.selector.getD .everything

/-- The selector of the metric, if there is one, fixes labels and requires nothing else. -/
def FixesLabels (m : MetricId) : Prop := m.ownSelector.matchExpressions = []

theorem matchLabels_ownSelector (m : MetricId) : m.ownSelector.matchLabels = m.labels := by
  obtain ⟨name, _ | s⟩ := m
  · rfl
  · rfl

theorem FixesLabels.accepts_iff {m : MetricId} (h : m.FixesLabels) {labels : Labels} :
    m.ownSelector.accepts labels = true ↔ m.labels.Within labels := by
  have hrequired : ∀ r ∈ m.ownSelector.matchExpressions, r.accepts labels = true := by
    rw [h]
    simp
  rw [Selector.accepts_iff, matchLabels_ownSelector]
  exact and_iff_left hrequired

end MetricId

/-! ### Values of one name -/

/-- The address that a value has in its namespace. -/
def ObjectValue.address (v : ObjectValue) : CustomAddress :=
  ⟨.ofObject v.describedObject, true, v.metric.name⟩

/-- A value that can be taken for another: it has the other's metric name, group-resource,
namespace and object name, and all of its labels. -/
structure ObjectValue.StandsFor (w v : ObjectValue) : Prop where
  metric : w.metric.name = v.metric.name
  resource : GroupResource.ofObject w.describedObject = .ofObject v.describedObject
  ns : w.describedObject.ns = v.describedObject.ns
  name : w.describedObject.name = v.describedObject.name
  labels : v.metric.labels.Within w.metric.labels

namespace ObjectValue.StandsFor

variable {v w u : ObjectValue}

theorem refl (v : ObjectValue) : v.StandsFor v := ⟨rfl, rfl, rfl, rfl, fun _ _ h => h⟩

/-- The keys of values of one name differ in their labels alone. -/
theorem compare_key (hw : w.StandsFor v) (hu : u.StandsFor v) :
    compare (ObjectKey.ofValue w) (ObjectKey.ofValue u) =
      compare w.metric.labels.render u.metric.labels.render := by
  change ObjectKey.compareFields _ _ = _
  simp [ObjectKey.compareFields, compareLex, compareOn, ObjectKey.ofValue, hw.metric, hu.metric,
    hw.resource, hu.resource, hw.ns, hu.ns, hw.name, hu.name]

theorem key_eq (hw : w.StandsFor v) (htext : w.metric.labels.render = v.metric.labels.render) :
    ObjectKey.ofValue w = .ofValue v := by
  rw [← Std.compare_eq_iff_eq, hw.compare_key (.refl v), htext, Std.compare_self]

end ObjectValue.StandsFor

/-- The text of no labels comes before every other text. -/
theorem Labels.compare_render_empty {labels : Labels} (h : labels.render ≠ "") :
    compare (Labels.render ∅) labels.render = .lt := by
  have hlt : (Labels.render ∅) < labels.render := by
    rw [String.lt_iff]
    change [] < labels.render.toList
    cases htext : labels.render.toList with
    | nil => exact absurd (String.toList_inj.mp (htext.trans String.toList_empty.symm)) h
    | cons c cs => exact List.nil_lt_cons c cs
  change compareOfLessAndEq _ _ = _
  rw [compareOfLessAndEq, if_pos hlt]

namespace Store

variable {history : List StoreAction} {v w : ObjectValue}

/-- The store holds a value that describes an object. -/
def Has (s : Store) (v : ObjectValue) : Prop :=
  ∃ expiry, s.custom.get? (.ofValue v) = some ⟨.ofValue v, expiry⟩

/-- Values held under one key are one value. -/
theorem Has.eq_of_key {s : Store} (hv : s.Has v) (hw : s.Has w)
    (hkey : ObjectKey.ofValue v = .ofValue w) : v = w := by
  obtain ⟨_, hv⟩ := hv
  obtain ⟨_, hw⟩ := hw
  rw [hkey, hw] at hv
  exact congrArg (fun e => e.value.value) (Option.some.inj hv.symm)

theorem has_replay_iff :
    (replay history).Has v ↔
      ∃ expiry, Stands Sample.custom? history (.ofValue v) (.ofValue v) expiry := by
  simp only [Has, SortedMap.get?_eq_some_iff, mem_custom_replay_iff]

/-- Looks a value up by its address in its namespace, by the name of its object and by the selector
of its metric. -/
def findOwn? (s : Store) (v : ObjectValue) : Option ObjectValue :=
  s.byName? v.address v.describedObject.ns v.describedObject.name v.metric.ownSelector

theorem mem_bySelector_own_iff (fixed : v.metric.FixesLabels) (u : ObjectValue) :
    u ∈ (replay history).bySelector v.address v.describedObject.ns v.metric.ownSelector ∧
        (u.describedObject.name == v.describedObject.name) = true ↔
      (replay history).Has u ∧ u.StandsFor v := by
  rw [mem_bySelector_replay_iff, ← has_replay_iff, fixed.accepts_iff, beq_iff_eq]
  constructor
  · rintro ⟨⟨has, metric, resource, ns, labels⟩, name⟩
    exact ⟨has, metric, resource, ns rfl, name, labels⟩
  · rintro ⟨has, stands⟩
    exact ⟨⟨has, stands.metric, stands.resource, fun _ => stands.ns, stands.labels⟩, stands.name⟩

/-- The value found by the selector of a value is the first of those held that stand for it. -/
theorem findOwn?_eq_some_iff (fixed : v.metric.FixesLabels) :
    (replay history).findOwn? v = some w ↔
      (replay history).Has w ∧ w.StandsFor v ∧
        ∀ u, (replay history).Has u → u.StandsFor v →
          u = w ∨ compare w.metric.labels.render u.metric.labels.render = .lt := by
  rw [findOwn?, byName?_replay,
    find?_eq_some_iff_of_pairwise Std.OrientedCmp.not_lt_of_lt pairwise_bySelector_replay,
    ← and_assoc, mem_bySelector_own_iff fixed, and_assoc]
  refine and_congr_right fun _ => and_congr_right fun hw => ?_
  constructor
  · intro first u has stands
    obtain ⟨hmem, hname⟩ := (mem_bySelector_own_iff fixed u).mpr ⟨has, stands⟩
    rw [← hw.compare_key stands]
    exact first u hmem hname
  · intro first u hmem hname
    obtain ⟨has, stands⟩ := (mem_bySelector_own_iff fixed u).mp ⟨hmem, hname⟩
    rw [hw.compare_key stands]
    exact first u has stands

/-- A held value can be taken for itself, so something is found. -/
theorem exists_findOwn?_eq_some (held : (replay history).Has v) (fixed : v.metric.FixesLabels) :
    ∃ w, (replay history).findOwn? v = some w := by
  obtain ⟨hmem, hname⟩ := (mem_bySelector_own_iff fixed v).mpr ⟨held, .refl v⟩
  rw [findOwn?, byName?_replay, ← Option.isSome_iff_exists, List.find?_isSome]
  exact ⟨v, hmem, hname⟩

theorem findOwn?_eq_self_iff (held : (replay history).Has v) (fixed : v.metric.FixesLabels) :
    (replay history).findOwn? v = some v ↔
      ∀ u, (replay history).Has u → u.StandsFor v →
        u = v ∨ compare v.metric.labels.render u.metric.labels.render = .lt := by
  rw [findOwn?_eq_some_iff fixed]
  exact ⟨fun h => h.2.2, fun first => ⟨held, .refl v, first⟩⟩

/-- The selector of a held value always finds a value that can be taken for it, and of all such
values the one with the first text of labels. The value itself is found exactly if its text is
that one. It is if the metric has no labels, and if no other value has its labels and further
ones. -/
theorem found_by_own_selector (held : (replay history).Has v) (fixed : v.metric.FixesLabels) :
    (∃ w, (replay history).findOwn? v = some w ∧ (replay history).Has w ∧ w.StandsFor v ∧
      ∀ u, (replay history).Has u → u.StandsFor v →
        u = w ∨ compare w.metric.labels.render u.metric.labels.render = .lt) ∧
    ((replay history).findOwn? v = some v ↔
      ∀ u, (replay history).Has u → u.StandsFor v →
        u = v ∨ compare v.metric.labels.render u.metric.labels.render = .lt) ∧
    (v.metric.labels = ∅ → (replay history).findOwn? v = some v) ∧
    ((∀ u, (replay history).Has u → u.StandsFor v → u.metric.labels = v.metric.labels) →
      (replay history).findOwn? v = some v) := by
  have itself := findOwn?_eq_self_iff held fixed
  -- Of the values that can be taken for it, only the value itself has its text of labels.
  have alone : ∀ u, (replay history).Has u → u.StandsFor v →
      u.metric.labels.render = v.metric.labels.render → u = v := by
    intro u has stands htext
    exact has.eq_of_key held (stands.key_eq htext)
  refine ⟨?_, itself, ?_, ?_⟩
  · obtain ⟨w, found⟩ := exists_findOwn?_eq_some held fixed
    exact ⟨w, found, (findOwn?_eq_some_iff fixed).mp found⟩
  · intro hempty
    refine itself.mpr fun u has stands => ?_
    by_cases htext : u.metric.labels.render = v.metric.labels.render
    · exact .inl (alone u has stands htext)
    · rw [hempty] at htext ⊢
      exact .inr (Labels.compare_render_empty htext)
  · intro same
    refine itself.mpr fun u has stands => .inl (alone u has stands ?_)
    rw [same u has stands]

/-- Three label sets for one pod. Two of them hold the first one and a label whose key comes
later. -/
def laterLabels : List StoreAction :=
  [.insert (.pods "shop" (labelled [("app", "a")])) ⟨60, 0⟩,
    .insert (.pods "shop" (labelled [("app", "a"), ("tier", "web")])) ⟨60, 0⟩,
    .insert (.object "shop" (labelled [("app", "a"), ("zone", "b")])) ⟨90, 0⟩]

theorem found_by_own_selector_later_labels :
    ∃ v, v = labelled [("app", "a")] ∧ (replay laterLabels).Has v ∧ v.metric.FixesLabels ∧
      (replay laterLabels).findOwn? v = some v ∧
      ∀ u, (replay laterLabels).Has u → u.StandsFor v →
        u = v ∨ compare v.metric.labels.render u.metric.labels.render = .lt := by
  have held : (replay laterLabels).Has (labelled [("app", "a")]) := ⟨⟨60, 0⟩, by decide⟩
  have found : (replay laterLabels).findOwn? (labelled [("app", "a")]) =
      some (labelled [("app", "a")]) := by decide
  exact ⟨_, rfl, held, rfl, found, (found_by_own_selector held rfl).2.1.mp found⟩

/-- A further label with an earlier key puts the larger label set before the smaller one. -/
theorem own_selector_finds_superset :
    ∃ history v w, (replay history).Has v ∧ v.metric.FixesLabels ∧
      (replay history).findOwn? v = some w ∧ w ≠ v :=
  ⟨[.insert (.pods "shop" (labelled [("b", "1")])) ⟨60, 0⟩,
      .insert (.pods "shop" (labelled [("a", "1"), ("b", "1")])) ⟨60, 0⟩],
    labelled [("b", "1")], labelled [("a", "1"), ("b", "1")], ⟨⟨60, 0⟩, by decide⟩, rfl, by decide,
    by decide⟩

end Store

end ScalingMetrics
