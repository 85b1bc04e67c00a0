import ScalingMetrics.Store.Basic

/-!
# Values that differ in their labels

The labels of a value enter its key as one text. Two values of one metric are kept side by side
exactly if the texts of their labels differ. That is so for different labels whose keys hold no
equals sign and whose values hold no comma: such a text can be read back from left to right. Other
labels can have one text in common, and then the later value replaces the earlier one.
-/

namespace ScalingMetrics

/-! ### Texts of labels -/

namespace Labels

/-- Keys without an equals sign and values without a comma. -/
def Plain (labels : Labels) : Prop :=
  ∀ e ∈ labels.entries, '=' ∉ e.1.toList ∧ ',' ∉ e.2.toList

instance (labels : Labels) : Decidable labels.Plain :=
  inferInstanceAs (Decidable (∀ e ∈ labels.entries, '=' ∉ e.1.toList ∧ ',' ∉ e.2.toList))

/-- The characters of a text of labels. -/
private def letters (entries : List (String × String)) : List Char :=
  (Text.joinStrings "," (entries.map renderLabel)).toList

/-- The characters that follow the first label. -/
private def others : List (String × String) → List Char
  | [] => []
  | entries => ',' :: letters entries

private theorem letters_cons (e : String × String) (rest : List (String × String)) :
    letters (e :: rest) = e.1.toList ++ '=' :: (e.2.toList ++ others rest) := by
  cases rest with
  | nil => simp [letters, others, Text.joinStrings, renderLabel]
  | cons f rest => simp [letters, others, Text.joinStrings, renderLabel]

/-- A value ends where the first comma stands, or else at the end. -/
private theorem value_inj {v w : String} {l m : List (String × String)} (hv : ',' ∉ v.toList)
    (hw : ',' ∉ w.toList) (h : v.toList ++ others l = w.toList ++ others m) :
    v = w ∧ letters l = letters m := by
  cases l with
  | nil =>
      cases m with
      | nil =>
          have hvw : v.toList = w.toList := by simpa [others] using h
          exact ⟨String.toList_inj.mp hvw, rfl⟩
      | cons f m =>
          have hlong : v.toList = w.toList ++ ',' :: letters (f :: m) := by
            simpa [others] using h
          exact absurd (by simp [hlong]) hv
  | cons e l =>
      cases m with
      | nil =>
          have hlong : w.toList = v.toList ++ ',' :: letters (e :: l) := by
            simpa [others] using h.symm
          exact absurd (by simp [hlong]) hw
      | cons f m =>
          have hcut := congrArg (Text.cut? ',') h
          simp only [others] at hcut
          rw [Text.cut?_append_cons hv, Text.cut?_append_cons hw] at hcut
          obtain ⟨hvw, hletters⟩ := Prod.mk.inj (Option.some.inj hcut)
          exact ⟨String.toList_inj.mp hvw, hletters⟩

private theorem entries_inj {l m : List (String × String)}
    (hl : ∀ e ∈ l, '=' ∉ e.1.toList ∧ ',' ∉ e.2.toList)
    (hm : ∀ e ∈ m, '=' ∉ e.1.toList ∧ ',' ∉ e.2.toList) (h : letters l = letters m) : l = m := by
  induction l generalizing m with
  | nil =>
      cases m with
      | nil => rfl
      | cons f m =>
          rw [letters_cons] at h
          simp [letters, Text.joinStrings] at h
  | cons e l ih =>
      cases m with
      | nil =>
          rw [letters_cons] at h
          simp [letters, Text.joinStrings] at h
      | cons f m =>
          obtain ⟨⟨hkey, hvalue⟩, hl⟩ := List.forall_mem_cons.mp hl
          obtain ⟨⟨hkey', hvalue'⟩, hm⟩ := List.forall_mem_cons.mp hm
          have hcut := congrArg (Text.cut? '=') h
          rw [letters_cons, letters_cons, Text.cut?_append_cons hkey,
            Text.cut?_append_cons hkey'] at hcut
          obtain ⟨hk, hrest⟩ := Prod.mk.inj (Option.some.inj hcut)
          obtain ⟨hv, hletters⟩ := value_inj hvalue hvalue' hrest
          rw [ih hl hm hletters, Prod.ext (String.toList_inj.mp hk) hv]

/-- Plain labels are told apart by their texts. -/
theorem render_inj {a b : Labels} (ha : a.Plain) (hb : b.Plain) (h : a.render = b.render) :
    a = b :=
  SortedMap.ext (entries_inj ha hb (congrArg String.toList h))

end Labels

/-! ### Keys of values -/

namespace Sample

/-- The labels of a value. -/
def labels : Sample → Labels
  | pods _ v => v.metric.labels
  | object _ v => v.metric.labels
  | external _ v => v.metricLabels

/-- What a value is about, apart from its labels: an object and a metric of it, or a namespace and
a metric in it. -/
def subject : Sample → (ObjectRef × String) ⊕ (String × String)
  | pods _ v => .inl (v.describedObject, v.metric.name)
  | object _ v => .inl (v.describedObject, v.metric.name)
  | external ns v => .inr (ns, v.metricName)

end Sample

theorem ObjectKey.ofValue_eq_iff {v w : ObjectValue}
    (hobject : v.describedObject = w.describedObject) (hname : v.metric.name = w.metric.name) :
    ObjectKey.ofValue v = ObjectKey.ofValue w ↔
      v.metric.labels.render = w.metric.labels.render := by
  simp [ObjectKey.ofValue, hobject, hname]

theorem ExternalKey.ofValue_eq_iff {ns : String} {v w : ExternalValue}
    (hname : v.metricName = w.metricName) :
    ExternalKey.ofValue ns v = ExternalKey.ofValue ns w ↔
      v.metricLabels.render = w.metricLabels.render := by
  simp [ExternalKey.ofValue, hname]

namespace Store

/-- The store holds a value with an expiry under the key of the value. -/
def Holds (s : Store) : Sample → Timestamp → Prop
  | .pods _ v, expiry => s.custom.get? (.ofValue v) = some ⟨.ofValue v, expiry⟩
  | .object _ v, expiry => s.custom.get? (.ofValue v) = some ⟨.ofValue v, expiry⟩
  | .external ns v, expiry => s.external.get? (.ofValue ns v) = some ⟨v, expiry⟩

theorem holds_insert (s : Store) (x : Sample) (expiry : Timestamp) :
    (s.insert x expiry).Holds x expiry := by
  cases x with
  | pods ns v => exact (SortedMap.get?_insert ..).trans (if_pos rfl)
  | object ns v => exact (SortedMap.get?_insert ..).trans (if_pos rfl)
  | external ns v => exact (SortedMap.get?_insert ..).trans (if_pos rfl)

private theorem object_held_iff (s : Store) {v w : ObjectValue} (e f : Timestamp)
    (hobject : v.describedObject = w.describedObject) (hname : v.metric.name = w.metric.name)
    (hlabels : v.metric.labels ≠ w.metric.labels) :
    ((s.insertObject v e).insertObject w f).custom.get? (.ofValue v) = some ⟨.ofValue v, e⟩ ↔
      v.metric.labels.render ≠ w.metric.labels.render := by
  have hget : ((s.insertObject v e).insertObject w f).custom.get? (.ofValue v) =
      if ObjectKey.ofValue v = .ofValue w then some ⟨.ofValue w, f⟩
      else some ⟨.ofValue v, e⟩ := by
    simp [insertObject, SortedMap.get?_insert]
  rw [hget]
  by_cases hkey : ObjectKey.ofValue v = .ofValue w
  · have hother : (⟨.ofValue w, f⟩ : Stored LabelledValue) ≠ ⟨.ofValue v, e⟩ := by
      intro heq
      have hvalue : w = v := congrArg (fun x => x.value.value) heq
      exact hlabels (hvalue ▸ rfl)
    simp [hkey, hother, (ObjectKey.ofValue_eq_iff hobject hname).mp hkey]
  · simp [hkey, mt (ObjectKey.ofValue_eq_iff hobject hname).mpr hkey]

private theorem external_held_iff (s : Store) {ns : String} {v w : ExternalValue}
    (e f : Timestamp) (hname : v.metricName = w.metricName)
    (hlabels : v.metricLabels ≠ w.metricLabels) :
    ((s.insertExternal ns v e).insertExternal ns w f).external.get? (.ofValue ns v) =
        some ⟨v, e⟩ ↔ v.metricLabels.render ≠ w.metricLabels.render := by
  have hget : ((s.insertExternal ns v e).insertExternal ns w f).external.get? (.ofValue ns v) =
      if ExternalKey.ofValue ns v = .ofValue ns w then some ⟨w, f⟩ else some ⟨v, e⟩ := by
    simp [insertExternal, SortedMap.get?_insert]
  rw [hget]
  by_cases hkey : ExternalKey.ofValue ns v = .ofValue ns w
  · have hother : (⟨w, f⟩ : Stored ExternalValue) ≠ ⟨v, e⟩ := by
      intro heq
      have hvalue : w = v := congrArg Stored.value heq
      exact hlabels (hvalue ▸ rfl)
    simp [hkey, hother, (ExternalKey.ofValue_eq_iff hname).mp hkey]
  · simp [hkey, mt (ExternalKey.ofValue_eq_iff hname).mpr hkey]

/-- Of two values that differ in their labels alone, the earlier one survives the later one exactly
if the texts of their labels differ. -/
theorem holds_insert_sibling_iff (s : Store) {x y : Sample} (e f : Timestamp)
    (same : x.subject = y.subject) (differ : x.labels ≠ y.labels) :
    ((s.insert x e).insert y f).Holds x e ↔ x.labels.render ≠ y.labels.render := by
  cases x with
  | pods ns v | object ns v =>
      cases y with
      | pods ns' w | object ns' w =>
          obtain ⟨hobject, hname⟩ := Prod.mk.inj (Sum.inl.inj same)
          exact object_held_iff s e f hobject hname differ
      | external ns' w => cases same
  | external ns v =>
      cases y with
      | pods ns' w | object ns' w => cases same
      | external ns' w =>
          obtain ⟨hns, hname⟩ := Prod.mk.inj (Sum.inr.inj same)
          subst hns
          exact external_held_iff s e f hname differ

/-- Two values of one metric with different labels are both held after they have been inserted,
exactly if the texts of their labels differ. They do if no key of a label holds an equals sign and
no value of a label holds a comma. -/
theorem siblings_held (s : Store) {x y : Sample} (e f : Timestamp)
    (same : x.subject = y.subject) (differ : x.labels ≠ y.labels) :
    (((s.insert x e).insert y f).Holds x e ∧ ((s.insert x e).insert y f).Holds y f ↔
      x.labels.render ≠ y.labels.render) ∧
    (x.labels.Plain → y.labels.Plain →
      ((s.insert x e).insert y f).Holds x e ∧ ((s.insert x e).insert y f).Holds y f) := by
  have hlast : ((s.insert x e).insert y f).Holds y f := holds_insert _ y f
  have hfirst := holds_insert_sibling_iff s e f same differ
  refine ⟨(and_iff_left hlast).trans hfirst, ?_⟩
  intro hx hy
  exact ⟨hfirst.mpr fun htext => differ (Labels.render_inj hx hy htext), hlast⟩

/-- A value of a pod whose metric has the labels. -/
def labelled (labels : List (String × String)) : ObjectValue :=
  ⟨⟨"v1", "Pod", "shop", "web"⟩, ⟨"rps", some (.ofLabels labels)⟩, ⟨0, 0⟩, none, .zero false⟩

theorem siblings_held_superset :
    ∃ x y e f, x = .pods "shop" (labelled [("app", "a")]) ∧
      y = .object "shop" (labelled [("app", "a"), ("tier", "web=1")]) ∧
      x.subject = y.subject ∧ x.labels ≠ y.labels ∧
      ((empty.insert x e).insert y f).Holds x e ∧ ((empty.insert x e).insert y f).Holds y f := by
  have held := siblings_held empty (x := .pods "shop" (labelled [("app", "a")]))
    (y := .object "shop" (labelled [("app", "a"), ("tier", "web=1")])) ⟨60, 0⟩ ⟨90, 0⟩ rfl (by decide)
  exact ⟨_, _, _, _, rfl, rfl, rfl, by decide, held.2 (by decide) (by decide)⟩

/-- A value from outside the cluster with the labels. -/
def queued (labels : List (String × String)) : Sample :=
  .external "shop" ⟨"lag", .ofList labels, ⟨0, 0⟩, none, .zero false⟩

/-- The text of a label with a comma in its value is that of two labels. -/
theorem siblings_lost :
    ∃ x y e f, x = queued [("a", "1,b=2")] ∧ y = queued [("a", "1"), ("b", "2")] ∧
      x.subject = y.subject ∧ x.labels ≠ y.labels ∧ x.labels.render = y.labels.render ∧
      ¬ ((empty.insert x e).insert y f).Holds x e := by
  refine ⟨_, _, ⟨60, 0⟩, ⟨90, 0⟩, rfl, rfl, rfl, by decide, rfl, ?_⟩
  simp only [queued, Holds]
  decide

end Store

end ScalingMetrics
