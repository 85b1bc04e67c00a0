import ScalingMetrics.Proofs.Autoscaler.Declarations
import ScalingMetrics.Proofs.Store.History
import ScalingMetrics.Proofs.Store.Labels

/-!
# Values of declared metrics

Each declaration of an autoscaler has a poller of its own, told from the others by the whole
selector of its metric. The store tells values apart by the labels that the selector fixes. So two
declarations about one object feed two entries exactly if their metrics differ in name or labels;
where they differ in anything else, each value of one replaces the last value of the other.
-/

namespace ScalingMetrics

/-- A declaration that is not external says which object its values describe. -/
theorem Autoscaler.exists_describedObject {a : Autoscaler} {ds : List Declaration}
    (parsed : a.declarations = .ok ds) {d : Declaration} (hd : d ∈ ds)
    (inside : d.metric.source ≠ .external) : ∃ o, d.describedObject = some o := by
  obtain ⟨m, spec, -, declares⟩ := exists_declares parsed hd
  obtain ⟨metric, given, -⟩ := declares.metric
  rw [declares.object]
  cases hsource : d.metric.source with
  | pods => exact ⟨_, rfl⟩
  | object =>
      rw [hsource] at given
      obtain ⟨o, ho, -⟩ := Option.map_eq_some_iff.mp given
      rw [MetricSpec.described, ho]
      exact ⟨_, rfl⟩
  | external => exact absurd hsource inside

/-! ### Changes under other keys -/

namespace Store

theorem holds_iff_of_custom? {s : Store} {x : Sample} {k : ObjectKey} {w : LabelledValue}
    {expiry : Timestamp} (h : x.custom? = some (k, w)) :
    s.Holds x expiry ↔ s.custom.get? k = some ⟨w, expiry⟩ := by
  cases x with
  | pods ns v | object ns v =>
      obtain ⟨rfl, rfl⟩ := Prod.mk.inj (Option.some.inj h)
      rfl
  | external ns v => cases h

/-- A value stays through a change that leaves its key alone. -/
theorem Holds.apply {s : Store} {x : Sample} {k : ObjectKey} {w : LabelledValue}
    {expiry : Timestamp} {a : StoreAction} (h : s.Holds x expiry) (hx : x.custom? = some (k, w))
    (ha : a.Spares Sample.custom? k expiry) : (s.apply a).Holds x expiry := by
  rw [holds_iff_of_custom? hx] at h ⊢
  rw [custom_apply, get?_changeIndex]
  exact .inr ⟨h, ha⟩

/-- A value stays through changes that leave its key alone. -/
theorem Holds.foldl_apply {x : Sample} {k : ObjectKey} {w : LabelledValue} {expiry : Timestamp}
    (hx : x.custom? = some (k, w)) {changes : List StoreAction}
    (spared : ∀ a ∈ changes, a.Spares Sample.custom? k expiry) {s : Store}
    (h : s.Holds x expiry) : (changes.foldl Store.apply s).Holds x expiry := by
  induction changes generalizing s with
  | nil => exact h
  | cons a rest ih =>
      obtain ⟨ha, hrest⟩ := List.forall_mem_cons.mp spared
      exact ih hrest (h.apply hx ha)

end Store

/-! ### The entry of a declaration -/

namespace Declaration

variable {d d' : Declaration} {o : ObjectRef}

/-- A value as its collector tags it: it describes the object of the declaration and carries the
declared metric with its whole selector. -/
def Tags (d : Declaration) : Sample → Prop
  | .pods _ v => d.describedObject = some v.describedObject ∧ v.metric = d.metric.metric
  | .object _ v => d.describedObject = some v.describedObject ∧ v.metric = d.metric.metric
  | .external .. => False

/-- The key of the values of a declaration about an object. -/
def entryKey (d : Declaration) (o : ObjectRef) : ObjectKey :=
  ⟨d.metric.metric.name, .ofObject o, o.ns, o.name, d.metric.metric.labels.render⟩

/-- All values of a declaration have one key. -/
theorem Tags.custom?_eq {x : Sample} (h : d.Tags x) (ho : d.describedObject = some o) :
    ∃ w, x.custom? = some (d.entryKey o, w) := by
  cases x with
  | pods ns v | object ns v =>
      obtain ⟨hobject, hmetric⟩ := h
      obtain rfl := Option.some.inj (ho.symm.trans hobject)
      refine ⟨.ofValue v, ?_⟩
      rw [entryKey, ← hmetric]
      rfl
  | external ns v => exact h.elim

theorem entryKey_eq_iff (plain : d.metric.metric.labels.Plain)
    (plain' : d'.metric.metric.labels.Plain) :
    d.entryKey o = d'.entryKey o ↔ d.metric.metric.name = d'.metric.metric.name ∧
      d.metric.metric.labels = d'.metric.metric.labels := by
  simp only [entryKey, ObjectKey.mk.injEq, true_and]
  refine and_congr_right fun _ => ⟨Labels.render_inj plain plain', ?_⟩
  intro hlabels
  rw [hlabels]

/-- A change of the store that inserts a value of the declaration. -/
def Feeds (d : Declaration) : StoreAction → Prop
  | .insert x _ => d.Tags x
  | .sweep _ => False

theorem Feeds.spares {a : StoreAction} (h : d'.Feeds a) (ho : d'.describedObject = some o)
    (hkey : d.entryKey o ≠ d'.entryKey o) (expiry : Timestamp) :
    a.Spares Sample.custom? (d.entryKey o) expiry := by
  cases a with
  | sweep now => exact h.elim
  | insert x e =>
      obtain ⟨w, hx⟩ := Tags.custom?_eq h ho
      intro v hv
      rw [hx] at hv
      exact hkey (Prod.mk.inj (Option.some.inj hv)).1.symm

/-- A value under the key of another one replaces it. -/
theorem Tags.replaced {x y : Sample} (hx : d.Tags x) (hy : d'.Tags y)
    (ho : d.describedObject = some o) (ho' : d'.describedObject = some o)
    (hkey : d.entryKey o = d'.entryKey o) {e f : Timestamp} (later : f ≠ e) (s : Store) :
    ¬ (s.insert y f).Holds x e := by
  obtain ⟨w, hw⟩ := hx.custom?_eq ho
  obtain ⟨w', hw'⟩ := hy.custom?_eq ho'
  rw [Store.holds_iff_of_custom? hw]
  change (s.apply (.insert y f)).custom.get? _ ≠ _
  rw [ne_eq, Store.custom_apply, get?_changeIndex]
  rintro (⟨sample, hinsert, -⟩ | ⟨-, hspared⟩)
  · exact later (StoreAction.insert.inj hinsert).2
  · exact hspared w' (hkey ▸ hw')

/-- A value that a collector may deliver for a declaration about an object. -/
def sample (d : Declaration) (o : ObjectRef) : Sample :=
  .object o.ns ⟨o, d.metric.metric, ⟨0, 0⟩, none, .zero false⟩

theorem tags_sample (ho : d.describedObject = some o) : d.Tags (d.sample o) := ⟨ho, rfl⟩

end Declaration

/-- Let an autoscaler have a declaration that is not external, and let another one be about the same
object. No value of the one is ever replaced by values of the other, exactly if their metrics
differ in name or in the labels that their selectors fix. -/
theorem declared_values_kept_apart {a : Autoscaler} {ds : List Declaration}
    (parsed : a.declarations = .ok ds) {d d' : Declaration} (hd : d ∈ ds)
    (inside : d.metric.source ≠ .external) (same : d.describedObject = d'.describedObject)
    (plain : d.metric.metric.labels.Plain) (plain' : d'.metric.metric.labels.Plain) :
    (∀ (s : Store) x expiry (changes : List StoreAction), d.Tags x → s.Holds x expiry →
        (∀ c ∈ changes, d'.Feeds c) → (changes.foldl Store.apply s).Holds x expiry) ↔
      d.metric.metric.name ≠ d'.metric.metric.name ∨
        d.metric.metric.labels ≠ d'.metric.metric.labels := by
  obtain ⟨o, ho⟩ := a.exists_describedObject parsed hd inside
  have ho' : d'.describedObject = some o := same ▸ ho
  have hkey : d.entryKey o ≠ d'.entryKey o ↔ d.metric.metric.name ≠ d'.metric.metric.name ∨
      d.metric.metric.labels ≠ d'.metric.metric.labels := by
    rw [ne_eq, Declaration.entryKey_eq_iff plain plain', not_and_or]
  rw [← hkey]
  constructor
  · intro kept heq
    have lost := (Declaration.tags_sample ho).replaced (Declaration.tags_sample ho') ho ho' heq
      (e := ⟨0, 0⟩) (f := ⟨1, 0⟩) (by decide) (Store.empty.insert (d.sample o) ⟨0, 0⟩)
    refine lost (kept (Store.empty.insert (d.sample o) ⟨0, 0⟩) _ _ [.insert (d'.sample o) ⟨1, 0⟩]
      (Declaration.tags_sample ho) (Store.holds_insert ..) ?_)
    intro c hc
    rw [List.mem_singleton.mp hc]
    exact Declaration.tags_sample ho'
  · intro hne s x expiry changes hx held fed
    obtain ⟨w, hw⟩ := hx.custom?_eq ho
    exact held.foldl_apply hw fun c hc => (fed c hc).spares ho' hne expiry

/-- A metric of an ingress: the labels that its selector fixes, and a backend that it requires. -/
def requestsOf (labels : List (String × String)) (backend : String) : MetricSpec where
  kind := "Object"
  pods := none
  object := some
    { describedObject := ⟨some "networking.k8s.io/v1", "Ingress", "front"⟩
      metric := ⟨"requests", some ⟨some (.ofList labels), some [⟨"backend", "In", some [backend]⟩]⟩⟩
      target := ⟨"Value", some "10", none, none⟩ }
  external := none
  resource := none
  container := none

/-- What the metric declares in the namespace `shop`. -/
def requestsDeclared (labels : List (String × String)) (backend : String) : Declaration :=
  { Declaration.plain
      ⟨.object, "requests", some ⟨.ofList labels, [⟨"backend", .isIn, [backend]⟩]⟩⟩ with
    describedObject := some ⟨"networking.k8s.io/v1", "Ingress", "front", "shop"⟩ }

/-- An autoscaler in the namespace `shop`. -/
def shopAutoscaler (metrics : List MetricSpec) : Autoscaler :=
  ⟨{ Metadata.empty with name := some "web", ns := some "shop" },
    some ⟨none, 10, ⟨some "apps/v1", "Deployment", "web"⟩, some metrics, none⟩, none⟩

theorem declared_values_kept_apart_paths :
    ∃ ds d d', d = requestsDeclared [("path", "/api")] "a" ∧
      d' = requestsDeclared [("path", "/web")] "a" ∧
      (shopAutoscaler [requestsOf [("path", "/api")] "a",
        requestsOf [("path", "/web")] "a"]).declarations = .ok ds ∧
      d ∈ ds ∧ d' ∈ ds ∧ d.metric.source ≠ .external ∧ d.describedObject = d'.describedObject ∧
      d.metric.metric.labels.Plain ∧ d'.metric.metric.labels.Plain ∧
      ∀ (s : Store) x expiry (changes : List StoreAction), d.Tags x → s.Holds x expiry →
        (∀ c ∈ changes, d'.Feeds c) → (changes.foldl Store.apply s).Holds x expiry := by
  have parsed : (shopAutoscaler [requestsOf [("path", "/api")] "a",
      requestsOf [("path", "/web")] "a"]).declarations =
      .ok [requestsDeclared [("path", "/api")] "a", requestsDeclared [("path", "/web")] "a"] := rfl
  have same : (requestsDeclared [("path", "/api")] "a").describedObject =
      (requestsDeclared [("path", "/web")] "a").describedObject := rfl
  have apart := declared_values_kept_apart parsed (d := requestsDeclared [("path", "/api")] "a")
    (by simp) (by decide) same (by decide) (by decide)
  exact ⟨_, _, _, rfl, rfl, parsed, by simp, by simp, by decide, rfl, by decide, by decide,
    apart.mpr (.inr (by decide))⟩

/-- Declarations whose selectors differ only in what they require have pollers of their own and one
entry in common. -/
theorem slots_share_entry :
    ∃ ds d d' x y e f, d = requestsDeclared [] "a" ∧ d' = requestsDeclared [] "b" ∧
      (shopAutoscaler [requestsOf [] "a", requestsOf [] "b"]).declarations = .ok ds ∧
      d ∈ ds ∧ d' ∈ ds ∧ d.metric ≠ d'.metric ∧
      d.metric.source = .object ∧ d'.metric.source = .object ∧
      d.describedObject = d'.describedObject ∧ d.Tags x ∧ d'.Tags y ∧
      (Store.empty.insert x e).Holds x e ∧
      ¬ ((Store.empty.insert x e).insert y f).Holds x e := by
  have parsed : (shopAutoscaler [requestsOf [] "a", requestsOf [] "b"]).declarations =
      .ok [requestsDeclared [] "a", requestsDeclared [] "b"] := rfl
  have hx := Declaration.tags_sample (d := requestsDeclared [] "a") rfl
  have hy := Declaration.tags_sample (d := requestsDeclared [] "b") rfl
  exact ⟨_, _, _, _, _, ⟨60, 0⟩, ⟨90, 0⟩, rfl, rfl, parsed, by simp, by simp, by decide, rfl, rfl,
    rfl, hx, hy, Store.holds_insert .., hx.replaced hy rfl rfl rfl (by decide) _⟩

end ScalingMetrics
