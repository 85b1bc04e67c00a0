import ScalingMetrics.Metric.Address
import ScalingMetrics.Metric.Sample
import ScalingMetrics.Telemetry.Basic
import ScalingMetrics.Store.Expiry

/-!
# The store of latest values

The store holds the latest value of each metric. A value that describes an object is kept by metric,
group-resource, namespace, object and labels; any other by namespace, metric and labels. An
insertion renews the expiry. An expired value stays until the next sweep.
-/

namespace ScalingMetrics

/-- What tells stored values that describe objects apart. -/
structure ObjectKey where
  metric : String
  groupResource : GroupResource
  ns : String
  object : String
  /-- The labels of the metric as text. -/
  labels : String
deriving DecidableEq

namespace ObjectKey

/-- Keys are ordered by their fields in turn. -/
def compareFields : ObjectKey → ObjectKey → Ordering :=
  compareLex (compareOn metric) (compareLex (compareOn groupResource)
    (compareLex (compareOn ns) (compareLex (compareOn object) (compareOn labels))))

instance : Ord ObjectKey := ⟨compareFields⟩

instance : Std.TransOrd ObjectKey :=
  inferInstanceAs (Std.TransCmp (compareLex _ (compareLex _ (compareLex _ (compareLex _ _)))))

instance : Std.LawfulEqOrd ObjectKey where
  eq_of_compare {a b} h := by
    change compareFields a b = .eq at h
    simp only [compareFields, compareLex_eq_eq, compareOn, Std.compare_eq_iff_eq] at h
    cases a; cases b; simp_all

/-- The key of a value: the namespace is that of the described object. -/
def ofValue (v : ObjectValue) : ObjectKey where
  metric := v.metric.name
  groupResource := .ofObject v.describedObject
  ns := v.describedObject.ns
  object := v.describedObject.name
  labels := v.metric.labels.render

/-- The address that the key is listed under: namespaced unless the namespace is empty. -/
def address (k : ObjectKey) : CustomAddress := ⟨k.groupResource, !k.ns.isEmpty, k.metric⟩

/-- Whether the key is addressed in a namespace. An address at the root covers all namespaces. -/
def isUnder (k : ObjectKey) (address : CustomAddress) (ns : String) : Bool :=
  k.metric == address.metric && k.groupResource == address.groupResource &&
    (!address.namespaced || k.ns == ns)

end ObjectKey

/-- What tells other stored values apart. -/
structure ExternalKey where
  ns : String
  metric : String
  /-- The labels of the value as text. -/
  labels : String
deriving DecidableEq

namespace ExternalKey

/-- Keys are ordered by their fields in turn. -/
def compareFields : ExternalKey → ExternalKey → Ordering :=
  compareLex (compareOn ns) (compareLex (compareOn metric) (compareOn labels))

instance : Ord ExternalKey := ⟨compareFields⟩

instance : Std.TransOrd ExternalKey :=
  inferInstanceAs (Std.TransCmp (compareLex _ (compareLex _ _)))

instance : Std.LawfulEqOrd ExternalKey where
  eq_of_compare {a b} h := by
    change compareFields a b = .eq at h
    simp only [compareFields, compareLex_eq_eq, compareOn, Std.compare_eq_iff_eq] at h
    cases a; cases b; simp_all

/-- The key of a value collected in a namespace. -/
def ofValue (ns : String) (v : ExternalValue) : ExternalKey :=
  ⟨ns, v.metricName, v.metricLabels.render⟩

end ExternalKey

/-- A value that describes an object, with the labels that selectors are applied to. -/
structure LabelledValue where
  value : ObjectValue
  labels : Labels
deriving DecidableEq

/-- The value with the labels of its metric. -/
def LabelledValue.ofValue (v : ObjectValue) : LabelledValue := ⟨v, v.metric.labels⟩

/-- A value with the point in time after which a sweep drops it. -/
structure Stored (α : Type) where
  value : α
  expiry : Timestamp
deriving DecidableEq

/-- The latest values by key. -/
structure Store where
  custom : SortedMap ObjectKey (Stored LabelledValue)
  external : SortedMap ExternalKey (Stored ExternalValue)
deriving DecidableEq

namespace Store

/-- No values. -/
def empty : Store := ⟨∅, ∅⟩

/-- Keeps a value that describes an object. -/
def insertObject (s : Store) (v : ObjectValue) (expiry : Timestamp) : Store :=
  { s with custom := s.custom.insert (.ofValue v) ⟨.ofValue v, expiry⟩ }

/-- Keeps any other value. -/
def insertExternal (s : Store) (ns : String) (v : ExternalValue) (expiry : Timestamp) : Store :=
  { s with external := s.external.insert (.ofValue ns v) ⟨v, expiry⟩ }

/-- Keeps a collected value over an earlier one with its key. -/
def insert (s : Store) (sample : Sample) (expiry : Timestamp) : Store :=
  match sample with
  | .pods _ v => s.insertObject v expiry
  | .object _ v => s.insertObject v expiry
  | .external ns v => s.insertExternal ns v expiry

/-- Drops the values whose expiry has passed. -/
def sweep (s : Store) (now : Timestamp) : Store where
  custom := s.custom.filter fun _ e => now.le e.expiry
  external := s.external.filter fun _ e => now.le e.expiry

/-- The number of stored values. -/
def size (s : Store) : Nat := s.custom.size + s.external.size

/-- The numbers of stored values that describe objects and of others. -/
def counts (s : Store) : Nat × Nat := (s.custom.size, s.external.size)

/-- Sweeps the store and counts what was dropped. -/
def removeExpired (s : Store) (now : Timestamp) : Traced (Store × Nat) := do
  let swept := s.sweep now
  let removed := s.size - swept.size
  if 0 < removed then
    Traced.line .debug "Removed expired metrics from store" [("removed", .count removed)]
  pure (swept, removed)

/-! ### Queries -/

/-- The values under an address whose labels a selector accepts, by ascending key. -/
def bySelector (s : Store) (address : CustomAddress) (ns : String) (selector : Selector) :
    List ObjectValue :=
  (s.custom.entries.filter fun e =>
    e.1.isUnder address ns && selector.accepts e.2.value.labels).map (·.2.value.value)

/-- The first value of a named object under an address whose labels a selector accepts. -/
def byName? (s : Store) (address : CustomAddress) (ns name : String) (selector : Selector) :
    Option ObjectValue :=
  (s.custom.entries.find? fun e =>
    e.1.isUnder address ns && e.1.object == name &&
      selector.accepts e.2.value.labels).map (·.2.value.value)

/-- The external values of a metric in a namespace whose labels a selector accepts, by ascending
key. -/
def externalValues (s : Store) (ns metric : String) (selector : Selector) : List ExternalValue :=
  (s.external.entries.filter fun e =>
    e.1.ns == ns && e.1.metric == metric && selector.accepts e.2.value.metricLabels).map (·.2.value)

/-- The addresses of the stored values that describe objects: ascending, each once. -/
def customAddresses (s : Store) : List CustomAddress :=
  (SortedMap.ofList (s.custom.keys.map fun k => (k.address, ()))).keys

/-- The addresses of the other stored values: ascending, each once. -/
def externalAddresses (s : Store) : List ExternalAddress :=
  (SortedMap.ofList (s.external.keys.map fun k => (ExternalAddress.mk k.metric, ()))).keys

end Store

end ScalingMetrics
