import Mathlib.Data.List.Find
import Mathlib.Data.List.Induction
import ScalingMetrics.Store.Basic

/-!
# What the store answers

A query returns the values that were inserted last under their keys and that no later sweep found
expired, as far as its address and its selector ask for them. A key says all that a query asks of a
value except the labels.

## Implementation notes

Both indexes of the store change in the same way. `Stands` speaks of either, given the binding that
a sample makes in it.
-/

namespace ScalingMetrics

/-- A change to the store. -/
inductive StoreAction where
  | insert (sample : Sample) (expiry : Timestamp)
  | sweep (now : Timestamp)
deriving DecidableEq

namespace Sample

/-- The binding of a value that describes an object. -/
def custom? : Sample → Option (ObjectKey × LabelledValue)
  | pods _ v => some (.ofValue v, .ofValue v)
  | object _ v => some (.ofValue v, .ofValue v)
  | external .. => none

/-- The binding of any other value. -/
def external? : Sample → Option (ExternalKey × ExternalValue)
  | external ns v => some (.ofValue ns v, v)
  | _ => none

/-- The key and the labels of a binding are those of its value. -/
theorem consistent_of_custom? {sample : Sample} {k : ObjectKey} {w : LabelledValue}
    (h : sample.custom? = some (k, w)) : k = .ofValue w.value ∧ w = .ofValue w.value := by
  cases sample with
  | pods ns v =>
      obtain ⟨rfl, rfl⟩ := Prod.mk.inj (Option.some.inj h)
      exact ⟨rfl, rfl⟩
  | object ns v =>
      obtain ⟨rfl, rfl⟩ := Prod.mk.inj (Option.some.inj h)
      exact ⟨rfl, rfl⟩
  | external ns w => cases h

end Sample

/-! ### One index -/

section Index

variable {κ α : Type} {entry : Sample → Option (κ × α)} {history : List StoreAction}
  {a : StoreAction} {k : κ} {v : α} {expiry : Timestamp}

/-- Whether an action leaves the value of a key in its place. A sweep takes it away strictly after
its expiry. -/
def StoreAction.Spares (entry : Sample → Option (κ × α)) (k : κ) (expiry : Timestamp) :
    StoreAction → Prop
  | .insert sample _ => ∀ v, entry sample ≠ some (k, v)
  | .sweep now => now.le expiry = true

/-- The last insertion under a key is that of a value with an expiry, which no later sweep has
found passed. -/
def Stands (entry : Sample → Option (κ × α)) (history : List StoreAction) (k : κ) (v : α)
    (expiry : Timestamp) : Prop :=
  ∃ before sample after, history = before ++ .insert sample expiry :: after ∧
    entry sample = some (k, v) ∧ ∀ a ∈ after, a.Spares entry k expiry

@[simp] theorem not_stands_nil : ¬ Stands entry [] k v expiry := by
  rintro ⟨before, sample, after, h, -, -⟩
  simp at h

theorem stands_append_iff :
    Stands entry (history ++ [a]) k v expiry ↔
      (∃ sample, a = .insert sample expiry ∧ entry sample = some (k, v)) ∨
        (Stands entry history k v expiry ∧ a.Spares entry k expiry) := by
  constructor
  · rintro ⟨before, sample, after, hsplit, hentry, hspares⟩
    rcases List.eq_nil_or_concat after with rfl | ⟨after, b, rfl⟩
    · obtain ⟨-, hlast⟩ := List.append_inj' hsplit rfl
      exact .inl ⟨sample, List.singleton_inj.mp hlast, hentry⟩
    · have hsplit' : history ++ [a] = (before ++ .insert sample expiry :: after) ++ [b] := by
        simpa using hsplit
      obtain ⟨rfl, hlast⟩ := List.append_inj' hsplit' rfl
      obtain rfl : a = b := List.singleton_inj.mp hlast
      refine .inr ⟨⟨before, sample, after, rfl, hentry, ?_⟩, ?_⟩
      · intro c hc
        exact hspares c (by simp [hc])
      · exact hspares a (by simp)
  · rintro (⟨sample, rfl, hentry⟩ | ⟨⟨before, sample, after, rfl, hentry, hspares⟩, ha⟩)
    · exact ⟨history, sample, [], rfl, hentry, by simp⟩
    · refine ⟨before, sample, after ++ [a], by simp, hentry, ?_⟩
      intro c hc
      rcases List.mem_append.mp hc with hc | hc
      · exact hspares c hc
      · obtain rfl := List.mem_singleton.mp hc
        exact ha

variable [Ord κ] [Std.TransOrd κ] [Std.LawfulEqOrd κ] [DecidableEq κ]

/-- An index after a change to the store. -/
def changeIndex (entry : Sample → Option (κ × α)) (m : SortedMap κ (Stored α)) :
    StoreAction → SortedMap κ (Stored α)
  | .insert sample expiry =>
      match entry sample with
      | some (k, v) => m.insert k ⟨v, expiry⟩
      | none => m
  | .sweep now => m.filter fun _ e => now.le e.expiry

theorem get?_changeIndex {m : SortedMap κ (Stored α)} :
    (changeIndex entry m a).get? k = some ⟨v, expiry⟩ ↔
      (∃ sample, a = .insert sample expiry ∧ entry sample = some (k, v)) ∨
        (m.get? k = some ⟨v, expiry⟩ ∧ a.Spares entry k expiry) := by
  cases a with
  | sweep now => simp [changeIndex, StoreAction.Spares, SortedMap.get?_filter]
  | insert sample expiry' =>
      cases hentry : entry sample with
      | none => simp [changeIndex, StoreAction.Spares, hentry]
      | some binding =>
          obtain ⟨k', v'⟩ := binding
          by_cases hk : k = k'
          · subst hk
            simp [changeIndex, StoreAction.Spares, SortedMap.get?_insert, hentry, and_comm]
          · simp [changeIndex, StoreAction.Spares, SortedMap.get?_insert, hentry, hk, Ne.symm hk]

/-- An index binds the values that stand. -/
theorem get?_foldl_changeIndex :
    (history.foldl (changeIndex entry) ∅).get? k = some ⟨v, expiry⟩ ↔
      Stands entry history k v expiry := by
  induction history using List.reverseRecOn generalizing v expiry with
  | nil => simp
  | append_singleton history a ih =>
      rw [List.foldl_append, List.foldl_cons, List.foldl_nil, get?_changeIndex, ih,
        stands_append_iff]

end Index

namespace Store

variable {history : List StoreAction} {address : CustomAddress} {ns metric : String}
  {selector : Selector}

/-- The store after a change. -/
def apply (s : Store) : StoreAction → Store
  | .insert sample expiry => s.insert sample expiry
  | .sweep now => (s.removeExpired now).value.1

/-- The store after changes to an empty one, in order. -/
def replay (history : List StoreAction) : Store := history.foldl apply empty

theorem custom_apply (s : Store) (a : StoreAction) :
    (s.apply a).custom = changeIndex Sample.custom? s.custom a := by
  cases a with
  | insert sample expiry => cases sample <;> rfl
  | sweep now =>
      simp only [apply, removeExpired]
      split <;> rfl

theorem external_apply (s : Store) (a : StoreAction) :
    (s.apply a).external = changeIndex Sample.external? s.external a := by
  cases a with
  | insert sample expiry => cases sample <;> rfl
  | sweep now =>
      simp only [apply, removeExpired]
      split <;> rfl

theorem mem_custom_replay_iff {k : ObjectKey} {e : Stored LabelledValue} :
    (k, e) ∈ (replay history).custom.entries ↔
      Stands Sample.custom? history k e.value e.expiry := by
  have hfold : (replay history).custom = history.foldl (changeIndex Sample.custom?) ∅ :=
    (List.foldl_hom Store.custom fun s a => (custom_apply s a).symm).symm
  rw [← SortedMap.get?_eq_some_iff, hfold]
  exact get?_foldl_changeIndex

theorem mem_external_replay_iff {k : ExternalKey} {e : Stored ExternalValue} :
    (k, e) ∈ (replay history).external.entries ↔
      Stands Sample.external? history k e.value e.expiry := by
  have hfold : (replay history).external = history.foldl (changeIndex Sample.external?) ∅ :=
    (List.foldl_hom Store.external fun s a => (external_apply s a).symm).symm
  rw [← SortedMap.get?_eq_some_iff, hfold]
  exact get?_foldl_changeIndex

/-- The key and the labels of a stored value are still made of that value. -/
theorem custom_consistent {e : ObjectKey × Stored LabelledValue}
    (h : e ∈ (replay history).custom.entries) :
    e.1 = .ofValue e.2.value.value ∧ e.2.value = .ofValue e.2.value.value := by
  obtain ⟨_, _, _, _, hentry, _⟩ := mem_custom_replay_iff.mp h
  exact Sample.consistent_of_custom? hentry

theorem mem_bySelector_replay_iff {v : ObjectValue} :
    v ∈ (replay history).bySelector address ns selector ↔
      (∃ expiry, Stands Sample.custom? history (.ofValue v) (.ofValue v) expiry) ∧
        v.metric.name = address.metric ∧
        GroupResource.ofObject v.describedObject = address.groupResource ∧
        (address.namespaced = true → v.describedObject.ns = ns) ∧
        selector.accepts v.metric.labels = true := by
  have under : (ObjectKey.ofValue v).isUnder address ns = true ↔
      v.metric.name = address.metric ∧
        GroupResource.ofObject v.describedObject = address.groupResource ∧
        (address.namespaced = true → v.describedObject.ns = ns) := by
    cases hn : address.namespaced <;> simp [ObjectKey.isUnder, ObjectKey.ofValue, hn, and_assoc]
  simp only [bySelector, List.mem_map, List.mem_filter, Bool.and_eq_true]
  constructor
  · rintro ⟨⟨k, w, expiry⟩, ⟨hmem, hunder, haccepts⟩, rfl⟩
    obtain ⟨hkey, hlabels⟩ := custom_consistent hmem
    change k = .ofValue w.value at hkey
    change w = .ofValue w.value at hlabels
    rw [hkey] at hmem hunder
    rw [hlabels] at hmem haccepts
    obtain ⟨hmetric, hresource, hns⟩ := under.mp hunder
    exact ⟨⟨expiry, mem_custom_replay_iff.mp hmem⟩, hmetric, hresource, hns, haccepts⟩
  · rintro ⟨⟨expiry, hstands⟩, hmetric, hresource, hns, haccepts⟩
    exact ⟨(.ofValue v, ⟨.ofValue v, expiry⟩), ⟨mem_custom_replay_iff.mpr hstands,
      under.mpr ⟨hmetric, hresource, hns⟩, haccepts⟩, rfl⟩

theorem pairwise_bySelector_replay :
    ((replay history).bySelector address ns selector).Pairwise fun v w =>
      compare (ObjectKey.ofValue v) (ObjectKey.ofValue w) = .lt := by
  rw [bySelector, List.pairwise_map]
  apply List.Pairwise.filter
  refine List.Pairwise.imp_of_mem ?_ (replay history).custom.ascending
  intro e f he hf hlt
  rw [← (custom_consistent he).1, ← (custom_consistent hf).1]
  exact hlt

theorem byName?_replay (name : String) :
    (replay history).byName? address ns name selector =
      ((replay history).bySelector address ns selector).find? fun v =>
        v.describedObject.name == name := by
  rw [bySelector, List.find?_map, List.find?_filter, byName?]
  congr 1
  apply List.find?_congr
  intro e he
  have hname : e.1.object = e.2.value.value.describedObject.name := by
    rw [(custom_consistent he).1]
    rfl
  rw [hname, Bool.and_right_comm, Bool.decide_and, Bool.decide_eq_true, Bool.decide_eq_true]
  rfl

end Store

end ScalingMetrics
