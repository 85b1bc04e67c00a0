import Mathlib.Data.List.Induction
import Mathlib.Logic.Function.Basic
import ScalingMetrics.Collector.Request

/-!
# The registry as one map

The registry keeps plugins in tables by scheme and by kind, with the wildcards beside them, and
forgets a kind that has no plugins left. Seen from outside it is one map from keys to plugins: the
last change of a key decides, and a declaration is looked up under a few keys in turn.

## Implementation notes

The table of a kind is read as empty where the kind is not known, so that a kind that was forgotten
and one that lost all its plugins need not be told apart.
-/

namespace ScalingMetrics

namespace PluginTable

variable {π : Type} {t : PluginTable π} {name : String}

/-- The plugin entered under exactly this name. -/
def binding? (t : PluginTable π) (name : String) : Option π :=
  if name.isEmpty then t.wildcard else t.named.get? name

/-- The empty name stands for the wildcard only. -/
def Proper (t : PluginTable π) : Prop := t.named.get? "" = none

theorem binding?_empty (name : String) : (empty : PluginTable π).binding? name = none := by
  rw [binding?]
  split <;> rfl

theorem contains_eq_isSome (t : PluginTable π) (name : String) :
    t.contains name = (t.binding? name).isSome := by
  rw [contains, binding?]
  split
  · rfl
  · exact SortedMap.contains_eq_isSome _ _

theorem binding?_insert (t : PluginTable π) (name name' : String) (plugin : π) :
    (t.insert name plugin).binding? name' =
      if name' = name then some plugin else t.binding? name' := by
  rw [insert]
  split
  · next hname =>
      obtain rfl := String.isEmpty_iff.mp hname
      by_cases hname' : name' = ""
      · simp [binding?, hname']
      · simp [binding?, hname']
  · next hname =>
      by_cases hname' : name' = ""
      · have hne : "" ≠ name := fun h => hname (String.isEmpty_iff.mpr h.symm)
        simp [binding?, hname', hne]
      · simp [binding?, hname', SortedMap.get?_insert]

theorem binding?_erase (t : PluginTable π) (name name' : String) :
    (t.erase name).binding? name' = if name' = name then none else t.binding? name' := by
  rw [erase]
  split
  · next hname =>
      obtain rfl := String.isEmpty_iff.mp hname
      by_cases hname' : name' = ""
      · simp [binding?, hname']
      · simp [binding?, hname']
  · next hname =>
      by_cases hname' : name' = ""
      · have hne : "" ≠ name := fun h => hname (String.isEmpty_iff.mpr h.symm)
        simp [binding?, hname', hne]
      · simp [binding?, hname', SortedMap.get?_erase]

theorem erase_empty (name : String) : (empty : PluginTable π).erase name = empty := by
  rw [erase]
  split
  · rfl
  · have none_left : (∅ : SortedMap String π).erase name = ∅ := rfl
    rw [empty, none_left]

theorem eq_empty_of_isEmpty (h : t.isEmpty = true) : t = empty := by
  obtain ⟨wildcard, named⟩ := t
  simp only [isEmpty, Bool.and_eq_true, Option.isNone_iff_eq_none] at h
  have hnamed : named = ∅ := SortedMap.ext (List.isEmpty_iff.mp h.2)
  rw [h.1, hnamed, empty]

theorem proper_empty : (empty : PluginTable π).Proper := rfl

theorem Proper.insert (h : t.Proper) (name : String) (plugin : π) :
    (t.insert name plugin).Proper := by
  rw [Proper, PluginTable.insert]
  split
  · exact h
  · next hname =>
      have hne : "" ≠ name := by
        rintro rfl
        exact hname rfl
      rw [SortedMap.get?_insert, if_neg hne]
      exact h

theorem Proper.erase (h : t.Proper) (name : String) : (t.erase name).Proper := by
  rw [Proper, PluginTable.erase]
  split
  · exact h
  · rw [SortedMap.get?_erase]
    split
    · rfl
    · exact h

/-- A plugin is looked up under its name, then under the empty name. -/
theorem Proper.lookup?_eq (h : t.Proper) (name : String) :
    t.lookup? name = (t.binding? name).or (t.binding? "") := by
  have wildcard : t.binding? "" = t.wildcard := rfl
  rw [lookup?, wildcard, binding?]
  split
  · next hname =>
      have unnamed : t.named.get? name = none := String.isEmpty_iff.mp hname ▸ h
      rw [unnamed, Option.none_or, Option.or_self]
  · rfl

end PluginTable

/-- A change of the registered plugins. -/
inductive RegistryChange (π : Type) where
  | register (key : PluginKey) (plugin : π)
  | unregister (key : PluginKey)

/-- A map from keys to plugins after a change. -/
def RegistryChange.apply {π : Type} (directory : PluginKey → Option π) :
    RegistryChange π → PluginKey → Option π
  | register key plugin => Function.update directory key (some plugin)
  | unregister key => Function.update directory key none

/-- The plugins that changes leave registered, by key. -/
def directory {π : Type} (changes : List (RegistryChange π)) : PluginKey → Option π :=
  changes.foldl RegistryChange.apply fun _ => none

/-- The keys under which the plugin for a declaration may be registered, the first one first. A
collector that is not named and a kind of no object are empty. -/
def Declaration.pluginKeys (d : Declaration) : List PluginKey :=
  let name := d.collectorName.getD ""
  let kind := (d.describedObject.map ObjectRef.kind).getD ""
  match d.metric.source with
  | .pods => [.pods name, .pods ""]
  | .object => [.object kind name, .object kind "", .object "" name, .object "" ""]
  | .external => [.external d.metric.metric.name]

theorem Declaration.pluginKeys_eq (d : Declaration) :
    d.pluginKeys =
      match d.metric.source with
      | .pods => [.pods d.collector, .pods ""]
      | .object =>
          [.object d.objectKind d.collector, .object d.objectKind "", .object "" d.collector,
            .object "" ""]
      | .external => [.external d.metric.metric.name] := by
  have hkind : (d.describedObject.map ObjectRef.kind).getD "" = d.objectKind := by
    rw [objectKind]
    cases d.describedObject <;> rfl
  rw [pluginKeys, hkind]
  rfl

namespace Registry

variable {π : Type} {r : Registry π}

/-- The registry after a change. -/
def apply (r : Registry π) : RegistryChange π → Registry π
  | .register key plugin => (r.register key plugin).value
  | .unregister key => (r.unregister key).1

/-- The registry after changes to the one without plugins. -/
def replay (changes : List (RegistryChange π)) : Registry π := changes.foldl apply empty

/-- The plugins for objects of a kind, those for any kind under the empty kind. -/
def objects (r : Registry π) (kind : String) : PluginTable π :=
  if kind.isEmpty then r.objectAnyKind else (r.objectKinds.get? kind).getD .empty

/-- The plugin registered under exactly this key. -/
def binding? (r : Registry π) : PluginKey → Option π
  | .pods collector => r.pods.binding? collector
  | .object kind collector => (r.objects kind).binding? collector
  | .external metric => r.external.get? metric

/-- The empty name and the empty kind stand for wildcards only. -/
structure Proper (r : Registry π) : Prop where
  pods : r.pods.Proper
  objects : ∀ kind, (r.objects kind).Proper
  kinds : r.objectKinds.get? "" = none

/-! ### Changes -/

theorem objects_insert (r : Registry π) (kind kind' collector : String) (plugin : π) :
    (r.insert (.object kind collector) plugin).objects kind' =
      if kind' = kind then (r.objects kind).insert collector plugin else r.objects kind' := by
  by_cases hkind : kind = ""
  · subst hkind
    by_cases hkind' : kind' = ""
    · simp [insert, objects, hkind']
    · simp [insert, objects, hkind']
  · by_cases hkind' : kind' = ""
    · have hne : "" ≠ kind := Ne.symm hkind
      simp [insert, objects, hkind, hkind', hne]
    · by_cases hsame : kind' = kind
      · simp [insert, objects, hkind, hsame, SortedMap.get?_insert]
      · simp [insert, objects, hkind, hkind', hsame, SortedMap.get?_insert]

/-- The table of a kind, whether or not the kind is forgotten when the table is empty. -/
private theorem getD_pruned (kinds : SortedMap String (PluginTable π)) (kind kind' : String)
    (table : PluginTable π) :
    ((if table.isEmpty then kinds.erase kind else kinds.insert kind table).get? kind').getD .empty =
      if kind' = kind then table else (kinds.get? kind').getD .empty := by
  by_cases htable : table.isEmpty = true
  · rw [if_pos htable, SortedMap.get?_erase]
    by_cases hsame : kind' = kind
    · rw [if_pos hsame, if_pos hsame, PluginTable.eq_empty_of_isEmpty htable]
      rfl
    · rw [if_neg hsame, if_neg hsame]
  · rw [if_neg htable, SortedMap.get?_insert]
    by_cases hsame : kind' = kind
    · rw [if_pos hsame, if_pos hsame]
      rfl
    · rw [if_neg hsame, if_neg hsame]

theorem objects_unregister (r : Registry π) (kind kind' collector : String) :
    (r.unregister (.object kind collector)).1.objects kind' =
      if kind' = kind then (r.objects kind).erase collector else r.objects kind' := by
  by_cases hkind : kind = ""
  · subst hkind
    by_cases hkind' : kind' = ""
    · simp [unregister, objects, hkind']
    · simp [unregister, objects, hkind']
  · have hnamed : kind.isEmpty = false := Bool.eq_false_iff.mpr (mt String.isEmpty_iff.mp hkind)
    cases hget : r.objectKinds.get? kind with
    | none =>
        have unknown : (r.objects kind).erase collector = r.objects kind := by
          have none_known : r.objects kind = .empty := by simp [objects, hnamed, hget]
          rw [none_known, PluginTable.erase_empty]
        have same : (r.unregister (.object kind collector)).1 = r := by
          simp [unregister, hnamed, hget]
        rw [same]
        split
        · next h => rw [unknown, h]
        · rfl
    | some table =>
        have known : r.objects kind = table := by simp [objects, hnamed, hget]
        have next : (r.unregister (.object kind collector)).1.objects kind' =
            if kind'.isEmpty then r.objectAnyKind
            else if kind' = kind then table.erase collector
            else (r.objectKinds.get? kind').getD .empty := by
          rw [objects, ← getD_pruned]
          simp [unregister, hnamed, hget]
        rw [next, known]
        by_cases hsame : kind' = kind
        · simp [hsame, hnamed]
        · simp [hsame, objects]

theorem binding?_register (r : Registry π) (key key' : PluginKey) (plugin : π) :
    (r.register key plugin).value.binding? key' =
      if key' = key then some plugin else r.binding? key' := by
  have registered : (r.register key plugin).value = r.insert key plugin := rfl
  rw [registered]
  cases key with
  | pods collector =>
      cases key' with
      | pods collector' => simp [binding?, insert, PluginTable.binding?_insert]
      | object kind' collector' => simp [binding?, insert, objects]
      | external metric' => simp [binding?, insert]
  | object kind collector =>
      cases key' with
      | pods collector' =>
          simp only [binding?, insert]
          split <;> simp
      | object kind' collector' =>
          rw [binding?, objects_insert]
          by_cases hkind : kind' = kind
          · simp [hkind, PluginTable.binding?_insert, binding?]
          · simp [hkind, binding?]
      | external metric' =>
          simp only [binding?, insert]
          split <;> simp
  | external metric =>
      cases key' with
      | pods collector' => simp [binding?, insert]
      | object kind' collector' => simp [binding?, insert, objects]
      | external metric' => simp [binding?, insert, SortedMap.get?_insert]

theorem binding?_unregister (r : Registry π) (key key' : PluginKey) :
    (r.unregister key).1.binding? key' = if key' = key then none else r.binding? key' := by
  cases key with
  | pods collector =>
      cases key' with
      | pods collector' => simp [binding?, unregister, PluginTable.binding?_erase]
      | object kind' collector' => simp [binding?, unregister, objects]
      | external metric' => simp [binding?, unregister]
  | object kind collector =>
      cases key' with
      | pods collector' =>
          simp only [binding?, unregister]
          split
          · simp
          · split <;> simp
      | object kind' collector' =>
          rw [binding?, objects_unregister]
          by_cases hkind : kind' = kind
          · simp [hkind, PluginTable.binding?_erase, binding?]
          · simp [hkind, binding?]
      | external metric' =>
          simp only [binding?, unregister]
          split
          · simp
          · split <;> simp
  | external metric =>
      cases key' with
      | pods collector' => simp [binding?, unregister]
      | object kind' collector' => simp [binding?, unregister, objects]
      | external metric' => simp [binding?, unregister, SortedMap.get?_erase]

/-- Taking a plugin out says whether there was one. -/
theorem unregister_eq_isSome (r : Registry π) (key : PluginKey) :
    (r.unregister key).2 = (r.binding? key).isSome := by
  cases key with
  | pods collector => exact PluginTable.contains_eq_isSome _ _
  | object kind collector =>
      by_cases hkind : kind.isEmpty = true
      · simp [unregister, binding?, objects, hkind, PluginTable.contains_eq_isSome]
      · cases hget : r.objectKinds.get? kind with
        | none => simp [unregister, binding?, objects, hkind, hget, PluginTable.binding?_empty]
        | some table =>
            simp [unregister, binding?, objects, hkind, hget, PluginTable.contains_eq_isSome]
  | external metric => exact SortedMap.contains_eq_isSome _ _

/-! ### Runs of changes -/

theorem proper_empty : (empty : Registry π).Proper where
  pods := PluginTable.proper_empty
  objects kind := by
    rw [objects]
    split
    · exact PluginTable.proper_empty
    · exact PluginTable.proper_empty
  kinds := rfl

theorem Proper.register (h : r.Proper) (key : PluginKey) (plugin : π) :
    (r.register key plugin).value.Proper := by
  have registered : (r.register key plugin).value = r.insert key plugin := rfl
  rw [registered]
  cases key with
  | pods collector => exact ⟨h.pods.insert collector plugin, h.objects, h.kinds⟩
  | object kind collector =>
      refine ⟨?_, ?_, ?_⟩
      · rw [insert]
        split
        · exact h.pods
        · exact h.pods
      · intro kind'
        rw [objects_insert]
        split
        · exact (h.objects kind).insert collector plugin
        · exact h.objects kind'
      · rw [insert]
        split
        · exact h.kinds
        · next hkind =>
            have hne : "" ≠ kind := fun heq => hkind (String.isEmpty_iff.mpr heq.symm)
            rw [SortedMap.get?_insert, if_neg hne]
            exact h.kinds
  | external metric => exact ⟨h.pods, h.objects, h.kinds⟩

theorem Proper.unregister (h : r.Proper) (key : PluginKey) : (r.unregister key).1.Proper := by
  cases key with
  | pods collector => exact ⟨h.pods.erase collector, h.objects, h.kinds⟩
  | object kind collector =>
      refine ⟨?_, ?_, ?_⟩
      · rw [Registry.unregister]
        split
        · exact h.pods
        · split
          · exact h.pods
          · exact h.pods
      · intro kind'
        rw [objects_unregister]
        split
        · exact (h.objects kind).erase collector
        · exact h.objects kind'
      · rw [Registry.unregister]
        split
        · exact h.kinds
        · next hkind =>
            have hne : "" ≠ kind := fun heq => hkind (String.isEmpty_iff.mpr heq.symm)
            split
            · exact h.kinds
            · dsimp only
              split
              · rw [SortedMap.get?_erase, if_neg hne]
                exact h.kinds
              · rw [SortedMap.get?_insert, if_neg hne]
                exact h.kinds
  | external metric => exact ⟨h.pods, h.objects, h.kinds⟩

theorem Proper.apply (h : r.Proper) (change : RegistryChange π) : (r.apply change).Proper := by
  cases change with
  | register key plugin => exact h.register key plugin
  | unregister key => exact h.unregister key

/-- A change of the registry is a change of the map. -/
theorem binding?_apply (r : Registry π) (change : RegistryChange π) :
    (r.apply change).binding? = change.apply r.binding? := by
  funext key'
  cases change with
  | register key plugin =>
      exact (binding?_register r key key' plugin).trans (Function.update_apply _ _ _ _).symm
  | unregister key =>
      exact (binding?_unregister r key key').trans (Function.update_apply _ _ _ _).symm

theorem binding?_empty : (empty : Registry π).binding? = fun _ => none := by
  funext key
  cases key with
  | pods collector => exact PluginTable.binding?_empty collector
  | object kind collector =>
      rw [binding?, objects]
      split
      · exact PluginTable.binding?_empty collector
      · exact PluginTable.binding?_empty collector
  | external metric => rfl

theorem replay_spec (changes : List (RegistryChange π)) :
    (replay changes).Proper ∧ (replay changes).binding? = directory changes := by
  induction changes using List.reverseRecOn with
  | nil => exact ⟨proper_empty, binding?_empty⟩
  | append_singleton changes change ih =>
      have last : replay (changes ++ [change]) = (replay changes).apply change :=
        List.foldl_append
      have directory_last :
          directory (changes ++ [change]) = change.apply (directory changes) :=
        List.foldl_append
      rw [last, directory_last, binding?_apply, ih.2]
      exact ⟨ih.1.apply change, rfl⟩

/-! ### Look-ups -/

private theorem findSome?_cons_eq_or {α β : Type} (f : α → Option β) (a : α) (l : List α) :
    (a :: l).findSome? f = (f a).or (l.findSome? f) := by
  rw [List.findSome?_cons]
  cases f a <;> rfl

/-- Plugins of a kind are looked up by name, then under the wildcard of the kind. -/
theorem Proper.lookup?_objects (h : r.Proper) (kind collector : String) :
    (r.objects kind).lookup? collector =
      (r.binding? (.object kind collector)).or (r.binding? (.object kind "")) :=
  (h.objects kind).lookup?_eq collector

/-- The plugin for a declaration is the first one registered under its keys. -/
theorem Proper.plugin?_eq (h : r.Proper) (d : Declaration) :
    r.plugin? d = d.pluginKeys.findSome? r.binding? := by
  rw [plugin?, Declaration.pluginKeys_eq]
  cases d.metric.source with
  | pods =>
      simp only [findSome?_cons_eq_or, List.findSome?_nil, Option.or_none]
      exact h.pods.lookup?_eq d.collector
  | object =>
      have anyKind : r.objectAnyKind.lookup? d.collector =
          (r.binding? (.object "" d.collector)).or (r.binding? (.object "" "")) :=
        h.lookup?_objects "" d.collector
      simp only [findSome?_cons_eq_or, List.findSome?_nil, Option.or_none, anyKind]
      by_cases hkind : d.objectKind = ""
      · -- Without a kind, the same two keys are looked up twice.
        rw [hkind, h.kinds, Option.bind_none, Option.none_or]
        cases r.binding? (.object "" d.collector) with
        | some plugin => rfl
        | none => cases r.binding? (.object "" "") <;> rfl
      · have ofKind : (r.objectKinds.get? d.objectKind).bind (·.lookup? d.collector) =
            (r.objects d.objectKind).lookup? d.collector := by
          rw [Registry.objects, if_neg (mt String.isEmpty_iff.mp hkind)]
          cases r.objectKinds.get? d.objectKind <;> rfl
        rw [ofKind, h.lookup?_objects, Option.or_assoc]
  | external =>
      simp only [findSome?_cons_eq_or, List.findSome?_nil, Option.or_none]
      rfl

/-- After any registrations and removals, plugins are taken out and found as in one map from keys,
in which the last change of a key counts. A plugin is taken out exactly if its key was registered,
and a declaration is served by the plugin of the first of its keys that is registered. That plugin
alone is asked for a collector, once, and none is asked if no key is registered. -/
theorem found_as_in_directory (changes : List (RegistryChange π)) :
    (∀ key, ((replay changes).unregister key).2 = (directory changes key).isSome) ∧
      ∀ d : Declaration,
        ((replay changes).resolve d =
          match d.pluginKeys.findSome? (directory changes) with
          | some plugin => .ok plugin
          | none => .error (.pluginNotFound d.metric)) ∧
        ∀ {κ : Type} (build : CollectorRequest π → Except Cause κ) (a : Autoscaler)
          (interval : Span), (replay changes).collector build a d interval =
            match d.pluginKeys.findSome? (directory changes) with
            | some plugin =>
                ⟨(build ⟨plugin, a, d, interval⟩).mapError (.build d.metric),
                  some ⟨plugin, a, d, interval⟩⟩
            | none => ⟨.error (.pluginNotFound d.metric), none⟩ := by
  obtain ⟨proper, entries⟩ := replay_spec changes
  constructor
  · intro key
    rw [unregister_eq_isSome, entries]
  · intro d
    have found : (replay changes).plugin? d = d.pluginKeys.findSome? (directory changes) := by
      rw [proper.plugin?_eq, entries]
    have resolved : (replay changes).resolve d =
        match d.pluginKeys.findSome? (directory changes) with
        | some plugin => .ok plugin
        | none => .error (.pluginNotFound d.metric) := by
      cases hfound : d.pluginKeys.findSome? (directory changes) with
      | some plugin => rw [resolve, found, hfound]
      | none => rw [resolve, found, hfound]
    refine ⟨resolved, ?_⟩
    intro κ build a interval
    cases hfound : d.pluginKeys.findSome? (directory changes) with
    | some plugin => rw [collector, resolved, hfound]
    | none => rw [collector, resolved, hfound]

/-- Plugins under every scheme, some of them for a collector by name. -/
def furnished : List (RegistryChange Nat) :=
  [.register (.pods "zmon") 1, .register (.pods "") 2, .register (.object "Ingress" "zmon") 3,
    .register (.object "Ingress" "") 4, .register (.object "" "zmon") 5,
    .register (.object "" "") 6, .register (.external "lag") 7,
    .unregister (.object "Ingress" "")]

/-- A named collector is preferred at every level, and one without plugins falls back. -/
theorem found_as_in_directory_named :
    let asked (source : Source) (name : Option String) (kind : String) : Declaration :=
      { Declaration.plain ⟨source, "lag", none⟩ with
        collectorName := name, describedObject := some ⟨"v1", kind, "front", "shop"⟩ }
    (replay furnished).resolve (asked .pods (some "zmon") "") = .ok 1 ∧
      (replay furnished).resolve (asked .pods none "") = .ok 2 ∧
      (replay furnished).resolve (asked .object (some "zmon") "Ingress") = .ok 3 ∧
      (replay furnished).resolve (asked .object (some "zmon") "Service") = .ok 5 ∧
      (replay furnished).resolve (asked .object (some "skipper") "Ingress") = .ok 6 ∧
      (replay furnished).resolve { asked .object (some "zmon") "" with describedObject := none } =
        .ok 5 ∧
      (replay furnished).resolve (asked .external (some "zmon") "Ingress") = .ok 7 ∧
      (replay (furnished.drop 2)).resolve (asked .pods (some "zmon") "") =
        .error (.pluginNotFound ⟨.pods, "lag", none⟩) ∧
      ∀ interval, ((replay furnished).collector (fun _ => .ok ()) Autoscaler.empty
        (asked .pods (some "zmon") "") interval).request.map (·.plugin) = some 1 := by
  have found := (found_as_in_directory furnished).2
  have missed := (found_as_in_directory (furnished.drop 2)).2
  exact ⟨(found _).1, (found _).1, (found _).1, (found _).1, (found _).1, (found _).1, (found _).1,
    (missed _).1, fun interval => by rw [(found _).2]; rfl⟩

/-- A kind that has only other names does not hide the wildcard of all kinds, and is forgotten once
its last name is taken out. -/
example :
    let ingress : Declaration :=
      { Declaration.plain ⟨.object, "rps", none⟩ with
        describedObject := some ⟨"networking.k8s.io/v1", "Ingress", "front", "shop"⟩ }
    let changes := [.register (.object "Ingress" "zmon") 1, .register (.object "" "") 2,
      .unregister (.object "Ingress" "zmon")]
    (replay (changes.take 2)).resolve ingress = .ok 2 ∧
      (replay changes).objectKinds.isEmpty = true ∧
      ((replay changes).unregister (.object "Ingress" "zmon")).2 = false :=
  ⟨rfl, rfl, rfl⟩

end Registry

end ScalingMetrics
