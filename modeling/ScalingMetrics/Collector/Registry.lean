import ScalingMetrics.Collector.Error
import ScalingMetrics.Metric.Declaration
import ScalingMetrics.Telemetry.Basic

/-!
# The registry of collector plugins

Plugins are registered under one of three schemes, and the most specific one is found first:

* pods metrics by collector name, then the wildcard;
* object metrics by kind and name, by kind alone, by name alone, then the wildcard of both;
* external metrics by metric name only.

An empty kind or collector name registers the wildcard of its level.
-/

namespace ScalingMetrics

/-- Plugins by collector name, with a wildcard. -/
structure PluginTable (π : Type) where
  wildcard : Option π
  named : SortedMap String π

namespace PluginTable

variable {π : Type}

/-- No plugins. -/
def empty : PluginTable π := ⟨none, ∅⟩

/-- Enters a plugin under a name; the empty name is the wildcard. -/
def insert (t : PluginTable π) (name : String) (plugin : π) : PluginTable π :=
  if name.isEmpty then { t with wildcard := some plugin }
  else { t with named := t.named.insert name plugin }

/-- Whether a plugin is entered under exactly this name. -/
def contains (t : PluginTable π) (name : String) : Bool :=
  if name.isEmpty then t.wildcard.isSome else t.named.contains name

/-- Takes out the plugin of a name. -/
def erase (t : PluginTable π) (name : String) : PluginTable π :=
  if name.isEmpty then { t with wildcard := none } else { t with named := t.named.erase name }

/-- The plugin of a name, else the wildcard. -/
def lookup? (t : PluginTable π) (name : String) : Option π :=
  (t.named.get? name).or t.wildcard

/-- Whether no plugin is entered. -/
def isEmpty (t : PluginTable π) : Bool := t.wildcard.isNone && t.named.isEmpty

end PluginTable

/-- Where a plugin is registered. -/
inductive PluginKey where
  | pods (collector : String)
  | object (kind collector : String)
  | external (metric : String)
deriving DecidableEq

/-- The registered plugins. -/
structure Registry (π : Type) where
  pods : PluginTable π
  objectAnyKind : PluginTable π
  objectKinds : SortedMap String (PluginTable π)
  external : SortedMap String π

namespace Registry

variable {π : Type}

/-- No plugins. -/
def empty : Registry π := ⟨.empty, .empty, ∅, ∅⟩

/-- The log line of a registration. -/
def registration : PluginKey → Traced Unit
  | .pods collector =>
    Traced.line .debug "Registering pods collector plugin" [("collector", .text collector)]
  | .object kind collector =>
    Traced.line .debug "Registering object collector plugin"
      [("kind", .text kind), ("collector", .text collector)]
  | .external metric =>
    Traced.line .debug "Registering external collector plugin" [("metric", .text metric)]

/-- Enters a plugin over an earlier one with its key. -/
def insert (r : Registry π) (key : PluginKey) (plugin : π) : Registry π :=
  match key with
  | .pods collector => { r with pods := r.pods.insert collector plugin }
  | .object kind collector =>
    if kind.isEmpty then { r with objectAnyKind := r.objectAnyKind.insert collector plugin }
    else
      let table := (r.objectKinds.get? kind).getD .empty
      { r with objectKinds := r.objectKinds.insert kind (table.insert collector plugin) }
  | .external metric => { r with external := r.external.insert metric plugin }

/-- Registers a plugin. -/
def register (r : Registry π) (key : PluginKey) (plugin : π) : Traced (Registry π) := do
  registration key
  pure (r.insert key plugin)

/-- Takes a plugin out, and says whether there was one. A kind without plugins is forgotten. -/
def unregister (r : Registry π) (key : PluginKey) : Registry π × Bool :=
  match key with
  | .pods collector => ({ r with pods := r.pods.erase collector }, r.pods.contains collector)
  | .object kind collector =>
    if kind.isEmpty then
      ({ r with objectAnyKind := r.objectAnyKind.erase collector },
        r.objectAnyKind.contains collector)
    else
      match r.objectKinds.get? kind with
      | none => (r, false)
      | some table =>
        let rest := table.erase collector
        let kinds :=
          if rest.isEmpty then r.objectKinds.erase kind else r.objectKinds.insert kind rest
        ({ r with objectKinds := kinds }, table.contains collector)
  | .external metric => ({ r with external := r.external.erase metric }, r.external.contains metric)

/-- The plugin for a declaration. -/
def plugin? (r : Registry π) (d : Declaration) : Option π :=
  match d.metric.source with
  | .pods => r.pods.lookup? d.collector
  | .object =>
    ((r.objectKinds.get? d.objectKind).bind (·.lookup? d.collector)).or
      (r.objectAnyKind.lookup? d.collector)
  | .external => r.external.get? d.metric.metric.name

/-- The plugin for a declaration, or why there is none. -/
def resolve (r : Registry π) (d : Declaration) : Except CollectorError π :=
  match r.plugin? d with
  | some plugin => .ok plugin
  | none => .error (.pluginNotFound d.metric)

end Registry

end ScalingMetrics
